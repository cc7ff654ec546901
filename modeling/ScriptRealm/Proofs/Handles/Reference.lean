import ScriptRealm.Embedder.Script
import ScriptRealm.Proofs.Table

/-!
# `ScriptRealm.Proofs.Handles.Reference`: the objects that data refer to

A value refers to an object if it is one, a slot to the objects among its
values, a generator to those in its frame and its delegate, and so on.
`Refers α` tells this for a type of data, in the only form in which it is
needed: `Below n a` says that every object that `a` refers to is among the
first `n` of an arena. What is below an arena stays below when the arena
grows.

An embedder brings data of its own. `Platform.Told` says what these refer
to, and `Platform.Traced` is the assumption that a foreign object makes up
no handles: what it answers, stores or remembers it was given, or it is one
of the prototypes that every realm has.

The lemmas say that the functions on data make up no handles either. They
are about what is looked up in a table, and about how a descriptor turns
into a slot, a slot into another one and a list of items into groups.
-/

set_option autoImplicit false

namespace ScriptRealm

/-- Data that refer to objects. -/
class Refers (α : Type) where
  /-- All the objects referred to are among the first `n` of an arena. -/
  Below : Nat → α → Prop
  mono_below : ∀ {n n' : Nat} {a : α}, Below n a → n ≤ n' → Below n' a

open Refers (Below)

variable {α β : Type} {n n' : Nat}

/-- What is below an arena stays below when the arena grows. -/
theorem Refers.Below.mono [Refers α] {a : α} (h : Below n a) (hle : n ≤ n') : Below n' a :=
  mono_below h hle

/-! ### Plain data -/

/-- Data that refer to nothing. -/
abbrev Refers.nothing (α : Type) : Refers α where
  Below _ _ := True
  mono_below h _ := h

instance : Refers Unit := .nothing Unit

instance : Refers Bool := .nothing Bool

instance : Refers Nat := .nothing Nat

instance : Refers String := .nothing String

instance : Refers Number := .nothing Number

instance : Refers Symbol := .nothing Symbol

instance : Refers PropertyKey := .nothing PropertyKey

instance : Refers TypeName := .nothing TypeName

instance : Refers GeneratorState := .nothing GeneratorState

instance : Refers Handle where
  Below n h := h.index < n
  mono_below h hle := Nat.lt_of_lt_of_le h hle

instance : Refers Value where
  Below n
    | .object h => Below n h
    | _ => True
  mono_below {_ _ v} h hle := by
    cases v with
    | object => exact h.mono hle
    | _ => trivial

instance [Refers α] : Refers (Option α) where
  Below n
    | some a => Below n a
    | none => True
  mono_below {_ _ o} h hle := by
    cases o with
    | some => exact h.mono hle
    | none => trivial

instance [Refers α] : Refers (List α) where
  Below n l := ∀ a ∈ l, Below n a
  mono_below h hle a ha := (h a ha).mono hle

instance [Refers α] [Refers β] : Refers (α × β) where
  Below n p := Below n p.1 ∧ Below n p.2
  mono_below h hle := ⟨h.1.mono hle, h.2.mono hle⟩

/-- A fault refers to the value that was thrown. What other faults carry
is for their message alone. -/
instance : Refers Fault where
  Below n
    | .thrown value _ => Below n value
    | _ => True
  mono_below {_ _ fault} h hle := by
    cases fault with
    | thrown => exact h.mono hle
    | _ => trivial

instance [Refers α] : Refers (Except Fault α) where
  Below n
    | .ok a => Below n a
    | .error fault => Below n fault
  mono_below {_ _ result} h hle := by
    cases result with
    | ok => exact h.mono hle
    | error => exact h.mono hle

instance [Refers α] [Refers β] : Refers (OrderedMap α β) where
  Below n m := Below n m.entries
  mono_below h hle := h.mono hle

/-! ### Properties -/

instance : Refers Content where
  Below n
    | .data value _ => Below n value
    | .accessor get set => Below n get ∧ Below n set
  mono_below {_ _ content} h hle := by
    cases content with
    | data => exact h.mono hle
    | accessor => exact ⟨h.1.mono hle, h.2.mono hle⟩

instance : Refers Slot where
  Below n slot := Below n slot.content
  mono_below h hle := h.mono hle

instance : Refers Descriptor where
  Below n d := Below n d.value ∧ Below n d.get ∧ Below n d.set
  mono_below h hle := ⟨h.1.mono hle, h.2.1.mono hle, h.2.2.mono hle⟩

instance : Refers Reading where
  Below n
    | .value v | .getter v => Below n v
  mono_below {_ _ reading} h hle := by
    cases reading with
    | value => exact h.mono hle
    | getter => exact h.mono hle

/-! ### Iterators, generators and groups -/

instance : Refers IteratorRecord where
  Below n record := Below n record.iterator ∧ Below n record.next
  mono_below h hle := ⟨h.1.mono hle, h.2.mono hle⟩

instance : Refers ListCursor where
  Below n cursor := Below n cursor.target
  mono_below h hle := h.mono hle

instance : Refers IterResult where
  Below n result := Below n result.value
  mono_below h hle := h.mono hle

instance : Refers Frame where
  Below n frame := Below n frame.locals
  mono_below h hle := h.mono hle

instance : Refers Completion where
  Below n
    | .next value | .returning value | .throwing value => Below n value
  mono_below {_ _ completion} h hle := by
    cases completion with
    | next => exact h.mono hle
    | returning => exact h.mono hle
    | throwing => exact h.mono hle

instance : Refers Step where
  Below n
    | .yielded value | .delegated value | .returned value | .threw value _ => Below n value
  mono_below {_ _ step} h hle := by
    cases step with
    | yielded => exact h.mono hle
    | delegated => exact h.mono hle
    | returned => exact h.mono hle
    | threw => exact h.mono hle

instance : Refers Turn where
  Below n
    | .body completion | .delegate completion => Below n completion
  mono_below {_ _ turn} h hle := by
    cases turn with
    | body => exact h.mono hle
    | delegate => exact h.mono hle

instance : Refers Flow where
  Below n
    | .turn next => Below n next
    | .leave result => Below n result
  mono_below {_ _ flow} h hle := by
    cases flow with
    | turn => exact h.mono hle
    | leave => exact h.mono hle

instance : Refers GroupKey where
  Below n
    | .property _ => True
    | .collection value => Below n value
  mono_below {_ _ key} h hle := by
    cases key with
    | property => trivial
    | collection => exact h.mono hle

/-! ### An embedder's data -/

/-- An arena of `n` objects has the prototypes of a new realm, of which
this is the last. -/
def Intrinsic.Present (n : Nat) : Prop := Intrinsic.arrayPrototype.index < n

/-- An arena that has the prototypes of a new realm has them when it has
grown. -/
theorem Intrinsic.Present.mono (hn : Present n) (hle : n ≤ n') : Present n' :=
  Nat.lt_of_lt_of_le hn hle

/-- The prototypes of a new realm are its first objects, so a handle up to the
last one of them refers to an object that is there. -/
theorem Intrinsic.Present.below (hn : Present n) {h : Handle}
    (hle : h.index ≤ arrayPrototype.index) : Below n h :=
  Nat.lt_of_le_of_lt hle hn

/-- An embedder whose data are told to refer to objects. -/
class Platform.Told (P : Platform) where
  [code : Refers P.Code]
  [body : Refers P.Body]
  [host : Refers P.Host]
  [memory : Refers P.Memory]

/-- An embedder whose data are not asked about. -/
abbrev Platform.Told.nothing (P : Platform) : P.Told where
  code := .nothing P.Code
  body := .nothing P.Body
  host := .nothing P.Host
  memory := .nothing P.Memory

namespace Untraced

/-- Where no handles are traced, it does not matter what the data refer
to. -/
scoped instance told (P : Platform) : P.Told := .nothing P

end Untraced

section Told

variable {P : Platform} [P.Told]

instance : Refers P.Code := Platform.Told.code

instance : Refers P.Body := Platform.Told.body

instance : Refers P.Host := Platform.Told.host

instance : Refers P.Memory := Platform.Told.memory

end Told

/-- An embedder whose data are told to refer to objects, and whose foreign
objects make up no handles. -/
class Platform.Traced (P : Platform) extends P.Told where
  below_get? : ∀ {n : Nat} {host : P.Host} (key : PropertyKey), Intrinsic.Present n →
    Below n host → Below n (P.hosts.get? host key)
  below_put : ∀ {n : Nat} {host : P.Host} (key : PropertyKey) {value : Value}
    {memory : P.Memory}, Intrinsic.Present n → Below n host → Below n value → Below n memory →
    Below n (P.hosts.put host key value memory)
  below_delete : ∀ {n : Nat} {host : P.Host} (key : PropertyKey) {memory : P.Memory},
    Intrinsic.Present n → Below n host → Below n memory →
    Below n (P.hosts.delete host key memory)
  below_call : ∀ {n : Nat} {host : P.Host} {this : Value} {args : List Value}
    {memory : P.Memory}, Intrinsic.Present n → Below n host → Below n this → Below n args →
    Below n memory → Below n (P.hosts.call host this args memory)

variable {P : Platform} [P.Told]

instance : Refers (FunctionData P) where
  Below n f :=
    match f.code with
    | .intrinsic _ => True
    | .native code => Below n code
  mono_below {_ _ f} h hle := by
    obtain ⟨name, length, code, isConstructor⟩ := f
    cases code with
    | intrinsic => trivial
    | native => exact Below.mono h hle

instance : Refers (Generator P) where
  Below n g := Below n g.frame ∧ Below n g.body ∧ Below n g.delegate
  mono_below h hle := ⟨h.1.mono hle, h.2.1.mono hle, h.2.2.mono hle⟩

instance : Refers (Kind P) where
  Below n
    | .function f => Below n f
    | .generator g => Below n g
    | .listIterator c => Below n c
    | .foreign host => Below n host
    | _ => True
  mono_below {_ _ kind} h hle := by
    cases kind with
    | function => exact Below.mono h hle
    | generator => exact Below.mono h hle
    | listIterator => exact Below.mono h hle
    | foreign => exact Below.mono h hle
    | _ => trivial

/-- What it takes for an object to refer to the first `n` of an arena. -/
structure ObjectRecord.RefersBelow (n : Nat) (record : ObjectRecord P) : Prop where
  kind : Below n record.kind
  slots : Below n record.slots
  prototype : Below n record.prototype
  scope : Below n record.scope

instance : Refers (ObjectRecord P) where
  Below := ObjectRecord.RefersBelow
  mono_below h hle :=
    ⟨h.kind.mono hle, h.slots.mono hle, h.prototype.mono hle, h.scope.mono hle⟩

instance : Refers (Resumption P) where
  Below n resumption :=
    Below n resumption.body ∧ Below n resumption.frame ∧ Below n resumption.step
  mono_below h hle := ⟨h.1.mono hle, h.2.1.mono hle, h.2.2.mono hle⟩

/-! ### Functions on data -/

/-- A default is needed only where there is nothing, and it makes up no handle
if it is below the arena. -/
theorem Refers.Below.getD [Refers α] {o : Option α} {a : α} (ho : Below n o) (ha : Below n a) :
    Below n (o.getD a) := by
  cases o with
  | none => exact ha
  | some => exact ho

/-- What an option holds refers to nothing that the option does not. -/
theorem Refers.Below.of_eq_some [Refers α] {o : Option α} {a : α} (ho : Below n o)
    (heq : o = some a) : Below n a := by
  rw [heq] at ho
  exact ho

/-- A function that makes up no handles makes up none inside an option. -/
theorem Refers.Below.map [Refers α] [Refers β] {o : Option α} {f : α → β} (ho : Below n o)
    (hf : ∀ a, Below n a → Below n (f a)) : Below n (o.map f) := by
  cases o with
  | none => trivial
  | some a => exact hf a ho

/-- A value taken as an object is the object that it refers to. -/
theorem Refers.Below.asObject? {v : Value} (hv : Below n v) : Below n v.asObject? := by
  cases v with
  | object => exact hv
  | _ => trivial

/-- A list refers to what its elements refer to, so it grows by one element
that is below the arena. -/
theorem Refers.Below.cons [Refers α] {a : α} {l : List α} (ha : Below n a) (hl : Below n l) :
    Below n (a :: l) := by
  intro b hb
  rcases List.mem_cons.mp hb with rfl | hb
  · exact ha
  · exact hl b hb

/-- A list without elements refers to nothing. -/
theorem Refers.below_nil [Refers α] : Below n ([] : List α) := nofun

/-- A list of one element refers to what the element does. -/
theorem Refers.Below.singleton [Refers α] {a : α} (ha : Below n a) : Below n [a] :=
  ha.cons below_nil

/-- An option taken as a list refers to what the option does. -/
theorem Refers.Below.toList [Refers α] {o : Option α} (ho : Below n o) : Below n o.toList := by
  cases o with
  | none => exact below_nil
  | some a => exact Below.singleton ho

/-- The first argument of a call, or what stands in for it. -/
theorem Refers.Below.headD [Refers α] {a : α} {l : List α} (hl : Below n l) (ha : Below n a) :
    Below n (l.headD a) := by
  cases l with
  | nil => exact ha
  | cons b l => exact hl b List.mem_cons_self

namespace OrderedMap

variable {κ ν : Type} [Refers κ] [Refers ν] {m : OrderedMap κ ν} {key : κ} {value : ν}

/-- A table without entries refers to nothing. -/
theorem below_empty : Below n (empty : OrderedMap κ ν) := nofun

variable [DecidableEq κ]

/-- What is looked up in a table is the second half of one of its entries. -/
theorem below_get? (hm : Below n m) (key : κ) : Below n (m.get? key) := by
  rw [get?]
  cases hentry : m.entries.find? (·.1 = key) with
  | none => trivial
  | some entry => exact (hm entry (List.mem_of_find?_eq_some hentry)).2

/-- The entries that are left were there before. -/
theorem below_erase (hm : Below n m) (key : κ) : Below n (m.erase key) :=
  fun entry hentry => hm entry (List.mem_filter.mp hentry).1

/-- A table refers to what is written to it and to what it had. A key of the
table is kept, so that it is below the arena already. -/
theorem below_insert (hm : Below n m) (hkey : Below n key) (hvalue : Below n value) :
    Below n (m.insert key value) := by
  unfold insert
  -- A key that is there keeps its place, a new one goes to the end.
  split
  · intro entry hentry
    obtain ⟨old, hold, rfl⟩ := List.mem_map.mp hentry
    refine ⟨(hm old hold).1, ?_⟩
    dsimp only
    split
    · exact hvalue
    · exact (hm old hold).2
  · intro entry hentry
    rcases List.mem_append.mp hentry with hentry | hentry
    · exact hm entry hentry
    · rw [List.mem_singleton.mp hentry]
      exact ⟨hkey, hvalue⟩

/-- The same for a table that is written to at its front. -/
theorem below_insertFirst (hm : Below n m) (hkey : Below n key) (hvalue : Below n value) :
    Below n (m.insertFirst key value) := by
  unfold insertFirst
  split
  · exact Below.cons ⟨hkey, hvalue⟩ (below_erase hm key)
  · exact Below.cons ⟨hkey, hvalue⟩ hm

end OrderedMap

/-- The code of a function is what the function refers to. -/
theorem FunctionData.below_code {f : FunctionData P} {code : P.Code} (hf : Below n f)
    (hcode : f.code = .native code) : Below n code := by
  simp only [Below, hcode] at hf
  exact hf

namespace Kind

variable {kind : Kind P}

/-- The storage of a foreign object is what its kind refers to. -/
theorem below_host? (hkind : Below n kind) : Below n kind.host? := by
  cases kind with
  | foreign => exact hkind
  | _ => trivial

/-- A generator is what its kind refers to. -/
theorem below_generator? (hkind : Below n kind) : Below n kind.generator? := by
  cases kind with
  | generator => exact hkind
  | _ => trivial

end Kind

/-- What a content has to read is its value or its getter. A getter that is no
object is read as `undefined`. -/
theorem Content.below_reading {content : Content} (hcontent : Below n content) :
    Below n content.reading := by
  cases content with
  | data => exact hcontent
  | accessor get set =>
      cases get with
      | object => exact hcontent.1
      | _ => trivial

namespace ObjectRecord

variable {record : ObjectRecord P}

/-- A new object refers to what its kind and its prototype do. It has no slots
yet. -/
theorem below_create {kind : Kind P} {prototype : Option Handle} (hkind : Below n kind)
    (hprototype : Below n prototype) : Below n (create kind prototype) :=
  ⟨hkind, OrderedMap.below_empty, hprototype, trivial⟩

/-- What an object has under a key is in its table. -/
theorem below_slot? (hrecord : Below n record) (key : PropertyKey) : Below n (record.slot? key) :=
  OrderedMap.below_get? hrecord.slots key

/-- What an object has to read is in its slots, or in a foreign storage. A
foreign object may answer with anything, so this is one of the places that
need an embedder that makes up no handles. -/
theorem below_reading? {P : Platform} [P.Traced] {record : ObjectRecord P}
    (hn : Intrinsic.Present n) (hrecord : Below n record) (key : PropertyKey) :
    Below n (record.reading? key) := by
  unfold reading?
  split
  · rename_i host hhost
    have hbelow := (Kind.below_host? hrecord.kind).of_eq_some hhost
    split
    · exact (Platform.Traced.below_get? key hn hbelow).getD trivial
    · trivial
  · exact (below_slot? hrecord key).map fun _ hslot => Content.below_reading hslot

/-- Writing a slot to an object leaves kind, prototype and scope as they
are. -/
theorem below_insert (hrecord : Below n record) (key : PropertyKey) {slot : Slot}
    (hslot : Below n slot) : Below n (record.insert key slot) :=
  { hrecord with slots := OrderedMap.below_insert hrecord.slots trivial hslot }

/-- Removing a slot from an object leaves kind, prototype and scope as they
are. -/
theorem below_erase (hrecord : Below n record) (key : PropertyKey) :
    Below n (record.erase key) :=
  { hrecord with slots := OrderedMap.below_erase hrecord.slots key }

end ObjectRecord

/-! ### Descriptors -/

namespace Slot

variable {d : Descriptor} {slot : Slot}

/-- What a descriptor starts from when there is nothing to update refers to
nothing. -/
theorem below_initial (family : Family) : Below n (Content.initial family) := by
  cases family with
  | data => trivial
  | accessor => exact ⟨trivial, trivial⟩

/-- An updated slot holds what the descriptor says and, where that says
nothing, what the slot held. -/
theorem below_update (hd : Below n d) (hslot : Below n slot) : Below n (slot.update d) := by
  obtain ⟨content, enumerable, configurable⟩ := slot
  cases content with
  | data value writable => exact hd.1.getD hslot
  | accessor get set =>
      exact ⟨hd.2.1.getD hslot.1, hd.2.2.getD hslot.2⟩

/-- A new slot holds what the descriptor says. -/
theorem below_ofDescriptor (hd : Below n d) : Below n (ofDescriptor d) :=
  below_update hd (below_initial _)

/-- The descriptor of a slot has the slot's values. -/
theorem below_toDescriptor (hslot : Below n slot) : Below n slot.toDescriptor := by
  obtain ⟨content, enumerable, configurable⟩ := slot
  cases content with
  | data value writable => exact ⟨hslot, trivial, trivial⟩
  | accessor get set => exact ⟨trivial, hslot.1, hslot.2⟩

end Slot

/-- What a property is to be refers to what it was and to what the descriptor
says. Reconciliation has several verdicts that replace a slot, and all of them
replace it by an update: of the slot, or of a fresh one where the family
changes. -/
theorem below_of_reconcile {extensible : Bool} {d : Descriptor} {current : Option Slot}
    {slot : Slot} (hd : Below n d) (hcurrent : Below n current)
    (hreconcile : reconcile extensible d current = .replace slot) : Below n slot := by
  cases current with
  | none =>
      have hslot : slot = Slot.ofDescriptor d := by
        unfold reconcile at hreconcile
        grind
      rw [hslot]
      exact Slot.below_ofDescriptor hd
  | some old =>
      have hupdate : Below n (old.update d) := Slot.below_update hd hcurrent
      -- A configurable property may change its family, and starts afresh then.
      have hopen : Below n (Reconciliation.ofOpen d old) := by
        unfold Reconciliation.ofOpen
        split
        · split
          · exact hupdate
          · exact Slot.below_update hd (Slot.below_initial _)
        · exact hupdate
      -- Whatever replaces the slot is one of these two.
      have hcases : slot = old.update d ∨ slot = Reconciliation.ofOpen d old := by
        unfold reconcile Reconciliation.ofLocked at hreconcile
        grind
      rcases hcases with rfl | rfl
      · exact hupdate
      · exact hopen

namespace Descriptor

/-- The fields of a descriptor are its values and flags. Flags refer to
nothing. -/
theorem below_fields {d : Descriptor} (hd : Below n d) : Below n d.fields := by
  have hflag : ∀ flag : Option Bool, Below n (flag.map Value.boolean) := by
    intro flag
    cases flag with
    | none => trivial
    | some => trivial
  intro field hfield
  -- A field of the list is one of six that is present, so it is enough to know all six.
  obtain ⟨⟨name, value⟩, hmem, hvalue⟩ := List.mem_filterMap.mp hfield
  obtain ⟨v, rfl, rfl⟩ := Option.map_eq_some_iff.mp hvalue
  have hbelow : ∀ entry ∈ [("value", d.value), ("writable", d.writable.map .boolean),
      ("get", d.get), ("set", d.set), ("enumerable", d.enumerable.map .boolean),
      ("configurable", d.configurable.map .boolean)], Below n entry.2 := by
    simp only [List.forall_mem_cons, List.not_mem_nil, false_imp_iff, implies_true, and_true]
    exact ⟨hd.1, hflag _, hd.2.1, hd.2.2, hflag _, hflag _⟩
  exact ⟨trivial, hbelow _ hmem⟩

end Descriptor

/-! ### Groups -/

/-- A key for an object is a text or a symbol, and a key for a collection is
the value that was answered, up to the sign of zero. -/
theorem GroupKey.below_ofValue (coercion : KeyCoercion) {v : Value} (hv : Below n v) :
    Below n (ofValue coercion v) := by
  cases coercion with
  | property => trivial
  | collection =>
      show Below n (foldZero v)
      cases v with
      | object => exact hv
      | _ => trivial

/-- Groups are made of the items and their keys, by induction on the items.
The last item is put in last, so the list is gone through from its end. -/
theorem Groups.below_ofList {items : List (GroupKey × Value)} (hitems : Below n items) :
    Below n (ofList items) := by
  induction items with
  | nil => exact OrderedMap.below_empty
  | cons item items ih =>
      have hgroups : Below n (ofList items) :=
        ih fun item hitem => hitems item (List.mem_cons_of_mem _ hitem)
      obtain ⟨hkey, hvalue⟩ := hitems item List.mem_cons_self
      -- The item joins the group it finds, or one that is empty.
      refine OrderedMap.below_insertFirst hgroups hkey (hvalue.cons ?_)
      exact (OrderedMap.below_get? hgroups item.1).getD Refers.below_nil

end ScriptRealm
