import ScriptRealm.Embedder.Script
import ScriptRealm.Proofs.Table

/-!
# `ScriptRealm.Proofs.Change`: what an operation can do to a realm

Whatever the library does to a realm, apart from driving a generator, it
does by a few kinds of changes: it adds an object or a symbol, writes or
removes a slot, links an object to a prototype or a scope, ends its
extensibility, moves a cursor or lets a foreign object keep the storage
that one use of it has left.
`Realm.Change` lists them, each with the check the library makes first.

The checks on slots are the interesting ones. `Slot.Keeps` says what a
property that is not configurable may become: nothing but itself, except
that a value that is still writable may be replaced and then locked.
`ObjectRecord.Admits` adds that a new property needs an extensible object.
Slots are written in several places, and `admits_of_reconcile` covers those
that go through a descriptor.

Two writes of the library make no check, and the changes `rawInsert` and
`rawErase` stand for them. They are part of the list only if a licence has
them (`Licence.raw`), and so are the moves of cursors (`Licence.moves`).

`Realm.Stable licence I` says that every such change keeps the invariant `I`.
`ScriptRealm.Proofs.Operations` carries `I` over the functions on realms,
which is the last place where these are taken apart.
-/

set_option autoImplicit false

namespace ScriptRealm

/-- What the content of a property that is not configurable may become: it
keeps its accessors, and a value that is not writable stays as it is. -/
def Content.Keeps : Content → Content → Prop
  | .data value writable, .data value' writable' =>
      writable = false → writable' = false ∧ value' = value
  | .accessor get set, .accessor get' set' => get' = get ∧ set' = set
  | _, _ => False

namespace Slot

/-- What a property that is not configurable may become. -/
structure Keeps (old new : Slot) : Prop where
  configurable : new.configurable = false
  enumerable : new.enumerable = old.enumerable
  content : old.content.Keeps new.content

/-- A slot may take the place of another: any slot may, unless the other
is not configurable. -/
def Admits (old new : Slot) : Prop := old.configurable = false → old.Keeps new

end Slot

/-- A property may stay as it is, locked or not. -/
theorem Content.Keeps.refl (content : Content) : content.Keeps content := by
  cases content with
  | data value writable => exact fun h => ⟨h, rfl⟩
  | accessor get set => exact ⟨rfl, rfl⟩

/-- What may become of a content in two steps may become of it in one. The
middle content is of the family of the first, and once it is locked it has the
value that the last one has, too. -/
theorem Content.Keeps.trans {a b c : Content} (hab : a.Keeps b) (hbc : b.Keeps c) :
    a.Keeps c := by
  cases a with
  | data value writable =>
      cases b with
      | accessor get set => exact hab.elim
      | data value' writable' =>
          cases c with
          | accessor get set => exact hbc.elim
          | data value'' writable'' =>
              -- The lock is passed on from step to step, and each step under it keeps the
              -- value.
              intro hlocked
              obtain ⟨hlocked', hvalue⟩ := hab hlocked
              obtain ⟨hlocked'', hvalue'⟩ := hbc hlocked'
              exact ⟨hlocked'', hvalue'.trans hvalue⟩
  | accessor get set =>
      cases b with
      | data value writable => exact hab.elim
      | accessor get' set' =>
          cases c with
          | data value writable => exact hbc.elim
          | accessor get'' set'' => exact ⟨hbc.1.trans hab.1, hbc.2.trans hab.2⟩

namespace Slot.Keeps

/-- A property that is not configurable may stay as it is. For one that is
configurable `Keeps` does not hold, since it asks for a property that is
locked afterwards. -/
theorem refl {slot : Slot} (h : slot.configurable = false) : slot.Keeps slot :=
  ⟨h, rfl, .refl _⟩

/-- What locked properties keep, they keep along any number of changes. -/
theorem trans {a b c : Slot} (hab : a.Keeps b) (hbc : b.Keeps c) : a.Keeps c :=
  ⟨hbc.configurable, hbc.enumerable.trans hab.enumerable, hab.content.trans hbc.content⟩

end Slot.Keeps

/-- A descriptor that says nothing about a content leaves it alone. It is one
with neither a getter or a setter nor a value or a `writable`, so of each
content both parts stay. -/
theorem Content.update_of_no_family {d : Descriptor} (h : d.family? = none) (content : Content) :
    content.update d = content := by
  have hfields : d.hasAccessor = false ∧ d.hasData = false := by
    unfold Descriptor.family? at h
    split at h
    · cases h
    · rename_i haccessor
      split at h
      · cases h
      · rename_i hdata
        exact ⟨by simpa using haccessor, by simpa using hdata⟩
  obtain ⟨haccessor, hdata⟩ := hfields
  simp only [Descriptor.hasAccessor, Descriptor.hasData, Bool.or_eq_false_iff,
    Option.isSome_eq_false_iff, Option.isNone_iff_eq_none] at haccessor hdata
  cases content with
  | data value writable => simp [Content.update, hdata.1, hdata.2]
  | accessor get set => simp [Content.update, haccessor.1, haccessor.2]

/-- Flags that a descriptor does not ask to change stay as they are. What is
left to ask of an update to a locked slot is that the content is kept, and
reconciliation sees to that family by family. -/
theorem Slot.keeps_update {d : Descriptor} {s : Slot} (hlocked : s.configurable = false)
    (hflags : Reconciliation.changesFlags d s = false)
    (hcontent : s.content.Keeps (s.content.update d)) : s.Keeps (s.update d) := by
  simp only [Reconciliation.changesFlags, Bool.or_eq_false_iff, beq_eq_false_iff_ne,
    Option.any_eq_false] at hflags
  obtain ⟨hconfigurable, henumerable⟩ := hflags
  refine ⟨?_, ?_, hcontent⟩
  · cases hc : d.configurable with
    | none => simp [Slot.update, hc, hlocked]
    | some b =>
        have hb : b = false := by
          cases b with
          | false => rfl
          | true => exact absurd hc hconfigurable
        simp [Slot.update, hc, hb]
  · cases he : d.enumerable with
    | none => simp [Slot.update, he]
    | some b =>
        have hb : b = s.enumerable := by simpa using henumerable b he
        simp [Slot.update, he, hb]

/-- What reconciliation puts in the place of a property, that property admits.
Nothing is to be shown of configurable properties. Of the others, two kinds
can be replaced at all: those the descriptor says nothing about, and values
that are still writable. -/
theorem admits_of_reconcile {extensible : Bool} {d : Descriptor} {s new : Slot}
    (h : reconcile extensible d (some s) = .replace new) : s.Admits new := by
  intro hlocked
  simp only [reconcile, hlocked, Bool.false_eq_true, if_false] at h
  split at h
  · cases h
  · split at h
    · cases h
    · rename_i hflags
      have hflags : Reconciliation.changesFlags d s = false := by simpa using hflags
      unfold Reconciliation.ofLocked at h
      split at h
      · -- A descriptor without a family can only ask for the flags.
        rename_i hfamily
        cases h
        refine Slot.keeps_update hlocked hflags ?_
        rw [Content.update_of_no_family hfamily]
        exact .refl _
      · -- A value that is still writable may be replaced.
        rename_i value writable hfamily hcontent
        split at h
        · rename_i hwritable
          cases h
          refine Slot.keeps_update hlocked hflags ?_
          rw [hcontent, hwritable]
          exact fun hfalse => absurd hfalse (by decide)
        · split at h <;> cases h
      · split at h <;> cases h
      · cases h

/-- A new property needs an extensible object. Together with
`admits_of_reconcile` this covers every slot that is written by way of a
descriptor. -/
theorem extensible_of_reconcile {extensible : Bool} {d : Descriptor} {new : Slot}
    (h : reconcile extensible d none = .replace new) : extensible = true := by
  simp only [reconcile] at h
  split at h
  · assumption
  · cases h

/-- A kind that an object can be made with. A generator is made before it
is entered. -/
def Kind.IsNew {P : Platform} : Kind P → Prop
  | .generator g => ∃ body frame, g = .create body frame
  | _ => True

/-- What one use of a foreign object may make of its storage. -/
inductive HostBehaviour.Step {Host Memory : Type} (hosts : HostBehaviour Host Memory) :
    Host → Host → Prop where
  | put (host : Host) (key : PropertyKey) (value : Value) (memory : Memory) :
      Step hosts host (hosts.put host key value memory).2.1
  | delete (host : Host) (key : PropertyKey) (memory : Memory) :
      Step hosts host (hosts.delete host key memory).2.1
  | call (host : Host) (this : Value) (args : List Value) (memory : Memory) :
      Step hosts host (hosts.call host this args memory).2.1

/-- An object lets a slot be written under a key: the slot that is there
admits it, or there is none and the object is extensible. -/
structure ObjectRecord.Admits {P : Platform} (record : ObjectRecord P) (key : PropertyKey)
    (slot : Slot) : Prop where
  new : record.slot? key = none → record.extensible = true
  old : ∀ old, record.slot? key = some old → old.Admits slot

namespace Realm

variable {P : Platform}

/-- Which changes may be made, of those that are not always among them: the
writes without a check, and the moves of the cursors of list iterators. -/
structure Licence where
  raw : Prop
  moves : Handle → Prop

/-- Most often all cursors may move. -/
instance : Coe Prop Licence := ⟨fun raw => ⟨raw, fun _ => True⟩⟩

/-- The changes the library makes to a realm, apart from driving a
generator. -/
inductive Change (licence : Licence) : Realm P → Realm P → Prop where
  | allocate (r : Realm P) (record : ObjectRecord P) (h : record.kind.IsNew) :
      Change licence r (r.allocate record).2
  | symbol (r : Realm P) (description : Option String) :
      Change licence r (r.newSymbol description).2
  | insert (r : Realm P) (h : Handle) (key : PropertyKey) (slot : Slot)
      (hadmits : (r.record h).Admits key slot) : Change licence r (r.insertSlot h key slot)
  | erase (r : Realm P) (h : Handle) (key : PropertyKey)
      (hopen : ∀ slot, (r.record h).slot? key = some slot → slot.configurable = true) :
      Change licence r (r.update h (·.erase key))
  | prototype (r : Realm P) (h : Handle) (prototype : Option Handle) :
      Change licence r (r.setPrototype h prototype).2
  | scope (r : Realm P) (h : Handle) (scope : Option Handle) : Change licence r (r.setScope h scope)
  | preventExtensions (r : Realm P) (h : Handle) : Change licence r (r.preventExtensions h)
  | cursor (r : Realm P) (h : Handle) (c : ListCursor) (finished : Bool)
      (hkind : (r.record h).kind = .listIterator c) (hmoves : licence.moves h) :
      Change licence r (r.setKind h (.listIterator (ListIterator.advance finished c)))
  | host (r : Realm P) (h : Handle) (old new : P.Host)
      (hkind : (r.record h).kind = .foreign old) (hstep : P.hosts.Step old new) :
      Change licence r (r.setKind h (.foreign new))
  | rawInsert (r : Realm P) (h : Handle) (key : PropertyKey) (slot : Slot) (hraw : licence.raw) :
      Change licence r (r.insertSlot h key slot)
  | rawErase (r : Realm P) (h : Handle) (key : PropertyKey) (hraw : licence.raw) :
      Change licence r (r.update h (·.erase key))

/-- An invariant that every change keeps. -/
def Stable (licence : Licence) (I : Realm P → Prop) : Prop :=
  ∀ r r', Change licence r r' → I r → I r'

end Realm

/-- Asking for the end of extensibility ends it. Whether the object was
extensible before makes no difference to what it is afterwards. -/
theorem Realm.setExtensible_false {P : Platform} (r : Realm P) (h : Handle) :
    (r.setExtensible h false).2 = r.preventExtensions h := update_congr rfl

/-- Extensibility is not given back, so asking for it changes nothing: an
object that is not extensible refuses, and one that is has what was asked
for. -/
theorem Realm.setExtensible_true {P : Platform} (r : Realm P) (h : Handle) :
    (r.setExtensible h true).2 = r := by
  apply update_eq_self
  show ((r.record h).setExtensible true).2 = r.record h
  unfold ObjectRecord.setExtensible
  cases hext : (r.record h).extensible with
  | false => simp
  | true =>
      simp only [Bool.not_true, Bool.and_false, Bool.false_eq_true, if_false]
      rw [← hext]

/-- A property with every flag set can be replaced by any other, so an
object that is extensible and has no other properties admits every slot. -/
structure ObjectRecord.IsOpen {P : Platform} (record : ObjectRecord P) : Prop where
  extensible : record.extensible = true
  configurable : ∀ key slot, record.slot? key = some slot → slot.configurable = true

namespace ObjectRecord

variable {P : Platform} {record : ObjectRecord P}

/-- Of the slots of an object, a write changes the one under its own key
only. -/
theorem slot?_insert (record : ObjectRecord P) (key key' : PropertyKey) (slot : Slot) :
    (record.insert key slot).slot? key' = if key' = key then some slot else record.slot? key' :=
  record.slots.get?_insert key key' slot

/-- Of the slots of an object, a removal takes away the one under its own key
only. -/
theorem slot?_erase (record : ObjectRecord P) (key key' : PropertyKey) :
    (record.erase key).slot? key' = if key' = key then none else record.slot? key' :=
  record.slots.get?_erase key key'

/-- An object is made without properties. -/
theorem slot?_create (kind : Kind P) (prototype : Option Handle) (key : PropertyKey) :
    (create kind prototype).slot? key = none := rfl

/-- A new object is open. Whatever the library puts into an object it has just
made is admitted for this reason. -/
theorem isOpen_create (kind : Kind P) (prototype : Option Handle) :
    (create kind prototype).IsOpen :=
  ⟨rfl, fun key slot h => by rw [slot?_create] at h; cases h⟩

/-- An extensible object admits a property it does not have, whatever the
flags of the property are. -/
theorem admits_new {key : PropertyKey} (hslot : record.slot? key = none)
    (hext : record.extensible = true) (slot : Slot) : record.Admits key slot where
  new _ := hext
  old old hold := by
    rw [hslot] at hold
    cases hold

/-- A value that is writable may be overwritten, even if the property is
locked otherwise: the flags stay, and the content was not locked yet. -/
theorem admits_overwrite {key : PropertyKey} {slot : Slot} {old : Value}
    (hslot : record.slot? key = some slot) (hcontent : slot.content = .data old true)
    (value : Value) : record.Admits key { slot with content := .data value true } where
  new hnone := by
    rw [hslot] at hnone
    cases hnone
  old slot' hold hlocked := by
    rw [hslot] at hold
    cases hold
    refine ⟨hlocked, rfl, ?_⟩
    rw [hcontent]
    exact fun hfalse => absurd hfalse (by decide)

/-- An open object admits every slot. It is extensible, and no slot of it is
locked. -/
theorem IsOpen.admits (hopen : record.IsOpen) (key : PropertyKey) (slot : Slot) :
    record.Admits key slot where
  new _ := hopen.extensible
  old old hold hlocked := by
    rw [hopen.configurable key old hold] at hlocked
    cases hlocked

/-- A configurable property keeps an object open, so that objects can be
filled with any number of properties one after the other. -/
theorem IsOpen.insert (hopen : record.IsOpen) (key : PropertyKey) {slot : Slot}
    (hslot : slot.configurable = true) : (record.insert key slot).IsOpen where
  extensible := hopen.extensible
  configurable key' slot' h := by
    rw [slot?_insert] at h
    split at h
    · cases h
      exact hslot
    · exact hopen.configurable key' slot' h

end ObjectRecord

end ScriptRealm
