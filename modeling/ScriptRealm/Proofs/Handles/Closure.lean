import ScriptRealm.Proofs.Handles.Reference
import ScriptRealm.Proofs.Handles.Walk

/-!
# `ScriptRealm.Proofs.Handles.Closure`: realms without loose handles

A realm is `Closed` if it has the prototypes of a new realm, refers to its
own objects only, and is grounded. The last two go together: an object
that could be linked to a handle before there is something under it could
later come to lie on its own walk.

`Grows` says what becomes of a closed realm: it has as many objects as
before or more, and is closed. `Gives` adds that what is answered refers to
objects of the realm as it now is. There are three ways to change a realm
(`Closed.update`, `Closed.allocate` and `Closed.setPrototype`); that a
function on realms gives what it should is put together from them.
-/

set_option autoImplicit false

namespace ScriptRealm

open Refers (Below)

variable {P : Platform} [P.Told] {α : Type} [Refers α]

namespace Realm

variable {r s t : Realm P} {h : Handle}

/-- A realm that refers to its own objects only, and in which following
prototypes ends. -/
structure Closed (r : Realm P) : Prop where
  present : Intrinsic.Present r.size
  objects : ∀ h, Below r.size (r.record h)
  grounded : r.Grounded

/-- A realm becomes one that is closed and has no fewer objects. -/
structure Grows (r s : Realm P) : Prop where
  size_le : r.size ≤ s.size
  closed : s.Closed

/-- A realm becomes a closed one, and what is answered refers to objects of
that one. -/
structure Gives (r : Realm P) (result : α × Realm P) : Prop where
  grows : r.Grows result.2
  below : Below result.2.size result.1

/-- A realm that has grown twice has grown. -/
theorem Grows.trans (hrs : r.Grows s) (hst : s.Grows t) : r.Grows t :=
  ⟨Nat.le_trans hrs.size_le hst.size_le, hst.closed⟩

/-- What was below a realm is below it when it has grown, so it may be
answered with. -/
theorem Grows.gives (hrs : r.Grows s) {a : α} (ha : Below r.size a) : r.Gives (a, s) :=
  ⟨hrs, ha.mono hrs.size_le⟩

namespace Closed

/-- A closed realm that is left alone. -/
theorem refl (hr : r.Closed) : r.Grows r := ⟨Nat.le_refl _, hr⟩

/-- There are objects in a closed realm, the prototypes at least. -/
theorem pos (hr : r.Closed) : 0 < r.size := Nat.lt_of_le_of_lt (Nat.zero_le _) hr.present

/-- The prototypes of a closed realm's objects are objects of the realm. -/
theorem linked (hr : r.Closed) : r.Linked :=
  fun h _ hp => (hr.objects h).prototype.of_eq_some hp

/-- What lookups walk along is the whole walk. Lookups stop after as many
objects as the realm has, and in a grounded realm a walk does not get any
longer. -/
theorem walk_chain (hr : r.Closed) (h : Handle) : r.Walk h (r.chain h) :=
  hr.grounded.walk_chain hr.linked hr.pos h

/-! ### The three changes -/

/-- An object is changed, and following prototypes still ends. What the object
becomes has to refer to objects that are there. -/
theorem update_of_grounded (hr : r.Closed) {f : ObjectRecord P → ObjectRecord P}
    (hf : Below r.size (f (r.record h))) (hgrounded : (r.update h f).Grounded) :
    r.Grows (r.update h f) := by
  have hsize : (r.update h f).size = r.size := size_update r h f
  refine ⟨Nat.le_of_eq hsize.symm, ?_, ?_, hgrounded⟩
  · rw [hsize]
    exact hr.present
  · rw [hsize]
    exact forall_record_update (p := fun _ record => Below r.size record) hr.objects fun _ => hf

/-- An object is changed, but for its prototype. Then all walks are what they
were. -/
theorem update (hr : r.Closed) {f : ObjectRecord P → ObjectRecord P}
    (hf : Below r.size (f (r.record h)))
    (hprototype : (f (r.record h)).prototype = (r.record h).prototype) :
    r.Grows (r.update h f) := by
  have hsame := forall_record_update (r := r) (h := h) (f := f)
    (p := fun h' record => record.prototype = (r.record h').prototype) (fun _ => rfl)
    fun _ => hprototype
  exact hr.update_of_grounded hf (hr.grounded.congr hsame)

/-- An object is added. Its walk goes to its prototype, which was there
before, and from there it is an old walk. -/
theorem allocate (hr : r.Closed) {record : ObjectRecord P} (hrecord : Below r.size record) :
    r.Gives (r.allocate record) := by
  have hsize : (r.allocate record).2.size = r.size + 1 := size_allocate r record
  -- What the new object refers to is older, so nothing refers to it yet, not even itself.
  have hle : r.size ≤ (r.allocate record).2.size := by omega
  refine ⟨⟨hle, hr.present.mono hle, fun h => ?_, ?_⟩, ?_⟩
  · rw [record_allocate]
    split
    · exact hrecord.mono hle
    · exact (hr.objects h).mono hle
  · exact hr.grounded.allocate hr.linked fun p hp => hrecord.prototype.of_eq_some hp
  · show r.size < (r.allocate record).2.size
    omega

/-- An object gets another prototype, or it is refused. It is refused if the
object is on the chain of the prototype, and since that chain is the whole
walk this is enough. -/
theorem setPrototype (hr : r.Closed) (h : Handle) {prototype : Option Handle}
    (hbelow : Below r.size prototype) : r.Gives (r.setPrototype h prototype) := by
  have hgrounded := hr.grounded.setPrototype hr.linked hr.pos h prototype
  rcases r.setPrototype_cases h prototype with heq | heq
  · rw [heq]
    exact hr.refl.gives trivial
  · rw [heq] at hgrounded ⊢
    exact (hr.update_of_grounded { hr.objects h with prototype := hbelow } hgrounded).gives trivial

/-! ### Changing one object -/

/-- A slot is written that refers to objects of the realm. -/
theorem insertSlot (hr : r.Closed) (h : Handle) (key : PropertyKey) (slot : Slot)
    (hslot : Below r.size slot) : r.Grows (r.insertSlot h key slot) :=
  hr.update (ObjectRecord.below_insert (hr.objects h) key hslot) rfl

/-- A slot is removed. -/
theorem eraseSlot (hr : r.Closed) (h : Handle) (key : PropertyKey) :
    r.Grows (r.update h (·.erase key)) :=
  hr.update (ObjectRecord.below_erase (hr.objects h) key) rfl

/-- A kind is replaced by one that refers to objects of the realm. -/
theorem setKind (hr : r.Closed) (h : Handle) (kind : Kind P) (hkind : Below r.size kind) :
    r.Grows (r.setKind h kind) :=
  hr.update { hr.objects h with kind := hkind } rfl

/-- A scope is set to an object of the realm. -/
theorem setScope (hr : r.Closed) (h : Handle) {scope : Option Handle}
    (hscope : Below r.size scope) : r.Grows (r.setScope h scope) :=
  hr.update { hr.objects h with scope := hscope } rfl

/-- Ending extensibility refers to nothing. -/
theorem preventExtensions (hr : r.Closed) (h : Handle) : r.Grows (r.preventExtensions h) :=
  hr.update { hr.objects h with } rfl

/-! ### Making objects -/

/-- A new object whose prototype is one that every realm has. -/
theorem below_create (hr : r.Closed) (kind : Kind P) (hkind : Below r.size kind) {p : Handle}
    (hp : p.index ≤ Intrinsic.arrayPrototype.index) :
    Below r.size (ObjectRecord.create kind (some p)) :=
  ObjectRecord.below_create hkind (hr.present.below hp)

/-- A function refers to its code, and apart from that it has a name and a
length. -/
theorem createFunction (hr : r.Closed) {f : FunctionData P} (hf : Below r.size f) :
    r.Gives (r.createFunction f) := by
  refine hr.allocate (ObjectRecord.below_insert (ObjectRecord.below_insert ?_ _ ?_) _ ?_)
  · exact hr.below_create (.function f) hf (by decide)
  · trivial
  · trivial

/-- A hidden property is written, whatever the object admits. -/
theorem defineBuiltin (hr : r.Closed) (h : Handle) (key : PropertyKey) (value : Value)
    (hvalue : Below r.size value) : r.Grows (r.defineBuiltin h key value) :=
  hr.insertSlot h key (.hidden value) hvalue

/-- A function is made and written to an object. It is there when it is
written, and its handle is what is answered. -/
theorem defineMethod (hr : r.Closed) (h : Handle) (key : PropertyKey) {f : FunctionData P}
    (hf : Below r.size f) : r.Gives (r.defineMethod h key f) := by
  have hfunction := hr.createFunction hf
  have hbuiltin := hfunction.grows.closed.defineBuiltin h key
    (.object (r.createFunction f).1) hfunction.below
  exact ⟨hfunction.grows.trans hbuiltin, hfunction.below.mono hbuiltin.size_le⟩

/-- A new symbol counts on, and changes no object. -/
theorem newSymbol (hr : r.Closed) (description : Option String) :
    r.Gives (r.newSymbol description) :=
  ⟨⟨Nat.le_refl _, hr.present, hr.objects, hr.grounded.congr fun _ => rfl⟩, trivial⟩

end Closed

/-! ### A new realm -/

/-- The six prototypes refer to each other only, and following them ends after
three steps at most. The handles are gone through one by one. -/
theorem prototypes_closed (config : Config) : (prototypes config : Realm P).Closed := by
  have hpresent : Intrinsic.Present (prototypes config : Realm P).size := by
    show 5 < 6
    decide
  refine ⟨hpresent, fun h => ?_, fun h => ?_⟩
  -- Past the prototypes there is nothing, and what is read there is a bare object.
  · obtain ⟨index⟩ := h
    match index with
    | 0 => exact ObjectRecord.below_create trivial trivial
    | 1 | 2 | 3 | 4 | 5 => exact ObjectRecord.below_create trivial (hpresent.below (by decide))
    | n + 6 => exact ObjectRecord.below_create trivial trivial
  · obtain ⟨index⟩ := h
    match index with
    | 0 => exact ⟨_, .last rfl⟩
    | 1 | 2 | 5 => exact ⟨_, .step rfl (.last rfl)⟩
    | 3 | 4 => exact ⟨_, .step rfl (.step rfl (.last rfl))⟩
    | n + 6 => exact ⟨_, .last rfl⟩

/-- A new realm is closed. It is the six prototypes with methods and tags
written to them, and each of these writes keeps a realm closed. -/
theorem initial_closed (config : Config) : (initial config : Realm P).Closed := by
  refine initial_induction (M := fun r (_ : Realm P) => r.Closed) config config
    (prototypes_closed config) ?_ ?_
  · exact fun r _ h key f name length _ hr =>
      (hr.defineMethod h key (f := intrinsic f name length) trivial).grows.closed
  · exact fun r _ h text hr => (hr.defineBuiltin h _ (.string text) trivial).closed

end Realm

end ScriptRealm
