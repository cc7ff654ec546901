import ScriptRealm.Proofs.Integrity
import ScriptRealm.Proofs.Reconciliation

/-!
# `ScriptRealm.Proofs.Redefinition`: defining a property again

A definition that is accepted may lock the property it makes, so the same
definition comes to other tests when it is made a second time. It passes
them. `Slot.Fulfils` says that a slot has all that a descriptor gives, and
two facts about it are enough:

- what an accepted descriptor leaves under a key fulfils it
  (`Slot.Realizes.given`);
- a slot that fulfils a descriptor refuses nothing of it and would be
  replaced by nothing but itself, whatever it is locked against
  (`reconcile_of_fulfils`).

`Object.define_of_fulfils` has the second for the properties of an object,
and `define_idempotent` puts the two together.
-/

set_option autoImplicit false

namespace ScriptRealm

variable {P : Platform} {d : Descriptor} {s : Slot}

/-- A descriptor that is about a family gives a field of it. Accessor fields
are looked at first, which is the order in which the family is decided. -/
theorem Descriptor.exists_read_of_family? {family : Family} (hfamily : d.family? = some family) :
    ∃ (α : Type) (field : Field α) (a : α),
      field.read d = some a ∧ field.family? = some family := by
  unfold Descriptor.family? at hfamily
  split at hfamily
  -- About accessors: one of the two functions is given.
  · rename_i hfields
    cases hfamily
    simp only [hasAccessor, Bool.or_eq_true, Option.isSome_iff_exists] at hfields
    rcases hfields with ⟨get, hget⟩ | ⟨set, hset⟩
    · exact ⟨_, .get, get, hget, rfl⟩
    · exact ⟨_, .set, set, hset, rfl⟩
  · split at hfamily
    -- About data: it is the value or the flag.
    · rename_i hfields
      cases hfamily
      simp only [hasData, Bool.or_eq_true, Option.isSome_iff_exists] at hfields
      rcases hfields with ⟨value, hvalue⟩ | ⟨writable, hwritable⟩
      · exact ⟨_, .value, value, hvalue, rfl⟩
      · exact ⟨_, .writable, writable, hwritable, rfl⟩
    · cases hfamily

namespace Slot

/-- A slot has every field that a descriptor gives, as it is given. -/
def Fulfils (d : Descriptor) (s : Slot) : Prop :=
  ∀ {α : Type} (field : Descriptor.Field α) (a : α), field.read d = some a →
    field.read s.toDescriptor = some a

namespace Fulfils

/-- The descriptor is about the family of the slot, if it is about any. A
field of a family is one that the slot has, so that the slot is of the
family. -/
theorem family (h : s.Fulfils d) : d.family? = some s.family ∨ d.family? = none := by
  cases hfamily : d.family? with
  | none => exact .inr rfl
  | some family =>
      left
      obtain ⟨α, field, a, hread, hfield⟩ := Descriptor.exists_read_of_family? hfamily
      have hsome : (field.read s.toDescriptor).isSome = true := by rw [h field a hread]; rfl
      rw [(field.isSome_read_toDescriptor s).mp hsome family hfield]

/-- Replacing a field by what is given changes nothing, since what is given is
what the field holds. -/
theorem getD_read (h : s.Fulfils d) {α : Type} (field : Descriptor.Field α) {old : α}
    (hold : field.read s.toDescriptor = some old) : (field.read d).getD old = old := by
  cases hread : field.read d with
  | none => rfl
  | some a =>
      have hsame := (h field a hread).symm.trans hold
      cases hsame
      rfl

/-- A slot that has all that is given is not changed by it. Each field is
replaced by what it holds. -/
theorem update_eq (h : s.Fulfils d) : s.update d = s := by
  obtain ⟨content, enumerable, configurable⟩ := s
  -- A slot of either family has four fields, and a descriptor may give each of them.
  cases content with
  | data value writable =>
      have hvalue : d.value.getD value = value := h.getD_read .value rfl
      have hwritable : d.writable.getD writable = writable := h.getD_read .writable rfl
      have henumerable : d.enumerable.getD enumerable = enumerable := h.getD_read .enumerable rfl
      have hconfigurable : d.configurable.getD configurable = configurable :=
        h.getD_read .configurable rfl
      simp only [update, Content.update, hvalue, hwritable, henumerable, hconfigurable]
  | accessor get set =>
      have hget : d.get.getD get = get := h.getD_read .get rfl
      have hset : d.set.getD set = set := h.getD_read .set rfl
      have henumerable : d.enumerable.getD enumerable = enumerable := h.getD_read .enumerable rfl
      have hconfigurable : d.configurable.getD configurable = configurable :=
        h.getD_read .configurable rfl
      simp only [update, Content.update, hget, hset, henumerable, hconfigurable]

/-- A property that is not configurable does not refuse what it has. Each
thing that it could refuse is one that it lacks. -/
theorem not_refuses (h : s.Fulfils d) (hlocked : s.configurable = false) : ¬ s.Refuses d := by
  intro hrefuses
  -- The two flags are read off a slot of either family alike.
  have hflags : s.toDescriptor.enumerable = some s.enumerable ∧
      s.toDescriptor.configurable = some s.configurable := by
    obtain ⟨content, enumerable, configurable⟩ := s
    cases content <;> exact ⟨rfl, rfl⟩
  -- A refusal is of a change, and the field in question is shown not to change.
  cases hrefuses with
  | configurable hasked =>
      have hhas := (h .configurable true hasked).symm.trans hflags.2
      rw [hlocked] at hhas
      cases hhas
  | enumerable flag hasked hne =>
      have hhas := (h .enumerable flag hasked).symm.trans hflags.1
      cases hhas
      exact hne rfl
  | family family hasked hne =>
      rcases h.family with hsame | hnone
      · rw [hasked] at hsame
        cases hsame
        exact hne rfl
      · rw [hasked] at hnone
        cases hnone
  | get get set new hcontent hasked hne =>
      have hhas := h .get new hasked
      simp only [Descriptor.Field.read, toDescriptor, hcontent] at hhas
      cases hhas
      exact hne rfl
  | set get set new hcontent hasked hne =>
      have hhas := h .set new hasked
      simp only [Descriptor.Field.read, toDescriptor, hcontent] at hhas
      cases hhas
      exact hne rfl
  | writable value hcontent hasked =>
      have hhas := h .writable true hasked
      simp only [Descriptor.Field.read, toDescriptor, hcontent] at hhas
      cases hhas
  | value value new hcontent hasked hne =>
      have hhas := h .value new hasked
      simp only [Descriptor.Field.read, toDescriptor, hcontent] at hhas
      cases hhas
      exact hne rfl

end Fulfils

end Slot

/-- A slot has nothing to object to a descriptor that it fulfils, and does not
change by it. Whether reconciliation notices that, or writes the slot anew,
makes no difference. -/
theorem reconcile_of_fulfils (hmixed : d.isMixed = false) (h : s.Fulfils d) (extensible : Bool) :
    reconcile extensible d (some s) = .keep ∨ reconcile extensible d (some s) = .replace s := by
  -- Only a locked property rejects anything, and not what it has.
  have hallowed : reconcile extensible d (some s) ≠ .reject := by
    rw [Ne, reconcile_eq_reject_iff hmixed]
    rintro (⟨hnone, -⟩ | ⟨s', hs, hlocked, hrefuses⟩)
    · cases hnone
    · cases hs
      exact h.not_refuses hlocked hrefuses
  -- What reconciliation leaves is the slot with the given fields, and that is the slot.
  have hafter := after_reconcile hallowed
  rw [Reconciliation.start_of_family h.family, h.update_eq] at hafter
  cases hend : reconcile extensible d (some s) with
  | reject => exact absurd hend hallowed
  | keep => exact .inl rfl
  | replace slot =>
      rw [hend] at hafter
      cases hafter
      exact .inr rfl

namespace Realm

variable {r : Realm P} {h : Handle} {key : PropertyKey}

/-- Putting a slot where it is changes nothing. -/
theorem insertSlot_of_slot? (hslot : (r.record h).slot? key = some s) :
    r.insertSlot h key s = r := by
  apply update_eq_self
  rw [ObjectRecord.insert, OrderedMap.insert_of_get? hslot]

/-- Where there is no object, nothing is put. The arena is compared place by
place, and the one that would change is outside. -/
theorem insertSlot_of_size_le (hge : r.size ≤ h.index) (key : PropertyKey) (slot : Slot) :
    r.insertSlot h key slot = r := by
  have hobjects : r.objects.modify h.index (·.insert key slot) = r.objects := by
    apply Array.ext_getElem?
    intro i
    rw [Array.getElem?_modify]
    split
    · rename_i hi
      rw [← hi, Array.getElem?_eq_none hge]
      rfl
    · rfl
  rw [insertSlot, update, hobjects]

end Realm

namespace Object

variable {m m' : Machine P} {o : Handle} {key : PropertyKey}

/-- What a definition comes to for an object that is not foreign. -/
theorem define_of_native (hmixed : d.isMixed = false)
    (hnative : (m.realm.record o).kind.host? = none) (key : PropertyKey) :
    define o key d m = Action.modifyGet (·.applyDescriptor o key.canonical
      (m.realm.record o).extensible d ((m.realm.record o).slot? key.canonical)) m := by
  rw [define, if_neg (by simp [hmixed]), Action.bind_apply]
  simp only [Action.record, hnative]

/-- A property that fulfils a descriptor takes it, and nothing changes. This
is so even for a property that is locked. -/
theorem define_of_fulfils (hmixed : d.isMixed = false)
    (hnative : (m.realm.record o).kind.host? = none)
    (hslot : (m.realm.record o).slot? key.canonical = some s) (hfulfils : s.Fulfils d) :
    define o key d m = .done true m := by
  rw [define_of_native hmixed hnative, hslot]
  simp only [Action.modifyGet, Realm.applyDescriptor]
  rcases reconcile_of_fulfils hmixed hfulfils (m.realm.record o).extensible with hkeep | hreplace
  · rw [hkeep]
  · rw [hreplace]
    simp only [Realm.insertSlot_of_slot? hslot]

/-- A mixed descriptor is never taken. -/
theorem isMixed_of_define (hdone : define o key d m = .done true m') : d.isMixed = false := by
  cases hmixed : d.isMixed with
  | false => rfl
  | true =>
      rw [define, if_pos hmixed] at hdone
      cases hdone

/-- What an accepted definition leaves behind: nothing has changed, or the
property is a slot that fulfils the descriptor. -/
theorem define_cases (hnative : (m.realm.record o).kind.host? = none)
    (hdone : define o key d m = .done true m') :
    m' = m ∨ ∃ slot : Slot, slot.Fulfils d ∧
      m' = { m with realm := m.realm.insertSlot o key.canonical slot } := by
  have hmixed := isMixed_of_define hdone
  rw [define_of_native hmixed hnative] at hdone
  simp only [Action.modifyGet, Realm.applyDescriptor] at hdone
  -- What was there before does not matter for what is left behind.
  generalize (m.realm.record o).slot? key.canonical = current at hdone
  cases hend : reconcile (m.realm.record o).extensible d current with
  | reject =>
      rw [hend] at hdone
      cases hdone
  | keep =>
      rw [hend] at hdone
      cases hdone
      exact .inl rfl
  | replace slot =>
      have hallowed : reconcile (m.realm.record o).extensible d current ≠ .reject := by simp [hend]
      have hafter := after_reconcile hallowed
      rw [hend] at hdone hafter
      cases hdone
      cases hafter
      exact .inr ⟨_, (Slot.realizes_update_start hmixed current).given, rfl⟩

/-- Defining a property of an object that is not foreign a second time is
accepted if it was accepted the first time, and changes nothing, however the
first time has locked the property. -/
theorem define_idempotent (hnative : (m.realm.record o).kind.host? = none)
    (hdone : define o key d m = .done true m') : define o key d m' = .done true m' := by
  rcases define_cases hnative hdone with rfl | ⟨slot, hfulfils, rfl⟩
  · exact hdone
  · by_cases hlt : o.index < m.realm.size
    · have hrecord : (m.realm.insertSlot o key.canonical slot).record o
          = (m.realm.record o).insert key.canonical slot := Realm.record_update_self hlt _
      apply define_of_fulfils (isMixed_of_define hdone) _ _ hfulfils
      · rw [hrecord]
        exact hnative
      · rw [hrecord, ObjectRecord.slot?_insert, if_pos rfl]
    · -- Outside the arena nothing was stored, so the first time is made again.
      rw [Realm.insertSlot_of_size_le (Nat.le_of_not_lt hlt)] at hdone ⊢
      exact hdone

end Object

/-- A realm with one object, which has no properties. -/
def bareRealm : Realm Platform.fixed where
  objects := #[.create .ordinary none]
  config := {}
  nextSymbol := Symbol.firstFree

/-- NaN is defined with nothing said about flags, which locks the property
for good. Defined again, under the text of the same index, it is accepted. -/
theorem Object.define_idempotent_nan :
    ∃ m', define ⟨0⟩ (.string "0") { value := some (.number .nan) } ⟨bareRealm, ()⟩
        = .done true m' ∧
      (m'.realm.record ⟨0⟩).slot? (.index 0) = some ⟨.data (.number .nan) false, false, false⟩ ∧
      define ⟨0⟩ (.string "0") { value := some (.number .nan) } m' = .done true m' :=
  ⟨_, rfl, by decide, define_idempotent (m := ⟨bareRealm, ()⟩) rfl rfl⟩

end ScriptRealm
