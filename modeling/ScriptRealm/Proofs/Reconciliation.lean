import ScriptRealm.Proofs.Change

/-!
# `ScriptRealm.Proofs.Reconciliation`: what a descriptor asks for and what it gets

`reconcile` decides by a sequence of tests that return early. Here the
decision is said without an order. `Slot.Refuses` lists what a property
that is not configurable refuses, and `reconcile_eq_reject_iff` says that
nothing else is rejected but a new property of an object that is not
extensible.

What is not rejected leaves a slot under the key. `Slot.Realizes` says what
that slot is, field by field: a field that the descriptor gives is as
given, any other is as it was, and a field that was not there is undefined
or false. The fields differ in their types only, so `Descriptor.Field`
names them and each rule is stated once for all of them.

The two sides meet in one slot. `Slot.start` is the slot that a descriptor
starts from: the one that is there, or one of the wanted family without
content. `after_reconcile` says that the descriptor applied to it is what
the key holds afterwards, also where the property is kept and nothing is
applied.

Values are compared by equality, which is the finest of the sameness
relations that scripts know: NaN is the same as itself, and the zeros
differ.
-/

set_option autoImplicit false

namespace ScriptRealm

namespace Descriptor

/-- The fields of a descriptor, each with the type of what it holds. -/
inductive Field : Type → Type where
  | value : Field Value
  | writable : Field Bool
  | get : Field Value
  | set : Field Value
  | enumerable : Field Bool
  | configurable : Field Bool

namespace Field

variable {α : Type}

/-- What a descriptor says in a field. -/
def read : Field α → Descriptor → Option α
  | .value, d => d.value
  | .writable, d => d.writable
  | .get, d => d.get
  | .set, d => d.set
  | .enumerable, d => d.enumerable
  | .configurable, d => d.configurable

/-- What a field holds if nothing was ever said about it. -/
def initial : Field α → α
  | .value | .get | .set => .undefined
  | .writable | .enumerable | .configurable => false

/-- The family that a field belongs to. The flags belong to both. -/
def family? : Field α → Option Family
  | .value | .writable => some .data
  | .get | .set => some .accessor
  | .enumerable | .configurable => none

/-- A slot has the flags and the fields of its own family, and no others. -/
theorem isSome_read_toDescriptor (field : Field α) (s : Slot) :
    (field.read s.toDescriptor).isSome = true ↔
      ∀ family, field.family? = some family → s.family = family := by
  obtain ⟨content, enumerable, configurable⟩ := s
  cases content <;> cases field <;>
    simp [read, family?, Slot.toDescriptor, Slot.family, Content.family]

/-- Applying a descriptor replaces the fields that it gives. A field that the
slot does not have is not added. -/
theorem read_toDescriptor_update (field : Field α) (d : Descriptor) (s : Slot) :
    field.read (s.update d).toDescriptor =
      (field.read s.toDescriptor).map fun old => (field.read d).getD old := by
  obtain ⟨content, enumerable, configurable⟩ := s
  cases content <;> cases field <;>
    simp [read, Slot.toDescriptor, Slot.update, Content.update]

end Field

/-- A descriptor that is not mixed is about the family of every field it
gives. -/
theorem family?_of_read {d : Descriptor} (hmixed : d.isMixed = false) {α : Type}
    {field : Field α} {a : α} (hread : field.read d = some a) {family : Family}
    (hfamily : field.family? = some family) : d.family? = some family := by
  cases field <;> simp only [Field.read] at hread <;> cases hfamily <;>
    simp_all [isMixed, Descriptor.family?, hasData, hasAccessor]

end Descriptor

/-- The first content of a family is of that family. -/
@[simp] theorem Content.family_initial (family : Family) :
    (Content.initial family).family = family := by
  cases family <;> rfl

namespace Slot

/-- What a property that is not configurable refuses: to become
configurable, another visibility, another family, another accessor, and, if
it is not writable, another value or the right to write one. -/
inductive Refuses (d : Descriptor) (s : Slot) : Prop where
  | configurable (hasked : d.configurable = some true)
  | enumerable (flag : Bool) (hasked : d.enumerable = some flag) (hne : flag ≠ s.enumerable)
  | family (family : Family) (hasked : d.family? = some family) (hne : family ≠ s.family)
  | get (get set new : Value) (hcontent : s.content = .accessor get set)
      (hasked : d.get = some new) (hne : new ≠ get)
  | set (get set new : Value) (hcontent : s.content = .accessor get set)
      (hasked : d.set = some new) (hne : new ≠ set)
  | writable (value : Value) (hcontent : s.content = .data value false)
      (hasked : d.writable = some true)
  | value (value new : Value) (hcontent : s.content = .data value false)
      (hasked : d.value = some new) (hne : new ≠ value)

/-- A slot is what a descriptor makes of a property, if there was one. -/
structure Realizes (d : Descriptor) (current : Option Slot) (s : Slot) : Prop where
  /-- The family is the one the descriptor is about. If it is about none it
  is that of the property, and a new property holds data. -/
  family : s.family = d.family?.getD ((current.map Slot.family).getD .data)
  /-- What the descriptor gives is there. -/
  given : ∀ {α : Type} (field : Descriptor.Field α) (a : α), field.read d = some a →
    field.read s.toDescriptor = some a
  /-- What it does not give is as it was, or undefined or false. -/
  kept : ∀ {α : Type} (field : Descriptor.Field α) (a : α), field.read d = none →
    field.read s.toDescriptor = some a →
    a = (current.bind fun old => field.read old.toDescriptor).getD field.initial

/-- The slot that a descriptor starts from. -/
def start (d : Descriptor) : Option Slot → Slot
  | none => ⟨.initial (d.family?.getD .data), false, false⟩
  | some s =>
      match d.family? with
      | some family => if s.family = family then s else { s with content := .initial family }
      | none => s

variable {d : Descriptor} {s : Slot}

/-- The slot that a descriptor starts from is of the family that the
descriptor asks for, and of that of the property if it asks for none. A new
property holds data. -/
theorem family_start (d : Descriptor) (current : Option Slot) :
    (start d current).family = d.family?.getD ((current.map Slot.family).getD .data) := by
  -- A new slot is of the family by construction, and an old one is replaced if it is not.
  cases current with
  | none => simp [start, Slot.family]
  | some s =>
      cases hfamily : d.family? with
      | none => simp [start, hfamily]
      | some family =>
          simp only [start, hfamily]
          split
          · rename_i hsame
            simpa using hsame
          · simp [Slot.family]

/-- What the first slot holds is as it was, or undefined or false. If the
family changes, none of its fields is one that the property had, and the flags
stay. -/
theorem read_start (d : Descriptor) (current : Option Slot) {α : Type}
    (field : Descriptor.Field α) (a : α)
    (hread : field.read (start d current).toDescriptor = some a) :
    a = (current.bind fun old => field.read old.toDescriptor).getD field.initial := by
  cases current with
  | none =>
      simp only [start] at hread
      generalize d.family?.getD .data = family at hread
      cases family <;> cases field <;> cases hread <;> rfl
  | some s =>
      -- Either the property is started from as it is, or its content makes room for the initial
      -- one.
      have hstart : start d (some s) = s ∨
          ∃ family, s.family ≠ family ∧
            start d (some s) = { s with content := .initial family } := by
        cases hfamily : d.family? with
        | none => simp [start, hfamily]
        | some family =>
            by_cases hsame : s.family = family
            · simp [start, hfamily, hsame]
            · exact .inr ⟨family, hsame, by simp [start, hfamily, hsame]⟩
      rcases hstart with heq | ⟨family, hne, heq⟩
      · rw [heq] at hread
        simp [hread]
      · -- The fields of the new family are none that the property had.
        rw [heq] at hread
        obtain ⟨content, enumerable, configurable⟩ := s
        cases content with
        | data value writable =>
            cases family with
            | data => exact absurd rfl hne
            | accessor => cases field <;> cases hread <;> rfl
        | accessor get set =>
            cases family with
            | data => cases field <;> cases hread <;> rfl
            | accessor => exact absurd rfl hne

/-- A descriptor applied to the slot it starts from is realized. Every field
that it gives is a field of that slot, because a descriptor that is not mixed
is about one family. -/
theorem realizes_update_start (hmixed : d.isMixed = false) (current : Option Slot) :
    ((start d current).update d).Realizes d current where
  family := by
    have hfamily : ∀ (content : Content), (content.update d).family = content.family := by
      intro content
      cases content <;> rfl
    rw [Slot.family, Slot.update, hfamily]
    exact family_start d current
  given field a hread := by
    -- The field is one of the family that the descriptor is about, and so is the slot.
    have hsome : (field.read (start d current).toDescriptor).isSome = true := by
      rw [Descriptor.Field.isSome_read_toDescriptor]
      intro family hfamily
      rw [family_start, Descriptor.family?_of_read hmixed hread hfamily]
      rfl
    obtain ⟨old, hold⟩ := Option.isSome_iff_exists.mp hsome
    rw [Descriptor.Field.read_toDescriptor_update, hold, hread]
    rfl
  kept field a hnone hread := by
    rw [Descriptor.Field.read_toDescriptor_update, hnone] at hread
    apply read_start d current field a
    simpa using hread

/-- A property that refuses nothing is what the descriptor would make of
it, if it is not configurable and its content is not asked to change. -/
theorem update_eq_self (hlocked : s.configurable = false)
    (hflags : Reconciliation.changesFlags d s = false)
    (hcontent : s.content.update d = s.content) : s.update d = s := by
  -- What the flags may not change is the same before and after.
  have hkeeps : s.Keeps (s.update d) := by
    apply Slot.keeps_update hlocked hflags
    rw [hcontent]
    exact .refl s.content
  have hconfigurable : (s.update d).configurable = s.configurable := by
    rw [hkeeps.configurable, hlocked]
  calc s.update d
      = ⟨(s.update d).content, (s.update d).enumerable, (s.update d).configurable⟩ := rfl
    _ = s := by rw [hconfigurable, hkeeps.enumerable]; exact congrArg (Slot.mk · _ _) hcontent

end Slot

namespace Reconciliation

/-- The slot under a key after its property was reconciled. -/
def after (current : Option Slot) : Reconciliation → Option Slot
  | .reject | .keep => current
  | .replace s => some s

variable {d : Descriptor} {s : Slot}

/-- A descriptor about the family of a property starts from it. -/
theorem start_of_family (hfamily : d.family? = some s.family ∨ d.family? = none) :
    Slot.start d (some s) = s := by
  rcases hfamily with hfamily | hfamily
  · simp [Slot.start, hfamily]
  · simp [Slot.start, hfamily]

/-- A property that is configurable becomes what the descriptor makes of the
slot it starts from. No request is refused by it. -/
theorem ofOpen_eq (d : Descriptor) (s : Slot) :
    ofOpen d s = (Slot.start d (some s)).update d := by
  unfold ofOpen Slot.start
  cases d.family? with
  | none => rfl
  | some family =>
      by_cases hsame : s.family = family
      · simp [hsame]
      · simp [hsame]

/-- A value that is not asked to change stays. The test passes if no other
value is given and the right to write is not asked for. -/
theorem update_of_changesValue {value : Value} (h : changesValue d value = false) :
    (Content.data value false).update d = .data value false := by
  simp only [changesValue, Bool.or_eq_false_iff, beq_eq_false_iff_ne, Option.any_eq_false,
    bne_eq_false_iff_eq] at h
  obtain ⟨hwritable, hvalue⟩ := h
  have hvalue : d.value.getD value = value := by
    cases hd : d.value with
    | none => rfl
    | some new => exact hvalue new hd
  have hwritable : d.writable.getD false = false := by
    cases hd : d.writable with
    | none => rfl
    | some flag =>
        cases flag with
        | false => rfl
        | true => exact absurd hd hwritable
  rw [Content.update, hvalue, hwritable]

/-- Accessors that are not asked to change stay. Either function may be given,
as long as it is the one that is there. -/
theorem update_of_changesAccessors {get set : Value} (h : changesAccessors d get set = false) :
    (Content.accessor get set).update d = .accessor get set := by
  simp only [changesAccessors, Bool.or_eq_false_iff, Option.any_eq_false,
    bne_eq_false_iff_eq] at h
  obtain ⟨hset, hget⟩ := h
  have hget : d.get.getD get = get := by
    cases hd : d.get with
    | none => rfl
    | some new => exact hget new hd
  have hset : d.set.getD set = set := by
    cases hd : d.set with
    | none => rfl
    | some new => exact hset new hd
  rw [Content.update, hget, hset]

/-- A property that is not configurable becomes what a descriptor makes of it,
if it lets it. Where it is kept, that is the property itself. The cases are
the family that is asked for and the content that is there. -/
theorem after_ofLocked (hlocked : s.configurable = false) (hflags : changesFlags d s = false)
    (hallowed : ofLocked d s ≠ .reject) :
    (ofLocked d s).after (some s) = some ((Slot.start d (some s)).update d) := by
  unfold ofLocked at hallowed ⊢
  split
  · -- No family: the flags are all that the descriptor could ask for.
    rename_i hfamily
    rw [start_of_family (.inr hfamily)]
    rfl
  -- A value: if it can be written it is replaced, and otherwise it must not change.
  · rename_i value writable hfamily hcontent
    have hsame : s.family = .data := by rw [Slot.family, hcontent]; rfl
    rw [start_of_family (.inl (hfamily.trans (congrArg some hsame.symm)))]
    cases writable with
    | true => rfl
    | false =>
        cases hchanges : changesValue d value with
        | true => simp [hfamily, hcontent, hchanges] at hallowed
        | false =>
            have hself : s.update d = s := by
              apply Slot.update_eq_self hlocked hflags
              rw [hcontent]
              exact update_of_changesValue hchanges
            rw [hself]
            rfl
  -- Accessors have no flag of their own, so they must not change.
  · rename_i get set hfamily hcontent
    have hsame : s.family = .accessor := by rw [Slot.family, hcontent]; rfl
    rw [start_of_family (.inl (hfamily.trans (congrArg some hsame.symm)))]
    cases hchanges : changesAccessors d get set with
    | true => simp [hfamily, hcontent, hchanges] at hallowed
    | false =>
        have hself : s.update d = s := by
          apply Slot.update_eq_self hlocked hflags
          rw [hcontent]
          exact update_of_changesAccessors hchanges
        rw [hself]
        rfl
  · simp_all

end Reconciliation

open Reconciliation

variable {d : Descriptor} {s : Slot}

/-- Whatever is not rejected, the key holds what the descriptor makes of the
slot it starts from. This is said once for new properties, for open ones and
for locked ones. -/
theorem after_reconcile {extensible : Bool} {current : Option Slot}
    (hallowed : reconcile extensible d current ≠ .reject) :
    (reconcile extensible d current).after current = some ((Slot.start d current).update d) := by
  cases current with
  | none =>
      cases extensible with
      | true => rfl
      | false => exact absurd rfl hallowed
  | some s =>
      simp only [reconcile] at hallowed ⊢
      split
      · -- Nothing is asked for, so nothing would change.
        rename_i hempty
        simp only [Descriptor.isEmpty, Bool.and_eq_true, Bool.not_eq_true',
          Option.isNone_iff_eq_none] at hempty
        obtain ⟨⟨⟨hdata, haccessor⟩, henumerable⟩, hconfigurable⟩ := hempty
        have hfamily : d.family? = none := by simp [Descriptor.family?, hdata, haccessor]
        rw [start_of_family (.inr hfamily), Slot.update, Content.update_of_no_family hfamily,
          henumerable, hconfigurable]
        rfl
      · split
        · rw [ofOpen_eq]
          rfl
        · rename_i hempty hlocked
          simp only [hempty, hlocked] at hallowed
          split
          -- Flags that would change are refused, which is excluded.
          · rename_i hflags
            simp [hflags] at hallowed
          · rename_i hflags
            simp only [hflags] at hallowed
            exact after_ofLocked (by simpa using hlocked) (by simpa using hflags) hallowed

/-- A descriptor that says nothing asks for nothing. So a property that
refuses something has been given a field. -/
theorem Slot.Refuses.isEmpty_eq_false (h : s.Refuses d) : d.isEmpty = false := by
  cases h with
  | family family hasked =>
      have hfields : d.hasAccessor = true ∨ d.hasData = true := by
        cases haccessor : d.hasAccessor with
        | true => exact .inl rfl
        | false =>
            cases hdata : d.hasData with
            | true => exact .inr rfl
            | false => simp [Descriptor.family?, haccessor, hdata] at hasked
      rcases hfields with hfields | hfields <;> simp [Descriptor.isEmpty, hfields]
  | _ => simp_all [Descriptor.isEmpty, Descriptor.hasData, Descriptor.hasAccessor]

/-- What a property refuses beside other flags, it rejects. Each thing that it
may refuse lies in one of the branches. -/
theorem ofLocked_of_refuses (hmixed : d.isMixed = false) (h : s.Refuses d)
    (hflags : changesFlags d s = false) : ofLocked d s = .reject := by
  simp only [changesFlags, Bool.or_eq_false_iff, beq_eq_false_iff_ne, Option.any_eq_false,
    bne_eq_false_iff_eq] at hflags
  -- A field that is given tells the family, so the matching branch is reached.
  have hfamily : ∀ {α : Type} (field : Descriptor.Field α) (a : α) (family : Family),
      field.read d = some a → field.family? = some family → d.family? = some family :=
    fun _ _ _ hread => Descriptor.family?_of_read hmixed hread
  cases h with
  | configurable hasked => exact absurd hasked hflags.1
  | enumerable flag hasked hne => exact absurd (hflags.2 flag hasked) hne
  | family family hasked hne =>
      obtain ⟨content, enumerable, configurable⟩ := s
      cases content <;> cases family <;> simp_all [ofLocked, Slot.family, Content.family]
  | get get set new hcontent hasked hne =>
      simp [ofLocked, hfamily .get new .accessor hasked rfl, hcontent, changesAccessors, hasked,
        hne]
  | set get set new hcontent hasked hne =>
      simp [ofLocked, hfamily .set new .accessor hasked rfl, hcontent, changesAccessors, hasked,
        hne]
  | writable value hcontent hasked =>
      simp [ofLocked, hfamily .writable true .data hasked rfl, hcontent, changesValue, hasked]
  | value value new hcontent hasked hne =>
      simp [ofLocked, hfamily .value new .data hasked rfl, hcontent, changesValue, hasked, hne]

/-- What a property rejects whose flags are in order, it refuses. The branch
in which it was rejected tells what for. -/
theorem refuses_of_ofLocked (h : ofLocked d s = .reject) : s.Refuses d := by
  unfold ofLocked at h
  split at h
  · cases h
  -- A value that cannot be written rejects another value, and the right to write one.
  · rename_i value writable hfamily hcontent
    cases writable with
    | true => simp at h
    | false =>
        have hchanges : changesValue d value = true := by simpa using h
        simp only [changesValue, Bool.or_eq_true, beq_iff_eq, Option.any_eq_true,
          bne_iff_ne] at hchanges
        rcases hchanges with hwritable | ⟨new, hnew, hne⟩
        · exact .writable value hcontent hwritable
        · exact .value value new hcontent hnew hne
  · rename_i get set hfamily hcontent
    have hchanges : changesAccessors d get set = true := by simpa using h
    simp only [changesAccessors, Bool.or_eq_true, Option.any_eq_true, bne_iff_ne] at hchanges
    rcases hchanges with ⟨new, hnew, hne⟩ | ⟨new, hnew, hne⟩
    · exact .set get set new hcontent hnew hne
    · exact .get get set new hcontent hnew hne
  · -- Neither branch for a content of the wanted family was taken.
    rename_i family hfamily hdata haccessor
    apply Slot.Refuses.family family hfamily
    intro hsame
    rw [Slot.family] at hsame
    cases hcontent : s.content with
    | data value writable => exact hdata value writable hcontent (by rw [hsame, hcontent]; rfl)
    | accessor get set => exact haccessor get set hcontent (by rw [hsame, hcontent]; rfl)

/-- A property that is not configurable rejects what it refuses and nothing
else. The flags are looked at before the content. -/
theorem reconcile_locked_eq_reject_iff {extensible : Bool} (hmixed : d.isMixed = false)
    (hlocked : s.configurable = false) :
    reconcile extensible d (some s) = .reject ↔ s.Refuses d := by
  constructor
  · intro h
    simp only [reconcile, hlocked, Bool.false_eq_true, if_false] at h
    split at h
    · cases h
    · split at h
      · rename_i hflags
        simp only [changesFlags, Bool.or_eq_true, beq_iff_eq, Option.any_eq_true,
          bne_iff_ne] at hflags
        rcases hflags with hasked | ⟨flag, hasked, hne⟩
        · exact .configurable hasked
        · exact .enumerable flag hasked hne
      · exact refuses_of_ofLocked h
  · intro h
    simp only [reconcile, h.isEmpty_eq_false, hlocked, Bool.false_eq_true, if_false]
    cases hflags : changesFlags d s with
    | true => rfl
    | false => simpa using ofLocked_of_refuses hmixed h hflags

/-- What is rejected: a new property of an object that is not extensible,
and what a property refuses that is not configurable. -/
theorem reconcile_eq_reject_iff {extensible : Bool} {current : Option Slot}
    (hmixed : d.isMixed = false) :
    reconcile extensible d current = .reject ↔
      (current = none ∧ extensible = false) ∨
        ∃ s, current = some s ∧ s.configurable = false ∧ s.Refuses d := by
  cases current with
  | none => cases extensible <;> simp [reconcile]
  | some s =>
      cases hlocked : s.configurable with
      | true =>
          simp only [reconcile, hlocked, if_true]
          split <;> simp_all
      | false => simp [reconcile_locked_eq_reject_iff hmixed hlocked, hlocked]

/-- Reconciliation does what its specification says, for a descriptor that
is not mixed:

- it rejects a new property if the object is not extensible, and otherwise
  exactly what a property refuses that is not configurable;
- whatever it does not reject, the key holds a slot afterwards that
  realizes the descriptor. -/
theorem reconcile_specified (extensible : Bool) (d : Descriptor) (current : Option Slot)
    (hmixed : d.isMixed = false) :
    (reconcile extensible d current = .reject ↔
      (current = none ∧ extensible = false) ∨
        ∃ s, current = some s ∧ s.configurable = false ∧ s.Refuses d) ∧
    (reconcile extensible d current ≠ .reject →
      ∃ s, (reconcile extensible d current).after current = some s ∧ s.Realizes d current) := by
  constructor
  · exact reconcile_eq_reject_iff hmixed
  · intro hallowed
    exact ⟨_, after_reconcile hallowed, Slot.realizes_update_start hmixed current⟩

/-- A property that is locked for good. -/
def Slot.constant (value : Value) : Slot := ⟨.data value false, true, false⟩

/-- A constant takes a descriptor that gives its own value and nothing more,
and stays as it is. It refuses another value. -/
theorem reconcile_specified_constant :
    (Slot.constant .null).Realizes { value := some .null } (some (.constant .null)) ∧
      (Slot.constant .null).Refuses { value := some .undefined } := by
  have hsame := (reconcile_specified false { value := some .null } (some (.constant .null))
    (by decide)).2 (by decide)
  have hother := (reconcile_specified true { value := some .undefined } (some (.constant .null))
    (by decide)).1.mp (by decide)
  obtain ⟨s, hafter, hrealizes⟩ := hsame
  constructor
  · have hs : some (Slot.constant .null) = some s := hafter
    cases hs
    exact hrealizes
  · rcases hother with ⟨hnone, -⟩ | ⟨s, hs, -, hrefuses⟩
    · cases hnone
    · cases hs
      exact hrefuses

end ScriptRealm
