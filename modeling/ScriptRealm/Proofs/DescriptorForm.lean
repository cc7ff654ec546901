import ScriptRealm.Proofs.Assignment
import ScriptRealm.Proofs.Redefinition

/-!
# `ScriptRealm.Proofs.DescriptorForm`: descriptors as script objects and back

A script sees a descriptor as an object, and states one by an object. The way
there and back loses nothing and invents nothing, if no object that the new
one inherits from has a property with the name of a field. The names are all
that stands in the way: what is absent in a descriptor is absent in the
object's own table, and a field that is missing there is looked for in the
prototypes.

`Descriptor.Field` names the fields, so one lemma describes all six of them.
`Descriptor.slot?_stated` says what the object has under the name of a field,
and `Descriptor.field?_stated` what is read there. `Descriptor.trip_apply`
puts the six readings together.

A slot goes the same way by its complete description. Where there is no slot
the description makes the same slot again (`Slot.ofDescriptor_toDescriptor`),
and the slot itself has all that its own description gives, so it takes it,
whatever it is locked against (`Object.define_of_fulfils`).
`descriptor_trip` has both.
-/

set_option autoImplicit false

namespace ScriptRealm

variable {P : Platform}

/-! ### A new object -/

namespace Realm

/-- Changing the object that was added last is adding the changed object.
Entry by entry, the last one is changed and the others are not. -/
theorem update_allocate (r : Realm P) (record : ObjectRecord P)
    (f : ObjectRecord P → ObjectRecord P) :
    (r.allocate record).2.update ⟨r.size⟩ f = (r.allocate (f record)).2 := by
  have hobjects : (r.objects.push record).modify r.size f = r.objects.push (f record) := by
    apply Array.ext_getElem?
    intro i
    rw [Array.getElem?_modify, Array.getElem?_push, Array.getElem?_push, size]
    by_cases hi : i = r.objects.size
    · simp [hi]
    -- The other entries were there before, and are not the last.
    · have hne : ¬ r.objects.size = i := fun heq => hi heq.symm
      simp [hi, hne]
  show { r with objects := (r.objects.push record).modify r.size f } = _
  rw [hobjects]
  rfl

/-- A chain that may be longer has all the objects of the shorter one. By
induction on the length, since both follow the same links. -/
theorem chainUpTo_subset_succ (r : Realm P) (n : Nat) (h : Handle) :
    r.chainUpTo n h ⊆ r.chainUpTo (n + 1) h := by
  induction n generalizing h with
  | zero => intro _ hmem; cases hmem
  | succ n ih =>
      rw [chainUpTo, chainUpTo]
      apply List.cons_subset_cons
      cases (r.record h).prototype with
      | none => exact fun _ hmem => hmem
      | some p => exact ih p

/-- Beside a new object without a key, a chain lacks the key if it did before,
and so did the one that the new object inherits from. By induction on the
chain. It may lead to the new object, by a link that led nowhere so far, and
goes on from there with the prototype of the new object. -/
theorem hasOwn_of_mem_chainUpTo_allocate {r : Realm P} {record : ObjectRecord P} {p : Handle}
    {key : PropertyKey} (hnative : record.kind.host? = none) (hslot : record.slot? key = none)
    (hprototype : record.prototype = some p) {n : Nat} {h : Handle}
    (hp : ∀ o ∈ r.chainUpTo n p, r.hasOwn o key = false)
    (hh : ∀ o ∈ r.chainUpTo n h, r.hasOwn o key = false) :
    ∀ o ∈ (r.allocate record).2.chainUpTo n h, (r.allocate record).2.hasOwn o key = false := by
  induction n generalizing h with
  | zero => intro _ hmem; cases hmem
  | succ n ih =>
      have hp' : ∀ o ∈ r.chainUpTo n p, r.hasOwn o key = false :=
        fun o hmem => hp o (chainUpTo_subset_succ r n p hmem)
      -- Either the chain has come to the new object, or it is at an object that was there.
      by_cases hnew : h.index = r.size
      · have hrecord : (r.allocate record).2.record h = record := by
          rw [record_allocate, if_pos hnew]
        intro o hmem
        rw [chainUpTo, hrecord, hprototype] at hmem
        rcases List.mem_cons.mp hmem with rfl | hmem
        · rw [hasOwn_of_native (by rw [hrecord]; exact hnative), hrecord, hslot]
          rfl
        · exact ih hp' hp' o hmem
      · have hrecord : (r.allocate record).2.record h = r.record h := by
          rw [record_allocate, if_neg hnew]
        have hown : (r.allocate record).2.hasOwn h key = r.hasOwn h key := by
          rw [hasOwn, hasOwn, hrecord]
        intro o hmem
        rw [chainUpTo, hrecord] at hmem
        rw [chainUpTo] at hh
        rcases List.mem_cons.mp hmem with rfl | hmem
        · rw [hown]
          exact hh o List.mem_cons_self
        · cases hnext : (r.record h).prototype with
          | none =>
              rw [hnext] at hmem
              cases hmem
          | some q =>
              rw [hnext] at hmem hh
              exact ih hp' (fun o hmem => hh o (List.mem_cons_of_mem h hmem)) o hmem

/-- A new object has no key that neither it nor its prototypes have. The chain
of prototypes is looked through in the realm with the new object, where it may
be longer by one. -/
theorem owner?_allocate_of_lacks {r : Realm P} {record : ObjectRecord P} {p : Handle}
    {key : PropertyKey} (hnative : record.kind.host? = none) (hslot : record.slot? key = none)
    (hprototype : record.prototype = some p) (hp : ∀ o ∈ r.chain p, r.hasOwn o key = false) :
    (r.allocate record).2.owner? ⟨r.size⟩ key = none := by
  have hrecord : (r.allocate record).2.record ⟨r.size⟩ = record := by
    rw [record_allocate, if_pos rfl]
  apply owner?_of_lacks
  rw [chain, size_allocate, chainUpTo, hrecord, hprototype]
  intro o hmem
  rcases List.mem_cons.mp hmem with rfl | hmem
  · rw [hasOwn_of_native (by rw [hrecord]; exact hnative), hrecord, hslot]
    rfl
  · exact hasOwn_of_mem_chainUpTo_allocate hnative hslot hprototype hp hp o hmem

end Realm

/-! ### The object that states a descriptor -/

namespace Descriptor

namespace Field

variable {α : Type}

/-- The name of a field in a script object. -/
def name : Field α → String
  | .value => "value"
  | .writable => "writable"
  | .get => "get"
  | .set => "set"
  | .enumerable => "enumerable"
  | .configurable => "configurable"

/-- What a field holds, as a script sees it. -/
def shown : Field α → α → Value
  | .value, v | .get, v | .set, v => v
  | .writable, flag | .enumerable, flag | .configurable, flag => .boolean flag

end Field

/-- The names of all fields. -/
def fieldNames : List String :=
  ["value", "writable", "get", "set", "enumerable", "configurable"]

/-- The list of names has the name of every field. -/
theorem Field.name_mem_fieldNames {α : Type} (field : Field α) : field.name ∈ fieldNames := by
  cases field <;> decide

/-- Entries in a table, each under a name and in the form of plain
properties. -/
def enter (slots : OrderedMap PropertyKey Slot) (entries : List (String × Value)) :
    OrderedMap PropertyKey Slot :=
  entries.foldl (fun slots (name, value) => slots.insert (.string name) (.plain value)) slots

/-- The object that states a descriptor. -/
def stated (d : Descriptor) : ObjectRecord P :=
  { (.create .ordinary (some Intrinsic.objectPrototype) : ObjectRecord P) with
    slots := enter .empty d.fields }

/-- Of entries that may be absent, the last one that is there counts. By
induction on the entries, for every table, as each entry is made in the table
that the last one left. -/
theorem get?_enter (entries : List (String × Option Value)) (slots : OrderedMap PropertyKey Slot)
    (name : String) :
    (enter slots (entries.filterMap fun (name, value) => value.map (name, ·))).get? (.string name)
      = entries.foldl
          (fun slot entry => if name = entry.1 then (entry.2.map Slot.plain).or slot else slot)
          (slots.get? (.string name)) := by
  induction entries generalizing slots with
  | nil => rfl
  | cons entry rest ih =>
      obtain ⟨other, value⟩ := entry
      cases value with
      | none => simp [ih]
      | some value =>
          -- What is entered covers an earlier entry under this name and leaves the others.
          have hinsert := ih (slots.insert (.string other) (.plain value))
          rw [OrderedMap.get?_insert] at hinsert
          simp only [PropertyKey.string.injEq] at hinsert
          rw [List.foldl_cons]
          exact hinsert

/-- Under the name of a field the object has what the descriptor says in the
field, and nothing if it says nothing. The names are different from each
other, so no entry covers another. -/
theorem slot?_stated {α : Type} (d : Descriptor) (field : Field α) :
    (d.stated : ObjectRecord P).slot? (.string field.name)
      = (field.read d).map fun a => .plain (field.shown a) := by
  have hempty : (OrderedMap.empty : OrderedMap PropertyKey Slot).get? (.string field.name) = none :=
    rfl
  rw [ObjectRecord.slot?, stated, fields, get?_enter, hempty]
  -- For each field, all entries but its own are under other names.
  cases field <;> simp [Field.name, Field.read, Field.shown, Function.comp_def]

/-- Entering properties into a new object is adding the object with them. By
induction on the entries, for every such object. -/
theorem foldl_insertSlot_allocate (r : Realm P) (record : ObjectRecord P)
    (entries : List (String × Value)) :
    entries.foldl (fun realm (name, value) => realm.insertSlot ⟨r.size⟩ (.string name)
        (.plain value)) (r.allocate record).2
      = (r.allocate { record with slots := enter record.slots entries }).2 := by
  induction entries generalizing record with
  | nil => rfl
  | cons entry rest ih =>
      obtain ⟨name, value⟩ := entry
      rw [List.foldl_cons]
      show rest.foldl _ ((r.allocate record).2.update ⟨r.size⟩ _) = _
      rw [Realm.update_allocate, ih]
      rfl

/-- The machine with a new object that states a descriptor. -/
def shownIn (d : Descriptor) (m : Machine P) : Machine P :=
  ⟨(m.realm.allocate d.stated).2, m.memory⟩

/-- A descriptor is shown by one new object, and nothing else happens. The
program makes the object first and enters the fields one by one. -/
theorem toObject_apply (d : Descriptor) (m : Machine P) :
    toObject (some d) m = .done (.object ⟨m.realm.size⟩) (d.shownIn m) := by
  have hfields := foldl_insertSlot_allocate m.realm
    (.create .ordinary (some Intrinsic.objectPrototype)) d.fields
  exact congrArg
    (fun realm => Outcome.done (Value.object ⟨m.realm.size⟩) (Machine.mk realm m.memory)) hfields

/-! ### Reading it back -/

/-- No object that a new object inherits from has a property with the name of
a field. -/
def Unshadowed (r : Realm P) : Prop :=
  ∀ o ∈ r.chain Intrinsic.objectPrototype, ∀ name ∈ fieldNames,
    r.hasOwn o (.string name) = false

instance (r : Realm P) : Decidable (Unshadowed r) :=
  inferInstanceAs (Decidable (∀ o ∈ r.chain Intrinsic.objectPrototype, ∀ name ∈ fieldNames,
    r.hasOwn o (.string name) = false))

/-- The accessors that are given are undefined or callable. -/
def AccessorsIn (d : Descriptor) (r : Realm P) : Prop :=
  ∀ accessor, d.get = some accessor ∨ d.set = some accessor →
    accessor = .undefined ∨ r.isCallable accessor = true

variable {α : Type} {d : Descriptor} {m : Machine P}

/-- Under the new handle there is the object that states the descriptor. -/
theorem record_shownIn_self (d : Descriptor) (m : Machine P) :
    (d.shownIn m).realm.record ⟨m.realm.size⟩ = d.stated := by
  rw [shownIn, Realm.record_allocate, if_pos rfl]

/-- The objects that were there are as they were. -/
theorem record_shownIn_of_lt {h : Handle} (hlt : h.index < m.realm.size) :
    (d.shownIn m).realm.record h = m.realm.record h := by
  rw [shownIn, Realm.record_allocate, if_neg (Nat.ne_of_lt hlt)]

/-- What is read under the name of a field is what the descriptor says in the
field. A field that is absent is looked for in the prototypes, in vain. -/
theorem field?_stated (hooks : Hooks P) (hunshadowed : Unshadowed m.realm) (d : Descriptor)
    (field : Field α) :
    field? hooks ⟨m.realm.size⟩ field.name (d.shownIn m)
      = .done ((field.read d).map field.shown) (d.shownIn m) := by
  have hrecord := d.record_shownIn_self m
  have hslot := slot?_stated (P := P) d field
  have hnative : ((d.shownIn m).realm.record ⟨m.realm.size⟩).kind.host? = none := by
    rw [hrecord]
    rfl
  rw [field?, Action.bind_apply]
  cases hread : field.read d with
  -- The field is absent, and no prototype has it.
  | none =>
      rw [hread] at hslot
      have hlacks : (d.shownIn m).realm.has ⟨m.realm.size⟩ (.string field.name) = false := by
        rw [Realm.has_eq_isSome_owner?, shownIn, Realm.owner?_allocate_of_lacks rfl hslot rfl]
        · rfl
        · exact fun o hmem => hunshadowed o hmem _ field.name_mem_fieldNames
      simp only [Action.realm, hlacks]
      rfl
  -- The object has it for its own, as a value.
  | some a =>
      rw [hread] at hslot
      have hown : (d.shownIn m).realm.hasOwn ⟨m.realm.size⟩ (.string field.name) = true := by
        rw [Realm.hasOwn_of_native hnative, hrecord, hslot]
        rfl
      have hhas : (d.shownIn m).realm.has ⟨m.realm.size⟩ (.string field.name) = true := by
        rw [Realm.has_eq_isSome_owner?, Realm.owner?_of_hasOwn hown]
        rfl
      have hget : Object.get hooks ⟨m.realm.size⟩ (.string field.name) (d.shownIn m)
          = .done (field.shown a) (d.shownIn m) :=
        Object.get_of_data hooks hnative (by rw [hrecord, hslot]; rfl) rfl
      simp only [Action.realm, hhas, if_true]
      rw [Action.map_apply, hget]
      rfl

/-- An accessor that is undefined or callable is taken. The test is made in
the machine in which the field was read. -/
theorem accessor?_of_field? (hooks : Hooks P) {h : Handle} {name : String} {k : Machine P}
    {accessor? : Option Value} (hfield : field? hooks h name k = .done accessor? k)
    (hcallable : ∀ accessor, accessor? = some accessor →
      accessor = .undefined ∨ k.realm.isCallable accessor = true) (cause : Value → TypeCause) :
    Descriptor.accessor? hooks h name cause k = .done accessor? k := by
  rw [Descriptor.accessor?, Action.bind_apply, hfield]
  cases accessor? with
  | none => rfl
  | some accessor =>
      have haccepted : (accessor.isUndefined || k.realm.isCallable accessor) = true := by
        rcases hcallable accessor rfl with rfl | hcallable
        · rfl
        · rw [hcallable, Bool.or_true]
      show (if accessor.isUndefined || k.realm.isCallable accessor then pure (some accessor)
        else Action.fail (.type (cause accessor)) : Action P (Option Value)) k = _
      rw [if_pos haccepted]
      rfl

/-- What is callable is in the arena, so it stays so beside a new object. What
is undefined does not depend on the realm. -/
theorem AccessorsIn.shownIn (haccessors : d.AccessorsIn m.realm) :
    d.AccessorsIn (d.shownIn m).realm := by
  intro accessor hgiven
  rcases haccessors accessor hgiven with hundefined | hcallable
  · exact .inl hundefined
  · refine .inr ?_
    cases accessor with
    | object h =>
        -- A bare object, which is read outside the arena, cannot be called.
        have hlt : h.index < m.realm.size := by
          apply Realm.lt_size_of_record_ne
          intro hdefault
          rw [Realm.isCallable, hdefault] at hcallable
          cases hcallable
        rw [Realm.isCallable, record_shownIn_of_lt hlt]
        exact hcallable
    | _ => cases hcallable

/-- A field of values is read as it is. Fields of flags are read as booleans
instead. -/
theorem field?_stated_value (hooks : Hooks P) (hunshadowed : Unshadowed m.realm) (d : Descriptor)
    (field : Field Value) (hshown : ∀ v, field.shown v = v) :
    field? hooks ⟨m.realm.size⟩ field.name (d.shownIn m) = .done (field.read d) (d.shownIn m) := by
  have hmap : (field.read d).map field.shown = field.read d := by
    rw [funext hshown, Option.map_id']
  rw [field?_stated hooks hunshadowed, hmap]

/-- A flag that was made a value is read as the same flag. -/
theorem map_toBoolean_map_boolean (flag : Option Bool) :
    (flag.map Value.boolean).map Value.toBoolean = flag := by
  cases flag <;> rfl

/-- A descriptor on its way through a script object. -/
def trip (hooks : Hooks P) (d : Option Descriptor) : Action P Descriptor := do
  ofObject hooks (← toObject d)

/-- A descriptor comes back as it was. The only trace is the object. The six
fields are read one after the other, and each reading leaves the machine as it
is. -/
theorem trip_apply (hooks : Hooks P) (hunshadowed : Unshadowed m.realm)
    (hmixed : d.isMixed = false) (haccessors : d.AccessorsIn m.realm) :
    trip hooks (some d) m = .done d (d.shownIn m) := by
  -- A flag is shown as a boolean, and is read back as a truth value below.
  have henumerable : field? hooks ⟨m.realm.size⟩ "enumerable" (d.shownIn m)
      = .done (d.enumerable.map .boolean) (d.shownIn m) :=
    field?_stated hooks hunshadowed d .enumerable
  have hconfigurable : field? hooks ⟨m.realm.size⟩ "configurable" (d.shownIn m)
      = .done (d.configurable.map .boolean) (d.shownIn m) :=
    field?_stated hooks hunshadowed d .configurable
  have hvalue : field? hooks ⟨m.realm.size⟩ "value" (d.shownIn m)
      = .done d.value (d.shownIn m) :=
    field?_stated_value hooks hunshadowed d .value fun _ => rfl
  have hwritable : field? hooks ⟨m.realm.size⟩ "writable" (d.shownIn m)
      = .done (d.writable.map .boolean) (d.shownIn m) :=
    field?_stated hooks hunshadowed d .writable
  have hget : accessor? hooks ⟨m.realm.size⟩ "get" .getterNotCallable (d.shownIn m)
      = .done d.get (d.shownIn m) := by
    apply accessor?_of_field? hooks
      (field?_stated_value hooks hunshadowed d .get fun _ => rfl)
    exact fun accessor hgiven => haccessors.shownIn accessor (.inl hgiven)
  have hset : accessor? hooks ⟨m.realm.size⟩ "set" .setterNotCallable (d.shownIn m)
      = .done d.set (d.shownIn m) := by
    apply accessor?_of_field? hooks
      (field?_stated_value hooks hunshadowed d .set fun _ => rfl)
    exact fun accessor hgiven => haccessors.shownIn accessor (.inr hgiven)
  -- Now that each reading is known, the operation is followed step by step.
  rw [trip, Action.bind_apply, toObject_apply]
  simp only [ofObject]
  rw [Action.bind_apply, henumerable]
  simp only []
  rw [Action.bind_apply, hconfigurable]
  simp only []
  rw [Action.bind_apply, hvalue]
  simp only []
  rw [Action.bind_apply, hwritable]
  simp only []
  rw [Action.bind_apply, hget]
  simp only []
  rw [Action.bind_apply, hset]
  simp only [map_toBoolean_map_boolean, hmixed]
  rfl

end Descriptor

/-! ### Slots on the same way -/

namespace Slot

/-- A slot is what its complete description describes. -/
theorem ofDescriptor_toDescriptor (s : Slot) : ofDescriptor s.toDescriptor = s := by
  obtain ⟨content, enumerable, configurable⟩ := s
  cases content <;> rfl

/-- A slot is described as a value or as a pair of accessors, never as
both. -/
theorem isMixed_toDescriptor (s : Slot) : s.toDescriptor.isMixed = false := by
  obtain ⟨content, enumerable, configurable⟩ := s
  cases content <;> rfl

end Slot

namespace Object

variable {m : Machine P} {h : Handle} {key : PropertyKey} {d : Descriptor} {slot : Slot}

/-- A slot of an object takes its own description, and nothing changes. It
need not be configurable for that, since the description asks for nothing
new. -/
theorem define_toDescriptor_self (hnative : (m.realm.record h).kind.host? = none)
    (hslot : (m.realm.record h).slot? key.canonical = some slot) :
    define h key slot.toDescriptor m = .done true m :=
  define_of_fulfils slot.isMixed_toDescriptor hnative hslot fun _ _ hread => hread

/-- The description of a slot makes the same slot where there is none. It
gives all fields of its family, so that no default is taken. -/
theorem define_toDescriptor_of_absent (hnative : (m.realm.record h).kind.host? = none)
    (hextensible : (m.realm.record h).extensible = true)
    (habsent : (m.realm.record h).slot? key.canonical = none) (slot : Slot) :
    define h key slot.toDescriptor m
      = .done true { m with realm := m.realm.insertSlot h key.canonical slot } := by
  have hreconcile : reconcile true slot.toDescriptor none = .replace slot :=
    congrArg Reconciliation.replace slot.ofDescriptor_toDescriptor
  rw [define_of_native slot.isMixed_toDescriptor hnative, hextensible, habsent]
  simp only [Action.modifyGet, Realm.applyDescriptor, hreconcile]

end Object

open Descriptor (trip Unshadowed) in
/-- Descriptors survive the way through script objects, and slots the way
through descriptors. Let no object that new objects inherit from have a
property with the name of a field, and let the hooks be any.

- A descriptor that is not mixed, with accessors that are undefined or
  callable, comes back as it was, absent fields included. The objects that
  were there are not touched.
- A slot of an object that is not foreign, described, sent the same way and
  defined under a key that an extensible object lacks, is at the end of that
  object's table, and nothing else has changed. Defined under its own key
  again it is accepted, and nothing at all has changed. -/
theorem descriptor_trip (hooks : Hooks P) (m : Machine P) (hunshadowed : Unshadowed m.realm) :
    (∀ d : Descriptor, d.isMixed = false → d.AccessorsIn m.realm →
      ∃ k, trip hooks (some d) m = .done d k ∧
        ∀ h, h.index < m.realm.size → k.realm.record h = m.realm.record h) ∧
    ∀ h key slot, (m.realm.record h).kind.host? = none →
      (m.realm.record h).slot? key.canonical = some slot →
      slot.toDescriptor.AccessorsIn m.realm →
      ∃ k, trip hooks (Object.describe? m.realm h key) m = .done slot.toDescriptor k ∧
        (∀ target key', target.index < k.realm.size →
          (k.realm.record target).kind.host? = none →
          (k.realm.record target).extensible = true →
          (k.realm.record target).slot? key'.canonical = none →
          ∃ s slots, Object.define target key' slot.toDescriptor k
              = .done true { k with realm := s } ∧
            k.realm.Becomes target { k.realm.record target with slots } s ∧
            slots.entries = (k.realm.record target).slots.entries ++ [(key'.canonical, slot)]) ∧
        Object.define h key slot.toDescriptor k = .done true k := by
  constructor
  · intro d hmixed haccessors
    exact ⟨d.shownIn m, Descriptor.trip_apply hooks hunshadowed hmixed haccessors,
      fun h hlt => Descriptor.record_shownIn_of_lt hlt⟩
  · intro h key slot hnative hslot haccessors
    have htrip := Descriptor.trip_apply hooks hunshadowed slot.isMixed_toDescriptor haccessors
    have hdescribe : Object.describe? m.realm h key = some slot.toDescriptor := by
      rw [Object.describe?, hslot]
      rfl
    -- The object of the slot is one that was there, so the object of the trip is another.
    have hlt : h.index < m.realm.size := by
      apply Realm.lt_size_of_record_ne
      intro hdefault
      rw [hdefault] at hslot
      cases hslot
    have hrecord : (slot.toDescriptor.shownIn m).realm.record h = m.realm.record h :=
      Descriptor.record_shownIn_of_lt hlt
    refine ⟨slot.toDescriptor.shownIn m, by rw [hdescribe, htrip], ?elsewhere, ?again⟩
    case elsewhere =>
      intro target key' htarget hnative' hextensible habsent
      exact ⟨_, _, Object.define_toDescriptor_of_absent hnative' hextensible habsent slot,
        Realm.becomes_insertSlot htarget key'.canonical slot,
        OrderedMap.entries_insert_of_new habsent slot⟩
    case again =>
      apply Object.define_toDescriptor_self
      · rw [hrecord, hnative]
      · rw [hrecord, hslot]

/-- A realm with the prototype of all objects, an object that is frozen with
NaN in it, and an object without properties. -/
def nanRealm : Realm Platform.fixed where
  objects := #[.create .ordinary none,
    { kind := .ordinary
      slots := OrderedMap.empty.insert (.index 0) (.constant (.number .nan))
      prototype := some Intrinsic.objectPrototype
      scope := none
      extensible := false },
    .create .ordinary (some Intrinsic.objectPrototype)]
  config := {}
  nextSymbol := Symbol.firstFree

/-- A descriptor with half of its fields comes back. The frozen NaN can be
defined again where it is, and anew in the other object. -/
theorem descriptor_trip_nan :
    (∃ k, Descriptor.trip (Embedder.fixed.hooks 1 1)
        (some { get := some .undefined, enumerable := some true }) ⟨nanRealm, ()⟩
          = .done { get := some .undefined, enumerable := some true } k) ∧
      ∃ k s, Descriptor.trip (Embedder.fixed.hooks 1 1)
          (Object.describe? nanRealm ⟨1⟩ (.string "0")) ⟨nanRealm, ()⟩
            = .done (Slot.constant (.number .nan)).toDescriptor k ∧
        Object.define ⟨1⟩ (.string "0") (Slot.constant (.number .nan)).toDescriptor k
          = .done true k ∧
        Object.define ⟨2⟩ (.string "copy") (Slot.constant (.number .nan)).toDescriptor k
          = .done true { k with realm := s } := by
  obtain ⟨hdescriptor, hslot⟩ := descriptor_trip (Embedder.fixed.hooks 1 1) ⟨nanRealm, ()⟩
    (by decide)
  obtain ⟨k, htrip, helsewhere, hagain⟩ := hslot ⟨1⟩ (.string "0") (.constant (.number .nan)) rfl
    (by decide) (by simp [Descriptor.AccessorsIn, Slot.constant, Slot.toDescriptor])
  have hk : k = (Slot.constant (.number .nan)).toDescriptor.shownIn ⟨nanRealm, ()⟩ := by
    cases htrip
    rfl
  obtain ⟨s, -, hdefine, -⟩ :=
    helsewhere ⟨2⟩ (.string "copy") (by rw [hk]; decide) (by rw [hk]; rfl)
    (by rw [hk]; rfl) (by rw [hk]; decide)
  obtain ⟨k', hback, -⟩ := hdescriptor { get := some .undefined, enumerable := some true } rfl
    (by simp [Descriptor.AccessorsIn])
  exact ⟨⟨k', hback⟩, k, s, htrip, hagain, hdefine⟩

end ScriptRealm
