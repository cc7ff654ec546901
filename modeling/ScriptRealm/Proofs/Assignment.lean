import ScriptRealm.Proofs.Integrity
import ScriptRealm.Proofs.KeyNames
import ScriptRealm.Proofs.Lookup

/-!
# `ScriptRealm.Proofs.Assignment`: what assigning to a property comes to

Assignment looks for the owner of a key along the prototypes of an object
and then does one of five things. It refuses, it runs a setter, it hands
the write to a foreign owner, it overwrites a value of the object itself,
or it gives the object a new property. `Object.Assigns` says which of them,
from the owner and what the owner holds under the key, for owners that are
not foreign. It says what becomes of the machine in full: a refusal leaves
it as it was, a setter's call is all that happens to it, and a write
changes one entry of one table.

The owner is told by `Realm.Walk`, which follows prototypes to the end, and
not by the bounded search of `Realm.owner?`. The two agree
(`Realm.Walk.owner?_eq_find?`).

`assign_assigns` is the result for `Object.assign`. A write can be read
back at once, whatever hooks there are to run code with: the object has
become the owner of the key (`Object.get_of_data`).
-/

set_option autoImplicit false

namespace ScriptRealm

variable {P : Platform}

namespace Realm

variable {r : Realm P} {h o w : Handle} {key : PropertyKey} {l : List Handle}

/-- One object has become another record, and nothing else has changed. -/
structure Becomes (r : Realm P) (h : Handle) (record : ObjectRecord P) (s : Realm P) : Prop where
  self : s.record h = record
  others : ∀ h', h' ≠ h → s.record h' = r.record h'
  size : s.size = r.size
  config : s.config = r.config
  nextSymbol : s.nextSymbol = r.nextSymbol

/-- Writing a slot into the table of an object changes that object and nothing
else. -/
theorem becomes_insertSlot (hlt : h.index < r.size) (key : PropertyKey) (slot : Slot) :
    r.Becomes h { r.record h with slots := (r.record h).slots.insert key slot }
      (r.insertSlot h key slot) where
  self := record_update_self hlt _
  others _ hne := record_update_of_ne hne _
  size := size_update r h _
  config := rfl
  nextSymbol := rfl

/-- A walk begins with its first object. -/
theorem Walk.head (hwalk : r.Walk o l) : ∃ rest, l = o :: rest := by
  cases hwalk with
  | last hnone => exact ⟨[], rfl⟩
  | step hsome hwalk => exact ⟨_, rfl⟩

/-- Only the object itself can hold a key that no object before the owner has.
It is the first on its walk, so if it had the key it would be the owner. -/
theorem slot?_of_owner_ne (hwalk : r.Walk o l) (hnative : (r.record o).kind.host? = none)
    (hother : l.find? (r.hasOwn · key) ≠ some o) : (r.record o).slot? key = none := by
  obtain ⟨rest, rfl⟩ := hwalk.head
  have hnot : ¬ r.hasOwn o key = true := by
    intro hown
    exact hother (List.find?_cons_of_pos (by simpa using hown))
  rw [hasOwn_of_native hnative] at hnot
  simpa using hnot

end Realm

namespace Object

/-- What a refused assignment comes to: a fault if the caller or the realm
is strict, and no otherwise. -/
def refusal (m : Machine P) (key : PropertyKey) (reason : WriteRefusal) (strict : Bool) :
    Outcome P Bool :=
  if strict || m.realm.config.strict then .failed (.type (.cannotAssign reason key)) m
  else .done false m

/-- A refused assignment comes to what `refusal` says. -/
theorem refuse_apply (m : Machine P) (key : PropertyKey) (reason : WriteRefusal) (strict : Bool) :
    refuse key reason strict m = refusal m key reason strict := by
  unfold refuse refusal
  rw [Action.bind_apply]
  simp only [Action.realm]
  split <;> rfl

/-- The object itself would have to get the property: no object has it, or
another one has it and would let the value be overwritten. -/
def NeedsNew (r : Realm P) (o : Handle) (key : PropertyKey) (owner? : Option Handle) : Prop :=
  owner? = none ∨ ∃ w old, owner? = some w ∧ w ≠ o ∧ r.content? w key = some (.data old true)

/-- A value was written: the object has the given entries instead of its
own, nothing else has changed, and the value is read back. -/
def Written (m : Machine P) (o : Handle) (key : PropertyKey) (value : Value)
    (entries : List (PropertyKey × Slot)) (result : Outcome P Bool) : Prop :=
  ∃ s slots, result = .done true { m with realm := s } ∧
    m.realm.Becomes o { m.realm.record o with slots } s ∧ slots.entries = entries ∧
    ∀ hooks : Hooks P, get hooks o key { m with realm := s } = .done value { m with realm := s }

/-- What assigning to a property of an object comes to, if `owner?` is the
first object on its walk that has the key. -/
structure Assigns (hooks : Hooks P) (m : Machine P) (o : Handle) (key : PropertyKey)
    (value : Value) (strict : Bool) (owner? : Option Handle) (result : Outcome P Bool) : Prop where
  /-- An owner holds something under the key, so one of the cases applies. -/
  held : ∀ w, owner? = some w → ∃ content, m.realm.content? w key = some content
  /-- A value that cannot be written is not written, wherever it is. -/
  readOnly : ∀ w old, owner? = some w → m.realm.content? w key = some (.data old false) →
    result = refusal m key .readOnly strict
  /-- An accessor without a setter takes no value. -/
  getterOnly : ∀ w get, owner? = some w →
    m.realm.content? w key = some (.accessor get .undefined) →
    result = refusal m key .getterOnly strict
  /-- An object that is not extensible gets no new property. -/
  nonExtensible : NeedsNew m.realm o key owner? → (m.realm.record o).extensible = false →
    result = refusal m key .nonExtensible strict
  /-- A setter is called once on the object with the value, and its fault is
  the only one. -/
  setter : ∀ w get setter, owner? = some w →
    m.realm.content? w key = some (.accessor get setter) → setter ≠ .undefined →
    result = match hooks.call setter (.object o) [value] m with
      | .done _ m' => .done true m'
      | .failed fault m' => .failed fault m'
      | .exhausted => .exhausted
  /-- A value of the object itself is overwritten in its place. -/
  overwritten : ∀ old, owner? = some o → m.realm.content? o key = some (.data old true) →
    Written m o key value
      ((m.realm.record o).slots.entries.map fun entry => (entry.1,
        if entry.1 = key then { entry.2 with content := .data value true } else entry.2)) result
  /-- A new property goes to the end of the object's table, with every flag
  set. -/
  added : NeedsNew m.realm o key owner? → (m.realm.record o).extensible = true →
    Written m o key value ((m.realm.record o).slots.entries ++ [(key, .plain value)]) result

variable {m : Machine P} {o : Handle} {key : PropertyKey} {value : Value} {slot : Slot}

/-- What was written under a key of an object that is not foreign can be
read back. -/
theorem written_insertSlot (ho : o.index < m.realm.size)
    (hnative : (m.realm.record o).kind.host? = none) (hcontent : slot.content = .data value true)
    {entries : List (PropertyKey × Slot)}
    (hentries : ((m.realm.record o).slots.insert key slot).entries = entries) :
    Written m o key value entries
      (.done true { m with realm := m.realm.insertSlot o key slot }) := by
  have hbecomes := Realm.becomes_insertSlot ho key slot
  have hkind : ((m.realm.insertSlot o key slot).record o).kind.host? = none := by
    rw [hbecomes.self]
    exact hnative
  have hslot : ((m.realm.insertSlot o key slot).record o).slot? key = some slot := by
    rw [hbecomes.self, ObjectRecord.slot?, OrderedMap.get?_insert, if_pos rfl]
  exact ⟨_, _, rfl, hbecomes, hentries, fun hooks =>
    get_of_data (m := { m with realm := m.realm.insertSlot o key slot }) hooks hkind hslot
      hcontent⟩

/-- An owner that is not foreign decides by what it holds under the key. The
object itself matters only for a value that may be written: if it is not the
owner, it gets a property of its own. -/
theorem assign_of_slot (hooks : Hooks P) (strict : Bool) {w : Handle}
    (howner : m.realm.owner? o key.canonical = some w)
    (hnative : (m.realm.record w).kind.host? = none)
    (hslot : (m.realm.record w).slot? key.canonical = some slot) :
    assign hooks o key value strict m = (match slot.content with
      | .data _ false => refuse key.canonical .readOnly strict
      | .data _ true =>
          if w = o then do
            overwrite o key.canonical slot value
            return true
          else do
            if ← put hooks o key.canonical value then return true
            else refuse key.canonical .nonExtensible strict
      | .accessor _ .undefined => refuse key.canonical .getterOnly strict
      | .accessor _ setter => do
          let _ ← hooks.call setter (.object o) [value]
          return true) m := by
  unfold assign
  rw [Action.bind_apply]
  obtain ⟨content, enumerable, configurable⟩ := slot
  -- Both flags and the missing setter are read off the slot.
  cases content with
  | data old writable =>
      cases writable <;> simp only [Action.realm, howner, Option.getD_some, hnative, hslot]
  | accessor get set =>
      cases set <;> simp only [Action.realm, howner, Option.getD_some, hnative, hslot]

/-- An object that is not extensible refuses a new property. This is an answer
and not a fault, and nothing has changed. -/
theorem put_of_nonExtensible (hooks : Hooks P) (hnative : (m.realm.record o).kind.host? = none)
    (hslot : (m.realm.record o).slot? key = none)
    (hextensible : (m.realm.record o).extensible = false) (value : Value) :
    put hooks o key value m = .done false m := by
  unfold put
  rw [Action.bind_apply]
  simp only [Action.record, hnative, hslot, hextensible]
  rfl

/-- Where the object itself needs the property, its extensibility decides.
That nothing has the key and that another object has a writable value under it
are two branches of the program with one outcome. -/
theorem assign_of_needsNew (hooks : Hooks P) (strict : Bool)
    (hneeds : NeedsNew m.realm o key.canonical (m.realm.owner? o key.canonical))
    (howner : ∀ w, m.realm.owner? o key.canonical = some w →
      (m.realm.record w).kind.host? = none)
    (hnative : (m.realm.record o).kind.host? = none)
    (hnew : (m.realm.record o).slot? key.canonical = none) :
    assign hooks o key value strict m = if (m.realm.record o).extensible
      then .done true { m with realm := m.realm.insertSlot o key.canonical (.plain value) }
      else refusal m key.canonical .nonExtensible strict := by
  rcases hneeds with hnone | ⟨w, old, hw, hne, hcontent⟩
  · -- No object has the key, and the write goes to the object at once.
    unfold assign
    rw [Action.bind_apply]
    simp only [Action.realm, hnone, Option.getD_none, hnative, hnew]
    split
    · rfl
    · exact refuse_apply m key.canonical .nonExtensible strict
  · -- Another object has it, which leaves the write to `put`.
    obtain ⟨slot, hslot, hcontent⟩ := Option.map_eq_some_iff.mp hcontent
    rw [assign_of_slot hooks strict hw (howner w hw) hslot]
    simp only [hcontent, hne, if_false]
    rw [Action.bind_apply]
    cases hextensible : (m.realm.record o).extensible with
    | true =>
        rw [put_of_new hooks hnative hnew hextensible]
        rfl
    | false =>
        rw [put_of_nonExtensible hooks hnative hnew hextensible]
        exact refuse_apply m key.canonical .nonExtensible strict

end Object

open Object

/-- Assigning to a property of an object that is not foreign does what
`Assigns` says, if following the object's prototypes comes to an end and
the owner it leads to is not foreign either. -/
theorem assign_assigns (hooks : Hooks P) (m : Machine P) (o : Handle) (key : PropertyKey)
    (value : Value) (strict : Bool) (ho : o.index < m.realm.size)
    (hnative : (m.realm.record o).kind.host? = none) (l : List Handle)
    (hwalk : m.realm.Walk o l)
    (howner : ∀ w, l.find? (m.realm.hasOwn · key.canonical) = some w →
      (m.realm.record w).kind.host? = none) :
    Assigns hooks m o key.canonical value strict (l.find? (m.realm.hasOwn · key.canonical))
      (assign hooks o key value strict m) := by
  have hnew : l.find? (m.realm.hasOwn · key.canonical) ≠ some o →
      (m.realm.record o).slot? key.canonical = none :=
    Realm.slot?_of_owner_ne hwalk hnative
  rw [← hwalk.owner?_eq_find? key.canonical] at howner hnew ⊢
  -- What an owner holds is in a slot, and the assignment decides by that.
  have hslot : ∀ {w content}, m.realm.content? w key.canonical = some content →
      ∃ slot, (m.realm.record w).slot? key.canonical = some slot ∧ slot.content = content :=
    fun hcontent => Option.map_eq_some_iff.mp hcontent
  -- An object that needs the property has none of its own.
  have hneeds : NeedsNew m.realm o key.canonical (m.realm.owner? o key.canonical) →
      (m.realm.record o).slot? key.canonical = none := by
    intro hneeds
    apply hnew
    rcases hneeds with hnone | ⟨w, old, hw, hne, -⟩
    · simp [hnone]
    · simp [hw, hne]
  constructor
  case held =>
    intro w hw
    have hown := Realm.hasOwn_of_owner? hw
    rw [Realm.hasOwn_of_native (howner w hw)] at hown
    obtain ⟨slot, hslot⟩ := Option.isSome_iff_exists.mp hown
    exact ⟨slot.content, congrArg (Option.map Slot.content) hslot⟩
  case readOnly =>
    intro w old hw hcontent
    obtain ⟨slot, hslot, hcontent⟩ := hslot hcontent
    rw [assign_of_slot hooks strict hw (howner w hw) hslot]
    simp only [hcontent]
    exact refuse_apply m key.canonical .readOnly strict
  case getterOnly =>
    intro w get hw hcontent
    obtain ⟨slot, hslot, hcontent⟩ := hslot hcontent
    rw [assign_of_slot hooks strict hw (howner w hw) hslot]
    simp only [hcontent]
    exact refuse_apply m key.canonical .getterOnly strict
  case setter =>
    intro w get setter hw hcontent hsetter
    obtain ⟨slot, hslot, hcontent⟩ := hslot hcontent
    rw [assign_of_slot hooks strict hw (howner w hw) hslot]
    simp only [hcontent]
    rw [Action.bind_apply]
    cases hooks.call setter (.object o) [value] m <;> rfl
  case overwritten =>
    intro old hw hcontent
    obtain ⟨slot, hslot, hcontent⟩ := hslot hcontent
    rw [assign_of_slot hooks strict hw hnative hslot]
    simp only [hcontent, if_true]
    have hcontains : (m.realm.record o).slots.contains key.canonical = true := by
      rw [OrderedMap.contains_eq_isSome]
      exact Option.isSome_iff_exists.mpr ⟨slot, hslot⟩
    refine written_insertSlot ho hnative rfl ?_
    rw [OrderedMap.entries_insert_of_contains hcontains]
    -- The entry of the key is the slot that was found.
    apply List.map_congr_left
    rintro ⟨key', slot'⟩ hentry
    by_cases hkey : key' = key.canonical
    · subst hkey
      have hsame : some slot' = some slot := (OrderedMap.get?_eq_of_mem hentry).symm.trans hslot
      cases hsame
      rfl
    · simp [hkey]
  case nonExtensible =>
    intro hneedsNew hextensible
    rw [assign_of_needsNew hooks strict hneedsNew howner hnative (hneeds hneedsNew), hextensible]
    rfl
  case added =>
    intro hneedsNew hextensible
    rw [assign_of_needsNew hooks strict hneedsNew howner hnative (hneeds hneedsNew), hextensible]
    exact written_insertSlot ho hnative rfl
      (OrderedMap.entries_insert_of_new (hneeds hneedsNew) (.plain value))

/-- A realm with an object that inherits from another one, which holds a
value that can be written and one that cannot. -/
def inheritingRealm : Realm Platform.fixed where
  objects := #[((.create .ordinary none : ObjectRecord Platform.fixed).insert (.index 1)
      (.plain .undefined)).insert (.index 2) ⟨.data .undefined false, true, true⟩,
    .create .ordinary (some ⟨0⟩)]
  config := {}
  nextSymbol := Symbol.firstFree

/-- The first value is shadowed by a new property of the heir. The second
one cannot even be shadowed. -/
theorem assign_assigns_shadowing :
    Written ⟨inheritingRealm, ()⟩ ⟨1⟩ (.index 1) .null [(.index 1, .plain .null)]
        (assign (Embedder.fixed.hooks 0 0) ⟨1⟩ (.index 1) .null false ⟨inheritingRealm, ()⟩) ∧
      assign (Embedder.fixed.hooks 0 0) ⟨1⟩ (.index 2) .null true ⟨inheritingRealm, ()⟩
        = .failed (.type (.cannotAssign .readOnly (.index 2))) ⟨inheritingRealm, ()⟩ := by
  have hassigns (key : PropertyKey) (strict : Bool) :=
    assign_assigns (Embedder.fixed.hooks 0 0) ⟨inheritingRealm, ()⟩ ⟨1⟩ key .null strict
      (by decide) rfl [⟨1⟩, ⟨0⟩] (.step rfl (.last rfl))
  have hnative : ∀ {l : List Handle} {p : Handle → Bool} (w : Handle), l.find? p = some w →
      (inheritingRealm.record w).kind.host? = none := by
    intro l p w _
    obtain ⟨index⟩ := w
    match index with
    | 0 | 1 => rfl
    | n + 2 => rfl
  constructor
  · exact (hassigns (.index 1) false hnative).added
      (.inr ⟨⟨0⟩, .undefined, rfl, by decide, rfl⟩) rfl
  · exact (hassigns (.index 2) true hnative).readOnly ⟨0⟩ .undefined rfl rfl

end ScriptRealm
