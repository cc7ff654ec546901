import ScriptRealm.Proofs.Locks

/-!
# `ScriptRealm.Proofs.Integrity`: sealing and freezing

`Integrity.set` walks the keys an object had when it was called and locks
the slot under each, by a descriptor that depends on the slot. The order
of the walk is the enumeration order, which the configuration can change.
None of this shows in the result. `Integrity.set_eq` says that the object
is left as `ObjectRecord.locked` has it, every slot in its place, and that
nothing else in the realm is touched.

`Integrity.test_iff` reads the test of a level as a statement about the
table. A table that passes the test for `frozen` admits no other slot than
the one that is there, and has no slot that may be removed, so every
checked change leaves the whole table alone (`Realm.keepsFrozen_blind`).
That is more than the locks of `ScriptRealm.Proofs.Locks` give, which do
not fix the order of the entries.
-/

set_option autoImplicit false

namespace ScriptRealm

namespace OrderedMap

variable {κ ν : Type}

/-- Replacing values twice is replacing them once. -/
theorem mapValues_mapValues (f g : κ → ν → ν) (m : OrderedMap κ ν) :
    (m.mapValues f).mapValues g = m.mapValues fun key value => g key (f key value) := by
  ext1
  simp [mapValues]

/-- Of a replacement only what it makes of the entries counts. -/
theorem mapValues_congr {f g : κ → ν → ν} {m : OrderedMap κ ν}
    (hfg : ∀ key value, (key, value) ∈ m.entries → f key value = g key value) :
    m.mapValues f = m.mapValues g := by
  ext1
  refine List.map_congr_left ?_
  rintro ⟨key, value⟩ hentry
  exact congrArg (Prod.mk key) (hfg key value hentry)

/-- Replacing every value by itself changes nothing. -/
theorem mapValues_id (m : OrderedMap κ ν) : (m.mapValues fun _ value => value) = m := by
  ext1
  simp [mapValues]

variable [DecidableEq κ]

/-- Writing the value that is there changes nothing. A key that is there keeps
its place, and its value is replaced by itself. -/
theorem insert_of_get? {m : OrderedMap κ ν} {key : κ} {value : ν}
    (hvalue : m.get? key = some value) : m.insert key value = m := by
  have hkey : m.contains key = true := by rw [contains_eq_isSome, hvalue]; rfl
  rw [insert_of_contains hkey]
  refine (mapValues_congr fun key' old hentry => ?_).trans m.mapValues_id
  split
  · rename_i heq
    subst heq
    rw [get?_eq_of_mem hentry] at hvalue
    cases hvalue
    rfl
  · rfl

/-- Removing what is not there changes nothing. No entry has the key, so the
filter keeps all of them. -/
theorem erase_of_get?_eq_none {m : OrderedMap κ ν} {key : κ} (hnone : m.get? key = none) :
    m.erase key = m := by
  ext1
  refine List.filter_eq_self.mpr ?_
  rintro ⟨key', value⟩ hentry
  have hne : key' ≠ key := by
    rintro rfl
    rw [get?_eq_of_mem hentry] at hnone
    cases hnone
  simpa using hne

end OrderedMap

/-! ### Locked slots -/

/-- A content as a level locks it: freezing takes the right to write. -/
def Content.locked (level : Integrity) : Content → Content
  | .data value writable => .data value (if level = .frozen then false else writable)
  | .accessor get set => .accessor get set

/-- A slot as a level locks it. -/
def Slot.locked (level : Integrity) (s : Slot) : Slot :=
  { s with content := s.content.locked level, configurable := false }

/-- An object as a level locks it: the same keys in the same order, with
every slot locked. -/
def ObjectRecord.locked {P : Platform} (level : Integrity) (record : ObjectRecord P) :
    ObjectRecord P :=
  { record with
    slots := record.slots.mapValues fun _ slot => slot.locked level
    extensible := false }

namespace Slot

/-- A slot is not locked any further by locking it again. -/
theorem locked_locked (level : Integrity) (s : Slot) :
    (s.locked level).locked level = s.locked level := by
  obtain ⟨content, enumerable, configurable⟩ := s
  cases content <;> cases level <;> rfl

/-- A locked slot passes the test of its level. -/
theorem admits_locked (level : Integrity) (s : Slot) : level.admits (s.locked level) = true := by
  obtain ⟨content, enumerable, configurable⟩ := s
  cases content <;> cases level <;> simp [Integrity.admits, locked, Content.locked, isWritable]

/-- What a level asks of a slot is never refused. It is the locked slot that
takes its place; a slot that is locked already is kept. -/
theorem reconcile_demand (level : Integrity) (s : Slot) :
    reconcile false (level.demand s) (some s) = .replace (s.locked level) ∨
      reconcile false (level.demand s) (some s) = .keep ∧ s.locked level = s := by
  obtain ⟨content, enumerable, configurable⟩ := s
  cases content with
  | data value writable =>
      cases level with
      | sealed => cases configurable <;> exact .inl rfl
      | frozen =>
          -- A slot that is not configurable can still lose the right to write, but not get it.
          cases configurable with
          | true => exact .inl rfl
          | false =>
              cases writable with
              | true => exact .inl rfl
              | false => exact .inr ⟨rfl, rfl⟩
  | accessor get set => cases level <;> cases configurable <;> exact .inl rfl

end Slot

namespace Realm

variable {P : Platform}

/-- What a level asks of a slot leaves the locked slot. Where the slot is
locked already, it is kept, and writing it anew would come to the same. -/
theorem applyDescriptor_demand {r : Realm P} {h : Handle} {key : PropertyKey} {slot : Slot}
    (hslot : (r.record h).slot? key = some slot) (level : Integrity) :
    r.applyDescriptor h key false (level.demand slot) (some slot)
      = (true, r.insertSlot h key (slot.locked level)) := by
  unfold applyDescriptor
  obtain hreplace | ⟨hkeep, hsame⟩ := slot.reconcile_demand level
  · rw [hreplace]
  · rw [hkeep, hsame]
    have hinsert : (r.record h).insert key slot = r.record h := by
      rw [ObjectRecord.insert, OrderedMap.insert_of_get? hslot]
    rw [insertSlot, update_eq_self hinsert]

end Realm

namespace ObjectRecord

variable {P : Platform}

/-- Whatever the order of enumeration, the keys are those of the table. The
walks that lock and test ask for the hidden keys and the symbols as well. -/
theorem mem_orderedKeys (record : ObjectRecord P) (indicesFirst : Bool) (key : PropertyKey) :
    key ∈ record.orderedKeys true true indicesFirst ↔ key ∈ record.slots.keys := by
  rw [mem_orderedKeys_iff, ← OrderedMap.contains_iff, OrderedMap.contains_eq_isSome,
    Option.isSome_iff_exists]
  simp [slot?]

end ObjectRecord

namespace Integrity

variable {P : Platform}

/-- The walk over the keys of an object locks the slots under them. By
induction on the keys, for every realm in which the object has them. A key may
come up more than once, and its slot is locked again then. -/
theorem lockKeys_eq (level : Integrity) (h : Handle) (keys : List PropertyKey) :
    ∀ r : Realm P, h.index < r.size → (∀ key ∈ keys, (r.record h).slots.contains key = true) →
      level.lockKeys h keys r = (true, r.update h fun record =>
        { record with
          slots := record.slots.mapValues fun key slot =>
            if key ∈ keys then slot.locked level else slot }) := by
  induction keys with
  | nil =>
      intro r _ _
      rw [lockKeys, Realm.update_eq_self]
      simp only [List.not_mem_nil, if_false, OrderedMap.mapValues_id]
  | cons key rest ih =>
      intro r hlt hkeys
      have hkey := hkeys key List.mem_cons_self
      obtain ⟨slot, hslot⟩ : ∃ slot, (r.record h).slot? key = some slot := by
        rw [OrderedMap.contains_eq_isSome] at hkey
        exact Option.isSome_iff_exists.mp hkey
      have hinsert : (r.record h).insert key (slot.locked level) =
          { r.record h with
            slots := (r.record h).slots.mapValues fun key' old =>
              if key' = key then slot.locked level else old } := by
        rw [ObjectRecord.insert, OrderedMap.insert_of_contains hkey]
      have hstep : level.lockKeys h (key :: rest) r =
          level.lockKeys h rest (r.insertSlot h key (slot.locked level)) := by
        simp only [lockKeys, hslot, Realm.applyDescriptor_demand hslot level]
      rw [hstep, ih]
      · -- Both sides change the one object, so their tables are compared entry by entry.
        rw [Realm.insertSlot, Realm.update_update]
        refine congrArg (Prod.mk true) (Realm.update_congr ?_)
        rw [hinsert]
        simp only [OrderedMap.mapValues_mapValues]
        refine congrArg (fun slots => { r.record h with slots }) (OrderedMap.mapValues_congr ?_)
        intro key' old hentry
        by_cases hkey' : key' = key
        · subst hkey'
          have hold : old = slot := by
            rw [ObjectRecord.slot?, OrderedMap.get?_eq_of_mem hentry] at hslot
            exact Option.some.inj hslot
          simp [hold, Slot.locked_locked]
        · simp [hkey']
      · rw [Realm.insertSlot, Realm.size_update]
        exact hlt
      · intro key' hkey'
        rw [Realm.insertSlot, Realm.record_update_self hlt, hinsert,
          OrderedMap.contains_eq_isSome, OrderedMap.get?_mapValues, Option.isSome_map,
          ← OrderedMap.contains_eq_isSome]
        exact hkeys key' (List.mem_cons_of_mem key hkey')

/-- Locking an object always succeeds. It locks every slot in its place and
touches nothing else. -/
theorem set_eq {r : Realm P} {h : Handle} (hlt : h.index < r.size)
    (hnative : (r.record h).kind.host? = none) (level : Integrity) :
    level.set r h = (true, r.update h (·.locked level)) := by
  have hrecord : (r.preventExtensions h).record h = { r.record h with extensible := false } := by
    rw [Realm.preventExtensions, Realm.record_update_self hlt]
  -- The keys are listed after extensibility has ended, which does not change the table.
  have hkeys : ∀ key, key ∈ (r.preventExtensions h).ownKeys h true true ↔
      key ∈ (r.record h).slots.keys := by
    intro key
    simp only [Realm.ownKeys, hrecord, hnative]
    exact ObjectRecord.mem_orderedKeys _ _ key
  have hwalk := level.lockKeys_eq h ((r.preventExtensions h).ownKeys h true true)
    (r.preventExtensions h) (by rw [Realm.preventExtensions, Realm.size_update]; exact hlt)
    (by
      intro key hkey
      rw [hrecord]
      exact OrderedMap.contains_iff.mpr ((hkeys key).mp hkey))
  rw [set, hwalk, Realm.preventExtensions, Realm.update_update]
  refine congrArg (Prod.mk true) (Realm.update_congr ?_)
  simp only [ObjectRecord.locked]
  refine congrArg (fun slots => { r.record h with slots, extensible := false })
    (OrderedMap.mapValues_congr ?_)
  -- Every entry of the table is under one of the listed keys, so none is left out.
  intro key slot hentry
  exact if_pos ((hkeys key).mpr (List.mem_map.mpr ⟨_, hentry, rfl⟩))

/-- What the test of a level says about an object that is not foreign. It goes
through the keys, but the order does not count, so it is about all the
slots. -/
theorem test_iff {r : Realm P} {h : Handle} (hnative : (r.record h).kind.host? = none)
    (level : Integrity) :
    level.test r h = true ↔ (r.record h).extensible = false ∧
      ∀ key slot, (r.record h).slot? key = some slot → level.admits slot = true := by
  simp only [test, Realm.ownKeys, hnative, Bool.and_eq_true, Bool.not_eq_true', List.all_eq_true,
    ObjectRecord.mem_orderedKeys, ← OrderedMap.contains_iff, OrderedMap.contains_eq_isSome]
  refine and_congr_right fun _ => forall_congr' fun key => ?_
  cases hslot : (r.record h).slot? key with
  | none =>
      rw [ObjectRecord.slot?] at hslot
      simp [hslot]
  | some slot =>
      rw [ObjectRecord.slot?] at hslot
      simp [hslot]

/-- A locked object passes the test of its level. Every slot of it is one that
was locked, and no slot can be added. -/
theorem test_locked {r : Realm P} {h : Handle} (hlt : h.index < r.size)
    (hnative : (r.record h).kind.host? = none) (level : Integrity) :
    level.test (r.update h (·.locked level)) h = true := by
  have hrecord := Realm.record_update_self hlt (·.locked level)
  refine (test_iff (by rw [hrecord]; exact hnative) level).mpr ?_
  rw [hrecord]
  refine ⟨rfl, fun key slot hslot => ?_⟩
  rw [ObjectRecord.slot?, ObjectRecord.locked, OrderedMap.get?_mapValues] at hslot
  obtain ⟨old, _, rfl⟩ := Option.map_eq_some_iff.mp hslot
  exact old.admits_locked level

/-- What freezing asks of a slot. -/
theorem admits_frozen_iff (slot : Slot) :
    Integrity.frozen.admits slot = true ↔ slot.configurable = false ∧ slot.isWritable = false := by
  simp [admits]

end Integrity

/-! ### Frozen objects -/

/-- An object whose table can no longer change. -/
structure ObjectRecord.IsFrozen {P : Platform} (record : ObjectRecord P) : Prop where
  native : record.kind.host? = none
  extensible : record.extensible = false
  slots : ∀ key slot, record.slot? key = some slot →
    slot.configurable = false ∧ slot.isWritable = false

/-- What a frozen object is later on. -/
structure ObjectRecord.StaysFrozen {P : Platform} (old new : ObjectRecord P) : Prop where
  frozen : new.IsFrozen
  slots : new.slots = old.slots
  prototype : new.prototype = old.prototype

/-- Every object that is frozen stays frozen, with the same table and the
same prototype. -/
structure Realm.KeepsFrozen {P : Platform} (r s : Realm P) : Prop where
  size : r.size ≤ s.size
  objects : ∀ h : Handle, h.index < r.size → (r.record h).IsFrozen →
    (r.record h).StaysFrozen (s.record h)

/-- A property that is neither configurable nor writable can become nothing
but itself. Its attributes are fixed because it is not configurable, and its
value because it is not writable either. -/
theorem Slot.Keeps.eq_of_not_isWritable {old new : Slot} (hkeeps : old.Keeps new)
    (hlocked : old.configurable = false) (hreadonly : old.isWritable = false) : new = old := by
  obtain ⟨hconfigurable, henumerable, hcontent⟩ := hkeeps
  obtain ⟨content, enumerable, configurable⟩ := old
  obtain ⟨content', enumerable', configurable'⟩ := new
  have hsame : content' = content := by
    cases content with
    | data value writable =>
        cases content' with
        | accessor get set => exact hcontent.elim
        | data value' writable' =>
            obtain ⟨hwritable', hvalue⟩ := hcontent hreadonly
            exact congr (congrArg Content.data hvalue) (hwritable'.trans hreadonly.symm)
    | accessor get set =>
        cases content' with
        | data value writable => exact hcontent.elim
        | accessor get' set' => exact congr (congrArg Content.accessor hcontent.1) hcontent.2
  rw [hsame]
  exact congr (congrArg (Slot.mk content) henumerable) (hconfigurable.trans hlocked.symm)

namespace ObjectRecord.IsFrozen

variable {P : Platform} {record : ObjectRecord P}

/-- A slot that a frozen object admits is the one it has. A new key is not
admitted, since the object is not extensible. -/
theorem insert_eq (hfrozen : record.IsFrozen) {key : PropertyKey} {slot : Slot}
    (hadmits : record.Admits key slot) : record.insert key slot = record := by
  cases hold : record.slot? key with
  | none =>
      have hext := hadmits.new hold
      rw [hfrozen.extensible] at hext
      cases hext
  | some old =>
      obtain ⟨hlocked, hreadonly⟩ := hfrozen.slots key old hold
      have hslot : slot = old :=
        (hadmits.old old hold hlocked).eq_of_not_isWritable hlocked hreadonly
      rw [hslot, insert, OrderedMap.insert_of_get? hold]

/-- A frozen object has nothing that may be removed, so that a removal which
is allowed finds nothing under the key. -/
theorem erase_eq (hfrozen : record.IsFrozen) {key : PropertyKey}
    (hopen : ∀ slot, record.slot? key = some slot → slot.configurable = true) :
    record.erase key = record := by
  cases hold : record.slot? key with
  | none => rw [erase, OrderedMap.erase_of_get?_eq_none hold]
  | some old =>
      have hconfigurable := hopen old hold
      rw [(hfrozen.slots key old hold).1] at hconfigurable
      cases hconfigurable

end ObjectRecord.IsFrozen

/-- A change that leaves the table and the prototype alone keeps an object
frozen. -/
theorem ObjectRecord.StaysFrozen.of_eq {P : Platform} {old new : ObjectRecord P}
    (hnative : old.kind.host? = none → new.kind.host? = none) (hslots : new.slots = old.slots)
    (hprototype : new.prototype = old.prototype)
    (hextensible : old.extensible = false → new.extensible = false) (hfrozen : old.IsFrozen) :
    old.StaysFrozen new where
  frozen :=
    { native := hnative hfrozen.native
      extensible := hextensible hfrozen.extensible
      slots := by
        simp only [slot?, hslots]
        exact hfrozen.slots }
  slots := hslots
  prototype := hprototype

namespace Realm

variable {P : Platform}

/-- A realm keeps what is frozen in it. -/
theorem KeepsFrozen.refl (r : Realm P) : r.KeepsFrozen r :=
  ⟨Nat.le_refl _, fun _ _ => .of_eq id rfl rfl id⟩

/-- What is frozen is kept twice: it is frozen in the second realm, so it is
kept there too. -/
theorem KeepsFrozen.trans {r s t : Realm P} (hrs : r.KeepsFrozen s) (hst : s.KeepsFrozen t) :
    r.KeepsFrozen t where
  size := Nat.le_trans hrs.size hst.size
  objects h hlt hfrozen := by
    have hs := hrs.objects h hlt hfrozen
    have ht := hst.objects h (Nat.lt_of_lt_of_le hlt hrs.size) hs.frozen
    exact ⟨ht.frozen, ht.slots.trans hs.slots, ht.prototype.trans hs.prototype⟩

/-- Frozen objects are kept if the one object that is changed is kept. It need
not be kept if it is not frozen. -/
theorem KeepsFrozen.update {r : Realm P} {h : Handle} {f : ObjectRecord P → ObjectRecord P}
    (hf : (r.record h).IsFrozen → (r.record h).StaysFrozen (f (r.record h))) :
    r.KeepsFrozen (r.update h f) where
  size := Nat.le_of_eq (size_update r h f).symm
  objects h' _ :=
    forall_record_update
      (p := fun h' record => (r.record h').IsFrozen → (r.record h').StaysFrozen record)
      (fun _ => .of_eq id rfl rfl id) (fun _ => hf) h'

/-- A checked change keeps what is frozen. Those that are about a frozen
object come to nothing, as the checks that they pass say, or do not touch its
table. -/
theorem Change.keepsFrozen {r s : Realm P} (hchange : Change False r s) : r.KeepsFrozen s := by
  cases hchange with
  | allocate record hnew =>
      refine ⟨?_, fun h hlt => ?_⟩
      · rw [size_allocate]
        exact Nat.le_succ _
      · rw [record_allocate, if_neg (Nat.ne_of_lt hlt)]
        exact .of_eq id rfl rfl id
  | symbol description => exact ⟨Nat.le_refl _, fun _ _ => .of_eq id rfl rfl id⟩
  | insert h key slot hadmits =>
      refine .update fun hfrozen => ?_
      rw [hfrozen.insert_eq hadmits]
      exact .of_eq id rfl rfl id hfrozen
  | erase h key hopen =>
      refine .update fun hfrozen => ?_
      rw [hfrozen.erase_eq hopen]
      exact .of_eq id rfl rfl id hfrozen
  | prototype h prototype =>
      unfold setPrototype
      split
      · exact .refl r
      · split
        · exact .refl r
        · rename_i hext
          split
          · exact .refl r
          · -- An object that gets this far is extensible, which a frozen one is not.
            refine .update fun hfrozen => ?_
            rw [hfrozen.extensible] at hext
            exact absurd rfl hext
  | scope h scope => exact .update (.of_eq id rfl rfl id)
  | preventExtensions h => exact .update (.of_eq id rfl rfl fun _ => rfl)
  | cursor h c finished hkind => exact .update (.of_eq (fun _ => rfl) rfl rfl id)
  | host h old new hkind =>
      -- Only a foreign object has storage, and a frozen one is not foreign.
      refine .update fun hfrozen => ?_
      have hnative := hfrozen.native
      rw [hkind] at hnative
      cases hnative
  | rawInsert h key slot hraw => exact hraw.elim
  | rawErase h key hraw => exact hraw.elim

/-- Driving a generator keeps what is frozen, since it changes the
generator's kind alone. -/
theorem keepsFrozen_blind : Blind False (KeepsFrozen (P := P)) where
  refl := KeepsFrozen.refl
  trans _ _ _ := KeepsFrozen.trans
  change _ _ := Change.keepsFrozen
  drive _ _ _ _ _ := .update (.of_eq (fun _ => rfl) rfl rfl id)

end Realm

/-- A frozen object takes no write of a value. Only a setter could take it, so
none may be under the key. -/
theorem Object.put_of_isFrozen {P : Platform} (hooks : Hooks P) {m : Machine P} {h : Handle}
    (hfrozen : (m.realm.record h).IsFrozen) {key : PropertyKey}
    (hsetter : ∀ slot get set, (m.realm.record h).slot? key = some slot →
      slot.content = .accessor get set → set = .undefined) (value : Value) :
    put hooks h key value m = .done false m := by
  unfold put
  rw [Action.bind_apply]
  simp only [Action.record, hfrozen.native]
  cases hslot : (m.realm.record h).slot? key with
  | none =>
      simp only [hfrozen.extensible]
      rfl
  | some slot =>
      have hreadonly := (hfrozen.slots key slot hslot).2
      cases hcontent : slot.content with
      | data old writable =>
          have hwritable : writable = false := by
            rw [Slot.isWritable, hcontent] at hreadonly
            exact hreadonly
          subst hwritable
          simp only [hcontent]
          rfl
      | accessor get set =>
          have hset := hsetter slot get set hslot hcontent
          subst hset
          simp only [hcontent]
          rfl

/-- A frozen object later on: nothing about its table or its prototype has
changed, and nothing can be written to it, setters apart. -/
structure Machine.KeepsFrozen {P : Platform} (h : Handle) (m m' : Machine P) : Prop where
  slots : (m'.realm.record h).slots = (m.realm.record h).slots
  prototype : (m'.realm.record h).prototype = (m.realm.record h).prototype
  test : Integrity.frozen.test m'.realm h = true
  put : ∀ (hooks : Hooks P) (key : PropertyKey) (value : Value),
    (∀ slot get set, (m'.realm.record h).slot? key = some slot →
      slot.content = .accessor get set → set = .undefined) →
    Object.put hooks h key value m' = .done false m'

namespace Integrity

variable {P : Platform}

/-- The test for `frozen` says that an object is frozen. -/
theorem test_frozen_iff {r : Realm P} {h : Handle} (hnative : (r.record h).kind.host? = none) :
    Integrity.frozen.test r h = true ↔ (r.record h).extensible = false ∧
      ∀ key slot, (r.record h).slot? key = some slot →
        slot.configurable = false ∧ slot.isWritable = false := by
  simp only [test_iff hnative, admits_frozen_iff]

/-- So an object that passes the test is frozen for good, as the lemmas below
understand it. -/
theorem isFrozen_of_test {r : Realm P} {h : Handle} (hnative : (r.record h).kind.host? = none)
    (htest : Integrity.frozen.test r h = true) : (r.record h).IsFrozen := by
  obtain ⟨hextensible, hslots⟩ := (test_frozen_iff hnative).mp htest
  exact ⟨hnative, hextensible, hslots⟩

/-- A frozen object is the same after every run without raw requests. That
checked changes keep what is frozen carries over to whole runs, and what a
frozen object refuses is then read off the record it has at the end. -/
theorem run_keepsFrozen {α : Type} (embedder : Embedder P)
    (huses : embedder.Uses fun request => request.isRaw = false) {m : Machine P} {h : Handle}
    (hlt : h.index < m.realm.size) (hfrozen : (m.realm.record h).IsFrozen) (rounds depth : Nat)
    (script : Script P α) (hscript : script.Uses fun request => request.isRaw = false) :
    (embedder.run rounds depth script m).Meets (fun _ m' => m.KeepsFrozen h m')
      (fun _ m' => m.KeepsFrozen h m') := by
  have hraw : ∀ request : Request P, request.isRaw = false → request.isRaw = true → False := by
    intro request hchecked hraw
    rw [hchecked] at hraw
    cases hraw
  have hkeeps := embedder.run_keeps Realm.keepsFrozen_blind.law (huses.mono hraw) rounds depth
    script (hscript.mono hraw) m
  have hend : ∀ m' : Machine P, m.realm.KeepsFrozen m'.realm → m.KeepsFrozen h m' := by
    intro m' hm'
    obtain ⟨hfrozen', hslots, hprototype⟩ := hm'.objects h hlt hfrozen
    exact
      { slots := hslots
        prototype := hprototype
        test := (test_frozen_iff hfrozen'.native).mpr ⟨hfrozen'.extensible, hfrozen'.slots⟩
        put := fun hooks key value hsetter =>
          Object.put_of_isFrozen hooks hfrozen' hsetter value }
  exact hkeeps.mono (fun _ m' hm' => hend m' hm'.2) (fun _ m' hm' => hend m' hm'.2)

/-- Locking an object that is not foreign. At either level it succeeds: the
object ends as `ObjectRecord.locked` has it, with the same keys in the same
order, nothing else in the realm is changed, and the object passes the test
of that level. The test for `frozen` holds just in case nothing about the
object's properties is left open. From then on no run without raw requests
changes its table or its prototype or gets it to take a write, and it keeps
passing the test. -/
theorem set_locks (embedder : Embedder P)
    (huses : embedder.Uses fun request => request.isRaw = false) (m : Machine P) (h : Handle)
    (hlt : h.index < m.realm.size) (hnative : (m.realm.record h).kind.host? = none) :
    (∀ level : Integrity,
      level.set m.realm h = (true, m.realm.update h (·.locked level)) ∧
      level.test (m.realm.update h (·.locked level)) h = true) ∧
    (Integrity.frozen.test m.realm h = true ↔ (m.realm.record h).extensible = false ∧
      ∀ key slot, (m.realm.record h).slot? key = some slot →
        slot.configurable = false ∧ slot.isWritable = false) ∧
    (Integrity.frozen.test m.realm h = true → ∀ (α : Type) (script : Script P α),
      (script.Uses fun request => request.isRaw = false) → ∀ rounds depth : Nat,
        (embedder.run rounds depth script m).Meets (fun _ m' => m.KeepsFrozen h m')
          (fun _ m' => m.KeepsFrozen h m')) := by
  refine ⟨fun level => ⟨set_eq hlt hnative level, test_locked hlt hnative level⟩,
    test_frozen_iff hnative, fun htest α script hscript rounds depth => ?_⟩
  exact run_keepsFrozen embedder huses hlt (isFrozen_of_test hnative htest) rounds depth script
    hscript

/-- A realm with one object that nothing is locked in: a hidden value under
an index and an accessor without a setter under a text. -/
def openRealm : Realm Platform.fixed where
  objects := #[{ kind := .ordinary
                 slots := (OrderedMap.empty.insert (.string "size")
                   ⟨.accessor (.object ⟨0⟩) .undefined, true, true⟩).insert (.index 0)
                   (.hidden .null)
                 prototype := none
                 scope := none
                 extensible := true }]
  config := {}
  nextSymbol := Symbol.firstFree

/-- Freezing the object leaves it as it was but for the locks, and it stays
so when it is tampered with. -/
theorem set_locks_tampering :
    Integrity.frozen.set openRealm ⟨0⟩
        = (true, openRealm.update ⟨0⟩ (·.locked Integrity.frozen)) ∧
      ∃ m', Embedder.fixed.run 1 1 Script.tamperWithObject
          ⟨openRealm.update ⟨0⟩ (·.locked Integrity.frozen), ()⟩ = .done () m' ∧
        Machine.KeepsFrozen ⟨0⟩ ⟨openRealm.update ⟨0⟩ (·.locked Integrity.frozen), ()⟩ m' := by
  obtain ⟨hset, htest⟩ := (set_locks Embedder.fixed fixed_uses ⟨openRealm, ()⟩ ⟨0⟩ (by decide)
    rfl).1 Integrity.frozen
  have h := (set_locks Embedder.fixed fixed_uses
    ⟨openRealm.update ⟨0⟩ (·.locked Integrity.frozen), ()⟩ ⟨0⟩ (by decide) rfl).2.2 htest Unit
    Script.tamperWithObject
    ⟨rfl, fun _ => ⟨rfl, fun _ => ⟨rfl, fun _ => ⟨rfl, fun _ => ⟨rfl, fun _ => ⟨rfl,
      fun _ => trivial⟩⟩⟩⟩⟩⟩ 1 1
  exact ⟨hset, _, rfl, h⟩

end Integrity

end ScriptRealm
