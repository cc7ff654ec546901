import ScriptRealm.Proofs.Integrity

/-!
# `ScriptRealm.Proofs.HostIntegrity`: locking foreign objects

The properties of a foreign object are in its host's storage. Its
extensibility and its own table belong to the realm. `Integrity.set` ends
the extensibility and locks the slots of the table, and it reports success
if the table has a slot under every key of the storage
(`Integrity.set_eq_true_iff`). For a storage without keys that is no
condition at all. A write to the object asks neither: it goes to the host,
and whether it is taken is the host's affair.

So the success of `Integrity.set` says nothing about later writes. For
hosts that keep a list of entries, `Integrity.set_lasts_iff` tells when it
lasts: just in case the host refuses writes by itself. A host that takes
them gets a new key by a single `put`, and the object then fails the test
that it passed before.

The proof that a refusing host keeps its object locked covers every run,
including the setters that an assignment may find on the prototype chain.
The one thing excluded is a raw request to the object itself
(`Request.Spares`), which writes to its table past every check. What the
run preserves is `Realm.Guards`: the locks of the table, by
`ScriptRealm.Proofs.Locks`, and the refusing storage with no new key.
-/

set_option autoImplicit false

namespace ScriptRealm

open ScriptRealm.Action (Keeps)

/-! ### Storage with entries -/

namespace Bag

/-- A bag that refuses writes refuses this one too, and stays as it is. The
answer and the bag are given at once, since it is the bag that later proofs
look at. -/
theorem put_of_refusesPut {bag : Bag} (hrefuses : bag.refusesPut = true) (key : PropertyKey)
    (value : Value) : bag.put key value = (false, bag) := by
  rw [put, if_pos hrefuses]

/-- A bag that takes writes takes a new key, and has it afterwards. This is
how a locked object comes to a key that was not there when it was locked. -/
theorem mem_keys_put {bag : Bag} (htakes : bag.refusesPut = false) {key : PropertyKey}
    (hnew : key ∉ bag.keys) (value : Value) : key ∈ (bag.put key value).2.keys := by
  rw [put, if_neg (by simp [htakes]), if_neg hnew]
  simp [keys]

/-- Removing a key does not change the mind of a bag about writes. -/
theorem refusesPut_delete (bag : Bag) (key : PropertyKey) :
    (bag.delete key).2.refusesPut = bag.refusesPut := by
  unfold delete
  split <;> rfl

/-- Removing a key brings in none, whether the bag allows the removal or
not. -/
theorem keys_delete_subset (bag : Bag) (key : PropertyKey) :
    (bag.delete key).2.keys ⊆ bag.keys := by
  unfold delete
  split
  · exact List.map_subset _ List.filter_sublist.subset
  · exact List.Subset.refl _

end Bag

/-- Foreign objects whose storage can be seen as a bag: their keys, their
writes and their removals are those of the bag, and a call leaves it alone.
What they answer to readers and what they remember is up to them. -/
structure HostBehaviour.Bags {Host Memory : Type} (hosts : HostBehaviour Host Memory)
    (bag : Host → Bag) : Prop where
  ownKeys : ∀ host, hosts.ownKeys host = (bag host).keys
  put : ∀ host key value memory, (bag host).put key value =
    ((hosts.put host key value memory).1, bag (hosts.put host key value memory).2.1)
  delete : ∀ host key memory, (bag host).delete key =
    ((hosts.delete host key memory).1, bag (hosts.delete host key memory).2.1)
  call : ∀ host this args memory, bag (hosts.call host this args memory).2.1 = bag host

/-- A later storage of an object that refuses writes: it refuses them too,
and has no key that was not there. -/
structure Bag.Dwindles (old new : Bag) : Prop where
  refusesPut : new.refusesPut = true
  keys : new.keys ⊆ old.keys

/-- A bag that refuses writes is a later storage of itself. One that takes
them is not, since the first field is about the later one. -/
theorem Bag.Dwindles.refl {bag : Bag} (hrefuses : bag.refusesPut = true) : bag.Dwindles bag :=
  ⟨hrefuses, List.Subset.refl _⟩

/-- What dwindles twice has dwindled. Only the second step has to say that
writes are refused. -/
theorem Bag.Dwindles.trans {a b c : Bag} (hab : a.Dwindles b) (hbc : b.Dwindles c) :
    a.Dwindles c :=
  ⟨hbc.refusesPut, List.Subset.trans hbc.keys hab.keys⟩

/-- However it is used, a storage that refuses writes only dwindles. A write
comes to nothing, a removal takes keys away at most, and a call does not touch
the storage. -/
theorem HostBehaviour.Bags.dwindles {Host Memory : Type} {hosts : HostBehaviour Host Memory}
    {bag : Host → Bag} (hbags : hosts.Bags bag) {old new : Host} (hstep : hosts.Step old new)
    (hrefuses : (bag old).refusesPut = true) : (bag old).Dwindles (bag new) := by
  cases hstep with
  | put key value memory =>
      have hput := hbags.put old key value memory
      rw [Bag.put_of_refusesPut hrefuses] at hput
      rw [← (Prod.mk.inj hput).2]
      exact .refl hrefuses
  | delete key memory =>
      rw [← (Prod.mk.inj (hbags.delete old key memory)).2]
      exact ⟨((bag old).refusesPut_delete key).trans hrefuses, (bag old).keys_delete_subset key⟩
  | call this args memory =>
      rw [hbags.call]
      exact .refl hrefuses

variable {P : Platform}

/-! ### Locked tables -/

/-- An object is locked as far as its slots under the given keys go: it has
one under each of them that passes the test of the level. -/
structure ObjectRecord.Secured (level : Integrity) (keys : List PropertyKey)
    (record : ObjectRecord P) : Prop where
  extensible : record.extensible = false
  slots : ∀ key ∈ keys, ∃ slot, record.slot? key = some slot ∧ level.admits slot = true

/-- What a locked property may become passes the same test. A sealed one may
get another value if it is writable, and is still not configurable then. A
frozen one is the same for ever. -/
theorem Slot.Keeps.admits {old new : Slot} {level : Integrity} (hkeeps : old.Keeps new)
    (hadmits : level.admits old = true) : level.admits new = true := by
  cases level with
  | sealed => simp [Integrity.admits, hkeeps.configurable]
  | frozen =>
      obtain ⟨hlocked, hreadonly⟩ := (Integrity.admits_frozen_iff old).mp hadmits
      rw [hkeeps.eq_of_not_isWritable hlocked hreadonly]
      exact hadmits

/-- An object that keeps its locks stays locked under any of its keys. What
passes the test of a level is not configurable, and the locks of such slots
are what the later record keeps. -/
theorem ObjectRecord.Secured.of_keepsLocks {level : Integrity} {keys keys' : List PropertyKey}
    {old new : ObjectRecord P} (hsecured : old.Secured level keys) (hlocks : old.KeepsLocks new)
    (hkeys : keys' ⊆ keys) : new.Secured level keys' where
  extensible := hlocks.extensible hsecured.extensible
  slots key hkey := by
    obtain ⟨slot, hslot, hadmits⟩ := hsecured.slots key (hkeys hkey)
    have hlocked : slot.configurable = false := by
      simp only [Integrity.admits, Bool.and_eq_true, Bool.not_eq_true'] at hadmits
      exact hadmits.1
    -- Either level asks this of a slot, so the lock on it is one of those that are kept.
    obtain ⟨slot', hslot', hkeeps⟩ := hlocks.property key slot hslot hlocked
    exact ⟨slot', hslot', hkeeps.admits hadmits⟩

section

variable {r : Realm P} {h : Handle} {host : P.Host}

/-- The keys of a foreign object are those of its storage. -/
theorem Realm.ownKeys_of_foreign (hkind : (r.record h).kind = .foreign host) :
    r.ownKeys h true true = P.hosts.ownKeys host := by
  simp [Realm.ownKeys, hkind, Kind.host?]

/-- The end of extensibility changes one field of the record and no slot. -/
theorem Realm.record_preventExtensions (hlt : h.index < r.size) :
    (r.preventExtensions h).record h = { r.record h with extensible := false } :=
  record_update_self hlt _

namespace Integrity

/-- What the test of a level says about a foreign object. The keys come from
the storage and the slots from the object's own table, and the test asks for a
slot under each of the keys. -/
theorem test_foreign_iff (hkind : (r.record h).kind = .foreign host) (level : Integrity) :
    level.test r h = true ↔ (r.record h).Secured level (P.hosts.ownKeys host) := by
  simp only [test, Realm.ownKeys_of_foreign hkind, Bool.and_eq_true, Bool.not_eq_true',
    List.all_eq_true, Option.any_eq_true]
  exact ⟨fun htest => ⟨htest.1, htest.2⟩, fun hsecured => ⟨hsecured.extensible, hsecured.slots⟩⟩

/-- The walk over a list of keys goes to its end only if there is a slot under
each of them. By induction on the keys, for every realm, since the walk goes
on in the realm that it has changed. -/
theorem contains_of_lockKeys (level : Integrity) (keys : List PropertyKey) :
    ∀ r : Realm P, h.index < r.size → (level.lockKeys h keys r).1 = true →
      ∀ key ∈ keys, (r.record h).slots.contains key = true := by
  induction keys with
  | nil =>
      intro r _ _ key hkey
      cases hkey
  | cons first rest ih =>
      intro r hlt hwalk key hkey
      cases hslot : (r.record h).slot? first with
      | none =>
          simp only [lockKeys, hslot] at hwalk
          cases hwalk
      | some slot =>
          have hfirst : (r.record h).slots.contains first = true := by
            rw [OrderedMap.contains_eq_isSome]
            exact Option.isSome_iff_exists.mpr ⟨slot, hslot⟩
          simp only [lockKeys, hslot, Realm.applyDescriptor_demand hslot level] at hwalk
          cases hkey with
          | head => exact hfirst
          | tail _ hrest =>
              -- The slot that was locked was there before, so no key has come in with it.
              have hcontains := ih (r.insertSlot h first (slot.locked level))
                (by rw [Realm.insertSlot, Realm.size_update]; exact hlt) hwalk key hrest
              rw [Realm.insertSlot, Realm.record_update_self hlt, ObjectRecord.insert,
                OrderedMap.contains_eq_isSome, OrderedMap.get?_insert] at hcontains
              split at hcontains
              · rename_i hkey
                rw [hkey]
                exact hfirst
              · rw [OrderedMap.contains_eq_isSome]
                exact hcontains

/-- The keys are listed after extensibility has ended, which does not change
them. -/
theorem set_of_foreign (hkind : (r.record h).kind = .foreign host) (level : Integrity) :
    level.set r h = level.lockKeys h (P.hosts.ownKeys host) (r.preventExtensions h) := by
  have hlt := Realm.lt_size_of_foreign hkind
  have hkind' : ((r.preventExtensions h).record h).kind = .foreign host := by
    rw [Realm.record_preventExtensions hlt]
    exact hkind
  rw [set, Realm.ownKeys_of_foreign hkind']

/-- Locking a foreign object succeeds if its own table has a slot under every
key of its storage. The walk stops at the first key without one, so there is
no other way to succeed. -/
theorem set_eq_true_iff (hkind : (r.record h).kind = .foreign host) (level : Integrity) :
    (level.set r h).1 = true ↔
      ∀ key ∈ P.hosts.ownKeys host, (r.record h).slots.contains key = true := by
  have hlt := Realm.lt_size_of_foreign hkind
  have hlt' : h.index < (r.preventExtensions h).size := by
    rw [Realm.preventExtensions, Realm.size_update]
    exact hlt
  have hslots : ((r.preventExtensions h).record h).slots = (r.record h).slots := by
    rw [Realm.record_preventExtensions hlt]
  rw [set_of_foreign hkind]
  constructor
  · intro hwalk
    rw [← hslots]
    exact level.contains_of_lockKeys _ _ hlt' hwalk
  · intro hcontains
    rw [← hslots] at hcontains
    rw [level.lockKeys_eq h _ _ hlt' hcontains]

/-- Where locking a foreign object succeeds, the object keeps its storage
and is locked under every key of it. -/
theorem secured_of_set (hkind : (r.record h).kind = .foreign host) {level : Integrity}
    (hset : (level.set r h).1 = true) :
    ((level.set r h).2.record h).kind = .foreign host ∧
      ((level.set r h).2.record h).Secured level (P.hosts.ownKeys host) := by
  have hlt := Realm.lt_size_of_foreign hkind
  have hlt' : h.index < (r.preventExtensions h).size := by
    rw [Realm.preventExtensions, Realm.size_update]
    exact hlt
  have hcontains := (set_eq_true_iff hkind level).mp hset
  have hwalk := level.lockKeys_eq h (P.hosts.ownKeys host) (r.preventExtensions h) hlt' (by
    rw [Realm.record_preventExtensions hlt]
    exact hcontains)
  rw [set_of_foreign hkind, hwalk, Realm.record_update_self hlt',
    Realm.record_preventExtensions hlt]
  refine ⟨hkind, rfl, fun key hkey => ?_⟩
  have hold := hcontains key hkey
  rw [OrderedMap.contains_eq_isSome] at hold
  obtain ⟨slot, hslot⟩ := Option.isSome_iff_exists.mp hold
  refine ⟨slot.locked level, ?_, slot.admits_locked level⟩
  simp only [ObjectRecord.slot?, OrderedMap.get?_mapValues, hslot, Option.map_some, if_pos hkey]

end Integrity

end

/-! ### What a run preserves -/

namespace Realm

variable {bag : P.Host → Bag} {o : Handle}

/-- The object under `o` has kept its locks from one realm to a later one.
If it is a foreign object whose storage refuses writes, it is so still, and
its storage has only dwindled. -/
structure Guards (bag : P.Host → Bag) (o : Handle) (r s : Realm P) : Prop where
  size : r.size ≤ s.size
  locks : o.index < r.size → (r.record o).KeepsLocks (s.record o)
  storage : ∀ host, (r.record o).kind = .foreign host → (bag host).refusesPut = true →
    ∃ host', (s.record o).kind = .foreign host' ∧ (bag host).Dwindles (bag host')

/-- Realms in which the object is the same. The other objects may be any, as
long as none is gone. -/
theorem Guards.of_record_eq {r s : Realm P} (hsize : r.size ≤ s.size)
    (hrecord : o.index < r.size → s.record o = r.record o) : r.Guards bag o s where
  size := hsize
  locks hlt := by
    rw [hrecord hlt]
    exact .refl _
  storage host hkind hrefuses := by
    rw [hrecord (lt_size_of_foreign hkind)]
    exact ⟨host, hkind, .refl hrefuses⟩

/-- What guards the object for two steps guards it for both. That the storage
refuses writes after the first step is what the second one needs. -/
theorem Guards.trans {r s t : Realm P} (hrs : r.Guards bag o s) (hst : s.Guards bag o t) :
    r.Guards bag o t where
  size := Nat.le_trans hrs.size hst.size
  locks hlt := (hrs.locks hlt).trans (hst.locks (Nat.lt_of_lt_of_le hlt hrs.size))
  storage host hkind hrefuses := by
    obtain ⟨host', hkind', hdwindles⟩ := hrs.storage host hkind hrefuses
    obtain ⟨host'', hkind'', hdwindles'⟩ := hst.storage host' hkind' hdwindles.refusesPut
    exact ⟨host'', hkind'', hdwindles.trans hdwindles'⟩

/-- A checked change guards every object. Of the changes of kinds it is
that of a host's storage that counts. -/
theorem Change.guards (hbags : P.hosts.Bags bag) {r s : Realm P} (hchange : Change False r s) :
    r.Guards bag o s where
  size := hchange.keepsLocks.size
  locks hlt := hchange.keepsLocks.objects o hlt
  storage host hkind hrefuses := by
    obtain hsame | ⟨hsize, _⟩ | ⟨old, new, hold, _⟩ | ⟨old, new, hold, hnew, hstep⟩ :=
      hchange.kind_cases o
    · exact ⟨host, hsame.trans hkind, .refl hrefuses⟩
    · have hlt := lt_size_of_foreign hkind
      omega
    · rw [hold] at hkind
      cases hkind
    · rw [hold] at hkind
      cases hkind
      exact ⟨new, hnew, hbags.dwindles hstep hrefuses⟩

/-- To guard an object is a relation that does not look into generators, and
every checked change keeps it. So it holds between the two ends of whatever
only runs code. -/
theorem guards_blind (hbags : P.hosts.Bags bag) : Blind False (Guards bag o) where
  refl r := .of_record_eq (Nat.le_refl _) fun _ => rfl
  trans _ _ _ := Guards.trans
  change _ _ hchange := hchange.guards hbags
  drive r h g g' hkind := by
    have hlocks := keepsLocks_blind.drive r h g g' hkind
    refine ⟨hlocks.size, hlocks.objects o, fun host hforeign hrefuses => ?_⟩
    -- A generator is no foreign object, so it is another object that is driven.
    have hne : o ≠ h := by
      rintro rfl
      rw [hkind] at hforeign
      cases hforeign
    rw [setKind, record_update_of_ne hne]
    exact ⟨host, hforeign, .refl hrefuses⟩

end Realm

namespace Request

/-- The object whose table a raw request writes to. -/
def rawTarget? : Request P → Option Handle
  | .defineMethod h .. | .defineBuiltin h .. | .insertSlot h .. | .removeSlot h ..
  | .applyDescriptor h .. => some h
  | _ => none

/-- The request does not write to the table of the object under `o` past
every check. -/
def Spares (o : Handle) (request : Request P) : Prop := request.rawTarget? ≠ some o

/-- The raw requests are those that have a target. -/
theorem isRaw_eq_isSome (request : Request P) : request.isRaw = request.rawTarget?.isSome := by
  cases request <;> rfl

/-- A raw request changes its target and may add an object. So it keeps what
such changes keep. Each of these requests is made of at most one new object
and one change of a table. -/
theorem perform_keeps_of_rawTarget {h : Handle} {I : Realm P → Prop}
    (hI : ∀ r s, Realm.Change True r s → r.size ≤ s.size →
      (∀ h' : Handle, h' ≠ h → h'.index < r.size → s.record h' = r.record h') → I r → I s)
    (hooks : Hooks P) {request : Request P} (htarget : request.rawTarget? = some h) :
    Keeps I (request.perform hooks) := by
  have hinsert : ∀ r key slot, I r → I (r.insertSlot h key slot) := by
    intro r key slot
    refine hI _ _ (.rawInsert r h key slot trivial) ?_ fun h' hne _ => ?_
    · exact Nat.le_of_eq (Realm.size_update r h _).symm
    · rw [Realm.insertSlot, Realm.record_update_of_ne hne]
  have hallocate : ∀ r record, record.kind.IsNew → I r → I (r.allocate record).2 := by
    intro r record hnew
    refine hI _ _ (.allocate r record hnew) ?_ fun h' _ hlt => ?_
    · rw [Realm.size_allocate]
      omega
    · rw [Realm.record_allocate, if_neg (by omega)]
  unfold perform
  cases request with
  | defineMethod h' key name length code =>
      cases htarget
      exact .modifyGet fun r hr => hinsert _ key _ (hallocate r _ trivial hr)
  | defineBuiltin h' key value =>
      cases htarget
      exact .modify fun r hr => hinsert r key _ hr
  | insertSlot h' key slot =>
      cases htarget
      exact .modify fun r hr => hinsert r key slot hr
  | removeSlot h' key =>
      cases htarget
      refine .modifyGet fun r hr => hI _ _ (.rawErase r h key trivial) ?_ ?_ hr
      · exact Nat.le_of_eq (Realm.size_update r h _).symm
      · intro h' hne _
        rw [Realm.record_update_of_ne hne]
  | applyDescriptor h' key extensible d current =>
      cases htarget
      refine .modifyGet fun r hr => ?_
      unfold Realm.applyDescriptor
      split
      · exact hr
      · exact hr
      · exact hinsert r key _ hr
  | _ => cases htarget

end Request

/-- Requests that spare an object guard it, as far as the code they run does.
Of those that are not raw this is known of every object, and a raw one with
another target does not come near this object. -/
theorem Realm.guards_rule {bag : P.Host → Bag} (hbags : P.hosts.Bags bag) (o : Handle) :
    Rule (·.Spares o) (fun r s : Realm P => r.Passes s ∧ r.Guards bag o s) where
  refl := (guards_blind hbags).law.refl
  request hooks hh r request hspares := by
    -- A request without a target is not raw, so it makes no change but checked ones.
    cases htarget : request.rawTarget? with
    | none =>
        refine (guards_blind hbags).law.perform_keeps hh r request fun hraw => ?_
        rw [request.isRaw_eq_isSome, htarget] at hraw
        cases hraw
    | some h =>
        have hne : o ≠ h := by
          rintro rfl
          exact hspares htarget
        refine request.perform_keeps_of_rawTarget
          (fun s t hchange hsize hrest hs => ?_) hooks htarget
        exact ⟨hs.1.trans hchange.passes, hs.2.trans (.of_record_eq hsize (hrest o hne))⟩
  intrinsic := (guards_blind hbags).law.rule.intrinsic
  host := (guards_blind hbags).law.rule.host

/-! ### When a lock lasts -/

/-- A foreign object that passes the test of a level and has no other keys
than the given ones. -/
structure Realm.HoldsForeign (level : Integrity) (o : Handle) (keys : List PropertyKey)
    (r : Realm P) : Prop where
  test : level.test r o = true
  keys : ∃ host, (r.record o).kind = .foreign host ∧ P.hosts.ownKeys host ⊆ keys

/-- A locked object whose storage refuses writes is still locked later. It has
kept its slots, and its storage asks for slots under no other keys than it
did. -/
theorem Realm.Guards.holdsForeign {bag : P.Host → Bag} (hbags : P.hosts.Bags bag) {o : Handle}
    {r s : Realm P} (hguards : r.Guards bag o s) {host : P.Host} {level : Integrity}
    (hkind : (r.record o).kind = .foreign host)
    (hsecured : (r.record o).Secured level (P.hosts.ownKeys host))
    (hrefuses : (bag host).refusesPut = true) :
    s.HoldsForeign level o (P.hosts.ownKeys host) := by
  obtain ⟨host', hkind', hdwindles⟩ := hguards.storage host hkind hrefuses
  have hkeys : P.hosts.ownKeys host' ⊆ P.hosts.ownKeys host := by
    rw [hbags.ownKeys, hbags.ownKeys]
    exact hdwindles.keys
  have hlocks := hguards.locks (lt_size_of_foreign hkind)
  exact ⟨(Integrity.test_foreign_iff hkind' level).mpr (hsecured.of_keepsLocks hlocks hkeys),
    host', hkind', hkeys⟩

/-- There is always another key. Of the first indices, one more than the list
is long, the list cannot have all. -/
theorem PropertyKey.exists_not_mem (keys : List PropertyKey) : ∃ key, key ∉ keys := by
  refine Classical.byContradiction fun hnone => ?_
  have hsubset : (List.range (keys.length + 1)).map PropertyKey.index ⊆ keys := by
    intro key _
    exact Classical.byContradiction fun hkey => hnone ⟨key, hkey⟩
  have hnodup : ((List.range (keys.length + 1)).map PropertyKey.index).Nodup :=
    List.Pairwise.map _ (fun i j hne hsame => hne (PropertyKey.index.inj hsame)) List.nodup_range
  have hle := hnodup.length_le_of_subset hsubset
  simp only [List.length_map, List.length_range] at hle
  omega

/-- A write to a foreign object is the host's affair. The answer, the storage
and the memory are those that the host gives, and no code is run. -/
theorem Object.put_of_foreign (hooks : Hooks P) {m : Machine P} {o : Handle} {host : P.Host}
    (hkind : (m.realm.record o).kind = .foreign host) (key : PropertyKey) (value : Value) :
    put hooks o key value m = .done (P.hosts.put host key value m.memory).1
      { realm := m.realm.setKind o (.foreign (P.hosts.put host key value m.memory).2.1)
        memory := (P.hosts.put host key value m.memory).2.2 } := by
  unfold put
  rw [Action.bind_apply]
  simp only [Action.record, hkind, Kind.host?]
  rfl

/-- A storage that takes writes can be given a key it does not have, whatever
has been done to the table of the object: a write to a foreign object asks
nobody but the host. -/
theorem put_gains {bag : P.Host → Bag} (hbags : P.hosts.Bags bag) (hooks : Hooks P)
    {m : Machine P} {o : Handle} {host : P.Host} (hkind : (m.realm.record o).kind = .foreign host)
    (htakes : (bag host).refusesPut = false) {key : PropertyKey}
    (hnew : key ∉ P.hosts.ownKeys host) (value : Value) :
    ∃ taken m', Object.put hooks o key value m = .done taken m' ∧
      ∀ host', (m'.realm.record o).kind = .foreign host' → key ∈ P.hosts.ownKeys host' := by
  refine ⟨_, _, Object.put_of_foreign hooks hkind key value, fun host' hkind' => ?_⟩
  rw [Realm.setKind, Realm.record_update_self (Realm.lt_size_of_foreign hkind)] at hkind'
  cases hkind'
  rw [hbags.ownKeys] at hnew ⊢
  have hput := hbags.put host key value m.memory
  rw [← (Prod.mk.inj hput).2]
  exact Bag.mem_keys_put htakes hnew value

namespace Integrity

/-- Locking a foreign object whose storage is a bag. It succeeds if the
object's own table has a slot under every key of the storage, and the
object then passes the test of the level. Whether this lasts is decided by
the storage alone. Let `p` be any requests, among them the writes to the
object and none that writes to its table past every check, and let the
embedder's own code keep to the latter: every run leaves the object locked
and its storage without a new key, just in case the storage refuses
writes. -/
theorem set_lasts_iff {bag : P.Host → Bag} (hbags : P.hosts.Bags bag) (embedder : Embedder P)
    {o : Handle} (huses : embedder.Uses (·.Spares o)) {p : Request P → Prop}
    (hput : ∀ key value, p (.put o key value)) (hspares : ∀ request, p request → request.Spares o)
    (m : Machine P) {host : P.Host} (hkind : (m.realm.record o).kind = .foreign host)
    (level : Integrity) :
    ((level.set m.realm o).1 = true ↔
      ∀ key ∈ P.hosts.ownKeys host, (m.realm.record o).slots.contains key = true) ∧
    ((level.set m.realm o).1 = true →
      level.test (level.set m.realm o).2 o = true ∧
      ((∀ (α : Type) (script : Script P α), script.Uses p → ∀ rounds depth : Nat,
        (embedder.run rounds depth script ⟨(level.set m.realm o).2, m.memory⟩).Meets
          (fun _ m' => m'.realm.HoldsForeign level o (P.hosts.ownKeys host))
          (fun _ m' => m'.realm.HoldsForeign level o (P.hosts.ownKeys host))) ↔
        (bag host).refusesPut = true)) := by
  refine ⟨set_eq_true_iff hkind level, fun hset => ?_⟩
  obtain ⟨hkind', hsecured⟩ := secured_of_set hkind hset
  refine ⟨(test_foreign_iff hkind' level).mpr hsecured, fun hlasts => ?_, fun hrefuses => ?_⟩
  · -- Otherwise a single write would bring in a key that was not there.
    cases hrefuses : (bag host).refusesPut with
    | true => rfl
    | false =>
        obtain ⟨key, hnew⟩ := PropertyKey.exists_not_mem (P.hosts.ownKeys host)
        obtain ⟨taken, m', hdone, hgains⟩ :=
          put_gains hbags (embedder.hooks 0 0) (m := ⟨_, m.memory⟩) hkind' hrefuses hnew .null
        have hperform : Request.perform (embedder.hooks 0 0) (.put o key .null) _ = _ := hdone
        have hholds := hlasts Unit (.ask (.put o key .null) fun _ => .done ())
          ⟨hput key .null, fun _ => trivial⟩ 0 0
        rw [Embedder.run, Script.run_ask _ hperform] at hholds
        obtain ⟨host', hforeign, hkeys⟩ := hholds.keys
        exact absurd (hkeys (hgains host' hforeign)) hnew
  · intro α script hscript rounds depth
    have hrun := (Realm.guards_rule hbags o).run_keeps huses rounds depth (hscript.mono hspares)
      ⟨(level.set m.realm o).2, m.memory⟩
    exact hrun.mono (fun _ _ h => h.2.holdsForeign hbags hkind' hsecured hrefuses)
      (fun _ _ h => h.2.holdsForeign hbags hkind' hsecured hrefuses)

end Integrity

/-- The foreign objects that are bags are seen as the bags they are. -/
theorem Platform.hosts_bags : Platform.bags.hosts.Bags id where
  ownKeys _ := rfl
  put _ _ _ _ := rfl
  delete _ _ _ := rfl
  call _ _ _ _ := rfl

/-- A realm with one foreign object. Its storage has one entry, which may be
removed, and refuses writes; its table has a slot under the same key. -/
def hostRealm : Realm Platform.bags where
  objects := #[{ kind := .foreign
                   { entries := [(.string "size", some .null)]
                     refusesPut := true
                     allowsDelete := true }
                 slots := OrderedMap.empty.insert (.string "size") (.plain .null)
                 prototype := none
                 scope := none
                 extensible := true }]
  config := {}
  nextSymbol := Symbol.firstFree

/-- The writes, definitions and removals that go to one object. -/
def Request.writesTo (o : Handle) : Request P → Bool
  | .put h .. | .assign h .. | .define h .. | .delete h .. => h = o
  | _ => false

/-- Writes, definitions and removals are not raw. -/
theorem Request.spares_of_writesTo {o : Handle} {request : Request P}
    (hwrites : request.writesTo o = true) : request.Spares o := by
  cases request with
  | put | assign | define | delete =>
      intro htarget
      cases htarget
  | _ => cases hwrites

/-- A script that writes to the object in each of these ways. -/
def Script.writeToHost : Script Platform.bags Unit :=
  .ask (.put ⟨0⟩ (.string "key") .null) fun _ =>
  .ask (.assign ⟨0⟩ (.string "size") .undefined false) fun _ =>
  .ask (.define ⟨0⟩ (.index 0) { value := some .null }) fun _ =>
  .ask (.delete ⟨0⟩ (.string "size")) fun _ => .done ()

namespace Integrity

/-- The object can be frozen, and stays frozen when it is written to. Its host
takes no values. It lets its entry be removed, and this leaves fewer keys for
which the object has to have a slot. -/
theorem set_lasts_iff_refusing :
    (Integrity.frozen.set hostRealm ⟨0⟩).1 = true ∧
      ∃ m', (Embedder.idle Platform.bags).run 1 1 Script.writeToHost
          ⟨(Integrity.frozen.set hostRealm ⟨0⟩).2, ()⟩ = .done () m' ∧
        m'.realm.HoldsForeign Integrity.frozen ⟨0⟩ [.string "size"] := by
  have hset : (Integrity.frozen.set hostRealm ⟨0⟩).1 = true := by decide
  have hlasts := ((set_lasts_iff Platform.hosts_bags (.idle _) (o := ⟨0⟩)
    ⟨fun _ _ _ => trivial, fun _ _ _ => trivial⟩
    (p := fun request => request.writesTo ⟨0⟩ = true) (fun _ _ => rfl)
    (fun _ => Request.spares_of_writesTo) ⟨hostRealm, ()⟩ rfl Integrity.frozen).2 hset).2.mpr rfl
  -- The run is taken from an equation, so that it is evaluated only once.
  have hholds : ∀ script : Script Platform.bags Unit,
      (script.Uses fun request => request.writesTo ⟨0⟩ = true) → ∀ m',
        (Embedder.idle Platform.bags).run 1 1 script
          ⟨(Integrity.frozen.set hostRealm ⟨0⟩).2, ()⟩ = .done () m' →
        m'.realm.HoldsForeign Integrity.frozen ⟨0⟩ [.string "size"] := by
    intro script hscript m' hrun
    have hmeets := hlasts Unit script hscript 1 1
    rw [hrun] at hmeets
    exact hmeets
  exact ⟨hset, _, rfl, hholds Script.writeToHost ⟨rfl, fun _ => ⟨rfl, fun _ => ⟨rfl, fun _ => ⟨rfl,
    fun _ => trivial⟩⟩⟩⟩ _ rfl⟩

/-- A script that freezes a new foreign object, writes to it, and asks for
its test and its keys. -/
def Script.freezeNewBag : Script Platform.bags (List Bool × List PropertyKey) :=
  .ask (.createForeign { entries := [], refusesPut := false, allowsDelete := false }) fun object =>
  .ask (.setIntegrity (object.toOption.getD ⟨0⟩) Integrity.frozen) fun locked =>
  .ask (.put (object.toOption.getD ⟨0⟩) (.string "key") .null) fun taken =>
  .ask (.testIntegrity (object.toOption.getD ⟨0⟩) Integrity.frozen) fun holds =>
  .ask (.ownKeys (object.toOption.getD ⟨0⟩) true true) fun keys =>
  .done ([locked.toOption.getD false, taken.toOption.getD false, holds.toOption.getD true],
    keys.toOption.getD [])

/-- A storage that takes writes undoes a lock that was reported. -/
theorem not_lasts_freezingBag :
    ∃ m', (Embedder.idle Platform.bags).run 1 1 Script.freezeNewBag ⟨.initial default, ()⟩ =
      .done ([true, true, false], [.string "key"]) m' :=
  ⟨_, rfl⟩

end Integrity

end ScriptRealm
