import ScriptRealm.Realm.Intrinsics

/-!
# `ScriptRealm.Proofs.Table`: reading back what was written

Two layers of storage are read through one function each: a table of
properties through `OrderedMap.get?`, and a realm through `Realm.record`.
The lemmas here say what a write does to that view. `get?_insert` and
`get?_erase` are the laws of a table, `record_update` and
`record_allocate` those of an arena. A write under a handle that is in no
arena changes nothing, and what is read there is a bare object, so the
laws of the arena need a bound only where the write itself is read back.

The keys of a table come in the order of its entries (`keys_insert`,
`keys_erase`). Those of an object are listed in another order, each of them
once (`mem_orderedKeys_iff`, `nodup_orderedKeys`).
-/

set_option autoImplicit false

namespace ScriptRealm

namespace OrderedMap

variable {κ ν : Type} [DecidableEq κ]

/-- A key that is not in a table has no value there. -/
theorem get?_eq_none_of_not_contains {m : OrderedMap κ ν} {key : κ}
    (h : ¬ m.contains key = true) : m.get? key = none := by
  rw [get?, Option.map_eq_none_iff, List.find?_eq_none]
  intro entry hentry heq
  exact h (List.any_eq_true.mpr ⟨entry, hentry, heq⟩)

/-- A key is in a table exactly when it has a value there. -/
theorem contains_eq_isSome (m : OrderedMap κ ν) (key : κ) :
    m.contains key = (m.get? key).isSome := by
  rw [contains, get?, Option.isSome_map, Bool.eq_iff_iff, List.find?_isSome, List.any_eq_true]

/-- Replacing the values of a table replaces the value under each key. The new
value may depend on the key. -/
theorem get?_mapValues (f : κ → ν → ν) (m : OrderedMap κ ν) (key : κ) :
    (m.mapValues f).get? key = (m.get? key).map (f key) := by
  have hentries : (m.mapValues f).entries
      = m.entries.map fun entry => (entry.1, f entry.1 entry.2) := rfl
  -- A changed entry is found under the key under which it was found before.
  have hcomp : ((fun entry : κ × ν => decide (entry.1 = key)) ∘
      fun entry : κ × ν => (entry.1, f entry.1 entry.2)) = fun entry => decide (entry.1 = key) :=
    rfl
  rw [get?, get?, hentries, List.find?_map, hcomp]
  cases hfind : m.entries.find? (fun entry => decide (entry.1 = key)) with
  | none => rfl
  | some entry =>
      have hkey : entry.1 = key := by simpa using List.find?_some hfind
      simp [hkey]

/-- The value under a key is the one its entry has. By induction on the
entries: an earlier entry with the same key is excluded, as no key is there
twice. -/
theorem get?_eq_of_mem {m : OrderedMap κ ν} {key : κ} {value : ν}
    (hentry : (key, value) ∈ m.entries) : m.get? key = some value := by
  obtain ⟨entries, hnodup⟩ := m
  simp only [get?]
  induction entries with
  | nil => cases hentry
  | cons entry rest ih =>
      rw [List.map_cons, List.nodup_cons] at hnodup
      cases hentry with
      | head => simp
      | tail _ hrest =>
          -- Keys are distinct, so that an entry further back has another key than the first.
          have hne : entry.1 ≠ key := by
            rintro rfl
            exact hnodup.1 (List.mem_map.mpr ⟨_, hrest, rfl⟩)
          rw [List.find?_cons_of_neg (by simpa using hne)]
          exact ih hnodup.2 hrest

/-- The value under a key is in the table with it. -/
theorem mem_of_get? {m : OrderedMap κ ν} {key : κ} {value : ν} (hvalue : m.get? key = some value) :
    (key, value) ∈ m.entries := by
  rw [get?, Option.map_eq_some_iff] at hvalue
  obtain ⟨entry, hfind, rfl⟩ := hvalue
  have hkey : entry.1 = key := by simpa using List.find?_some hfind
  exact hkey ▸ List.mem_of_find?_eq_some hfind

/-- A key that is in a table keeps its place. -/
theorem insert_of_contains {m : OrderedMap κ ν} {key : κ} (hkey : m.contains key = true)
    (value : ν) :
    m.insert key value = m.mapValues fun key' old => if key' = key then value else old :=
  dif_pos hkey

/-- Overwriting changes the entry of the key and keeps the order. -/
theorem entries_insert_of_contains {m : OrderedMap κ ν} {key : κ}
    (hkey : m.contains key = true) (value : ν) :
    (m.insert key value).entries
      = m.entries.map fun entry => (entry.1, if entry.1 = key then value else entry.2) := by
  rw [insert_of_contains hkey]
  rfl

/-- A new key goes to the end. -/
theorem entries_insert_of_new {m : OrderedMap κ ν} {key : κ} (hkey : m.get? key = none)
    (value : ν) : (m.insert key value).entries = m.entries ++ [(key, value)] := by
  have hnew : ¬ m.contains key = true := by
    rw [contains_eq_isSome, hkey]
    simp
  simp [insert, hnew]

/-- The keys after an insertion do not depend on the values. A key that is
there keeps its place, and a new one goes to the end. -/
theorem keys_insert (m : OrderedMap κ ν) (key : κ) (value : ν) :
    (m.insert key value).keys = if key ∈ m.keys then m.keys else m.keys ++ [key] := by
  -- Overwriting leaves the keys alone, and only a new key is appended.
  by_cases hkey : m.contains key = true
  · rw [if_pos (contains_iff.mp hkey), keys, entries_insert_of_contains hkey, List.map_map]
    rfl
  · rw [if_neg fun hmem => hkey (contains_iff.mpr hmem), keys,
      entries_insert_of_new (get?_eq_none_of_not_contains hkey)]
    simp [keys]

/-- The keys after a removal are the others, in their order. -/
theorem keys_erase (m : OrderedMap κ ν) (key : κ) :
    (m.erase key).keys = m.keys.filter (· ≠ key) := by
  rw [keys, erase, keys, List.filter_map]
  rfl

/-- The value under a key after an insertion. The two ways to insert, in place
and at the end, come to the same for who looks up a value. -/
theorem get?_insert (m : OrderedMap κ ν) (key key' : κ) (value : ν) :
    (m.insert key value).get? key' = if key' = key then some value else m.get? key' := by
  unfold insert
  split
  · rename_i hmem
    -- In place: the value changes under the key that is overwritten.
    rw [get?_mapValues]
    by_cases hkey : key' = key
    · subst hkey
      rw [contains_eq_isSome] at hmem
      obtain ⟨old, hold⟩ := Option.isSome_iff_exists.mp hmem
      simp [hold]
    · simp [hkey]
  · rename_i hmem
    -- At the end: it is found there, as no entry before it has the key.
    have hnone : m.entries.find? (fun entry => decide (entry.1 = key)) = none := by
      simpa [get?] using get?_eq_none_of_not_contains hmem
    by_cases hkey : key' = key
    · subst hkey
      simp [get?, List.find?_append, hnone]
    · have hne : ¬ key = key' := fun h => hkey h.symm
      simp [get?, List.find?_append, hkey, hne]

/-- The value under a key after a removal. The entries of the other keys are
all still there, and so each of them is found as before. -/
theorem get?_erase (m : OrderedMap κ ν) (key key' : κ) :
    (m.erase key).get? key' = if key' = key then none else m.get? key' := by
  unfold erase get?
  rw [List.find?_filter]
  by_cases hkey : key' = key
  · subst hkey
    simp
  -- For another key the two conditions on an entry come to the second one.
  · have hsame : (fun entry : κ × ν => decide (decide (entry.1 ≠ key) = true ∧
        decide (entry.1 = key') = true)) = fun entry => decide (entry.1 = key') := by
      funext entry
      by_cases hentry : entry.1 = key'
      · simp [hentry, hkey]
      · simp [hentry]
    rw [hsame, if_neg hkey]

/-- The keys after an insertion at the front. A key that was there is moved,
so that it is filtered from the rest in either case. -/
theorem keys_insertFirst (m : OrderedMap κ ν) (key : κ) (value : ν) :
    (m.insertFirst key value).keys = key :: m.keys.filter (· ≠ key) := by
  unfold insertFirst
  split
  · simp [keys, erase, List.filter_map, Function.comp_def]
  · rename_i hnew
    -- Nothing is filtered where the key is new.
    have hother : ∀ key' ∈ m.keys, key' ≠ key := by
      rintro key' hmem rfl
      exact hnew (contains_iff.mpr hmem)
    have hsame : m.keys.filter (· ≠ key) = m.keys :=
      List.filter_eq_self.mpr fun key' hmem => by simpa using hother key' hmem
    rw [hsame]
    rfl

/-- The value under a key after an insertion at the front. Where the key
stands does not matter for who looks it up. -/
theorem get?_insertFirst (m : OrderedMap κ ν) (key key' : κ) (value : ν) :
    (m.insertFirst key value).get? key' = if key' = key then some value else m.get? key' := by
  by_cases hkey : key' = key
  · subst hkey
    unfold insertFirst
    split <;> simp [get?]
  · have hne : ¬ key = key' := fun h => hkey h.symm
    rw [if_neg hkey]
    unfold insertFirst
    split
    -- The old entry of the key was removed, which other keys do not notice.
    · have herase := get?_erase m key key'
      rw [if_neg hkey] at herase
      rw [← herase]
      simp [get?, hne]
    · simp [get?, hne]

end OrderedMap

/-! ### Listing keys -/

namespace ObjectRecord

variable {P : Platform}

/-- Taking the indices out of a list of keys, sorting them and putting them
in front moves keys around and does nothing else. -/
theorem sortedIndices_perm (keys : List PropertyKey) :
    (((keys.filterMap arrayIndex?).mergeSort fun i j => i ≤ j).map PropertyKey.index ++
      keys.filter fun key => (arrayIndex? key).isNone).Perm keys := by
  -- Reading the indices off and making keys of them again gives the keys that have one.
  have hindices : (keys.filterMap arrayIndex?).map PropertyKey.index
      = keys.filter fun key => (arrayIndex? key).isSome := by
    induction keys with
    | nil => rfl
    | cons key rest ih =>
        rw [List.filter_cons, List.filterMap_cons]
        cases key with
        | index i => exact congrArg _ ih
        | _ => exact ih
  have hsplit := List.filter_append_perm (fun key => (arrayIndex? key).isSome) keys
  simp only [Option.not_isSome] at hsplit
  -- Sorting is a permutation of the first part, and so is taking the list apart.
  refine (((List.mergeSort_perm _ _).map _).append_right _).trans ?_
  rw [hindices]
  exact hsplit

/-- Whether indices come first or not, the keys that are listed are the
same. -/
theorem orderedKeys_perm (x : ObjectRecord P) (hidden symbols first first' : Bool) :
    (x.orderedKeys hidden symbols first).Perm (x.orderedKeys hidden symbols first') := by
  -- It is enough to compare with the order of the table.
  have hfirst : ∀ first, (x.orderedKeys hidden symbols first).Perm
      (x.orderedKeys hidden symbols false) := by
    intro first
    cases first with
    | false => exact .refl _
    | true => exact (sortedIndices_perm _).append_right _
  exact (hfirst first).trans (hfirst first').symm

/-- The keys that are listed: those of the table, less those that enumeration
skips unless they are asked for, and less symbols unless these are. The order
is of no account, so it is enough to look at the list in which indices do not
come first. -/
theorem mem_orderedKeys_iff (x : ObjectRecord P) (hidden symbols first : Bool)
    (key : PropertyKey) :
    key ∈ x.orderedKeys hidden symbols first ↔
      (∃ slot, x.slot? key = some slot ∧ (hidden = true ∨ slot.enumerable = true)) ∧
        (symbols = true ∨ key.isSymbol = false) := by
  have hvisible : key ∈ (x.slots.entries.filter fun entry =>
      hidden || entry.2.enumerable).map Prod.fst ↔
        ∃ slot, x.slot? key = some slot ∧ (hidden = true ∨ slot.enumerable = true) := by
    simp only [List.mem_map, List.mem_filter, Bool.or_eq_true]
    constructor
    · rintro ⟨⟨key, slot⟩, ⟨hentry, hshown⟩, rfl⟩
      exact ⟨slot, OrderedMap.get?_eq_of_mem hentry, hshown⟩
    · rintro ⟨slot, hslot, hshown⟩
      exact ⟨(key, slot), ⟨OrderedMap.mem_of_get? hslot, hshown⟩, rfl⟩
  rw [(x.orderedKeys_perm hidden symbols first false).mem_iff, ← hvisible, orderedKeys,
    List.mem_append]
  cases symbols <;> cases hsymbol : key.isSymbol <;> simp [hsymbol]

/-- No key is listed twice. None is in the table twice, and symbols are listed
apart from all others. -/
theorem nodup_orderedKeys (x : ObjectRecord P) (hidden symbols first : Bool) :
    (x.orderedKeys hidden symbols first).Nodup := by
  have hvisible : ((x.slots.entries.filter fun entry =>
      hidden || entry.2.enumerable).map Prod.fst).Nodup :=
    x.slots.nodup.sublist (List.filter_sublist.map _)
  rw [(x.orderedKeys_perm hidden symbols first false).nodup_iff, orderedKeys, List.nodup_append]
  refine ⟨List.Pairwise.filter _ hvisible, ?_, ?_⟩
  · split
    · exact List.Pairwise.filter _ hvisible
    · exact List.nodup_nil
  -- One part has symbols only, the other has none.
  · intro a ha b hb
    rintro rfl
    cases symbols <;> simp_all

end ObjectRecord

/-! ### Arenas -/

namespace Realm

variable {P : Platform}

/-- Changing an object keeps the number of objects. -/
@[simp] theorem size_update (r : Realm P) (h : Handle) (f : ObjectRecord P → ObjectRecord P) :
    (r.update h f).size = r.size := by
  simp [update, size]

/-- The object under a handle after one object was changed. A handle outside
the arena stands for a bare object before and after. -/
theorem record_update (r : Realm P) (h h' : Handle) (f : ObjectRecord P → ObjectRecord P) :
    (r.update h f).record h'
      = if h' = h ∧ h.index < r.size then f (r.record h) else r.record h' := by
  unfold record update size
  simp only [Array.getD_eq_getD_getElem?, Array.getElem?_modify]
  by_cases hh : h' = h
  · subst hh
    by_cases hlt : h'.index < r.objects.size
    · simp [hlt]
    · simp [hlt]
  -- Handles are their indices, so different handles are different places.
  · have hne : ¬ h.index = h'.index := by
      intro heq
      cases h
      cases h'
      exact hh (by simpa using heq.symm)
    simp [hh, hne]

/-- A changed object is read back changed. -/
theorem record_update_self {r : Realm P} {h : Handle} (hlt : h.index < r.size)
    (f : ObjectRecord P → ObjectRecord P) : (r.update h f).record h = f (r.record h) := by
  rw [record_update, if_pos ⟨rfl, hlt⟩]

/-- Changing an object leaves the others alone. -/
theorem record_update_of_ne {r : Realm P} {h h' : Handle} (hne : h' ≠ h)
    (f : ObjectRecord P → ObjectRecord P) : (r.update h f).record h' = r.record h' := by
  rw [record_update, if_neg fun hand => hne hand.1]

/-- Changing one object keeps what holds of every object, if the change
keeps it. This is how an invariant of objects meets a write: whether the
handle is the one written to, or in the arena at all, does not matter. -/
theorem forall_record_update {r : Realm P} {h : Handle} {f : ObjectRecord P → ObjectRecord P}
    {p : Handle → ObjectRecord P → Prop} (hkeep : ∀ h', p h' (r.record h'))
    (hwrite : h.index < r.size → p h (f (r.record h))) (h' : Handle) :
    p h' ((r.update h f).record h') := by
  rw [record_update]
  split
  -- Only a handle in the arena is written to.
  · rename_i hand
    obtain ⟨rfl, hlt⟩ := hand
    exact hwrite hlt
  · exact hkeep h'

/-- Of a change to an object only what it makes of that object counts. Outside
the arena it makes nothing. -/
theorem update_congr {r : Realm P} {h : Handle} {f g : ObjectRecord P → ObjectRecord P}
    (hfg : f (r.record h) = g (r.record h)) : r.update h f = r.update h g := by
  have hobjects : r.objects.modify h.index f = r.objects.modify h.index g := by
    -- Both arenas are compared place by place, and one place differs.
    apply Array.ext_getElem?
    intro i
    rw [Array.getElem?_modify, Array.getElem?_modify]
    by_cases hi : h.index = i
    · subst hi
      unfold record at hfg
      rw [Array.getD_eq_getD_getElem?] at hfg
      cases hobject : r.objects[h.index]? with
      | none => simp
      | some object => simpa [hobject] using hfg
    · simp [hi]
  rw [update, hobjects]
  rfl

/-- A change that makes nothing new of an object is no change. It is that of
the function which leaves every object as it is. -/
theorem update_eq_self {r : Realm P} {h : Handle} {f : ObjectRecord P → ObjectRecord P}
    (hf : f (r.record h) = r.record h) : r.update h f = r := by
  rw [update_congr (g := id) hf]
  have hobjects : r.objects.modify h.index id = r.objects := by
    apply Array.ext_getElem?
    intro i
    rw [Array.getElem?_modify]
    split <;> simp
  rw [update, hobjects]

/-- Changing an object twice is changing it once, by both changes after each
other. -/
theorem update_update (r : Realm P) (h : Handle) (f g : ObjectRecord P → ObjectRecord P) :
    (r.update h f).update h g = r.update h fun record => g (f record) := by
  have hobjects : (r.objects.modify h.index f).modify h.index g
      = r.objects.modify h.index fun record => g (f record) := by
    apply Array.ext_getElem?
    intro i
    simp only [Array.getElem?_modify]
    split
    · rw [Option.map_map]
      rfl
    · rfl
  simp only [update, hobjects]

/-- The object under a handle after an object was added. -/
theorem record_allocate (r : Realm P) (record : ObjectRecord P) (h : Handle) :
    (r.allocate record).2.record h = if h.index = r.size then record else r.record h := by
  unfold Realm.record allocate size
  simp only [Array.getD_eq_getD_getElem?, Array.getElem?_push]
  split <;> rfl

/-- A new object makes the arena longer by one. -/
theorem size_allocate (r : Realm P) (record : ObjectRecord P) :
    (r.allocate record).2.size = r.size + 1 := by
  simp [allocate, size]

/-- What is read under a handle outside the arena is a bare object. -/
theorem record_eq_default {r : Realm P} {h : Handle} (hge : r.size ≤ h.index) :
    r.record h = default := by
  unfold record
  rw [Array.getD_eq_getD_getElem?, Array.getElem?_eq_none hge]
  rfl

/-- A handle under which something other than a bare object is read lies
in the arena. -/
theorem lt_size_of_record_ne {r : Realm P} {h : Handle} (hne : r.record h ≠ default) :
    h.index < r.size :=
  Nat.lt_of_not_le fun hge => hne (record_eq_default hge)

/-- A generator lies in the arena. -/
theorem lt_size_of_generator {r : Realm P} {h : Handle} {g : Generator P}
    (hg : (r.record h).kind = .generator g) : h.index < r.size := by
  apply lt_size_of_record_ne
  intro hdefault
  rw [hdefault] at hg
  cases hg

/-- A list iterator lies in the arena. -/
theorem lt_size_of_listIterator {r : Realm P} {h : Handle} {c : ListCursor}
    (hcursor : (r.record h).kind = .listIterator c) : h.index < r.size := by
  apply lt_size_of_record_ne
  intro hdefault
  rw [hdefault] at hcursor
  cases hcursor

/-- A foreign object lies in the arena. -/
theorem lt_size_of_foreign {r : Realm P} {h : Handle} {host : P.Host}
    (hforeign : (r.record h).kind = .foreign host) : h.index < r.size := by
  apply lt_size_of_record_ne
  intro hdefault
  rw [hdefault] at hforeign
  cases hforeign

/-- A function of a new realm. -/
def RunsIntrinsic (r : Realm P) (f : Handle) (i : IntrinsicFunction) : Prop :=
  ∃ data, (r.record f).kind = .function data ∧ data.code = .intrinsic i

/-- A function of a new realm can be called. -/
theorem RunsIntrinsic.isCallable {r : Realm P} {f : Handle} {i : IntrinsicFunction}
    (hruns : r.RunsIntrinsic f i) :
    r.isCallable (.object f) = true := by
  obtain ⟨data, hkind, -⟩ := hruns
  rw [Realm.isCallable, hkind]
  rfl

/-- It is in the arena, as no bare object is a function. -/
theorem RunsIntrinsic.lt_size {r : Realm P} {f : Handle} {i : IntrinsicFunction}
    (hruns : r.RunsIntrinsic f i) : f.index < r.size := by
  apply lt_size_of_record_ne
  intro hdefault
  obtain ⟨data, hkind, -⟩ := hruns
  rw [hdefault] at hkind
  cases hkind

end Realm

end ScriptRealm
