import ScriptRealm.Proofs.Grouping.Partition

/-!
# `ScriptRealm.Proofs.Grouping.Object`: the object of groups

The object that is made of groups gets an array for each group, one after the
other, under the property key that stands for the group's key. Keys of a
collection that differ may be stood for by one property key, and then the
later array takes the place of the earlier one. `Groups.shown` is what is left
in the end: a table of lists, under each property key the items of the last
group with that key.

`Realm.ShowsArrays` says that an object holds arrays of the lists of a table.
The object of groups shows `Groups.shown`, in any machine and for any groups
(`Grouping.toObject_gathers`): by induction on the groups, since each new array
leaves those that are there alone.

Groups by property keys have different property keys, so nothing is
overwritten. `Groups.ShownBy` is what the object of such groups looks like, with
one property for each group.
-/

set_option autoImplicit false

namespace ScriptRealm

/-! ### Arrays -/

namespace Realm

variable {P : Platform} {r s : Realm P} {h target : Handle}

/-- An object is an array of values: it has them under its indices, and
their number under `length`. Places are counted in `Nat`. For fewer than
`2 ^ 32` values they are the places of 32 bits that indices have. -/
structure HoldsArray (r : Realm P) (h : Handle) (values : List Value) : Prop where
  kind : (r.record h).kind = .ordinary
  prototype : (r.record h).prototype = some Intrinsic.arrayPrototype
  element : ∀ i, (r.record h).slot? (.index i) = values[i]?.map Slot.plain
  length : (r.record h).slot? (.string "length")
    = some ⟨.data (.number (.ofNat values.length)) true, false, false⟩

/-- The slots of a new array under the indices: the values under the first
ones, in their order, and none under the others. -/
theorem get?_arraySlots_index (values : List Value) (i : Nat) :
    (arraySlots values).get? (.index i) = values[i]?.map Slot.plain := by
  cases hvalue : values[i]? with
  | some value =>
      have hmem : (PropertyKey.index i, Slot.plain value) ∈ (arraySlots values).entries := by
        apply List.mem_append_left
        exact List.mem_map.mpr ⟨(value, i), List.mem_zipIdx_iff_getElem?.mpr hvalue, rfl⟩
      rw [OrderedMap.get?_eq_of_mem hmem]
      rfl
  -- No entry of the table is under this index, for `length` is a text.
  | none =>
      apply OrderedMap.get?_eq_none_of_not_contains
      rw [OrderedMap.contains_iff]
      intro hkey
      simp only [OrderedMap.keys, arraySlots, List.map_append, List.map_map, List.mem_append,
        List.mem_map, Function.comp_apply] at hkey
      obtain ⟨⟨value, j⟩, hmem, heq⟩ | hlength := hkey
      · cases heq
        rw [List.mem_zipIdx_iff_getElem?.mp hmem] at hvalue
        cases hvalue
      · simp at hlength

/-- The number of values is the last entry of the table. -/
theorem get?_arraySlots_length (values : List Value) :
    (arraySlots values).get? (.string "length")
      = some ⟨.data (.number (.ofNat values.length)) true, false, false⟩ :=
  OrderedMap.get?_eq_of_mem (List.mem_append_right _ List.mem_cons_self)

/-- An array is one new object. -/
theorem size_createArray (r : Realm P) (values : List Value) :
    (r.createArray values).2.size = r.size + 1 :=
  size_allocate r _

/-- The new object is the array, and the other ones stay. -/
theorem record_createArray (r : Realm P) (values : List Value) (h : Handle) :
    (r.createArray values).2.record h = if h.index = r.size then
        { (ObjectRecord.create .ordinary (some Intrinsic.arrayPrototype) : ObjectRecord P) with
          slots := arraySlots values }
      else r.record h :=
  record_allocate r _ h

/-- An array is read back as what it was made of. Only the object counts, so
it may be in another realm and under another handle. -/
theorem holdsArray_of_record {values : List Value}
    (hrecord : s.record h = (r.createArray values).2.record ⟨r.size⟩) : s.HoldsArray h values := by
  rw [record_createArray, if_pos rfl] at hrecord
  refine ⟨?kind, ?prototype, ?element, ?length⟩
  case kind => rw [hrecord]; rfl
  case prototype => rw [hrecord]; rfl
  case element =>
    intro i
    rw [hrecord]
    exact get?_arraySlots_index values i
  case length =>
    rw [hrecord]
    exact get?_arraySlots_length values

namespace HoldsArray

variable {values : List Value}

/-- An array has a prototype, so it is in the arena. What is read outside of
it has none. -/
theorem lt_size (hholds : r.HoldsArray h values) : h.index < r.size := by
  apply lt_size_of_record_ne
  intro hdefault
  have hprototype := hholds.prototype
  rw [hdefault] at hprototype
  cases hprototype

/-- An array is what it is by its own record. So changes of other objects
leave it an array of the same values. -/
theorem congr (hholds : r.HoldsArray h values) (hsame : s.record h = r.record h) :
    s.HoldsArray h values :=
  ⟨hsame ▸ hholds.kind, hsame ▸ hholds.prototype, hsame ▸ hholds.element, hsame ▸ hholds.length⟩

end HoldsArray

end Realm

/-! ### Tables that are filled one entry after the other -/

namespace OrderedMap

variable {κ ν : Type} [DecidableEq κ]

/-- Values are put into a table one after the other. -/
def insertAll (m : OrderedMap κ ν) (entries : List (κ × ν)) : OrderedMap κ ν :=
  entries.foldl (fun m entry => m.insert entry.1 entry.2) m

/-- Entries under new keys that differ are added at the end. By induction on
the entries, for every table; the keys that follow are still new after the
first was added. -/
theorem entries_insertAll_of_new {entries : List (κ × ν)} (m : OrderedMap κ ν)
    (hnodup : (entries.map Prod.fst).Nodup) (hnew : ∀ entry ∈ entries, m.get? entry.1 = none) :
    (m.insertAll entries).entries = m.entries ++ entries := by
  induction entries generalizing m with
  | nil => simp [insertAll]
  | cons entry rest ih =>
      rw [List.map_cons, List.nodup_cons] at hnodup
      have hrest := ih (m.insert entry.1 entry.2) hnodup.2 (by
        intro entry' hmem
        have hne : entry'.1 ≠ entry.1 := by
          intro heq
          exact hnodup.1 (heq ▸ List.mem_map_of_mem hmem)
        rw [get?_insert, if_neg hne]
        exact hnew entry' (List.mem_cons_of_mem _ hmem))
      rw [insertAll, List.foldl_cons, ← insertAll, hrest,
        entries_insert_of_new (hnew entry List.mem_cons_self), List.append_assoc]
      rfl

end OrderedMap

/-- The lists that are shown under property keys. -/
def Groups.shown (groups : Groups) : OrderedMap PropertyKey (List Value) :=
  OrderedMap.empty.insertAll (groups.entries.map fun group => (group.1.toPropertyKey, group.2))

/-! ### The object of groups -/

variable {P : Platform}

/-- An object without prototype has plain properties, which hold arrays of the
given lists. -/
structure Realm.ShowsArrays (r : Realm P) (target : Handle)
    (arrays : OrderedMap PropertyKey (List Value)) : Prop where
  kind : (r.record target).kind = .ordinary
  prototype : (r.record target).prototype = none
  /-- The keys are in the order in which they came up. -/
  keys : (r.record target).slots.keys = arrays.keys
  held : ∀ key items, arrays.get? key = some items → ∃ array,
    (r.record target).slot? key = some (.plain (.object array)) ∧ r.HoldsArray array items

/-- An object has been given arrays of the given lists since a realm `r`. They
are new, and no array is held under two keys. No other object of `r` is
changed. -/
structure Realm.Gathers (r : Realm P) (target : Handle)
    (arrays : OrderedMap PropertyKey (List Value)) (s : Realm P) : Prop
    extends s.ShowsArrays target arrays where
  fresh : ∀ key array, (s.record target).slot? key = some (.plain (.object array)) →
    r.size ≤ array.index
  apart : ∀ key key' array, (s.record target).slot? key = some (.plain (.object array)) →
    (s.record target).slot? key' = some (.plain (.object array)) → key = key'
  others : ∀ h, h ≠ target → h.index < r.size → s.record h = r.record h

/-- What an object shows is in the arena: a key that it has is one of the
table, and holds an array. -/
theorem Realm.ShowsArrays.lt_size {r : Realm P} {target array : Handle}
    {arrays : OrderedMap PropertyKey (List Value)} (hshows : r.ShowsArrays target arrays)
    {key : PropertyKey} (hslot : (r.record target).slot? key = some (.plain (.object array))) :
    array.index < r.size := by
  have hkey : key ∈ arrays.keys := by
    rw [← hshows.keys, ← OrderedMap.contains_iff, OrderedMap.contains_eq_isSome]
    exact Option.isSome_iff_exists.mpr ⟨_, hslot⟩
  rw [← OrderedMap.contains_iff, OrderedMap.contains_eq_isSome] at hkey
  obtain ⟨items, hitems⟩ := Option.isSome_iff_exists.mp hkey
  obtain ⟨array', hslot', hholds⟩ := hshows.held key items hitems
  cases hslot.symm.trans hslot'
  exact hholds.lt_size

namespace Grouping

variable {r s : Realm P} {target : Handle} {arrays : OrderedMap PropertyKey (List Value)}

/-- Gives an object an array of a group's items. -/
def addArray (target : Handle) (r : Realm P) (group : GroupKey × List Value) : Realm P :=
  (r.createArray group.2).2.insertSlot target group.1.toPropertyKey
    (.plain (.object (r.createArray group.2).1))

/-- With each group there is one object more. -/
theorem size_addArray (target : Handle) (r : Realm P) (group : GroupKey × List Value) :
    (addArray target r group).size = r.size + 1 := by
  rw [addArray, Realm.insertSlot, Realm.size_update, Realm.size_createArray]

/-- Another object than the target is left alone, or is the new array. -/
theorem record_addArray_of_ne {h : Handle} (hne : h ≠ target) (group : GroupKey × List Value) :
    (addArray target r group).record h = (r.createArray group.2).2.record h :=
  Realm.record_update_of_ne hne _

/-- Another object of the arena than the target is left alone. -/
theorem record_addArray_of_lt {h : Handle} (hne : h ≠ target) (hlt : h.index < r.size)
    (group : GroupKey × List Value) : (addArray target r group).record h = r.record h := by
  rw [record_addArray_of_ne hne, Realm.record_createArray, if_neg (Nat.ne_of_lt hlt)]

/-- The target gets one slot, for the new array. The array comes to be first,
and its handle is the number of objects there were. -/
theorem record_addArray_target (htarget : target.index < r.size) (group : GroupKey × List Value) :
    (addArray target r group).record target
      = (r.record target).insert group.1.toPropertyKey (.plain (.object ⟨r.size⟩)) := by
  have hlt : target.index < (r.createArray group.2).2.size := by
    rw [Realm.size_createArray]
    omega
  have hold : (r.createArray group.2).2.record target = r.record target := by
    rw [Realm.record_createArray, if_neg (by omega)]
  rw [addArray, Realm.insertSlot, Realm.record_update_self hlt, hold]
  rfl

/-- What an object has under a key, after it got an array. A slot that was
there under the key of the group is replaced. -/
theorem slot?_addArray_target (htarget : target.index < r.size) (group : GroupKey × List Value)
    (key : PropertyKey) :
    ((addArray target r group).record target).slot? key
      = if key = group.1.toPropertyKey then some (.plain (.object ⟨r.size⟩))
        else (r.record target).slot? key := by
  rw [record_addArray_target htarget, ObjectRecord.slot?, ObjectRecord.insert,
    OrderedMap.get?_insert]
  rfl

/-- The new array is held under its key, in place of the array that was. The
arrays that are there are left alone: the target is no array, for it has no
prototype. -/
theorem showsArrays_addArray (hshows : r.ShowsArrays target arrays)
    (htarget : target.index < r.size) (group : GroupKey × List Value) :
    (addArray target r group).ShowsArrays target
      (arrays.insert group.1.toPropertyKey group.2) := by
  have hrecord := record_addArray_target htarget group
  have hne : (⟨r.size⟩ : Handle) ≠ target := by
    rintro rfl
    exact absurd htarget (Nat.lt_irrefl _)
  refine ⟨?kind, ?prototype, ?keys, ?held⟩
  case kind =>
    rw [hrecord]
    exact hshows.kind
  case prototype =>
    rw [hrecord]
    exact hshows.prototype
  case keys => rw [hrecord, ObjectRecord.insert, OrderedMap.keys_insert, OrderedMap.keys_insert,
    hshows.keys]
  case held =>
    intro key items hitems
    rw [slot?_addArray_target htarget]
    rw [OrderedMap.get?_insert] at hitems
    by_cases hkey : key = group.1.toPropertyKey
    · rw [if_pos hkey] at hitems ⊢
      cases hitems
      refine ⟨⟨r.size⟩, rfl, ?_⟩
      apply Realm.holdsArray_of_record (r := r)
      rw [record_addArray_of_ne hne]
    · rw [if_neg hkey] at hitems ⊢
      obtain ⟨array, hslot, hholds⟩ := hshows.held key items hitems
      have hother : array ≠ target := by
        rintro rfl
        have hprototype := hholds.prototype
        rw [hshows.prototype] at hprototype
        cases hprototype
      exact ⟨array, hslot, hholds.congr (record_addArray_of_lt hother hholds.lt_size group)⟩

/-- One array more is gathered. It comes after all that are there, so it is
none of them. -/
theorem gathers_addArray (hgathers : r.Gathers target arrays s) (htarget : target.index < s.size)
    (hle : r.size ≤ s.size) (group : GroupKey × List Value) :
    r.Gathers target (arrays.insert group.1.toPropertyKey group.2) (addArray target s group) := by
  have hslot := slot?_addArray_target htarget group
  -- What was held before is not the new array.
  have hold : ∀ key, (s.record target).slot? key ≠ some (.plain (.object ⟨s.size⟩)) :=
    fun key hheld => Nat.lt_irrefl _ (hgathers.lt_size hheld)
  refine ⟨showsArrays_addArray hgathers.toShowsArrays htarget group, ?fresh, ?apart, ?others⟩
  case fresh =>
    intro key array hheld
    rw [hslot] at hheld
    split at hheld
    · cases hheld
      exact hle
    · exact hgathers.fresh key array hheld
  case apart =>
    intro key key' array hheld hheld'
    rw [hslot] at hheld hheld'
    split at hheld <;> split at hheld'
    · simp_all
    · cases hheld
      exact absurd hheld' (hold key')
    · cases hheld'
      exact absurd hheld (hold key)
    · exact hgathers.apart key key' array hheld hheld'
  case others =>
    intro h hne hlt
    rw [record_addArray_of_lt hne (by omega), hgathers.others h hne hlt]

/-- One array after the other is gathered. By induction on the groups, for
every realm and every table of arrays so far. -/
theorem gathers_foldl {groups : List (GroupKey × List Value)} (hgathers : r.Gathers target arrays s)
    (htarget : target.index < s.size) (hle : r.size ≤ s.size) :
    r.Gathers target
      (arrays.insertAll (groups.map fun group => (group.1.toPropertyKey, group.2)))
      (groups.foldl (addArray target) s) := by
  induction groups generalizing s arrays with
  | nil => exact hgathers
  | cons group rest ih =>
      have hsize := size_addArray target s group
      exact ih (gathers_addArray hgathers htarget hle group) (by omega) (by omega)

/-- Making an object of groups is adding arrays to a bare one. -/
theorem toObject_apply (groups : Groups) (m : Machine P) :
    toObject groups m = .done ⟨m.realm.size⟩
      ⟨groups.entries.foldl (addArray ⟨m.realm.size⟩) (m.realm.createWith none).2, m.memory⟩ :=
  rfl

/-- The object of groups gathers what is shown of them. It begins as a bare
object, which gathers nothing yet. -/
theorem toObject_gathers (groups : Groups) (k : Machine P) :
    ∃ s, toObject groups k = .done ⟨k.realm.size⟩ ⟨s, k.memory⟩ ∧
      k.realm.Gathers ⟨k.realm.size⟩ groups.shown s := by
  have hrecord : (k.realm.createWith none).2.record ⟨k.realm.size⟩
      = .create .ordinary none := by
    rw [Realm.createWith, Realm.record_allocate, if_pos rfl]
  have hsize : (k.realm.createWith none).2.size = k.realm.size + 1 := Realm.size_allocate _ _
  -- The bare object that is begun with has no slots.
  have hbare : k.realm.Gathers ⟨k.realm.size⟩ .empty (k.realm.createWith none).2 := by
    refine ⟨⟨by rw [hrecord]; rfl, by rw [hrecord]; rfl, by rw [hrecord]; rfl, nofun⟩, ?fresh,
      ?apart, ?others⟩
    case fresh =>
      intro key array hheld
      rw [hrecord] at hheld
      cases hheld
    case apart =>
      intro key key' array hheld
      rw [hrecord] at hheld
      cases hheld
    case others =>
      intro h _ hlt
      rw [Realm.createWith, Realm.record_allocate, if_neg (Nat.ne_of_lt hlt)]
  exact ⟨_, toObject_apply groups k,
    gathers_foldl hbare (hsize ▸ Nat.lt_succ_self _) (hsize ▸ Nat.le_succ _)⟩

end Grouping

/-- An object shows groups by property keys. It is new and has no prototype.
For each group, in their order, it has a property under the group's key that
may be written, listed and redefined. The property holds an array of the
group's items that is new and its own. -/
structure Groups.ShownBy (groups : Groups) (r : Realm P) (target : Handle) (s : Realm P) :
    Prop where
  fresh : target.index = r.size
  kind : (s.record target).kind = .ordinary
  prototype : (s.record target).prototype = none
  keys : (s.record target).slots.keys.map GroupKey.property = groups.keys
  held : ∀ key items, (GroupKey.property key, items) ∈ groups.entries → ∃ array,
    (s.record target).slot? key = some ⟨.data (.object array) true, true, true⟩ ∧
      r.size < array.index ∧ s.HoldsArray array items ∧
      ∀ key', (s.record target).slot? key' = some ⟨.data (.object array) true, true, true⟩ →
        key' = key
  others : ∀ h, h.index < r.size → s.record h = r.record h

/-- Groups by property keys are shown by the object that is made of them. Their
property keys differ, as the keys do, so the table that is shown is that of the
groups. -/
theorem Grouping.toObject_shows {groups : Groups}
    (hproperty : ∀ key ∈ groups.keys, GroupKey.property key.toPropertyKey = key) (m : Machine P) :
    ∃ s, Grouping.toObject groups m = .done ⟨m.realm.size⟩ ⟨s, m.memory⟩ ∧
      groups.ShownBy m.realm ⟨m.realm.size⟩ s := by
  obtain ⟨s, hobject, hgathers⟩ := toObject_gathers groups m
  have hfst : (groups.entries.map fun group => (group.1.toPropertyKey, group.2)).map Prod.fst
      = groups.keys.map GroupKey.toPropertyKey := by
    rw [OrderedMap.keys, List.map_map, List.map_map]
    rfl
  have hnodup : (groups.keys.map GroupKey.toPropertyKey).Nodup := by
    rw [List.Nodup, List.pairwise_map]
    apply List.Pairwise.imp_of_mem _ groups.nodup
    intro a b ha hb hne heq
    exact hne (by rw [← hproperty a ha, ← hproperty b hb, heq])
  -- No key comes up twice, so every group has its own entry.
  have hentries : groups.shown.entries
      = groups.entries.map fun group => (group.1.toPropertyKey, group.2) :=
    OrderedMap.entries_insertAll_of_new _ (hfst ▸ hnodup) fun _ _ => rfl
  refine ⟨s, hobject, rfl, hgathers.kind, hgathers.prototype, ?keys, ?held, ?others⟩
  case keys =>
    rw [hgathers.keys, OrderedMap.keys, hentries, hfst, List.map_map]
    exact (List.map_congr_left hproperty).trans (List.map_id _)
  case held =>
    intro key items hmem
    have hshown : groups.shown.get? key = some items := by
      apply OrderedMap.get?_eq_of_mem
      rw [hentries]
      exact List.mem_map.mpr ⟨_, hmem, rfl⟩
    obtain ⟨array, hslot, hholds⟩ := hgathers.held key items hshown
    refine ⟨array, hslot, ?_, hholds, fun key' hslot' => hgathers.apart key' key array hslot' hslot⟩
    -- The object itself has the first new place.
    have hne : array ≠ ⟨m.realm.size⟩ := by
      rintro rfl
      have hprototype := hholds.prototype
      rw [hgathers.prototype] at hprototype
      cases hprototype
    have hle := hgathers.fresh key array hslot
    have hindex : array.index ≠ m.realm.size := fun heq => hne (congrArg Handle.mk heq)
    omega
  case others =>
    intro h hlt
    apply hgathers.others h _ hlt
    rintro rfl
    exact absurd hlt (Nat.lt_irrefl _)

end ScriptRealm
