import ScriptRealm.Proofs.Assignment
import ScriptRealm.Proofs.Grouping.Rounds

/-!
# `ScriptRealm.Proofs.Grouping.Showing`: what the object of groups shows

The object of groups holds arrays of the lists that `Groups.shown` has, under
each property key the items of the last group with that key
(`Groups.get?_shown`). Each time an array takes the place of another one the
items of the other are gone (`OrderedMap.count_items_insert`), and no group is
empty. So all items are shown if and only if no two groups have the same
property key (`toObject_keeps_items_iff`).
-/

set_option autoImplicit false

namespace ScriptRealm

/-! ### Tables of lists -/

namespace OrderedMap

variable {κ ν α : Type} [DecidableEq κ]

/-- All items of a table of lists. -/
def items (m : OrderedMap κ (List α)) : List α := m.entries.flatMap Prod.snd

/-- The last list under a key is the one that stays. If there is none, the
table has under the key what it had before. -/
theorem get?_insertAll (m : OrderedMap κ (List α)) (lists : List (κ × List α)) (key : κ) :
    (m.insertAll lists).get? key
      = (((lists.filter (·.1 = key)).getLast?).map Prod.snd).or (m.get? key) := by
  induction lists generalizing m with
  | nil => rfl
  | cons list rest ih =>
      have hrest := ih (m.insert list.1 list.2)
      rw [insertAll, List.foldl_cons, ← insertAll, hrest, get?_insert, List.filter_cons]
      by_cases hkey : list.1 = key
      · subst hkey
        simp [List.getLast?_cons]
      · have hne : ¬ key = list.1 := fun h => hkey h.symm
        simp [hkey, hne]

variable [DecidableEq α]

/-- Overwriting one list of several, counted. The key occurs once, so the lists
behind it stay as they are. -/
theorem count_flatMap_overwrite {entries : List (κ × List α)}
    (hnodup : (entries.map Prod.fst).Nodup)
    {key : κ} {old : List α} (hold : (key, old) ∈ entries) (added : List α) (item : α) :
    ((entries.map fun entry => (entry.1, if entry.1 = key then added else entry.2)).flatMap
        Prod.snd).count item + old.count item
      = (entries.flatMap Prod.snd).count item + added.count item := by
  induction entries with
  | nil => cases hold
  | cons entry rest ih =>
      rw [List.map_cons, List.nodup_cons] at hnodup
      rw [List.map_cons, List.flatMap_cons, List.flatMap_cons, List.count_append, List.count_append]
      cases hold with
      | head =>
          have hsame : rest.map (fun entry => (entry.1, if entry.1 = key then added else entry.2))
              = rest.map id := by
            apply List.map_congr_left
            intro entry hentry
            have hne : entry.1 ≠ key := by
              rintro rfl
              exact hnodup.1 (List.mem_map.mpr ⟨entry, hentry, rfl⟩)
            rw [if_neg hne]
            rfl
          rw [hsame, List.map_id]
          simp only [if_true]
          omega
      | tail _ hrest =>
          have hne : entry.1 ≠ key := by
            intro heq
            exact hnodup.1 (heq ▸ List.mem_map_of_mem hrest)
          have hcount := ih hnodup.2 hrest
          simp only [if_neg hne]
          omega

/-- An insertion adds items, and those that were under the key are gone. Both
are counted, so that nothing is subtracted. -/
theorem count_items_insert (m : OrderedMap κ (List α)) (key : κ) (added : List α) (item : α) :
    (m.insert key added).items.count item + ((m.get? key).getD []).count item
      = m.items.count item + added.count item := by
  cases hold : m.get? key with
  | none =>
      rw [items, entries_insert_of_new hold, List.flatMap_append, List.count_append]
      simp [items]
  | some old =>
      have hkey : m.contains key = true := by
        rw [contains_eq_isSome, hold]
        rfl
      rw [items, entries_insert_of_contains hkey]
      exact count_flatMap_overwrite m.nodup (mem_of_get? hold) added item

/-- No item gets into a table twice. There are no more of it than in the table
and in the lists together, by induction on the lists. -/
theorem count_insertAll_le (m : OrderedMap κ (List α)) (lists : List (κ × List α)) (item : α) :
    (m.insertAll lists).items.count item
      ≤ m.items.count item + (lists.flatMap Prod.snd).count item := by
  induction lists generalizing m with
  | nil => simp [insertAll]
  | cons list rest ih =>
      have hrest := ih (m.insert list.1 list.2)
      have hfirst := m.count_items_insert list.1 list.2 item
      rw [insertAll, List.foldl_cons, ← insertAll, List.flatMap_cons, List.count_append]
      omega

/-- All items get into a table if and only if every key is new. A list that is
overwritten is not empty, so its items are missed. -/
theorem count_insertAll_eq_iff (m : OrderedMap κ (List α)) (lists : List (κ × List α))
    (hm : ∀ key list, m.get? key = some list → list ≠ []) (hlists : ∀ list ∈ lists, list.2 ≠ []) :
    (∀ item, (m.insertAll lists).items.count item
        = m.items.count item + (lists.flatMap Prod.snd).count item) ↔
      (lists.map Prod.fst).Nodup ∧ ∀ list ∈ lists, m.get? list.1 = none := by
  induction lists generalizing m with
  | nil => simp [insertAll]
  | cons list rest ih =>
      have hinserted : ∀ key list', (m.insert list.1 list.2).get? key = some list' →
          list' ≠ [] := by
        intro key list' hget
        rw [get?_insert] at hget
        split at hget
        · cases hget
          exact hlists list List.mem_cons_self
        · exact hm key list' hget
      have hrest := ih (m.insert list.1 list.2) hinserted fun list' hmem =>
        hlists list' (List.mem_cons_of_mem _ hmem)
      have hle := (m.insert list.1 list.2).count_insertAll_le rest
      have hfirst := m.count_items_insert list.1 list.2
      have hfold : m.insertAll (list :: rest) = (m.insert list.1 list.2).insertAll rest := rfl
      simp only [hfold, List.flatMap_cons, List.count_append, List.map_cons, List.nodup_cons,
        List.forall_mem_cons]
      constructor
      · intro hall
        -- Nothing was under the first key.
        have hnone : m.get? list.1 = none := by
          cases hold : m.get? list.1 with
          | none => rfl
          | some old =>
              have hempty : old = [] := by
                apply List.eq_nil_iff_forall_not_mem.mpr
                intro item hitem
                have hpos := List.count_pos_iff.mpr hitem
                have hcount := hfirst item
                rw [hold, Option.getD_some] at hcount
                have hall := hall item
                have hle := hle item
                omega
              exact absurd hempty (hm _ _ hold)
        have heq : ∀ item, ((m.insert list.1 list.2).insertAll rest).items.count item
            = (m.insert list.1 list.2).items.count item + (rest.flatMap Prod.snd).count item := by
          intro item
          have hcount := hfirst item
          rw [hnone, Option.getD_none, List.count_nil] at hcount
          have hall := hall item
          omega
        obtain ⟨hnodup, hnew⟩ := hrest.mp heq
        have hothers : ∀ list' ∈ rest, list'.1 ≠ list.1 ∧ m.get? list'.1 = none := by
          intro list' hmem
          have hget := hnew list' hmem
          rw [get?_insert] at hget
          by_cases heq : list'.1 = list.1
          · rw [if_pos heq] at hget
            cases hget
          · rw [if_neg heq] at hget
            exact ⟨heq, hget⟩
        refine ⟨⟨?_, hnodup⟩, hnone, fun list' hmem => (hothers list' hmem).2⟩
        intro hmem
        obtain ⟨list', hlist', heq⟩ := List.mem_map.mp hmem
        exact (hothers list' hlist').1 heq
      · rintro ⟨⟨hnot, hnodup⟩, hnone, hnew⟩ item
        have hothers : ∀ list' ∈ rest, (m.insert list.1 list.2).get? list'.1 = none := by
          intro list' hmem
          have hne : list'.1 ≠ list.1 := fun heq => hnot (List.mem_map.mpr ⟨list', hmem, heq⟩)
          rw [get?_insert, if_neg hne]
          exact hnew list' hmem
        have hcount := hfirst item
        rw [hnone, Option.getD_none, List.count_nil] at hcount
        have hall := hrest.mpr ⟨hnodup, hothers⟩ item
        omega

end OrderedMap

/-! ### Groups by property key -/

namespace Groups

/-- Under a property key the last group with that key is shown. The groups are
put in one after the other, and each takes the place of an earlier one. -/
theorem get?_shown (groups : Groups) (key : PropertyKey) :
    groups.shown.get? key
      = ((groups.entries.filter (·.1.toPropertyKey = key)).getLast?).map Prod.snd := by
  have hempty : (OrderedMap.empty : OrderedMap PropertyKey (List Value)).get? key = none := rfl
  rw [shown, OrderedMap.get?_insertAll, hempty, Option.or_none, List.filter_map, List.getLast?_map,
    Option.map_map]
  rfl

/-- All items of groups that are not empty are shown if and only if no two
groups have the same property key. -/
theorem count_shown_eq_iff {groups : Groups} (hgroups : ∀ group ∈ groups.entries, group.2 ≠ []) :
    (∀ item, groups.shown.items.count item = groups.items.count item) ↔
      (groups.keys.map GroupKey.toPropertyKey).Nodup := by
  have hlists : ∀ list ∈ groups.entries.map (fun group => (group.1.toPropertyKey, group.2)),
      list.2 ≠ [] := by
    intro list hlist
    obtain ⟨group, hgroup, rfl⟩ := List.mem_map.mp hlist
    exact hgroups group hgroup
  -- The object starts empty, so that nothing but the groups themselves can clash.
  have hiff := OrderedMap.empty.count_insertAll_eq_iff _ nofun hlists
  have hkeys : (groups.entries.map fun group => (group.1.toPropertyKey, group.2)).map Prod.fst
      = groups.keys.map GroupKey.toPropertyKey := by
    rw [OrderedMap.keys, List.map_map, List.map_map]
    rfl
  have hitems : (groups.entries.map fun group => (group.1.toPropertyKey, group.2)).flatMap Prod.snd
      = groups.items := by
    rw [List.flatMap_map]
    rfl
  have hempty : ∀ list ∈ groups.entries.map (fun group => (group.1.toPropertyKey, group.2)),
      (OrderedMap.empty : OrderedMap PropertyKey (List Value)).get? list.1 = none :=
    fun _ _ => rfl
  rw [hkeys, and_iff_left hempty, hitems] at hiff
  rw [← hiff, shown]
  simp [OrderedMap.items, OrderedMap.empty]

/-- No group of a list is empty. A group is made when its first item comes,
and no item is taken away. -/
theorem ne_nil_of_mem_ofList {keyed : List (GroupKey × Value)} {group : GroupKey × List Value}
    (hgroup : group ∈ (ofList keyed).entries) : group.2 ≠ [] := by
  -- By induction on the list a statement about keys is easier than one about members.
  have hget : ∀ key items, (ofList keyed).get? key = some items → items ≠ [] := by
    clear hgroup
    induction keyed with
    | nil => nofun
    | cons first rest ih =>
        intro key items hitems
        obtain ⟨key', item⟩ := first
        rw [ofList_cons, addFirst, OrderedMap.get?_insertFirst] at hitems
        by_cases hkey : key = key'
        · rw [if_pos hkey] at hitems
          cases hitems
          exact List.cons_ne_nil _ _
        · rw [if_neg hkey] at hitems
          exact ih key items hitems
  exact hget _ _ (OrderedMap.get?_eq_of_mem hgroup)

end Groups

/-! ### The object of groups -/

variable {P : Platform}

namespace Grouping

/-- Grouping comes to the groups of some items with keys. Items and callback
are checked before, and a failed check comes to nothing. -/
theorem exists_ofList_of_groupBy {hooks : Hooks P} {items callback : Value}
    {coercion : KeyCoercion} {groups : Groups} {m m' : Machine P}
    (hgroups : groupBy hooks items callback coercion m = .done groups m') :
    ∃ keyed, groups = .ofList keyed := by
  unfold groupBy at hgroups
  rw [Action.bind_apply, Action.realm] at hgroups
  simp only [] at hgroups
  split at hgroups
  · cases hgroups
  · split at hgroups
    · obtain ⟨record, m₀, -, hkeys⟩ := Action.exists_of_bind hgroups
      obtain ⟨keyed, m₁, -, hdone⟩ := Action.exists_of_bind hkeys
      cases hdone
      exact ⟨keyed, rfl⟩
    · cases hgroups

end Grouping

open Grouping (groupBy toObject)

/-- The object of groups keeps all items if and only if the groups' keys are
stood for by different property keys. Whatever a grouping has come to, an
object can be made of it in any machine. Its properties hold arrays, under each
property key that of the last group with the key. They have each item as often
as the groups do just in case no two groups share a property key. The places of
an array are counted without a bound (`Realm.HoldsArray`), so this is about
groups of fewer than `2 ^ 32` items, which are the groups that there can be. -/
theorem toObject_keeps_items_iff (hooks : Hooks P) (items callback : Value)
    (coercion : KeyCoercion) {groups : Groups} {m m' : Machine P}
    (hgroups : groupBy hooks items callback coercion m = .done groups m') (k : Machine P) :
    ∃ s arrays, toObject groups k = .done ⟨k.realm.size⟩ ⟨s, k.memory⟩ ∧
      s.ShowsArrays ⟨k.realm.size⟩ arrays ∧
      (∀ key, arrays.get? key
        = ((groups.entries.filter (·.1.toPropertyKey = key)).getLast?).map Prod.snd) ∧
      ((∀ item, arrays.items.count item = groups.items.count item) ↔
        (groups.keys.map GroupKey.toPropertyKey).Nodup) := by
  obtain ⟨keyed, rfl⟩ := Grouping.exists_ofList_of_groupBy hgroups
  obtain ⟨s, hobject, hgathers⟩ := Grouping.toObject_gathers (.ofList keyed) k
  exact ⟨s, _, hobject, hgathers.toShowsArrays, Groups.get?_shown _,
    Groups.count_shown_eq_iff fun _ hgroup => Groups.ne_nil_of_mem_ofList hgroup⟩

/-- `zerosMachine` with an iterator that gives the text of null and null. -/
def nullsMachine (given : Nat) : Machine Platform.fixed :=
  { zerosMachine given with
    realm := ((zerosMachine given).realm.insertSlot ⟨3⟩ (.string "value")
      (.plain (.string "null"))).insertSlot ⟨5⟩ (.string "done") (.plain (.boolean true)) }

/-- The groups of null and its text. -/
def nullsGroups : Groups :=
  .ofList [(.collection (.string "null"), .string "null"), (.collection .null, .null)]

/-- Grouping the two items gives the two groups. -/
theorem groupBy_nullsMachine :
    groupBy zerosHooks (.object ⟨0⟩) (.object ⟨1⟩) .collection (nullsMachine 0)
      = .done nullsGroups (nullsMachine 3) := rfl

/-- The text of null and null are two groups with one property key. The
theorem says that items are lost just for that reason. -/
theorem toObject_keeps_items_iff_nulls :
    ∃ s arrays, toObject nullsGroups (nullsMachine 3) = .done ⟨7⟩ ⟨s, ()⟩ ∧
      s.ShowsArrays ⟨7⟩ arrays ∧
      ((∀ item, arrays.items.count item = nullsGroups.items.count item) ↔
        [PropertyKey.string "null", .string "null"].Nodup) := by
  obtain ⟨s, arrays, hobject, hshows, -, hiff⟩ := toObject_keeps_items_iff zerosHooks (.object ⟨0⟩)
    (.object ⟨1⟩) .collection groupBy_nullsMachine (nullsMachine 3)
  exact ⟨s, arrays, hobject, hshows, hiff⟩

/-- Of two groups under one property key the items of the first are lost. The
groups are those of a run, and the object shows one array. -/
theorem toObject_loses_items :
    groupBy zerosHooks (.object ⟨0⟩) (.object ⟨1⟩) .collection (nullsMachine 0)
        = .done nullsGroups (nullsMachine 3) ∧
      nullsGroups.items = [.string "null", .null] ∧
      ∃ s arrays, toObject nullsGroups (nullsMachine 3) = .done ⟨7⟩ ⟨s, ()⟩ ∧
        s.ShowsArrays ⟨7⟩ arrays ∧ arrays.items = [.null] := by
  obtain ⟨s, hobject, hgathers⟩ := Grouping.toObject_gathers nullsGroups (nullsMachine 3)
  exact ⟨groupBy_nullsMachine, rfl, s, _, hobject, hgathers.toShowsArrays, rfl⟩

end ScriptRealm
