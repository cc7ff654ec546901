import ScriptRealm.Grouping
import ScriptRealm.Proofs.Table

/-!
# `ScriptRealm.Proofs.Grouping.Partition`: groups are a stable partition

`Groups.ofList` builds groups from the last item to the first.
`Groups.Partitions` says what they are without an order of building, and from
the answers of the callback as they were given: one group for each key, the
groups in the order in which their keys first come up, and in each group the
items whose answers have its key, in their order. These facts leave no choice,
there is one partition of a list of items with answers.

Which answers a key is for is told by `GroupKey.isFor`. As property keys the
answers are compared by what they name (`PropertyKey.ofValue`), and as the keys
of a collection by sameness up to the sign of zero (`Value.sameZero`). The code
compares keys for equality instead, after an answer has been turned into a key
by `GroupKey.ofValue`. `GroupKey.isFor_ofValue` says that it comes to the same.
-/

set_option autoImplicit false

namespace ScriptRealm

/-! ### Keys -/

/-- Folding leaves one zero. -/
theorem Number.eq_zero_of_isZero_fold {n : Number}
    (h : (if n.isZero then Number.zero else n).isZero = true) :
    (if n.isZero then Number.zero else n) = Number.zero := by
  by_cases hn : n.isZero = true
  · rw [if_pos hn]
  · rw [if_neg hn] at h
    exact absurd h hn

/-- Values that are not two zeros are the same exactly if they are equal. The
two zeros are the only pair that is the same without being equal. -/
theorem Value.sameZero_eq_decide {a b : Value}
    (hzeros : ∀ x y, a = .number x → b = .number y → x.isZero = true → y.isZero = true → x = y) :
    a.sameZero b = decide (a = b) := by
  unfold Value.sameZero
  split
  · rename_i x y
    have heq : x.isZero = true → y.isZero = true → x = y := hzeros x y rfl rfl
    -- Numbers are compared first, and only unequal ones are asked for zeros.
    by_cases hxy : x = y
    · simp [Number.sameZero, hxy]
    · have hnot : (x.isZero && y.isZero) = false := by
        rw [Bool.and_eq_false_iff]
        by_cases hx : x.isZero = true
        · right
          rw [Bool.eq_false_iff]
          exact fun hy => hxy (heq hx hy)
        · left
          simpa using hx
      simp [Number.sameZero, hxy, hnot]
  · rfl

/-- Which zero a number is does not show in a comparison up to the sign of
zero. So folding the zeros does not change it. -/
theorem Number.sameZero_fold (x y : Number) :
    x.sameZero (if y.isZero then Number.zero else y) = x.sameZero y := by
  by_cases hy : y.isZero = true
  · rw [if_pos hy]
    have hzero : Number.zero.isZero = true := rfl
    by_cases hx : x.isZero = true
    · simp [sameZero, hx, hy, hzero]
    · have hne : ∀ {z : Number}, z.isZero = true → (x == z) = false := by
        intro z hz
        rw [beq_eq_false_iff_ne]
        rintro rfl
        exact hx hz
      simp [sameZero, hx, hne hy, hne hzero]
  · rw [if_neg hy]

/-- It does not show for values either. Only numbers are folded, and only a
number can be the same as one. -/
theorem Value.sameZero_foldZero (a b : Value) :
    a.sameZero (GroupKey.foldZero b) = a.sameZero b := by
  cases b with
  | number y =>
      cases a with
      | number x => exact Number.sameZero_fold x y
      | _ => rfl
  | _ => rfl

namespace GroupKey

/-- Whether a key is the key of an answer. As a property key it is what the
answer names, and as a key of a collection it is the answer up to the sign of
zero. -/
def isFor (coercion : KeyCoercion) (key : GroupKey) (answer : Value) : Bool :=
  match coercion, key with
  | .property, .property key => key = PropertyKey.ofValue answer
  | .collection, .collection value => value.sameZero answer
  | _, _ => false

/-- Sameness of keys: equality of property keys, and sameness up to the
sign of zero of the values that are keys of a collection. -/
def same : GroupKey → GroupKey → Bool
  | .property a, .property b => a == b
  | .collection a, .collection b => a.sameZero b
  | _, _ => false

/-- Folded values are the same up to the sign of zero exactly if they are
equal. A folded value that is a zero is the positive one. -/
theorem sameZero_foldZero (a b : Value) :
    (foldZero a).sameZero (foldZero b) = decide (foldZero a = foldZero b) := by
  -- Two folded numbers that are zeros are the same zero.
  have hzero : ∀ {v : Value} {n : Number}, foldZero v = .number n → n.isZero = true →
      n = Number.zero := by
    intro v n hfold hn
    cases v with
    | number k =>
        cases hfold
        exact Number.eq_zero_of_isZero_fold hn
    | _ => cases hfold
  apply Value.sameZero_eq_decide
  intro x y ha hb hx hy
  rw [hzero ha hx, hzero hb hy]

/-- The key that an answer becomes is the key of the answers that become the
same key. -/
theorem isFor_ofValue (coercion : KeyCoercion) (a b : Value) :
    (ofValue coercion a).isFor coercion b = decide (ofValue coercion b = ofValue coercion a) := by
  cases coercion with
  | property => simp only [ofValue, isFor, GroupKey.property.injEq, eq_comm]
  | collection =>
      simp only [ofValue, isFor, GroupKey.collection.injEq]
      rw [← Value.sameZero_foldZero, sameZero_foldZero]
      simp only [eq_comm]

/-- Keys that answers become are the same exactly if they are equal. The two
zeros have become one by then. -/
theorem same_ofValue (coercion : KeyCoercion) (a b : Value) :
    (ofValue coercion a).same (ofValue coercion b)
      = decide (ofValue coercion a = ofValue coercion b) := by
  cases coercion with
  | property =>
      simp only [ofValue, same, GroupKey.property.injEq]
      rfl
  | collection =>
      simp only [ofValue, same, GroupKey.collection.injEq]
      exact sameZero_foldZero a b

end GroupKey

/-! ### Groups of a list -/

namespace Groups

/-- Groups are the partition of items by the keys of their answers. The list
has the answers with the items. -/
structure Partitions (coercion : KeyCoercion) (groups : Groups) (answered : List (Value × Value)) :
    Prop where
  /-- No two groups have the same key. -/
  distinct : groups.keys.Pairwise fun a b => a.same b = false
  /-- Every answer has a group. -/
  covers : ∀ entry ∈ answered, ∃ key ∈ groups.keys, key.isFor coercion entry.1 = true
  /-- Every group has an answer. -/
  used : ∀ key ∈ groups.keys, ∃ entry ∈ answered, key.isFor coercion entry.1 = true
  /-- The groups are in the order in which their keys first come up. -/
  ordered : groups.keys.Pairwise fun a b =>
    answered.findIdx (a.isFor coercion ·.1) < answered.findIdx (b.isFor coercion ·.1)
  /-- A group has the items whose answers have its key, in their order. -/
  items : ∀ group ∈ groups.entries,
    group.2 = (answered.filter (group.1.isFor coercion ·.1)).map Prod.snd

/-- The first item is added last, at the front of its group. -/
theorem ofList_cons (key : GroupKey) (item : Value) (keyed : List (GroupKey × Value)) :
    ofList ((key, item) :: keyed) = (ofList keyed).addFirst key item := rfl

/-- An item at the front moves its key to the front. -/
theorem keys_ofList_cons (key : GroupKey) (item : Value) (keyed : List (GroupKey × Value)) :
    (ofList ((key, item) :: keyed)).keys = key :: (ofList keyed).keys.filter (· ≠ key) :=
  OrderedMap.keys_insertFirst _ _ _

/-- The keys of the groups are the keys of the items. By induction on the
items. -/
theorem mem_keys_ofList (keyed : List (GroupKey × Value)) (key : GroupKey) :
    key ∈ (ofList keyed).keys ↔ key ∈ keyed.map Prod.fst := by
  induction keyed with
  | nil => rfl
  | cons first rest ih =>
      obtain ⟨key', item⟩ := first
      rw [keys_ofList_cons, List.map_cons, List.mem_cons, List.mem_cons, List.mem_filter, ih]
      by_cases hkey : key = key'
      · simp [hkey]
      · simp [hkey]

/-- The items under a key are those with the key, in their order. By induction
on the items, each of which goes to the front of its group. -/
theorem get?_ofList (keyed : List (GroupKey × Value)) (key : GroupKey) :
    ((ofList keyed).get? key).getD [] = (keyed.filter (·.1 = key)).map Prod.snd := by
  induction keyed with
  | nil => rfl
  | cons first rest ih =>
      obtain ⟨key', item⟩ := first
      rw [ofList_cons, addFirst, OrderedMap.get?_insertFirst, List.filter_cons]
      by_cases hkey : key = key'
      · subst hkey
        simp [ih]
      · have hne : ¬ key' = key := fun h => hkey h.symm
        simp [hkey, hne, ih]

/-- Keys come in the order of their first item. A key that was moved to the
front by its item has the first place, and all others are one further. -/
theorem ordered_ofList (keyed : List (GroupKey × Value)) :
    (ofList keyed).keys.Pairwise fun a b =>
      keyed.findIdx (·.1 = a) < keyed.findIdx (·.1 = b) := by
  induction keyed with
  | nil => exact .nil
  | cons first rest ih =>
      obtain ⟨key, item⟩ := first
      -- The first item does not have the key of a group behind the first.
      have hbehind : ∀ key' ∈ (ofList rest).keys.filter (· ≠ key), ¬ key = key' := by
        rintro key' hmem rfl
        simp at hmem
      rw [keys_ofList_cons, List.pairwise_cons]
      constructor
      · intro key' hmem
        simp [List.findIdx_cons, hbehind key' hmem]
      · apply List.Pairwise.imp_of_mem _ (ih.filter _)
        intro a b ha hb hlt
        simpa [List.findIdx_cons, hbehind a ha, hbehind b hb] using hlt

/-- The items with the keys that their answers become. -/
def keyed (coercion : KeyCoercion) (answered : List (Value × Value)) : List (GroupKey × Value) :=
  answered.map fun entry => (.ofValue coercion entry.1, entry.2)

variable {coercion : KeyCoercion} {answered : List (Value × Value)}

/-- A key of the groups is the key of some answer, and of those answers that
become the same. -/
theorem exists_of_mem_keys {key : GroupKey} (hkey : key ∈ (ofList (keyed coercion answered)).keys) :
    ∃ entry ∈ answered, key = .ofValue coercion entry.1 ∧
      ∀ answer, key.isFor coercion answer = decide (.ofValue coercion answer = key) := by
  rw [mem_keys_ofList, keyed, List.map_map] at hkey
  obtain ⟨entry, hentry, rfl⟩ := List.mem_map.mp hkey
  exact ⟨entry, hentry, rfl, GroupKey.isFor_ofValue coercion entry.1⟩

/-- The groups of a list are its partition. The code tells keys apart by
equality, and what it does is restated with the answers. -/
theorem ofList_partitions (coercion : KeyCoercion) (answered : List (Value × Value)) :
    (ofList (keyed coercion answered)).Partitions coercion answered := by
  refine ⟨?distinct, ?covers, ?used, ?ordered, ?items⟩
  case distinct =>
    apply List.Pairwise.imp_of_mem _ (ofList (keyed coercion answered)).nodup
    intro a b ha hb hne
    obtain ⟨entry, -, rfl, -⟩ := exists_of_mem_keys ha
    obtain ⟨entry', -, rfl, -⟩ := exists_of_mem_keys hb
    rw [GroupKey.same_ofValue]
    simpa using hne
  case covers =>
    intro entry hentry
    refine ⟨.ofValue coercion entry.1, ?_, by simp [GroupKey.isFor_ofValue]⟩
    rw [mem_keys_ofList, keyed, List.map_map]
    exact List.mem_map.mpr ⟨entry, hentry, rfl⟩
  case used =>
    intro key hkey
    obtain ⟨entry, hentry, rfl, hfor⟩ := exists_of_mem_keys hkey
    exact ⟨entry, hentry, by simp [hfor]⟩
  case ordered =>
    apply List.Pairwise.imp_of_mem _ (ordered_ofList (keyed coercion answered))
    intro a b ha hb hlt
    obtain ⟨-, -, -, hfor⟩ := exists_of_mem_keys ha
    obtain ⟨-, -, -, hfor'⟩ := exists_of_mem_keys hb
    simpa only [keyed, List.findIdx_map, Function.comp_def, hfor, hfor'] using hlt
  case items =>
    intro group hgroup
    obtain ⟨-, -, -, hfor⟩ := exists_of_mem_keys (List.mem_map_of_mem hgroup)
    have hitems := get?_ofList (keyed coercion answered) group.1
    rw [OrderedMap.get?_eq_of_mem hgroup, Option.getD_some, keyed, List.filter_map,
      List.map_map] at hitems
    simpa only [hfor, Function.comp_def] using hitems

end Groups

end ScriptRealm
