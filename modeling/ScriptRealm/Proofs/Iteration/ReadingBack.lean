import ScriptRealm.Proofs.Grouping.Course
import ScriptRealm.Proofs.Iteration.Arrays

/-!
# `ScriptRealm.Proofs.Iteration.ReadingBack`: arrays give back their values

An array is made from a list of values, and there are two ways to get the
list back: reading the array as something array-like, and iterating over it.

What an iterator has to give is told by `Iteration.Gives`: values one after
the other, each by a step that is not the last, and then the end. Collecting
such an iterator gives the values and marks its record
(`Iteration.toList_of_gives`), whatever the iterator is. For the iterator of
an array the steps are found by going along the array with the cursor
(`Iteration.exists_gives_array`). Each step makes a result object, so the
arena grows, and of the objects that were there only the iterator changes.

`array_reads_back` has both ways, and the keys of the array.
-/

set_option autoImplicit false

namespace ScriptRealm

variable {P : Platform}

namespace Iteration

/-! ### Collecting -/

/-- An iterator gives values, one at each step, and is then at its end. -/
inductive Gives (hooks : Hooks P) (record : IteratorRecord) :
    Machine P → List Value → Machine P → Prop where
  | ends {m m' : Machine P} (hnext : nextValue hooks record m = .done none m') :
      Gives hooks record m [] m'
  | step {m m₁ m' : Machine P} {value : Value} {values : List Value}
      (hnext : nextValue hooks record m = .done (some value) m₁)
      (hrest : Gives hooks record m₁ values m') : Gives hooks record m (value :: values) m'

/-- What an iterator gives is collected, and then its record is marked. By
induction on the steps, each of which is a round. -/
theorem collect_of_gives {hooks : Hooks P} {record : IteratorRecord} {m m' : Machine P}
    {values : List Value} (hgives : Gives hooks record m values m') {rounds : Nat}
    (hrounds : values.length < rounds) :
    collect hooks rounds record m = .done (.ok values, { record with done := true }) m' := by
  induction hgives generalizing rounds with
  | ends hnext =>
      obtain ⟨rounds, rfl⟩ := Nat.exists_eq_succ_of_ne_zero (Nat.ne_zero_of_lt hrounds)
      rw [collect, Action.bind_apply, stepValue_of_none hnext]
      rfl
  | step hnext _ ih =>
      obtain ⟨rounds, rfl⟩ := Nat.exists_eq_succ_of_ne_zero (Nat.ne_zero_of_lt hrounds)
      have hrest := ih (Nat.lt_of_succ_lt_succ hrounds)
      rw [collect, Action.bind_apply, stepValue_of_some hnext]
      simp only []
      rw [Action.bind_apply, hrest]
      rfl

/-- What an iterator gives is what reading it as a list comes to, if the
allowance is enough. -/
theorem toList_of_gives {hooks : Hooks P} {record : IteratorRecord} {m m' : Machine P}
    {values : List Value} (hgives : Gives hooks record m values m')
    (hrounds : values.length < hooks.rounds) :
    toList hooks record m = .done (.ok values, { record with done := true }) m' :=
  collect_of_gives hgives hrounds

/-! ### The iterator of an array -/

variable (embedder : Embedder P) (rounds depth : Nat)

/-- The iterator of an array gives the elements from its cursor on. By
induction on how many these are. Of the objects that are there only the
iterator changes. -/
theorem exists_gives_array {iterator array f : Handle} {values : List Value} {i : Nat}
    {m : Machine P} (hruns : m.realm.RunsIntrinsic f .listIteratorNext)
    (hcursor : (m.realm.record iterator).kind = .listIterator ⟨array, i, false⟩)
    (harray : m.realm.record array = .array values) (hshort : values.length < Nat.pow 2 32) :
    ∃ m', Gives (embedder.hooks rounds (depth + 1)) ⟨iterator, .object f, false⟩ m
        (values.drop i) m' ∧
      ∀ h, h.index < m.realm.size → h ≠ iterator → m'.realm.record h = m.realm.record h := by
  obtain ⟨remaining, hremaining⟩ : ∃ remaining, remaining = values.length - i := ⟨_, rfl⟩
  induction remaining generalizing i m with
  | zero =>
      have hend : values.length ≤ i := Nat.sub_eq_zero_iff_le.mp hremaining.symm
      have hnext : nextValue _ ⟨iterator, .object f, false⟩ m = _ :=
        nextValue_array embedder rounds depth rfl hruns hcursor harray hshort
      rw [List.getElem?_eq_none hend] at hnext
      rw [List.drop_of_length_le hend]
      exact ⟨_, .ends hnext, fun h hlt hne => Realm.record_stepped_of_lt hlt hne⟩
  | succ remaining ih =>
      have hlt : i < values.length := by omega
      have hnext : nextValue _ ⟨iterator, .object f, false⟩ m = _ :=
        nextValue_array embedder rounds depth rfl hruns hcursor harray hshort
      rw [List.getElem?_eq_getElem hlt] at hnext
      rw [List.drop_eq_getElem_cons hlt]
      -- What the rest of the steps needs is left alone by this one, but for the cursor.
      have hiterator : iterator.index < m.realm.size := Realm.lt_size_of_listIterator hcursor
      have hothers : ∀ h, h.index < m.realm.size → h ≠ iterator →
          (m.realm.stepped iterator ⟨array, i + 1, false⟩ values[i] false).record h
            = m.realm.record h :=
        fun h hlt hne => Realm.record_stepped_of_lt hlt hne
      -- The method and the array are other objects than the iterator, so the step has kept
      -- them.
      have hne_f : f ≠ iterator := by
        rintro rfl
        obtain ⟨data, hkind, -⟩ := hruns
        rw [hcursor] at hkind
        cases hkind
      have hne_array : array ≠ iterator := by
        rintro rfl
        rw [harray] at hcursor
        cases hcursor
      obtain ⟨m', hgives, hkept⟩ := by
        apply ih (i := i + 1)
          (m := ⟨m.realm.stepped iterator ⟨array, i + 1, false⟩ values[i] false, m.memory⟩)
        · rw [Realm.RunsIntrinsic, hothers f hruns.lt_size hne_f]
          exact hruns
        · rw [Realm.record_stepped_self hiterator]
        · rw [hothers array (Realm.lt_size_of_array harray) hne_array, harray]
        · omega
      refine ⟨m', .step hnext hgives, ?_⟩
      intro h hlt hne
      rw [hkept h (by rw [Realm.size_stepped]; omega) hne, hothers h hlt hne]

/-- Opening an array and collecting what its iterator gives. The iterator is
new, so the objects that are there stay as they are. -/
theorem exists_toList_array {array iterate f : Handle} {values : List Value} {m : Machine P}
    (hiterate : m.realm.Provides Intrinsic.arrayPrototype (.symbol .iterator) iterate .arrayValues)
    (hnext : m.realm.Provides Intrinsic.listIteratorPrototype (.string "next") f .listIteratorNext)
    (harray : m.realm.record array = .array values) (hshort : values.length < Nat.pow 2 32)
    (hrounds : values.length < rounds) :
    ∃ m', (do
        toList (embedder.hooks rounds (depth + 1))
          (← iterator (embedder.hooks rounds (depth + 1)) (.object array))) m
            = .done (.ok values, ⟨⟨m.realm.size⟩, .object f, true⟩) m' ∧
      ∀ h, h.index < m.realm.size → m'.realm.record h = m.realm.record h := by
  have hopens := iterator_array embedder rounds depth hiterate hnext harray
  have hothers : ∀ h : Handle, h.index < m.realm.size →
      (m.realm.createListIterator array).2.record h = m.realm.record h := by
    intro h hlt
    rw [Realm.createListIterator, Realm.record_allocate, if_neg (Nat.ne_of_lt hlt)]
  have hcursor : ((m.realm.createListIterator array).2.record ⟨m.realm.size⟩).kind
      = .listIterator ⟨array, 0, false⟩ := by
    rw [Realm.createListIterator, Realm.record_allocate, if_pos rfl]
    rfl
  have hruns := (hnext.congr (hothers _ hnext.lt_size) (hothers _ hnext.runs.lt_size)).runs
  obtain ⟨m', hgives, hkept⟩ := exists_gives_array embedder rounds depth (m := ⟨_, m.memory⟩) hruns
    hcursor ((hothers array (Realm.lt_size_of_array harray)).trans harray) hshort
  refine ⟨m', ?_, ?_⟩
  · rw [Action.bind_apply, hopens]
    exact toList_of_gives hgives hrounds
  · intro h hlt
    rw [hkept h, hothers h hlt]
    · rw [Realm.createListIterator, Realm.size_allocate]
      exact Nat.lt_succ_of_lt hlt
    · rintro rfl
      exact Nat.lt_irrefl _ hlt

end Iteration

/-! ### The keys of an array -/

/-- The keys of an array are its indices in ascending order, and then
`length`. -/
theorem Realm.keys_arraySlots (values : List Value) :
    (arraySlots values).keys
      = (List.range values.length).map PropertyKey.index ++ [.string "length"] := by
  rw [OrderedMap.keys, arraySlots, List.map_append, List.map_map, List.range_eq_range',
    ← List.zipIdx_map_snd 0 values, List.map_map]
  rfl

/-- The indices are in ascending order already, so it does not matter whether
they are sorted. -/
theorem ObjectRecord.orderedKeys_array (values : List Value) (indicesFirst : Bool) :
    (ObjectRecord.array values : ObjectRecord P).orderedKeys true true indicesFirst
      = (List.range values.length).map PropertyKey.index ++ [.string "length"] := by
  have hvisible : ((ObjectRecord.array values : ObjectRecord P).slots.entries.filter
      fun entry => true || entry.2.enumerable).map Prod.fst
        = (List.range values.length).map PropertyKey.index ++ [.string "length"] := by
    rw [List.filter_eq_self.mpr (by simp)]
    exact Realm.keys_arraySlots values
  have hsorted : ((List.range values.length).mergeSort fun i j => i ≤ j)
      = List.range values.length := by
    apply List.mergeSort_of_pairwise
    simpa using List.pairwise_le_range
  simp only [orderedKeys, hvisible]
  generalize List.range values.length = indices at hsorted
  obtain ⟨keys, hkeys⟩ : ∃ keys, keys = indices.map PropertyKey.index ++ [.string "length"] :=
    ⟨_, rfl⟩
  have hplain : ∀ key ∈ keys, key.isSymbol = false := by
    intro key hkey
    simp only [hkeys, List.mem_append, List.mem_map, List.mem_singleton] at hkey
    obtain ⟨i, -, rfl⟩ | rfl := hkey <;> rfl
  have hnamed : keys.filter (!·.isSymbol) = keys :=
    List.filter_eq_self.mpr fun key hkey => by simp [hplain key hkey]
  have hsymbols : keys.filter (·.isSymbol) = [] :=
    List.filter_eq_nil_iff.mpr fun key hkey => by simp [hplain key hkey]
  have hindices : keys.filterMap arrayIndex? = indices := by
    rw [hkeys, List.filterMap_append, List.filterMap_map]
    show indices.filterMap some ++ [] = indices
    rw [List.filterMap_some, List.append_nil]
  have htexts : keys.filter (fun key => (arrayIndex? key).isNone) = [.string "length"] := by
    rw [hkeys, List.filter_append, List.filter_eq_nil_iff.mpr]
    · rfl
    · intro key hkey
      obtain ⟨i, -, rfl⟩ := List.mem_map.mp hkey
      simp [arrayIndex?]
  rw [← hkeys, hnamed, hsymbols, hindices, htexts, hsorted]
  cases indicesFirst <;> simp [hkeys]

/-- An array gives back the values that it was made from. In a realm in which
arrays can be iterated and list iterators have their `next`, let an array be
made from fewer than `2 ^ 32` values. Read as a list, if it is not longer than
the realm's bound, it is the values, and nothing has changed. The iterator
that it is opened with gives the values and leaves its record marked, and
every object that was there is as it was. Its keys are the indices in
ascending order and then `length`, whatever the realm's order of keys. -/
theorem array_reads_back (embedder : Embedder P) (rounds depth : Nat) (m : Machine P)
    (values : List Value) {iterate next : Handle}
    (hiterate : m.realm.Provides Intrinsic.arrayPrototype (.symbol .iterator) iterate .arrayValues)
    (hnext : m.realm.Provides Intrinsic.listIteratorPrototype (.string "next") next
      .listIteratorNext)
    (hshort : values.length < Nat.pow 2 32) (hrounds : values.length < rounds) :
    ∃ a k, (Request.createArray values).perform (embedder.hooks rounds (depth + 1)) m
        = .done a k ∧
      (values.length ≤ k.realm.config.maxIterations →
        ArrayLike.toList (embedder.hooks rounds (depth + 1)) (.object a) (fun _ => true) k
          = .done values k) ∧
      (∃ record k', (do
          Iteration.toList (embedder.hooks rounds (depth + 1))
            (← Iteration.iterator (embedder.hooks rounds (depth + 1)) (.object a))) k
              = .done (.ok values, record) k' ∧ record.done = true ∧
        ∀ h, h.index < k.realm.size → k'.realm.record h = k.realm.record h) ∧
      k.realm.ownKeys a true true
        = (List.range values.length).map PropertyKey.index ++ [.string "length"] := by
  have harray : (m.realm.createArray values).2.record ⟨m.realm.size⟩ = .array values :=
    m.realm.record_createArray_self values
  have hold : ∀ h : Handle, h.index < m.realm.size →
      (m.realm.createArray values).2.record h = m.realm.record h := by
    intro h hlt
    rw [Realm.record_createArray, if_neg (Nat.ne_of_lt hlt)]
  refine ⟨⟨m.realm.size⟩, ⟨(m.realm.createArray values).2, m.memory⟩, rfl, ?list, ?iterator, ?keys⟩
  case list =>
    intro hbound
    have hadmitted : values.find? (fun _ => !true) = none := by simp
    rw [ArrayLike.toList_array _ harray hshort, if_neg (Nat.not_lt.mpr hbound),
      ArrayLike.readingOf, hadmitted]
  case iterator =>
    obtain ⟨k', hcollected, hkept⟩ := Iteration.exists_toList_array embedder rounds depth
      (m := ⟨(m.realm.createArray values).2, m.memory⟩)
      (hiterate.congr (hold _ hiterate.lt_size) (hold _ hiterate.runs.lt_size))
      (hnext.congr (hold _ hnext.lt_size) (hold _ hnext.runs.lt_size)) harray hshort hrounds
    exact ⟨_, k', hcollected, rfl, hkept⟩
  case keys =>
    simp only [Realm.ownKeys, harray]
    exact ObjectRecord.orderedKeys_array values _

/-- An array of two values in a new realm whose bound is two, and in which
indices do not come first. -/
theorem array_reads_back_two :
    ∃ a k k', (Request.createArray [.null, .undefined]).perform (Embedder.fixed.hooks 3 1)
        ⟨Realm.initial { maxIterations := 2, enumerateIndicesFirst := false }, ()⟩ = .done a k ∧
      ArrayLike.toList (Embedder.fixed.hooks 3 1) (.object a) (fun _ => true) k
        = .done [.null, .undefined] k ∧
      (∃ record, (do
          Iteration.toList (Embedder.fixed.hooks 3 1)
            (← Iteration.iterator (Embedder.fixed.hooks 3 1) (.object a))) k
              = .done (.ok [.null, .undefined], record) k' ∧ record.done = true) ∧
      k.realm.ownKeys a true true = [.index 0, .index 1, .string "length"] := by
  have hintrinsics := Realm.untouched_initial (P := Platform.fixed)
    { maxIterations := 2, enumerateIndicesFirst := false }
  obtain ⟨a, k, hmade, hlist, ⟨record, k', hcollected, hdone, -⟩, hkeys⟩ :=
    array_reads_back Embedder.fixed 3 0 ⟨Realm.initial _, ()⟩ [.null, .undefined]
      hintrinsics.provides_values hintrinsics.provides_next (by decide) (by decide)
  have hbound : k.realm.config.maxIterations = 2 := by
    cases hmade
    rfl
  exact ⟨a, k, k', hmade, hlist (by rw [hbound]; decide), ⟨record, hcollected, hdone⟩, hkeys⟩

end ScriptRealm
