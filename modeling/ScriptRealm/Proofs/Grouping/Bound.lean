import ScriptRealm.Proofs.Grouping.Closing
import ScriptRealm.Proofs.Iteration.Arrays

/-!
# `ScriptRealm.Proofs.Grouping.Bound`: the bound on loops

A realm has a bound on the loops that go through a list of unknown length.
Reading something array-like as a list compares the length with the bound
before anything is read. Grouping compares the place of an item with the
bound, after the item was given, and places begin with zero. So grouping
lets one item more pass.

`groupBy_bound` says so for arrays: with the intrinsics of the realm in place
and a callback that leaves them, the array and the iterator alone, grouping
refuses an array if it is longer than the bound and one, reading refuses it
if it is longer than the bound. The items that grouping gets to are given by
its course, and `course_array` finds the course by going along the array with
the cursor of the iterator.
-/

set_option autoImplicit false

namespace ScriptRealm

variable {P : Platform}

namespace Grouping

/-- The intrinsics, an array and an iterator are left as they are. -/
def Spares (array iterator : Handle) (r s : Realm P) : Prop :=
  ∀ h, h = array ∨ h = iterator ∨ h.index < (Realm.initial {} : Realm P).size →
    s.record h = r.record h

/-- An iterator over an array has come to the element at `i`, and the
intrinsics are in place. -/
structure Walking (array iterator : Handle) (values : List Value) (i : Nat) (r : Realm P) :
    Prop where
  untouched : r.Untouched
  elements : r.record array = .array values
  cursor : r.record iterator
    = .create (.listIterator ⟨array, i, false⟩) (some Intrinsic.listIteratorPrototype)

namespace Walking

variable {array iterator : Handle} {values : List Value} {i : Nat} {r s : Realm P}

/-- Where an iterator has come to does not change while it is spared. -/
theorem spared (hwalking : Walking array iterator values i r)
    (hspares : Spares array iterator r s) : Walking array iterator values i s where
  untouched := hwalking.untouched.congr fun h hlt => hspares h (.inr (.inr hlt))
  elements := (hspares array (.inl rfl)).trans hwalking.elements
  cursor := (hspares iterator (.inr (.inl rfl))).trans hwalking.cursor

/-- The iterator is in the arena. -/
theorem lt_size (hwalking : Walking array iterator values i r) : iterator.index < r.size :=
  Realm.lt_size_of_listIterator (congrArg ObjectRecord.kind hwalking.cursor)

/-- The array is not the iterator, as one object has one kind. -/
theorem ne (hwalking : Walking array iterator values i r) : array ≠ iterator := by
  rintro rfl
  have hkind := congrArg ObjectRecord.kind (hwalking.elements.symm.trans hwalking.cursor)
  cases hkind

/-- A step leaves the intrinsics alone. It changes the list iterator and adds
an object, and neither is one of them. -/
theorem stepped_untouched (hwalking : Walking array iterator values i r)
    (hnew : (Realm.initial {} : Realm P).size ≤ iterator.index) (c : ListCursor) (value : Value)
    (done : Bool) : (r.stepped iterator c value done).Untouched := by
  apply hwalking.untouched.congr
  intro h hlt
  have hsize := hwalking.untouched.size_le
  apply Realm.record_stepped_of_lt (by omega)
  rintro rfl
  omega

/-- A step of the iterator takes it to the next element. The result object is
new, so the array and the intrinsics are where they were. -/
theorem stepped (hwalking : Walking array iterator values i r)
    (hnew : (Realm.initial {} : Realm P).size ≤ iterator.index) (value : Value) (done : Bool) :
    Walking array iterator values (i + 1)
      (r.stepped iterator ⟨array, i + 1, false⟩ value done) where
  untouched := hwalking.stepped_untouched hnew _ value done
  elements :=
    (Realm.record_stepped_of_lt (Realm.lt_size_of_array hwalking.elements) hwalking.ne).trans
      hwalking.elements
  cursor := by
    rw [Realm.record_stepped_self hwalking.lt_size, hwalking.cursor]
    rfl

end Walking

variable (embedder : Embedder P) (rounds depth : Nat) {callback : Value} {coercion : KeyCoercion}
  {array iterator : Handle} {values : List Value} {limit allowance i : Nat} {m : Machine P}

/-- A step of an iterator that has come to the element at `i`. The intrinsics
are in place, so the step is that of the list iterator, and reads the
array. -/
theorem nextValue_of_walking (hwalking : Walking array iterator values i m.realm)
    (hshort : values.length < Nat.pow 2 32) (done : Bool) :
    Iteration.nextValue (embedder.hooks rounds (depth + 1)) ⟨iterator, .object ⟨7⟩, done⟩ m
      = .done values[i]? ⟨m.realm.stepped iterator
          (ListIterator.advance values[i]?.isNone ⟨array, i, false⟩)
          (values[i]?.getD .undefined) values[i]?.isNone, m.memory⟩ := by
  apply Iteration.nextValue_array embedder rounds depth rfl hwalking.untouched.provides_next.runs
  · rw [hwalking.cursor]
    rfl
  · exact hwalking.elements
  · exact hshort

/-- After a step there is still nothing to close. The iterator has no `return`
of its own, and its prototypes have none either. -/
theorem closingMethod?_stepped (hwalking : Walking array iterator values i m.realm)
    (hnew : (Realm.initial {} : Realm P).size ≤ iterator.index) (hooks : Hooks P) (c : ListCursor)
    (value : Value) (done : Bool) :
    Iteration.closingMethod? hooks iterator ⟨m.realm.stepped iterator c value done, m.memory⟩
      = .done none ⟨m.realm.stepped iterator c value done, m.memory⟩ := by
  have hrecord : (m.realm.stepped iterator c value done).record iterator
      = .create (.listIterator c) (some Intrinsic.listIteratorPrototype) := by
    rw [Realm.record_stepped_self hwalking.lt_size, hwalking.cursor]
    rfl
  apply Object.getMethod?_of_undefined
  apply Object.get_of_unowned
  apply (hwalking.stepped_untouched hnew c value done).owner?_return
  · rw [hrecord]
    rfl
  · rw [hrecord]
    rfl
  · rw [hrecord]
    rfl

/-- A call of the callback that the loop makes is done, and leaves what the
loop rests on alone. -/
def Returns (hooks : Hooks P) (callback : Value) (array iterator : Handle) (item : Value) (i : Nat)
    (k : Machine P) : Prop :=
  ∃ answer k', hooks.call callback .undefined [item, .number (.ofNat i)] k = .done answer k' ∧
    Spares array iterator k.realm k'.realm

/-- The halt of a grouping of an array with a number of elements. -/
def haltAt (limit length : Nat) : Halt P :=
  if length ≤ limit + 1 then .ended else .overran

/-- The course of a grouping of an array. By induction on the allowance. The
calls that the rest of the loop makes are calls of the loop, so what is known
of all calls of the loop is known of those of the rest. -/
theorem course_array (hshort : values.length < Nat.pow 2 32)
    (hnew : (Realm.initial {} : Realm P).size ≤ iterator.index)
    (hwalking : Walking array iterator values i m.realm) (hlength : i ≤ values.length)
    (hlimit : i ≤ limit + 1) (hallowance : values.length - i < allowance)
    (hcalls : ∀ item j k, (embedder.hooks rounds (depth + 1)).Enters
      (keyFrom · callback coercion limit allowance ⟨iterator, .object ⟨7⟩, false⟩ i) m
      (callbackEntry callback item j) k → k.realm.Untouched →
      Returns (embedder.hooks rounds (depth + 1)) callback array iterator item j k) :
    ∃ taken last k, Course (embedder.hooks rounds (depth + 1)) callback
        ⟨iterator, .object ⟨7⟩, false⟩ limit i taken m last (haltAt limit values.length) k ∧
      taken.map Round.item = (values.drop i).take (limit + 1 - i) ∧
      Iteration.closingMethod? (embedder.hooks rounds (depth + 1)) iterator k = .done none k := by
  induction allowance generalizing i m with
  | zero => omega
  | succ allowance ih =>
      have hnext := nextValue_of_walking embedder rounds depth hwalking hshort false
      have hclosing := closingMethod?_stepped hwalking hnew (embedder.hooks rounds (depth + 1))
        (ListIterator.advance values[i]?.isNone ⟨array, i, false⟩) (values[i]?.getD .undefined)
        values[i]?.isNone
      cases hitem : values[i]? with
      | none =>
          -- The cursor is past the array, and the iterator ends.
          have hend : values.length ≤ i := List.getElem?_eq_none_iff.mp hitem
          rw [hitem] at hnext hclosing
          refine ⟨[], m, _, .halts ?_, ?_, hclosing⟩
          · rw [haltAt, if_pos (by omega)]
            exact .ended hnext
          · rw [List.drop_of_length_le hend, List.take_nil]
            rfl
      | some item =>
          have hlt : i < values.length := (List.getElem?_eq_some_iff.mp hitem).1
          rw [hitem] at hnext hclosing
          by_cases hover : limit < i
          · -- By `hlimit` this is the first place past the bound.
            refine ⟨[], m, _, .halts ?_, ?_, hclosing⟩
            · rw [haltAt, if_neg (by omega)]
              exact .overran hnext hover
            · rw [show limit + 1 - i = 0 by omega, List.take_zero]
              rfl
          · have hwithin : i ≤ limit := Nat.le_of_not_lt hover
            -- The callback spares what the walk rests on, so the rest is a walk from `i + 1`.
            have hstepped := hwalking.stepped hnew item false
            obtain ⟨answer, k', hcall, hspares⟩ := by
              apply hcalls item i ⟨_, m.memory⟩ _ hstepped.untouched
              rw [enters_keyFrom_succ_iff]
              exact .inr ⟨item, _, hnext, (enters_afterAsking_iff hwithin).mpr (.inl ⟨rfl, rfl⟩)⟩
            -- The calls of the rest are calls of this loop, so `hcalls` holds of them.
            obtain ⟨taken, last, k, hcourse, hitems, hclosing⟩ := by
              apply ih (hstepped.spared hspares) hlt (by omega) (by omega)
              intro item' j k henters huntouched
              apply hcalls item' j k _ huntouched
              rw [enters_keyFrom_succ_iff]
              exact .inr ⟨item, _, hnext,
                (enters_afterAsking_iff hwithin).mpr (.inr (.inl ⟨answer, k', hcall, henters⟩))⟩
            refine ⟨⟨m, item, _, answer⟩ :: taken, last, k, .round hnext hwithin hcall hcourse, ?_,
              hclosing⟩
            rw [List.map_cons, hitems, List.drop_eq_getElem_cons hlt,
              show limit + 1 - i = limit + 1 - (i + 1) + 1 by omega, List.take_succ_cons,
              ← (List.getElem?_eq_some_iff.mp hitem).2]

/-- What grouping an array comes to. The array is opened, the loop goes along
it, and past the bound there is no method `return` that could be called. -/
theorem groupBy_array (coercion : KeyCoercion) (hintrinsics : m.realm.Untouched)
    (harray : m.realm.record array = .array values) (hshort : values.length < Nat.pow 2 32)
    (hallowance : values.length < rounds) (hcallable : m.realm.isCallable callback = true)
    (hcalls : ∀ item i k, (embedder.hooks rounds (depth + 1)).Enters
      (groupBy · (.object array) callback coercion) m (callbackEntry callback item i) k →
      k.realm.Untouched →
      Returns (embedder.hooks rounds (depth + 1)) callback array ⟨m.realm.size⟩ item i k) :
    ∃ record m₀ taken last halt k,
      Iteration.iterator (embedder.hooks rounds (depth + 1)) (.object array) m = .done record m₀ ∧
      Course (embedder.hooks rounds (depth + 1)) callback record m.realm.config.maxIterations 0
        taken m₀ last halt k ∧
      taken.map Round.item = values.take (m.realm.config.maxIterations + 1) ∧
      groupBy (embedder.hooks rounds (depth + 1)) (.object array) callback coercion m
        = if values.length ≤ m.realm.config.maxIterations + 1
          then .done (.ofList (taken.map (Round.keyed coercion))) k
          else .failed (.range .tooManyValues) k := by
  have hopens := Iteration.iterator_array embedder rounds depth hintrinsics.provides_values
    hintrinsics.provides_next harray
  have hothers : ∀ h : Handle, h.index < m.realm.size →
      (m.realm.createListIterator array).2.record h = m.realm.record h := by
    intro h hlt
    rw [Realm.createListIterator, Realm.record_allocate, if_neg (Nat.ne_of_lt hlt)]
  have hwalking : Walking array ⟨m.realm.size⟩ values 0 (m.realm.createListIterator array).2 := by
    refine ⟨?untouched, ?elements, ?cursor⟩
    case untouched =>
      apply hintrinsics.congr
      intro h hlt
      exact hothers h (Nat.lt_of_lt_of_le hlt hintrinsics.size_le)
    case elements => rw [hothers array (Realm.lt_size_of_array harray), harray]
    case cursor => rw [Realm.createListIterator, Realm.record_allocate, if_pos rfl]
  obtain ⟨taken, last, k, hcourse, hitems, habsent⟩ := by
    apply course_array (m := ⟨_, m.memory⟩) embedder rounds depth hshort hintrinsics.size_le
      hwalking (Nat.zero_le _) (Nat.zero_le _) hallowance
    intro item i k henters
    exact hcalls item i k ((enters_groupBy_of_iterator hcallable hopens).mpr (.inr henters))
  rw [List.drop_zero, Nat.sub_zero] at hitems
  have htaken : taken.length < rounds := by
    have hlength := congrArg List.length hitems
    rw [List.length_map, List.length_take] at hlength
    omega
  refine ⟨_, _, taken, last, _, k, hopens, hcourse, hitems, ?_⟩
  -- Past the bound the iterator is closed, but there is nothing to call.
  rw [groupBy_of_course coercion hcallable hopens hcourse htaken]
  by_cases hlength : values.length ≤ m.realm.config.maxIterations + 1
  · rw [if_pos hlength, haltAt, if_pos hlength, Action.map_apply, Halt.outcome_of_none rfl]
    simp only [List.append_nil]
  · rw [if_neg hlength, haltAt, if_neg hlength]
    have houtcome : Halt.outcome (embedder.hooks rounds (depth + 1))
        ⟨⟨m.realm.size⟩, .object ⟨7⟩, false⟩ .overran k = .failed (.range .tooManyValues) k :=
      Halt.outcome_of_absent rfl rfl habsent
    rw [Action.map_apply, houtcome]

end Grouping

open Grouping (groupBy callbackEntry Course Round Spares Returns)

/-- The bound on loops means two things. Let a realm's intrinsics be in place,
let an array be as it was made from the values, and let every call of the
callback that grouping makes be done and leave the intrinsics, the array and
the iterator alone. Grouping the array fails with a range error if and only if
there are more values than the bound and one, and is done otherwise. It gets
to as many items, in their order. Reading the same array as a list fails with
a range error if and only if there are more values than the bound. -/
theorem groupBy_bound (embedder : Embedder P) (rounds depth : Nat) (callback : Value)
    (coercion : KeyCoercion) (admits : Value → Bool) {array : Handle} {values : List Value}
    {m : Machine P} (hintrinsics : m.realm.Untouched)
    (harray : m.realm.record array = .array values) (hshort : values.length < Nat.pow 2 32)
    (hallowance : values.length < rounds) (hcallable : m.realm.isCallable callback = true)
    (hcalls : ∀ item i k, (embedder.hooks rounds (depth + 1)).Enters
      (groupBy · (.object array) callback coercion) m (callbackEntry callback item i) k →
      k.realm.Untouched →
      Returns (embedder.hooks rounds (depth + 1)) callback array ⟨m.realm.size⟩ item i k) :
    ((∃ cause k, groupBy (embedder.hooks rounds (depth + 1)) (.object array) callback coercion m
        = .failed (.range cause) k) ↔ m.realm.config.maxIterations + 1 < values.length) ∧
    ((∃ groups k, groupBy (embedder.hooks rounds (depth + 1)) (.object array) callback coercion m
        = .done groups k) ↔ values.length ≤ m.realm.config.maxIterations + 1) ∧
    (∃ record m₀ taken last halt k,
      Iteration.iterator (embedder.hooks rounds (depth + 1)) (.object array) m
        = .done record m₀ ∧
      Course (embedder.hooks rounds (depth + 1)) callback record m.realm.config.maxIterations 0
        taken m₀ last halt k ∧
      taken.map Round.item = values.take (m.realm.config.maxIterations + 1)) ∧
    ((∃ cause k, ArrayLike.toList (embedder.hooks rounds (depth + 1)) (.object array) admits m
        = .failed (.range cause) k) ↔ m.realm.config.maxIterations < values.length) := by
  obtain ⟨record, m₀, taken, last, halt, k, hopens, hcourse, hitems, hgroups⟩ :=
    Grouping.groupBy_array embedder rounds depth coercion hintrinsics harray hshort hallowance
      hcallable hcalls
  have hlist := ArrayLike.toList_array (embedder.hooks rounds (depth + 1)) harray hshort admits
  refine ⟨?fails, ?ends, ⟨record, m₀, taken, last, halt, k, hopens, hcourse, hitems⟩, ?reading⟩
  case fails =>
    rw [hgroups]
    by_cases hlength : values.length ≤ m.realm.config.maxIterations + 1
    · simp [hlength, Nat.not_lt.mpr hlength]
    · simp [hlength, Nat.lt_of_not_le hlength]
  case ends =>
    rw [hgroups]
    by_cases hlength : values.length ≤ m.realm.config.maxIterations + 1
    · simp [hlength]
    · simp [hlength]
  case reading =>
    rw [hlist]
    by_cases hover : m.realm.config.maxIterations < values.length
    · simp [hover]
    · rw [if_neg hover, ArrayLike.readingOf]
      cases values.find? (!admits ·) <;> simp [hover]

/-- A new realm with a bound of one and an array of values. -/
def boundMachine (values : List Value) : Machine Platform.fixed :=
  ⟨((Realm.initial { maxIterations := 1 }).createArray values).2, ()⟩

/-- The function that answers its receiver, as a callback. It is called
without a receiver, and changes nothing. -/
theorem returns_iteratorSelf (array iterator : Handle) (item : Value) (i : Nat)
    {k : Machine Platform.fixed} (hintrinsics : k.realm.Untouched) :
    Returns (Embedder.fixed.hooks 4 1) (.object ⟨6⟩) array iterator item i k := by
  have hkind : (k.realm.record ⟨6⟩).kind
      = .function (Realm.intrinsic .iteratorSelf "[Symbol.iterator]" 0) := by
    rw [hintrinsics ⟨6⟩ (by decide)]
    rfl
  exact ⟨.undefined, k, Iteration.call_of_runsIntrinsic Embedder.fixed 4 0 ⟨_, hkind, rfl⟩ _ _,
    fun _ _ => rfl⟩

/-- An array of three values is past the bound either way. Grouping it and
reading it as a list both fail with a range fault. -/
theorem groupBy_bound_three :
    (∃ cause k, groupBy (Embedder.fixed.hooks 4 1) (.object ⟨12⟩) (.object ⟨6⟩) .property
        (boundMachine [.null, .undefined, .null]) = .failed (.range cause) k) ∧
      ∃ cause k, ArrayLike.toList (Embedder.fixed.hooks 4 1) (.object ⟨12⟩) (fun _ => true)
        (boundMachine [.null, .undefined, .null]) = .failed (.range cause) k := by
  have hbound := groupBy_bound (m := boundMachine [.null, .undefined, .null]) Embedder.fixed 4 0
    (.object ⟨6⟩) .property (fun _ => true) ((Realm.untouched_initial _).createArray _)
    (Realm.record_createArray_self _ _) (by decide) (by decide) rfl
    fun item i k _ => returns_iteratorSelf _ _ item i
  exact ⟨hbound.1.mpr (by decide), hbound.2.2.2.mpr (by decide)⟩

/-- An array of two values is past the bound for reading, but not for
grouping. -/
theorem groupBy_past_bound :
    (∃ groups k, groupBy (Embedder.fixed.hooks 4 1) (.object ⟨12⟩) (.object ⟨6⟩) .property
        (boundMachine [.null, .undefined]) = .done groups k) ∧
      ∃ cause k, ArrayLike.toList (Embedder.fixed.hooks 4 1) (.object ⟨12⟩) (fun _ => true)
        (boundMachine [.null, .undefined]) = .failed (.range cause) k := by
  have hintrinsics : (boundMachine [.null, .undefined]).realm.Untouched :=
    (Realm.untouched_initial _).createArray _
  have harray : (boundMachine [.null, .undefined]).realm.record ⟨12⟩ = .array [.null, .undefined] :=
    Realm.record_createArray_self _ _
  obtain ⟨record, m₀, taken, last, halt, k, -, -, -, hgroups⟩ := Grouping.groupBy_array
    Embedder.fixed 4 0 .property hintrinsics harray (by decide) (by decide) rfl
    fun item i k _ => returns_iteratorSelf _ _ item i
  have hlist := ArrayLike.toList_array (Embedder.fixed.hooks 4 1) harray (by decide) fun _ => true
  rw [if_pos (by decide)] at hgroups hlist
  exact ⟨⟨_, _, hgroups⟩, ⟨_, _, hlist⟩⟩

end ScriptRealm
