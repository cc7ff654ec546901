import ScriptRealm.Proofs.Grouping.Course
import ScriptRealm.Proofs.Grouping.Object

/-!
# `ScriptRealm.Proofs.Grouping.Rounds`: grouping to the end

A grouping that goes well is a list of rounds after which the iterator is at
its end. `Rounds` is the relation for these runs. They are the courses that
end so, as long as no item is past the realm's bound (`Rounds.course`).

`groupBy_partitions` puts the run together with the laws of groups. The keys of
the groups are told by the callback's answers themselves, not by the keys that
the code makes of them. That the callback is called once in each round and not
otherwise is told by `Hooks.Enters`, which says what code an operation starts.
The code of the rounds is `Starts`.
-/

set_option autoImplicit false

namespace ScriptRealm

variable {P : Platform}

namespace Grouping

/-- From the item at `index` on, an iterator gives the items of the rounds
and then ends, and all calls of the callback succeed. The iterator is asked
for the last time in the machine `last`, and the run ends in `m'`. -/
inductive Rounds (hooks : Hooks P) (callback : Value) (record : IteratorRecord) :
    (index : Nat) → List (Round P) → (m last m' : Machine P) → Prop where
  | ends {index : Nat} {last m' : Machine P}
      (hnext : Iteration.nextValue hooks record last = .done none m') :
      Rounds hooks callback record index [] last last m'
  | round {index : Nat} {round : Round P} {rounds : List (Round P)} {m last m' : Machine P}
      (hnext : Iteration.nextValue hooks record round.asked = .done (some round.item) round.called)
      (hcall : hooks.call callback .undefined [round.item, .number (.ofNat index)] round.called
        = .done round.answer m)
      (hrest : Rounds hooks callback record (index + 1) rounds m last m') :
      Rounds hooks callback record index (round :: rounds) round.asked last m'

variable {hooks : Hooks P} {callback items : Value} {record : IteratorRecord}
  {coercion : KeyCoercion} {index limit : Nat} {rounds : List (Round P)}
  {m m₀ last m' k : Machine P} {entry : Entry P}

/-- The rounds are a course. An item is within the realm's bound if its place
is not past it, so with one more item than the bound the last place is still
within. -/
theorem Rounds.course (hrounds : Rounds hooks callback record index rounds m last m')
    (hlimit : index + rounds.length ≤ limit + 1) :
    Course hooks callback record limit index rounds m last .ended m' := by
  induction hrounds with
  | ends hnext => exact .halts (.ended hnext)
  | @round index round rounds m last m' hnext hcall hrest ih =>
      rw [List.length_cons] at hlimit
      exact .round hnext (by omega) hcall (ih (by omega))

/-- Grouping comes to the groups of the rounds, in the machine in which the
iterator has ended. The bound leaves room for one item more than it says, and
the allowance has to cover the question to which there is no item any more. -/
theorem groupBy_of_rounds (coercion : KeyCoercion) (hcallable : m.realm.isCallable callback = true)
    (hopens : Iteration.iterator hooks items m = .done record m₀)
    (hrounds : Rounds hooks callback record 0 rounds m₀ last m')
    (hlimit : rounds.length ≤ m.realm.config.maxIterations + 1)
    (hallowance : rounds.length < hooks.rounds) :
    groupBy hooks items callback coercion m
      = .done (.ofList (rounds.map (Round.keyed coercion))) m' := by
  have hcourse : Course hooks callback record m.realm.config.maxIterations 0 rounds m₀ last .ended
      m' := hrounds.course (by omega)
  -- The halt of this course is the end of the iterator, which adds no keys.
  rw [groupBy_of_course coercion hcallable hopens hcourse hallowance, Action.map_apply]
  simp only [Halt.outcome, Action.pure_apply, List.append_nil]

/-- Grouping starts the code of opening the iterable and of the rounds, and no
other. In particular nothing is closed, as the iterator has ended by
itself. -/
theorem enters_groupBy_iff (hcallable : m.realm.isCallable callback = true)
    (hopens : Iteration.iterator hooks items m = .done record m₀)
    (hrounds : Rounds hooks callback record 0 rounds m₀ last m')
    (hlimit : rounds.length ≤ m.realm.config.maxIterations + 1)
    (hallowance : rounds.length < hooks.rounds) :
    hooks.Enters (groupBy · items callback coercion) m entry k ↔
      hooks.Enters (Iteration.iterator · items) m entry k ∨
        Starts hooks callback record 0 rounds last entry k := by
  have hcourse : Course hooks callback record m.realm.config.maxIterations 0 rounds m₀ last .ended
      m' := hrounds.course (by omega)
  -- There is nothing left to do at the end.
  have hnone : ¬ (Halt.Calls callback rounds.length entry k .ended ∨
      hooks.Enters (Halt.outcome · record .ended) m' entry k) := by
    rintro (hcalls | henters)
    · exact hcalls
    · exact Hooks.not_enters_const _ henters
  rw [enters_groupBy_of_course hcallable hopens hcourse hallowance, or_iff_left hnone]

/-- The callback's answer in a round, with the item. -/
def Round.answered (round : Round P) : Value × Value := (round.answer, round.item)

/-- The rounds with the keys that the code makes of the answers. -/
theorem map_keyed (coercion : KeyCoercion) (rounds : List (Round P)) :
    rounds.map (Round.keyed coercion) = Groups.keyed coercion (rounds.map Round.answered) := by
  rw [Groups.keyed, List.map_map]
  rfl

/-- Groups made by property keys have property keys. -/
theorem property_toPropertyKey {rounds : List (Round P)} {key : GroupKey}
    (hkey : key ∈ (Groups.ofList (rounds.map (Round.keyed .property))).keys) :
    GroupKey.property key.toPropertyKey = key := by
  rw [Groups.mem_keys_ofList, List.map_map] at hkey
  obtain ⟨round, -, rfl⟩ := List.mem_map.mp hkey
  rfl

end Grouping

open Grouping (Round Rounds Starts groupBy toObject)

/-- Grouping is a stable partition by key. Let an iterable give the items of
the rounds and then end, and let all calls of the callback succeed, with no
more items than the realm's bound on loops and than the allowance. Then
grouping comes to an end, right where the rounds do. The code it starts is
that of opening the iterable and of asking the iterator, and one call of the
callback for each item, with the item and its place; there is no other. The
groups are the partition of the items by the keys of the answers. Made by
property keys, they can be shown by an object in any machine, if there are
fewer than `2 ^ 32` items, so that every place in a group is an index. -/
theorem groupBy_partitions (hooks : Hooks P) (items callback : Value) (coercion : KeyCoercion)
    {record : IteratorRecord} {m m₀ last m' : Machine P} {rounds : List (Round P)}
    (hcallable : m.realm.isCallable callback = true)
    (hopens : Iteration.iterator hooks items m = .done record m₀)
    (hrounds : Rounds hooks callback record 0 rounds m₀ last m')
    (hlimit : rounds.length ≤ m.realm.config.maxIterations)
    (hallowance : rounds.length < hooks.rounds) :
    ∃ groups, groupBy hooks items callback coercion m = .done groups m' ∧
      groups.Partitions coercion (rounds.map fun round => (round.answer, round.item)) ∧
      (∀ entry k, hooks.Enters (groupBy · items callback coercion) m entry k ↔
        hooks.Enters (Iteration.iterator · items) m entry k ∨
          Starts hooks callback record 0 rounds last entry k) ∧
      (coercion = .property → rounds.length < Nat.pow 2 32 → ∀ k : Machine P, ∃ target s,
        toObject groups k = .done target ⟨s, k.memory⟩ ∧ groups.ShownBy k.realm target s) := by
  -- The lemmas leave room for one item more.
  have hlimit : rounds.length ≤ m.realm.config.maxIterations + 1 := Nat.le_succ_of_le hlimit
  refine ⟨_, Grouping.groupBy_of_rounds coercion hcallable hopens hrounds hlimit hallowance,
    ?partitions, ?starts, ?shows⟩
  case partitions =>
    rw [Grouping.map_keyed]
    exact Groups.ofList_partitions coercion _
  case starts =>
    intro entry k
    exact Grouping.enters_groupBy_iff hcallable hopens hrounds hlimit hallowance
  case shows =>
    rintro rfl - k
    exact ⟨_, Grouping.toObject_shows (fun _ => Grouping.property_toPropertyKey) k⟩

/-- A realm with an iterable, one function for all methods, an iterator, and
the results that the iterator gives: the zeros with null between them. -/
def zerosRealm : Realm Platform.fixed where
  objects :=
    let bare : ObjectRecord Platform.fixed := .create .ordinary none
    let result (value : Value) : ObjectRecord Platform.fixed :=
      bare.insert (.string "value") (.plain value)
    #[bare.insert (.symbol .iterator) (.plain (.object ⟨1⟩)),
      .create (.function (Realm.intrinsic .iteratorSelf "" 0)) none,
      bare.insert (.string "next") (.plain (.object ⟨1⟩)),
      result (.number .zero), result .null, result (.number .negativeZero),
      bare.insert (.string "done") (.plain (.boolean true))]
  config := {}
  nextSymbol := Symbol.firstFree

/-- Hooks for `zerosRealm`. Called on the iterable, the function answers the
iterator, called on the iterator it answers the next result, and without
receiver it answers its first argument. The symbols made so far count the
results. -/
def zerosHooks : Hooks Platform.fixed where
  call _ this args m :=
    match this with
    | .object ⟨0⟩ => .done (.object ⟨2⟩) m
    | .object _ =>
        .done (.object ⟨m.realm.nextSymbol⟩) { m with realm := (m.realm.newSymbol none).2 }
    | _ => .done (args.headD .undefined) m
  resume _ _ _ _ := .exhausted
  rounds := 4

/-- `zerosRealm` with a number of results given. -/
def zerosMachine (given : Nat) : Machine Platform.fixed :=
  ⟨{ zerosRealm with nextSymbol := Symbol.firstFree + given }, ()⟩

/-- The number one. -/
def Number.unity : Number := .ofBits 0x3ff0000000000000

/-- `zerosMachine` with an iterator that gives the number one, its text and
null. -/
def onesMachine (given : Nat) : Machine Platform.fixed :=
  { zerosMachine given with
    realm := (((zerosMachine given).realm.insertSlot ⟨3⟩ (.string "value")
      (.plain (.number .unity))).insertSlot ⟨4⟩ (.string "value")
      (.plain (.string "1"))).insertSlot ⟨5⟩ (.string "value") (.plain .null) }

/-- As keys of a collection the zeros are in one group. As property keys the
number one and its text are in one group and null in another, and an object
shows the two. -/
theorem groupBy_partitions_zeros_ones :
    (∃ groups, groupBy zerosHooks (.object ⟨0⟩) (.object ⟨1⟩) .collection (zerosMachine 0)
        = .done groups (zerosMachine 4) ∧
      groups.Partitions .collection [(.number .zero, .number .zero), (.null, .null),
        (.number .negativeZero, .number .negativeZero)]) ∧
    ∃ groups, groupBy zerosHooks (.object ⟨0⟩) (.object ⟨1⟩) .property (onesMachine 0)
        = .done groups (onesMachine 4) ∧
      groups.Partitions .property [(.number .unity, .number .unity), (.string "1", .string "1"),
        (.null, .null)] ∧
      groups.entries = [(.property (.index 1), [.number .unity, .string "1"]),
        (.property (.string "null"), [.null])] ∧
      ∃ target s, toObject groups (onesMachine 4) = .done target ⟨s, ()⟩ ∧
        groups.ShownBy (onesMachine 4).realm target s := by
  -- The runs of the iterator, one machine after the other; each round is checked by computing
  -- it.
  have hrounds : Rounds zerosHooks (.object ⟨1⟩) ⟨⟨2⟩, .object ⟨1⟩, false⟩ 0
      [⟨zerosMachine 0, .number .zero, zerosMachine 1, .number .zero⟩,
        ⟨zerosMachine 1, .null, zerosMachine 2, .null⟩,
        ⟨zerosMachine 2, .number .negativeZero, zerosMachine 3, .number .negativeZero⟩]
      (zerosMachine 0) (zerosMachine 3) (zerosMachine 4) :=
    .round rfl rfl (.round rfl rfl (.round rfl rfl (.ends rfl)))
  have hrounds' : Rounds zerosHooks (.object ⟨1⟩) ⟨⟨2⟩, .object ⟨1⟩, false⟩ 0
      [⟨onesMachine 0, .number .unity, onesMachine 1, .number .unity⟩,
        ⟨onesMachine 1, .string "1", onesMachine 2, .string "1"⟩,
        ⟨onesMachine 2, .null, onesMachine 3, .null⟩]
      (onesMachine 0) (onesMachine 3) (onesMachine 4) :=
    .round rfl rfl (.round rfl rfl (.round rfl rfl (.ends rfl)))
  obtain ⟨groups, hdone, hpartitions, -⟩ := groupBy_partitions (m := zerosMachine 0) zerosHooks
    (.object ⟨0⟩) (.object ⟨1⟩) .collection rfl rfl hrounds (by decide) (by decide)
  obtain ⟨groups', hdone', hpartitions', -, hshown⟩ := groupBy_partitions (m := onesMachine 0)
    zerosHooks (.object ⟨0⟩) (.object ⟨1⟩) .property rfl rfl hrounds' (by decide) (by decide)
  refine ⟨⟨groups, hdone, hpartitions⟩, groups', hdone', hpartitions', ?_,
    hshown rfl (by decide) (onesMachine 4)⟩
  -- The groups themselves are computed from the rounds.
  have hgroups : groupBy zerosHooks (.object ⟨0⟩) (.object ⟨1⟩) .property (onesMachine 0) = _ :=
    Grouping.groupBy_of_rounds .property rfl rfl hrounds' (by decide) (by decide)
  rw [hdone', Outcome.done.injEq] at hgroups
  rw [hgroups.1]
  decide +kernel

end ScriptRealm
