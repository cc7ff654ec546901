import ScriptRealm.Proofs.Entering

/-!
# `ScriptRealm.Proofs.Grouping.Course`: the course of a grouping

Grouping asks an iterator for an item and calls the callback with it, again
and again. Either of them may change the realm, and with it what the other
does next, so the items and the answers are those of one run. `Course` is
that run as a relation: a list of rounds, each with the machines in which
the iterator was asked and the callback was called, and the way in which the
last round came to a halt.

There are four such ways. The iterator ends or fails, it gives an item past
the realm's bound, or the callback fails. `Halt.outcome` is what is left to
do then. `keyFrom_of_course` says what the loop makes of a course. It needs an
allowance of one round more than there are complete ones. `enters_keyFrom_iff`
says what code the loop starts, and `exists_course` that every run of the loop
has a course.
-/

set_option autoImplicit false

namespace ScriptRealm

variable {P : Platform}

namespace Iteration

variable {hooks : Hooks P} {record : IteratorRecord} {m m' : Machine P}

/-- A step to a value keeps the record. -/
theorem stepValue_of_some {value : Value}
    (hnext : nextValue hooks record m = .done (some value) m') :
    stepValue hooks record m = .done (.ok (some value), record) m' := by
  rw [stepValue, stepWith, Action.bind_apply, Action.attempt, hnext]
  rfl

/-- A step to the end marks the record. -/
theorem stepValue_of_none (hnext : nextValue hooks record m = .done none m') :
    stepValue hooks record m = .done (.ok none, { record with done := true }) m' := by
  rw [stepValue, stepWith, Action.bind_apply, Action.attempt, hnext]
  rfl

/-- A step that fails marks the record, too. -/
theorem stepValue_of_failed {fault : Fault}
    (hnext : nextValue hooks record m = .failed fault m') :
    stepValue hooks record m = .done (.error fault, { record with done := true }) m' := by
  rw [stepValue, stepWith, Action.bind_apply, Action.attempt, hnext]
  rfl

/-- A step that is cut short has no result. -/
theorem stepValue_of_exhausted (hnext : nextValue hooks record m = .exhausted) :
    stepValue hooks record m = .exhausted := by
  rw [stepValue, stepWith, Action.bind_apply, Action.attempt, hnext]

end Iteration

namespace Grouping

/-! ### One round -/

/-- A round of grouping: the item that an iterator gave when it was asked,
and the answer that the callback gave when it was called with the item. -/
structure Round (P : Platform) where
  asked : Machine P
  item : Value
  called : Machine P
  answer : Value

/-- The item of a round with the key that its answer becomes. -/
def Round.keyed (coercion : KeyCoercion) (round : Round P) : GroupKey × Value :=
  (.ofValue coercion round.answer, round.item)

/-- The call of the callback for an item and its place. -/
def callbackEntry (callback item : Value) (index : Nat) : Entry P :=
  .call callback .undefined [item, .number (.ofNat index)]

section Loop

variable (hooks : Hooks P) (callback : Value) (coercion : KeyCoercion) (limit allowance : Nat)
  (record : IteratorRecord) (index : Nat)

/-- The rest of a round in which the callback was called with an item. -/
def afterCall (item : Value) : Except Fault Value → Action P (List (GroupKey × Value))
  | .error fault => closeWith hooks record fault
  | .ok answer => do
      let rest ← keyFrom hooks callback coercion limit allowance record (index + 1)
      return (.ofValue coercion answer, item) :: rest

/-- The rest of a round in which the iterator was asked. -/
def afterAsking : Except Fault (Option Value) → Action P (List (GroupKey × Value))
  | .error fault => Action.fail fault
  | .ok none => return []
  | .ok (some item) =>
      if limit < index then
        closeWith hooks record (.range .tooManyValues)
      else
        (hooks.call callback .undefined [item, .number (.ofNat index)]).attempt >>=
          afterCall hooks callback coercion limit allowance record index item

/-- The loop takes a round. What a step does to the record does not show, for
it is marked only when the loop is at its end. -/
theorem keyFrom_succ (m : Machine P) :
    keyFrom hooks callback coercion limit (allowance + 1) record index m
      = ((Iteration.nextValue hooks record).attempt >>=
          afterAsking hooks callback coercion limit allowance record index) m := by
  rw [keyFrom, Action.bind_apply, Action.bind_apply, Action.attempt]
  -- The step and the question for the next value end alike in each of the cases.
  cases hnext : Iteration.nextValue hooks record m with
  | done item? m' =>
      cases item? with
      | none =>
          rw [Iteration.stepValue_of_none hnext]
          rfl
      | some item =>
          rw [Iteration.stepValue_of_some hnext]
          simp only [afterAsking]
          congr 2
  | failed fault m' =>
      rw [Iteration.stepValue_of_failed hnext]
      rfl
  | exhausted => rw [Iteration.stepValue_of_exhausted hnext]

end Loop

/-! ### Courses -/

/-- How a grouping comes to a halt. -/
inductive Halt (P : Platform) where
  /-- The iterator is at its end. -/
  | ended
  /-- The iterator fails. -/
  | broken (fault : Fault)
  /-- The iterator gives an item past the bound. -/
  | overran
  /-- The callback, called with an item, fails. -/
  | refused (item : Value) (called : Machine P) (fault : Fault)

/-- The iterator, asked for the item at `index` in the machine `m`, brings the
loop to a halt in `k`. -/
inductive Halts (hooks : Hooks P) (callback : Value) (record : IteratorRecord) (limit index : Nat)
    (m : Machine P) : Halt P → (k : Machine P) → Prop where
  | ended {k : Machine P} (hnext : Iteration.nextValue hooks record m = .done none k) :
      Halts hooks callback record limit index m .ended k
  | broken {fault : Fault} {k : Machine P}
      (hnext : Iteration.nextValue hooks record m = .failed fault k) :
      Halts hooks callback record limit index m (.broken fault) k
  | overran {item : Value} {k : Machine P}
      (hnext : Iteration.nextValue hooks record m = .done (some item) k) (hover : limit < index) :
      Halts hooks callback record limit index m .overran k
  | refused {item : Value} {called : Machine P} {fault : Fault} {k : Machine P}
      (hnext : Iteration.nextValue hooks record m = .done (some item) called)
      (hwithin : index ≤ limit)
      (hcall : hooks.call callback .undefined [item, .number (.ofNat index)] called
        = .failed fault k) :
      Halts hooks callback record limit index m (.refused item called fault) k

/-- From the item at `index` on, the loop goes through the rounds, all of
which are within the bound, and then comes to a halt in the machine `k`. The
iterator is asked for the last time in the machine `last`. -/
inductive Course (hooks : Hooks P) (callback : Value) (record : IteratorRecord) (limit : Nat) :
    (index : Nat) → List (Round P) → (m last : Machine P) → Halt P → (k : Machine P) → Prop where
  | halts {index : Nat} {last k : Machine P} {halt : Halt P}
      (hhalts : Halts hooks callback record limit index last halt k) :
      Course hooks callback record limit index [] last last halt k
  | round {index : Nat} {round : Round P} {rounds : List (Round P)} {m last k : Machine P}
      {halt : Halt P}
      (hnext : Iteration.nextValue hooks record round.asked = .done (some round.item) round.called)
      (hwithin : index ≤ limit)
      (hcall : hooks.call callback .undefined [round.item, .number (.ofNat index)] round.called
        = .done round.answer m)
      (hrest : Course hooks callback record limit (index + 1) rounds m last halt k) :
      Course hooks callback record limit index (round :: rounds) round.asked last halt k

/-- What is left to do at a halt. -/
def Halt.outcome (hooks : Hooks P) (record : IteratorRecord) :
    Halt P → Action P (List (GroupKey × Value))
  | .ended => return []
  | .broken fault => Action.fail fault
  | .overran => closeWith hooks record (.range .tooManyValues)
  | .refused _ _ fault => closeWith hooks record fault

/-- The call of the callback that brings a halt at the item at `index`. -/
def Halt.Calls (callback : Value) (index : Nat) (entry : Entry P) (k : Machine P) : Halt P → Prop
  | .refused item called _ => entry = callbackEntry callback item index ∧ k = called
  | _ => False

variable {hooks : Hooks P} {callback : Value} {record : IteratorRecord} {coercion : KeyCoercion}
  {index limit allowance : Nat} {rounds : List (Round P)} {m last k k' : Machine P} {halt : Halt P}
  {entry : Entry P}

/-- A round that brings a halt leaves to do what the halt leaves. There is one
case for each halt: the iterator has ended or is broken, the item is past the
bound, or the callback has failed. -/
theorem keyFrom_of_halts (hhalts : Halts hooks callback record limit index m halt k) :
    keyFrom hooks callback coercion limit (allowance + 1) record index m
      = halt.outcome hooks record k := by
  rw [keyFrom_succ, Action.bind_apply, Action.attempt]
  cases hhalts with
  | ended hnext =>
      rw [hnext]
      rfl
  | broken hnext =>
      rw [hnext]
      rfl
  | overran hnext hover =>
      rw [hnext]
      simp only [afterAsking, if_pos hover]
      rfl
  | refused hnext hwithin hcall =>
      rw [hnext]
      simp only [afterAsking, if_neg (Nat.not_lt.mpr hwithin)]
      rw [Action.bind_apply, Action.attempt, hcall]
      rfl

/-- The loop gives each item the key of its round, and ends as the halt has
it. -/
theorem keyFrom_of_course (hcourse : Course hooks callback record limit index rounds m last halt k)
    (hallowance : rounds.length < allowance) :
    keyFrom hooks callback coercion limit allowance record index m
      = ((rounds.map (Round.keyed coercion) ++ ·) <$> halt.outcome hooks record) k := by
  induction hcourse generalizing allowance with
  | halts hhalts =>
      obtain ⟨allowance, rfl⟩ := Nat.exists_eq_add_one_of_ne_zero (Nat.ne_zero_of_lt hallowance)
      rw [keyFrom_of_halts hhalts]
      simp only [List.map_nil, List.nil_append, id_map']
  | @round index round rounds m last k halt hnext hwithin hcall hrest ih =>
      rw [List.length_cons] at hallowance
      obtain ⟨allowance, rfl⟩ := Nat.exists_eq_add_one_of_ne_zero (Nat.ne_zero_of_lt hallowance)
      have hrest := ih (Nat.lt_of_succ_lt_succ hallowance)
      rw [keyFrom_succ, Action.bind_apply, Action.attempt, hnext]
      simp only [afterAsking, if_neg (Nat.not_lt.mpr hwithin)]
      rw [Action.bind_apply, Action.attempt, hcall]
      simp only [afterCall]
      rw [Action.bind_apply, hrest, Action.map_apply, Action.map_apply]
      -- The item goes in front of the rest, if the halt leaves any result.
      cases halt.outcome hooks record k <;> rfl

/-- A run of the loop that is not cut short has a course. By induction on the
allowance. Each round is followed along the loop, and either it brings a halt
or the rest of the loop has a course. -/
theorem exists_course (hends : keyFrom hooks callback coercion limit allowance record index m
    ≠ .exhausted) :
    ∃ rounds last halt k, rounds.length < allowance ∧
      Course hooks callback record limit index rounds m last halt k := by
  induction allowance generalizing index m with
  | zero => exact absurd rfl hends
  | succ allowance ih =>
      -- All but one of the ways of a round bring a halt.
      have hhalts : ∀ {halt k}, Halts hooks callback record limit index m halt k →
          ∃ rounds last halt k, rounds.length < allowance + 1 ∧
            Course hooks callback record limit index rounds m last halt k := by
        intro halt k h
        exact ⟨[], m, halt, k, Nat.zero_lt_succ _, .halts h⟩
      rw [keyFrom_succ, Action.bind_apply, Action.attempt] at hends
      cases hnext : Iteration.nextValue hooks record m with
      | exhausted =>
          rw [hnext] at hends
          exact absurd rfl hends
      | failed fault k => exact hhalts (.broken hnext)
      | done item? called =>
          cases item? with
          | none => exact hhalts (.ended hnext)
          | some item =>
              by_cases hover : limit < index
              · exact hhalts (.overran hnext hover)
              · rw [hnext] at hends
                simp only [afterAsking, if_neg hover] at hends
                rw [Action.bind_apply, Action.attempt] at hends
                have hwithin : index ≤ limit := Nat.le_of_not_lt hover
                cases hcall : hooks.call callback .undefined [item, .number (.ofNat index)]
                    called with
                | exhausted =>
                    rw [hcall] at hends
                    exact absurd rfl hends
                | failed fault k => exact hhalts (.refused hnext hwithin hcall)
                | done answer m' =>
                    rw [hcall] at hends
                    simp only [afterCall] at hends
                    have hrest : keyFrom hooks callback coercion limit allowance record (index + 1)
                        m' ≠ .exhausted := by
                      intro hrest
                      rw [Action.bind_apply, hrest] at hends
                      exact hends rfl
                    obtain ⟨rounds, last, halt, k, hlength, hcourse⟩ := ih hrest
                    exact ⟨⟨m, item, called, answer⟩ :: rounds, last, halt, k,
                      Nat.succ_lt_succ hlength, .round hnext hwithin hcall hcourse⟩

/-! ### The code of a course -/

/-- Code that is started by the rounds from `index` on: what the iterator
starts when it is asked, and one call of the callback for each item. -/
inductive Starts (hooks : Hooks P) (callback : Value) (record : IteratorRecord) (index : Nat)
    (rounds : List (Round P)) (last : Machine P) (entry : Entry P) (k : Machine P) : Prop where
  | asking (round : Round P) (hmem : round ∈ rounds)
      (henters : hooks.Enters (Iteration.nextValue · record) round.asked entry k)
  | calling (i : Nat) (round : Round P) (hround : rounds[i]? = some round)
      (hentry : entry = callbackEntry callback round.item (index + i)) (hmachine : k = round.called)
  | ending (henters : hooks.Enters (Iteration.nextValue · record) last entry k)

/-- Without rounds the iterator is asked once, which is the code of the
end. -/
theorem starts_nil_iff : Starts hooks callback record index [] last entry k ↔
    hooks.Enters (Iteration.nextValue · record) last entry k := by
  constructor
  · intro h
    cases h with
    | asking round hmem henters => cases hmem
    | calling i round hround hentry hmachine => cases hround
    | ending henters => exact henters
  · exact .ending

/-- The code of some rounds is that of the first one and that of the rest.
Asking for the end belongs to the rest, however many rounds there are. -/
theorem starts_cons_iff {round : Round P} :
    Starts hooks callback record index (round :: rounds) last entry k ↔
      hooks.Enters (Iteration.nextValue · record) round.asked entry k ∨
        (entry = callbackEntry callback round.item index ∧ k = round.called) ∨
        Starts hooks callback record (index + 1) rounds last entry k := by
  -- The places in the rest are one less.
  have hplace : ∀ i, index + (i + 1) = index + 1 + i := by omega
  constructor
  · intro h
    cases h with
    | asking round' hmem henters =>
        cases hmem with
        | head => exact .inl henters
        | tail _ hmem => exact .inr (.inr (.asking round' hmem henters))
    | calling i round' hround hentry hmachine =>
        cases i with
        | zero =>
            cases hround
            exact .inr (.inl ⟨hentry, hmachine⟩)
        | succ i => exact .inr (.inr (.calling i round' hround (hplace i ▸ hentry) hmachine))
    | ending henters => exact .inr (.inr (.ending henters))
  · rintro (henters | ⟨hentry, hmachine⟩ | h)
    · exact .asking round List.mem_cons_self henters
    · exact .calling 0 round rfl hentry hmachine
    · cases h with
      | asking round' hmem henters => exact .asking round' (List.mem_cons_of_mem _ hmem) henters
      | calling i round' hround hentry hmachine =>
          exact .calling (i + 1) round' hround (hplace i ▸ hentry) hmachine
      | ending henters => exact .ending henters

/-- A round starts what the iterator starts when it is asked and, if it gives
an item, what is done with the item. -/
theorem enters_keyFrom_succ_iff :
    hooks.Enters (keyFrom · callback coercion limit (allowance + 1) record index) m entry k ↔
      hooks.Enters (Iteration.nextValue · record) m entry k ∨
        ∃ item called, Iteration.nextValue hooks record m = .done (some item) called ∧
          hooks.Enters (afterAsking · callback coercion limit allowance record index
            (.ok (some item))) called entry k := by
  rw [Hooks.enters_congr (fun hooks => keyFrom_succ hooks callback coercion limit allowance record
    index m), Hooks.enters_attempt_bind_iff (Iteration.nextValue_relays record)
    (fun _ _ _ _ => rfl)]
  constructor
  · rintro (henters | ⟨item?, called, hnext, henters⟩ | ⟨fault, called, hnext, henters⟩)
    · exact .inl henters
    · cases item? with
      | none => exact absurd henters (Hooks.not_enters_const _)
      | some item => exact .inr ⟨item, called, hnext, henters⟩
    · exact absurd henters (Hooks.not_enters_const _)
  · rintro (henters | ⟨item, called, hnext, henters⟩)
    · exact .inl henters
    · exact .inr (.inl ⟨some item, called, hnext, henters⟩)

/-- With an item within the bound, the callback is called. Behind the call
come the further rounds if it answered, and the closing of the iterator if it
failed. -/
theorem enters_afterAsking_iff {item : Value} (hwithin : index ≤ limit) :
    hooks.Enters (afterAsking · callback coercion limit allowance record index (.ok (some item)))
        m entry k ↔
      (entry = callbackEntry callback item index ∧ k = m) ∨
        (∃ answer m', hooks.call callback .undefined [item, .number (.ofNat index)] m
            = .done answer m' ∧
          hooks.Enters (keyFrom · callback coercion limit allowance record (index + 1))
            m' entry k) ∨
        ∃ fault m', hooks.call callback .undefined [item, .number (.ofNat index)] m
            = .failed fault m' ∧
          hooks.Enters (closeWith · record fault) m' entry k := by
  -- A fatal fault closes nothing, and so it starts nothing.
  have hfatal : ∀ (hooks : Hooks P) fault m', fault.isFatal = true →
      afterCall hooks callback coercion limit allowance record index item (.error fault) m'
        = .failed fault m' := by
    intro hooks fault m' hfatal
    rw [afterCall, closeWith, Iteration.close_of_fatal _ _ hfatal]
    rfl
  simp only [afterAsking, if_neg (Nat.not_lt.mpr hwithin)]
  rw [Hooks.enters_attempt_bind_iff (.call _ _ _) hfatal, Hooks.enters_call_iff, callbackEntry]
  simp only [afterCall, Hooks.enters_bind_const_iff _ (keyFrom_relays _ _ _ _ _ _)]

/-- The code of a halt: asking the iterator, the call of the callback that
fails, and what is left to do. -/
theorem enters_keyFrom_of_halts (hhalts : Halts hooks callback record limit index m halt k) :
    hooks.Enters (keyFrom · callback coercion limit (allowance + 1) record index) m entry k' ↔
      hooks.Enters (Iteration.nextValue · record) m entry k' ∨
        halt.Calls callback index entry k' ∨ hooks.Enters (halt.outcome · record) k entry k' := by
  rw [enters_keyFrom_succ_iff]
  apply or_congr_right
  cases hhalts with
  -- Without an item there is nothing more to start.
  | ended hnext => simp [hnext, Halt.Calls, Halt.outcome, Hooks.not_enters_const]
  | broken hnext => simp [hnext, Halt.Calls, Halt.outcome, Hooks.not_enters_const]
  | overran hnext hover =>
      constructor
      · rintro ⟨item, called, hnext', henters⟩
        cases hnext.symm.trans hnext'
        simp only [afterAsking, if_pos hover] at henters
        exact .inr henters
      · rintro (hcalls | henters)
        · exact hcalls.elim
        · refine ⟨_, _, hnext, ?_⟩
          simp only [afterAsking, if_pos hover]
          exact henters
  | refused hnext hwithin hcall =>
      constructor
      · rintro ⟨item, called, hnext', henters⟩
        cases hnext.symm.trans hnext'
        rw [enters_afterAsking_iff hwithin, hcall] at henters
        obtain hhere | ⟨answer, m', hcall', -⟩ | ⟨fault, m', hcall', henters⟩ := henters
        · exact .inl hhere
        · cases hcall'
        · cases hcall'
          exact .inr henters
      · intro h
        refine ⟨_, _, hnext, ?_⟩
        rw [enters_afterAsking_iff hwithin, hcall]
        obtain hhere | henters := h
        · exact .inl hhere
        · exact .inr (.inr ⟨_, _, rfl, henters⟩)

/-- The code of the loop is that of its rounds and of its halt. The induction
is on the course, and the allowance shrinks with it. -/
theorem enters_keyFrom_iff (hcourse : Course hooks callback record limit index rounds m last halt k)
    (hallowance : rounds.length < allowance) :
    hooks.Enters (keyFrom · callback coercion limit allowance record index) m entry k' ↔
      Starts hooks callback record index rounds last entry k' ∨
        halt.Calls callback (index + rounds.length) entry k' ∨
        hooks.Enters (halt.outcome · record) k entry k' := by
  induction hcourse generalizing allowance with
  | halts hhalts =>
      obtain ⟨allowance, rfl⟩ := Nat.exists_eq_add_one_of_ne_zero (Nat.ne_zero_of_lt hallowance)
      rw [enters_keyFrom_of_halts hhalts, starts_nil_iff]
      rfl
  | @round index round rounds m last k halt hnext hwithin hcall hrest ih =>
      rw [List.length_cons] at hallowance ⊢
      obtain ⟨allowance, rfl⟩ := Nat.exists_eq_add_one_of_ne_zero (Nat.ne_zero_of_lt hallowance)
      have hplace : index + (rounds.length + 1) = index + 1 + rounds.length := by omega
      have hrest := ih (Nat.lt_of_succ_lt_succ hallowance)
      rw [enters_keyFrom_succ_iff, starts_cons_iff, hplace, or_assoc, or_assoc, ← hrest]
      -- Asking the iterator is the first thing on both sides.
      apply or_congr_right
      constructor
      · rintro ⟨item, called, hnext', henters⟩
        -- The item and the answer are those of the round.
        cases hnext.symm.trans hnext'
        rw [enters_afterAsking_iff hwithin, hcall] at henters
        obtain hhere | ⟨answer, m', hcall', henters⟩ | ⟨fault, m', hcall', -⟩ := henters
        · exact .inl hhere
        · cases hcall'
          exact .inr henters
        · cases hcall'
      · intro h
        refine ⟨_, _, hnext, ?_⟩
        rw [enters_afterAsking_iff hwithin, hcall]
        obtain hhere | henters := h
        · exact .inl hhere
        · exact .inr (.inl ⟨_, _, rfl, henters⟩)

/-! ### Grouping -/

variable {items : Value} {m₀ : Machine P}

/-- What can be opened is neither undefined nor null. -/
theorem isNullish_of_iterator (hopens : Iteration.iterator hooks items m = .done record m₀) :
    items.isNullish = false := by
  cases items with
  | undefined => cases hopens
  | null => cases hopens
  | _ => rfl

/-- Grouping opens the iterable and goes through the rounds, unless it
refuses what it is given. -/
theorem groupBy_apply (hooks : Hooks P) (coercion : KeyCoercion) (hitems : items.isNullish = false)
    (hcallable : m.realm.isCallable callback = true) :
    groupBy hooks items callback coercion m = (do
      let record ← Iteration.iterator hooks items
      let keyed ← keyFrom hooks callback coercion m.realm.config.maxIterations hooks.rounds record 0
      return Groups.ofList keyed) m := by
  unfold groupBy
  rw [Action.bind_apply, Action.realm]
  simp only [hitems, hcallable, Bool.false_eq_true, if_false, if_true]

/-- Once the iterable is open, grouping comes to the groups of what the loop
comes to. -/
theorem groupBy_of_iterator (coercion : KeyCoercion)
    (hcallable : m.realm.isCallable callback = true)
    (hopens : Iteration.iterator hooks items m = .done record m₀) :
    groupBy hooks items callback coercion m
      = (Groups.ofList <$> keyFrom hooks callback coercion m.realm.config.maxIterations hooks.rounds
          record 0) m₀ := by
  rw [groupBy_apply hooks coercion (isNullish_of_iterator hopens) hcallable, Action.bind_apply,
    hopens]
  rfl

/-- Once the iterable is open, grouping starts the code of the loop. Making
groups of what the loop came to starts none. -/
theorem enters_groupBy_of_iterator (hcallable : m.realm.isCallable callback = true)
    (hopens : Iteration.iterator hooks items m = .done record m₀) :
    hooks.Enters (groupBy · items callback coercion) m entry k ↔
      hooks.Enters (Iteration.iterator · items) m entry k ∨
        hooks.Enters (keyFrom · callback coercion m.realm.config.maxIterations hooks.rounds record
          0) m₀ entry k := by
  have hitems := isNullish_of_iterator hopens
  have hrelays := Action.Heeds.rounds _ fun allowance => keyFrom_relays (P := P) callback
    coercion m.realm.config.maxIterations allowance record 0
  -- The number of rounds is taken from the hooks, so it has to be fixed first.
  have hloop : hooks.Enters (fun hooks => do
      let keyed ← keyFrom hooks callback coercion m.realm.config.maxIterations hooks.rounds record 0
      return Groups.ofList keyed) m₀ entry k ↔
        hooks.Enters (keyFrom · callback coercion m.realm.config.maxIterations hooks.rounds record
          0) m₀ entry k := by
    rw [Hooks.enters_bind_const_iff _ hrelays,
      Hooks.enters_rounds_iff fun allowance hooks => keyFrom hooks callback coercion
        m.realm.config.maxIterations allowance record 0]
  rw [Hooks.enters_congr fun hooks => groupBy_apply hooks coercion hitems hcallable,
    Hooks.enters_bind_iff (Iteration.iterator_relays items), hopens, ← hloop]
  apply or_congr_right
  constructor
  · rintro ⟨record', m₁, hdone, henters⟩
    cases hdone
    exact henters
  · intro henters
    exact ⟨record, m₀, rfl, henters⟩

/-- Grouping comes to what the halt of its course has it come to, with the
keys of the rounds before those that the halt may add. -/
theorem groupBy_of_course (coercion : KeyCoercion) (hcallable : m.realm.isCallable callback = true)
    (hopens : Iteration.iterator hooks items m = .done record m₀)
    (hcourse : Course hooks callback record m.realm.config.maxIterations 0 rounds m₀ last halt k)
    (hallowance : rounds.length < hooks.rounds) :
    groupBy hooks items callback coercion m
      = ((Groups.ofList <| rounds.map (Round.keyed coercion) ++ ·) <$> halt.outcome hooks record)
          k := by
  rw [groupBy_of_iterator coercion hcallable hopens, Action.map_apply,
    keyFrom_of_course hcourse hallowance, Action.map_apply, Action.map_apply]
  cases halt.outcome hooks record k <;> rfl

/-- Grouping starts the code of opening the iterable and that of its course,
and no other. -/
theorem enters_groupBy_of_course (hcallable : m.realm.isCallable callback = true)
    (hopens : Iteration.iterator hooks items m = .done record m₀)
    (hcourse : Course hooks callback record m.realm.config.maxIterations 0 rounds m₀ last halt k)
    (hallowance : rounds.length < hooks.rounds) :
    hooks.Enters (groupBy · items callback coercion) m entry k' ↔
      hooks.Enters (Iteration.iterator · items) m entry k' ∨
        Starts hooks callback record 0 rounds last entry k' ∨
        halt.Calls callback rounds.length entry k' ∨
        hooks.Enters (halt.outcome · record) k entry k' := by
  rw [enters_groupBy_of_iterator hcallable hopens, enters_keyFrom_iff hcourse hallowance,
    Nat.zero_add]

end Grouping

end ScriptRealm
