import ScriptRealm.Proofs.Generator.Finishing
import ScriptRealm.Proofs.Generator.Passing

/-!
# `ScriptRealm.Proofs.Generator.Turns`: one resumption, turn by turn

`Driven I h g r` describes the realm in the middle of a resumption: the
generator under `h` is `g` by now, and beside it an invariant `I` holds
that does not look at this generator. The body is out of the generator
while it runs, so the turns also keep track of what the generator holds.
`Turn.Ready` says what a turn needs to find there, and `Flow.Leaves` what
a turn leaves behind. Both only promise something of a generator that was
sound to begin with.

The turns also keep track of the place that the generator remembers. It is
written when the body throws, and again when a fault leaves the driver, so
what is left depends on both writes and on what was there before. Until the
body throws, nothing is written (`Generator.Executing`).

The lemmas compare the resumption under two hooks, which need to agree
only where code is in fact run: calls are made while the generator holds
its body, and its body is resumed while it holds neither body nor
delegate. `Hooks.DriveAlike` says so. Taking the same hooks twice gives
the statements about one resumption.

What a turn preserves is `takeTurn_agree`, what a run preserves follows by
induction on the rounds (`run_agree`), and `resume_agree` is the result
for a resumption as a whole.
-/

set_option autoImplicit false

namespace ScriptRealm

open ScriptRealm.Action (Agree AgreeAt Keeps)

variable {P : Platform}

/-- What a turn needs to find in a generator: its body, and a delegate just
in case the turn is the delegate's. -/
def Turn.Ready (sound : Prop) (g : Generator P) : Turn → Prop
  | .body _ => sound → g.body.isSome = true ∧ g.delegate = none
  | .delegate _ => sound → g.body.isSome = true ∧ g.delegate.isSome = true

/-- A generator that executes, and remembers the place that it remembered
when it was entered. -/
def Generator.Executing (place : Option Location) (g : Generator P) : Prop :=
  g.state = .executing ∧ g.lastLocation = place

/-- The state in which a result leaves a generator. -/
def IterResult.stateAfter (result : IterResult) : GeneratorState :=
  if result.done then .completed else .suspendedYield

/-- What a turn leaves behind. A turn that leads out with a last result has
completed the generator; every other one finds it executing. -/
def Flow.Leaves (sound : Prop) (place : Option Location) (g : Generator P) : Flow → Prop
  | .turn next => g.Executing place ∧ next.Ready sound g
  | .leave ⟨_, false⟩ => g.Executing place ∧ (sound → g.body.isSome = true)
  | .leave ⟨_, true⟩ => g.Finished ∧ g.lastLocation = place

namespace Generator

/-- A generator at the end of its life is sound. It is in neither of the
suspended states, and about a completed one soundness says no more than that
it is finished. -/
theorem Finished.sound {g : Generator P} (h : g.Finished) : g.Sound where
  start hstate := by
    rw [h.state] at hstate
    cases hstate
  suspended hstate := by
    rw [h.state] at hstate
    cases hstate
  completed _ := ⟨h.body, h.delegate⟩

section

variable {sound : Prop} {place : Option Location} {result : IterResult} {g : Generator P}

/-- Leaving puts a generator into the state that the result tells: it is
suspended unless the result is the last, and then it had completed before. -/
theorem state_leftWith (h : (Flow.leave result).Leaves sound place g) :
    (g.leftWith result).state = result.stateAfter := by
  obtain ⟨value, done⟩ := result
  cases done with
  | false =>
      have hexecuting : g.state = .executing := h.1.1
      rw [leftWith, if_pos hexecuting]
      rfl
  | true =>
      have hcompleted : g.state = .completed := h.1.state
      rw [leftWith, if_neg (by rw [hcompleted]; decide), hcompleted]
      rfl

/-- Leaving makes a sound generator of one that was sound to begin with.
Either it is suspended with its body in it, or the turn had completed it
before. -/
theorem sound_leftWith (h : (Flow.leave result).Leaves sound place g) (hsound : sound) :
    (g.leftWith result).Sound := by
  obtain ⟨value, done⟩ := result
  cases done with
  | false =>
      rw [leftWith, if_pos h.1.1]
      exact ⟨nofun, fun _ => h.2 hsound, nofun⟩
  | true =>
      rw [leftWith, if_neg (by rw [h.1.state]; decide)]
      exact h.1.sound

/-- A result has no place, so leaving with one writes none. The place is the
one from before the turn. -/
theorem lastLocation_leftWith (h : (Flow.leave result).Leaves sound place g) :
    (g.leftWith result).lastLocation = place := by
  have hplace : g.lastLocation = place := by
    obtain ⟨value, done⟩ := result
    cases done with
    | false => exact h.1.2
    | true => exact h.2
  unfold leftWith
  split
  · exact hplace
  · exact hplace

/-- The second write keeps the place that the first one left, unless the
fault has one. If there was no place to begin with, both writes come to the
place of the fault. -/
theorem lastLocation_failedWith {fault : Fault}
    (hplace : g.lastLocation = place ∨ g.lastLocation = fault.location?) (hnone : place = none) :
    (g.failedWith fault).lastLocation = fault.location? := by
  rcases hplace with hplace | hplace
  · simp [failedWith, hplace, hnone]
  · simp [failedWith, hplace]

end

end Generator

/-- An invariant of what stands beside the generator under `h`: the changes
of a realm keep it, and so does putting another generator in the place of
that one. -/
structure Realm.Beside (licence : Licence) (h : Handle) (I : Realm P → Prop) : Prop where
  change : Stable licence I
  drive : ∀ r g g', (r.record h).kind = .generator g → I r → I (r.setKind h (.generator g'))

namespace Generator

/-- The generator under `h` has come to be `g`, and beside it `I` holds. -/
structure Driven (I : Realm P → Prop) (h : Handle) (g : Generator P) (r : Realm P) : Prop where
  kind : (r.record h).kind = .generator g
  beside : I r

variable {licence : Realm.Licence} {I : Realm P → Prop} {h : Handle} {g : Generator P}
  {m : Machine P}
  {α : Type} {done : α → Machine P → Prop} {failed : Fault → Machine P → Prop}

/-- Two operations that begin by finding the generator agree if they do when
they are given it. -/
theorem find_bind {method : Method} {f f' : Generator P → Action P α}
    (hkind : (m.realm.record h).kind = .generator g) (hf : AgreeAt m (f g) (f' g) done failed) :
    AgreeAt m (find h method >>= f) (find h method >>= f') done failed := by
  constructor
  · rw [Action.bind_apply, Action.bind_apply, find_apply hkind]
    exact hf.same
  · rw [Action.bind_apply, find_apply hkind]
    exact hf.meets

/-- A change of a realm does not touch a generator that executes. -/
theorem Driven.stable (hI : Realm.Beside licence h I) (hexecuting : g.state = .executing) :
    Realm.Stable licence (Driven I h g) :=
  fun r s hchange hdriven =>
    ⟨(hchange.passes h).executing g hdriven.kind hexecuting, hI.change r s hchange hdriven.beside⟩

/-- Changing the driven generator changes nothing beside it. -/
theorem Driven.setGenerator (hI : Realm.Beside licence h I) (hdriven : Driven I h g m.realm)
    (g' : Generator P) : Driven I h g' (m.setGenerator h g').realm :=
  ⟨Machine.Holds.setGenerator hdriven.kind g', hI.drive _ g g' hdriven.kind hdriven.beside⟩

/-- A change of the driven generator is the same under all hooks, and the
generator is the changed one after it. -/
theorem modify_driven (hI : Realm.Beside licence h I) (hdriven : Driven I h g m.realm)
    (f : Generator P → Generator P) :
    AgreeAt m (modify h f) (modify h f) (fun _ m' => Driven I h (f g) m'.realm) failed := by
  refine ⟨rfl, ?_⟩
  rw [modify_apply hdriven.kind]
  exact hdriven.setGenerator hI (f g)

/-! ### Turns -/

/-- The end of a turn that did not fail: the generator is what the flow
says. -/
def TurnDone (sound : Prop) (place : Option Location) (I : Realm P → Prop) (h : Handle)
    (flow : Flow) (m : Machine P) : Prop :=
  ∃ g, Driven I h g m.realm ∧ flow.Leaves sound place g

/-- The end of a turn that failed: the generator is still there, and if a
place has been written by then, it is that of the fault. -/
def TurnFailed (place : Option Location) (I : Realm P → Prop) (h : Handle) (fault : Fault)
    (m : Machine P) : Prop :=
  ∃ g, Driven I h g m.realm ∧ (g.lastLocation = place ∨ g.lastLocation = fault.location?)

end Generator

/-- Two hooks run code alike wherever the driving of the generator under
`h` runs code. -/
structure Hooks.DriveAlike (sound : Prop) (place : Option Location) (I : Realm P → Prop)
    (h : Handle) (hooks hooks' : Hooks P) : Prop where
  call : ∀ g : Generator P, g.Executing place → (sound → g.body.isSome = true) →
    ∀ f this args,
      Action.Agree (Generator.Driven I h g) (hooks.call f this args) (hooks'.call f this args)
  resume : ∀ g : Generator P, g.Executing place → g.body = none →
    (sound → g.delegate = none) → ∀ body frame completion,
      Action.Agree (Generator.Driven I h g) (hooks.resume body frame completion)
        (hooks'.resume body frame completion)
  rounds : hooks.rounds = hooks'.rounds

namespace Generator

variable {licence : Realm.Licence} {sound : Prop} {place : Option Location} {I : Realm P → Prop}
  {h : Handle} {g : Generator P} {m : Machine P} {hooks hooks' : Hooks P}

/-- While the generator holds its body, code is called alike. -/
theorem agree_of_body (hh : hooks.DriveAlike sound place I h hooks')
    (hexecuting : g.Executing place) (hbody : sound → g.body.isSome = true) :
    hooks.Agree (Driven I h g) hooks' :=
  ⟨hh.call g hexecuting hbody, hh.rounds⟩

section

variable (hI : Realm.Beside licence h I)
include hI

/-- A fault is thrown into a body that is there and has no delegate. Making a
value of the fault may allocate an error object, which does not touch a
generator that executes. -/
theorem recover_turn (hdriven : Driven I h g m.realm) (hexecuting : g.Executing place)
    (hready : sound → g.body.isSome = true ∧ g.delegate = none) (fault : Fault) :
    AgreeAt m (recover fault) (recover fault) (TurnDone sound place I h)
      (TurnFailed place I h) := by
  have hvalue : AgreeAt m (Object.faultToValue fault) (Object.faultToValue fault)
      (fun _ m' => Driven I h g m'.realm) (TurnFailed place I h) :=
    (Object.faultToValue_keeps (Driven.stable hI hexecuting.1) fault m hdriven).mono
      (fun _ _ hm' => hm') fun _ _ hm' => ⟨g, hm', .inl hexecuting.2⟩
  exact .bind hvalue fun _ _ hm' => .pure ⟨g, hm', hexecuting, hready⟩

/-- An answer of the delegate is settled alike, if it is obtained alike while
the generator holds body and delegate. The three cases are an answer to pass
on, the last answer and a fault; after the last two the delegate is gone, so
it is the body's turn. -/
theorem settle_agree (hdriven : Driven I h g m.realm) (hexecuting : g.Executing place)
    (hbody : sound → g.body.isSome = true) (onDone : Value → Completion)
    {answer answer' : Action P IterResult} (hanswer : Agree (Driven I h g) answer answer') :
    AgreeAt m (settle h onDone answer) (settle h onDone answer') (TurnDone sound place I h)
      (TurnFailed place I h) := by
  refine .bind (hanswer.attempt_at hdriven) fun outcome m' hm' => ?_
  -- The delegate goes on, has come to its end, or has failed.
  split
  · exact .pure ⟨g, hm', hexecuting, hbody⟩
  · exact .bind (modify_driven hI hm' _) fun _ _ hm'' =>
      .pure ⟨_, hm'', hexecuting, fun hs => ⟨hbody hs, rfl⟩⟩
  · exact .bind (modify_driven hI hm' _) fun _ _ hm'' =>
      recover_turn hI hm'' hexecuting (fun hs => ⟨hbody hs, rfl⟩) _

variable (hh : hooks.DriveAlike sound place I h hooks')
include hh

/-- What follows on a step of the body is the same under both hooks. The
delegate of a step that delegates is found by running code, at a time when the
generator holds its body. -/
theorem follow_agree (hdriven : Driven I h g m.realm) (hexecuting : g.Executing place)
    (hready : sound → g.body.isSome = true ∧ g.delegate = none) (step : Step) :
    AgreeAt m (follow hooks h step) (follow hooks' h step) (TurnDone sound place I h)
      (TurnFailed place I h) := by
  cases step with
  | yielded value => exact .pure ⟨g, hdriven, hexecuting, fun hs => (hready hs).1⟩
  | returned value =>
      exact .bind (modify_driven hI hdriven complete) fun _ _ hm' =>
        .pure ⟨_, hm', finished_complete g, hexecuting.2⟩
  -- Of the steps only this one writes the place, and the fault that follows has the same.
  | threw value location =>
      exact .bind (modify_driven hI hdriven _) fun _ _ hm' => .fail ⟨_, hm', .inr rfl⟩
  | delegated iterable =>
      have hagree := agree_of_body hh hexecuting fun hs => (hready hs).1
      have hopens := Iteration.iterator_agree (Driven.stable hI hexecuting.1) hagree iterable
      refine .bind (hopens.attempt_at hdriven) fun delegate m' hm' => ?_
      cases delegate with
      | ok delegate =>
          exact .bind (modify_driven hI hm' _) fun _ _ hm'' =>
            .pure ⟨_, hm'', hexecuting, fun hs => ⟨(hready hs).1, rfl⟩⟩
      | error fault => exact recover_turn hI hm' hexecuting hready fault

/-- A turn of the body is the same under both hooks. If the generator is to be
found without a body, no code runs. Otherwise the body is taken out, runs, and
is put back before its step is followed. -/
theorem bodyTurn_agree (hdriven : Driven I h g m.realm) (hexecuting : g.Executing place)
    (completion : Completion) (hready : (Turn.body completion).Ready sound g) :
    AgreeAt m (bodyTurn hooks h completion) (bodyTurn hooks' h completion)
      (TurnDone sound place I h) (TurnFailed place I h) := by
  unfold bodyTurn
  refine find_bind hdriven.kind ?_
  cases hbody : g.body with
  | none => exact .fail ⟨g, hdriven, .inl hexecuting.2⟩
  | some body =>
      refine .bind (modify_driven hI hdriven _) fun _ m₁ hm₁ => ?_
      -- The body runs while the generator holds neither body nor delegate.
      have hrun : AgreeAt m₁ (hooks.resume body g.frame completion)
          (hooks'.resume body g.frame completion)
          (fun _ m' => Driven I h { g with body := none, frame := {} } m'.realm)
          (TurnFailed place I h) :=
        (hh.resume { g with body := none, frame := {} } hexecuting rfl (fun hs => (hready hs).2)
          body g.frame completion m₁ hm₁).mono (fun _ _ hm' => hm')
          fun _ _ hm' => ⟨_, hm', .inl hexecuting.2⟩
      refine .bind hrun fun resumption m₂ hm₂ => ?_
      refine .bind (modify_driven hI hm₂ _) fun _ m₃ hm₃ => ?_
      -- The body is back, so whatever the step is, the generator is found as it should be.
      have hstep : AgreeAt m₃ (.ofExcept resumption.step) (.ofExcept resumption.step)
          (fun _ m' => Driven I h
            { g with body := some resumption.body, frame := resumption.frame } m'.realm)
          (TurnFailed place I h) :=
        .ofExcept (fun _ _ => hm₃) fun _ _ => ⟨_, hm₃, .inl hexecuting.2⟩
      exact .bind hstep fun step m₄ hm₄ =>
        follow_agree hI hh hm₄ hexecuting (fun hs => ⟨rfl, (hready hs).2⟩) step

/-- The delegate's method is called, and its answer is taken apart, while
the generator holds its body. -/
theorem ask_agree (hexecuting : g.Executing place) (hbody : sound → g.body.isSome = true)
    (method this value : Value) :
    Agree (Driven I h g) (do unpack hooks (← hooks.call method this [value]))
      (do unpack hooks' (← hooks'.call method this [value])) := by
  have hagree := agree_of_body hh hexecuting hbody
  exact .bind (hagree.call _ _ _) fun answer =>
    unpack_agree (Driven.stable hI hexecuting.1) hagree answer

/-- A return is passed on to the delegate alike under both hooks. If the
delegate has no such method, it is given up and the body returns instead. -/
theorem delegateReturn_agree (hdriven : Driven I h g m.realm) (hexecuting : g.Executing place)
    (hbody : sound → g.body.isSome = true) (delegate : IteratorRecord) (value : Value) :
    AgreeAt m (delegateReturn hooks h delegate value) (delegateReturn hooks' h delegate value)
      (TurnDone sound place I h) (TurnFailed place I h) := by
  have hmethod := Object.getMethod?_agree (Driven.stable hI hexecuting.1)
    (agree_of_body hh hexecuting hbody) (.object delegate.iterator) (.string "return")
  refine .bind (hmethod.attempt_at hdriven) fun method m' hm' => ?_
  rcases method with fault | _ | method
  · exact settle_agree hI hm' hexecuting hbody _ (.fail fault)
  · exact .bind (modify_driven hI hm' _) fun _ _ hm'' =>
      .pure ⟨_, hm'', hexecuting, fun hs => ⟨hbody hs, rfl⟩⟩
  · exact settle_agree hI hm' hexecuting hbody _ (ask_agree hI hh hexecuting hbody _ _ _)

/-- A throw is passed on to the delegate alike under both hooks. If the
delegate has no such method, it is given up and closed, and the value is
thrown into the body; a fault in closing it goes there instead. -/
theorem delegateThrow_agree (hdriven : Driven I h g m.realm) (hexecuting : g.Executing place)
    (hbody : sound → g.body.isSome = true) (delegate : IteratorRecord) (value : Value) :
    AgreeAt m (delegateThrow hooks h delegate value) (delegateThrow hooks' h delegate value)
      (TurnDone sound place I h) (TurnFailed place I h) := by
  have hmethod := Object.getMethod?_agree (Driven.stable hI hexecuting.1)
    (agree_of_body hh hexecuting hbody) (.object delegate.iterator) (.string "throw")
  refine .bind (hmethod.attempt_at hdriven) fun method m' hm' => ?_
  rcases method with fault | _ | method
  · exact settle_agree hI hm' hexecuting hbody _ (.fail fault)
  · -- The delegate is closed when it is no longer the generator's.
    refine .bind (modify_driven hI hm' _) fun _ m₁ hm₁ => ?_
    have hexecuting₁ : Executing place { g with delegate := none } := hexecuting
    have hclose := Iteration.close_agree (Driven.stable hI hexecuting₁.1)
      (agree_of_body hh hexecuting₁ hbody) delegate (.ok .undefined)
    refine .bind (hclose.attempt_at hm₁) fun closed m₂ hm₂ => ?_
    rcases closed with fault | _
    · exact recover_turn hI hm₂ hexecuting (fun hs => ⟨hbody hs, rfl⟩) fault
    · exact .pure ⟨_, hm₂, hexecuting, fun hs => ⟨hbody hs, rfl⟩⟩
  · exact settle_agree hI hm' hexecuting hbody _ (ask_agree hI hh hexecuting hbody _ _ _)

/-- A turn of the delegate is the same under both hooks, whichever the
completion is. The body stays in the generator all the time. -/
theorem delegateTurn_agree (hdriven : Driven I h g m.realm) (hexecuting : g.Executing place)
    (completion : Completion) (hready : (Turn.delegate completion).Ready sound g) :
    AgreeAt m (delegateTurn hooks h completion) (delegateTurn hooks' h completion)
      (TurnDone sound place I h) (TurnFailed place I h) := by
  have hbody : sound → g.body.isSome = true := fun hs => (hready hs).1
  unfold delegateTurn
  refine find_bind hdriven.kind ?_
  cases hdelegate : g.delegate with
  | none => exact .fail ⟨g, hdriven, .inl hexecuting.2⟩
  | some delegate =>
      cases completion with
      | next value =>
          exact settle_agree hI hdriven hexecuting hbody _
            (ask_agree hI hh hexecuting hbody _ _ _)
      | returning value => exact delegateReturn_agree hI hh hdriven hexecuting hbody delegate value
      | throwing value => exact delegateThrow_agree hI hh hdriven hexecuting hbody delegate value

/-- What one turn preserves: a generator that is ready for the turn comes out
of it as the flow says. In particular, if another turn is to be taken it is
ready for that one. -/
theorem takeTurn_agree (hdriven : Driven I h g m.realm) (hexecuting : g.Executing place)
    (turn : Turn) (hready : turn.Ready sound g) :
    AgreeAt m (takeTurn hooks h turn) (takeTurn hooks' h turn) (TurnDone sound place I h)
      (TurnFailed place I h) := by
  cases turn with
  | body completion => exact bodyTurn_agree hI hh hdriven hexecuting completion hready
  | delegate completion => exact delegateTurn_agree hI hh hdriven hexecuting completion hready

/-! ### Runs and resumptions -/

/-- What a run preserves: with a result it ends with the generator in the
state that the result tells, with a fault at the end of its life. By induction
on the rounds; a turn that leads to another leaves what the next one needs. -/
theorem run_agree (rounds : Nat) (hdriven : Driven I h g m.realm)
    (hexecuting : g.Executing place) (turn : Turn) (hready : turn.Ready sound g) :
    AgreeAt m (run hooks h rounds turn) (run hooks' h rounds turn)
      (fun result m' => ∃ g', Driven I h g' m'.realm ∧ g'.state = result.stateAfter ∧
        g'.lastLocation = place ∧ (sound → g'.Sound))
      (fun fault m' => ∃ g', Driven I h g' m'.realm ∧ g'.Finished ∧
        (place = none → g'.lastLocation = fault.location?)) := by
  induction rounds generalizing g m turn with
  | zero => exact .exhausted
  | succ rounds ih =>
      have hturn : AgreeAt m (takeTurn hooks h turn).attempt (takeTurn hooks' h turn).attempt
          (fun flow m' => match flow with
            | .ok flow => TurnDone sound place I h flow m'
            | .error fault => TurnFailed place I h fault m')
          (fun fault m' => ∃ g', Driven I h g' m'.realm ∧ g'.Finished ∧
            (place = none → g'.lastLocation = fault.location?)) :=
        .attempt (takeTurn_agree hI hh hdriven hexecuting turn hready)
      refine .bind hturn fun flow m' hm' => ?_
      -- A fault finishes the generator, and is the second to write a place.
      cases flow with
      | error fault =>
          obtain ⟨g', hdriven', hplace⟩ := hm'
          exact .bind (modify_driven hI hdriven' _) fun _ _ hm'' =>
            .fail ⟨_, hm'', finished_failedWith fault g', lastLocation_failedWith hplace⟩
      | ok flow =>
          obtain ⟨g', hdriven', hleaves⟩ := hm'
          cases flow with
          | turn next => exact ih hdriven' hleaves.1 next hleaves.2
          | leave result =>
              exact .bind (modify_driven hI hdriven' _) fun _ _ hm'' =>
                .pure ⟨_, hm'', state_leftWith hleaves, lastLocation_leftWith hleaves,
                  sound_leftWith hleaves⟩

end

/-- What has become of the generator `g` when it has come to rest in a
state. If it remembered no place to begin with, it remembers the given one
by then. -/
structure ComesToRest (g : Generator P) (state : GeneratorState) (place : Option Location)
    (g' : Generator P) : Prop where
  state : g'.state = state
  sound : g.Sound → g'.Sound
  /-- A generator that had completed is left alone. -/
  completed : g.state = .completed → g' = g
  place : g.state ≠ .completed → g.lastLocation = none → g'.lastLocation = place

/-- The generator under `h`, which was `g`, has come to rest in a state. -/
def CameTo (I : Realm P → Prop) (h : Handle) (g : Generator P) (state : GeneratorState)
    (place : Option Location) (m : Machine P) : Prop :=
  ∃ g', Driven I h g' m.realm ∧ g.ComesToRest state place g'

/-- A generator that has completed is not touched. -/
theorem cameTo_completed (hdriven : Driven I h g m.realm) (hstate : g.state = .completed) :
    CameTo I h g .completed place m :=
  ⟨g, hdriven, hstate, id, fun _ => rfl, fun hnot => absurd hstate hnot⟩

/-- A generator that has not been entered is completed at once by what is
no value. It has been nowhere, so it remembers what it did. -/
theorem modify_complete_agree (hI : Realm.Beside licence h I) (hdriven : Driven I h g m.realm)
    (hstate : g.state = .suspendedStart) {failed : Fault → Machine P → Prop} :
    AgreeAt m (modify h complete) (modify h complete) (fun _ => CameTo I h g .completed none)
      failed := by
  refine (modify_driven hI hdriven complete).mono (fun _ m' hm' => ?_) fun _ _ h => h
  -- The state was that of a start, so the field about completed generators is void.
  refine ⟨g.complete, hm', rfl, fun _ => (finished_complete g).sound, fun hcompleted => ?_,
    fun _ hnone => hnone⟩
  rw [hstate] at hcompleted
  cases hcompleted

/-- A generator at rest is ready for the turn it is entered with. If it is
sound it has its body in either of the suspended states, and the turn is the
delegate's if there is one. -/
theorem ready_first (hrest : g.state ≠ .executing) (hcompleted : g.state ≠ .completed)
    (hsound : sound → g.Sound) (completion : Completion) :
    (if g.delegate.isSome then Turn.delegate completion else .body completion).Ready sound
      { g with state := .executing } := by
  have hbody : sound → g.body.isSome = true := by
    intro hs
    cases hstate : g.state with
    | suspendedStart => exact ((hsound hs).start hstate).1
    | suspendedYield => exact (hsound hs).suspended hstate
    | executing => exact absurd hstate hrest
    | completed => exact absurd hstate hcompleted
  split
  · rename_i hdelegate
    exact fun hs => ⟨hbody hs, hdelegate⟩
  · rename_i hdelegate
    exact fun hs => ⟨hbody hs, by simpa using hdelegate⟩

/-- Entering a generator at rest runs it from there. The generator is marked
as executing first, and its delegate has the first turn if there is one. -/
theorem enter_agree (hI : Realm.Beside licence h I)
    (hh : hooks.DriveAlike g.Sound g.lastLocation I h hooks') (hdriven : Driven I h g m.realm)
    (hrest : g.state ≠ .executing) (hcompleted : g.state ≠ .completed) (completion : Completion) :
    AgreeAt m
      (do
        modify h fun g => { g with state := .executing }
        run hooks h hooks.rounds
          (if g.delegate.isSome then .delegate completion else .body completion))
      (do
        modify h fun g => { g with state := .executing }
        run hooks' h hooks'.rounds
          (if g.delegate.isSome then .delegate completion else .body completion))
      (fun result => CameTo I h g result.stateAfter none)
      (fun fault => CameTo I h g .completed fault.location?) := by
  refine .bind (modify_driven hI hdriven _) fun _ m' hm' => ?_
  -- Both hooks allow the same number of turns.
  rw [← hh.rounds]
  have hready := ready_first hrest hcompleted id completion
  refine (run_agree hI hh hooks.rounds hm' ⟨rfl, rfl⟩ _ hready).mono ?_ ?_
  · rintro result m'' ⟨g', hdriven, hstate, hplace, hsound⟩
    exact ⟨g', hdriven, hstate, hsound, fun h => absurd h hcompleted, fun _ => hplace.trans⟩
  · rintro fault m'' ⟨g', hdriven, hfinished, hplace⟩
    exact ⟨g', hdriven, hfinished.state, fun _ => hfinished.sound, fun h => absurd h hcompleted,
      fun _ => hplace⟩

/-- What a resumption of a generator at rest comes to. A result leaves no
place behind, and a fault its own. The cases are those of the state and the
completion, and only a generator that is entered runs code. -/
theorem resume_agree (hI : Realm.Beside licence h I)
    (hh : hooks.DriveAlike g.Sound g.lastLocation I h hooks') (hdriven : Driven I h g m.realm)
    (hrest : g.state ≠ .executing) (completion : Completion) :
    AgreeAt m (resume hooks h completion) (resume hooks' h completion)
      (fun result => CameTo I h g result.stateAfter none)
      (fun fault => CameTo I h g .completed fault.location?) := by
  unfold resume
  refine find_bind hdriven.kind ?_
  have henter := enter_agree hI hh hdriven hrest
  cases hstate : g.state with
  | executing => exact absurd hstate hrest
  | suspendedYield => exact henter (by rw [hstate]; decide) completion
  | suspendedStart =>
      cases completion with
      | next value => exact henter (by rw [hstate]; decide) (.next value)
      | returning value =>
          exact .bind (modify_complete_agree hI hdriven hstate) fun _ _ hm' => .pure hm'
      | throwing value =>
          exact .bind (modify_complete_agree hI hdriven hstate) fun _ _ hm' => .fail hm'
  | completed =>
      cases completion with
      | next value => exact .pure (cameTo_completed hdriven hstate)
      | returning value => exact .pure (cameTo_completed hdriven hstate)
      | throwing value => exact .fail (cameTo_completed hdriven hstate)

end Generator

end ScriptRealm
