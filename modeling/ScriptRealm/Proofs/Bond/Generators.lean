import ScriptRealm.Proofs.Bond.Requests
import ScriptRealm.Proofs.Generator.Finishing

/-!
# `ScriptRealm.Proofs.Bond.Generators`: resumptions, side by side

The driver of a generator takes body and frame out of the generator while
the body runs, and puts back what the body has left. It stores a delegate
and lets go of it again. Not every bond survives this, so the walk over the
driver asks for one that does: with `Bond.Logic.Resumes`, a generator may be
replaced by another one, and bodies that correspond are resumed side by
side.

There is one lemma for each step of the driver, from finding the generator
to `takeTurn_related`. What one turn leads to is what the next one begins
with, so a run is related by induction on its rounds (`run_related`), and
from this follows `resume_related`.

A fatal fault ends a turn at once, and the turn ends the run. The driver
still writes to its generator on the way out, so what is returned is
described by `TurnReturns` and `ResumptionReturns`. With
`Request.perform_resumed` and `IntrinsicFunction.run_resumed` the walk is
complete: all requests and all functions of a new realm are related.
-/

set_option autoImplicit false

namespace ScriptRealm

open Refers (Below)
open Bond (Logic Carries)
open Bond.Logic (Relates Relays)

variable {P Q : Platform} [P.Told] {B : Bond P Q} {n : Nat} {m : Machine P} {m' : Machine Q}

/-! ### Bonds that survive a resumption -/

namespace Bond

/-- Generators that are alike, and refer to the first `n` objects. -/
def Generators (B : Bond P Q) (n : Nat) (g : Generator P) (g' : Generator Q) : Prop :=
  g.Alike B.likeness g' ∧ B.Within n g

/-- What bodies have left, alike and within reach. -/
def Resumptions (B : Bond P Q) (n : Nat) (x : Resumption P) (y : Resumption Q) : Prop :=
  x.Alike B.likeness y ∧ B.Within n x

/-- What a logic has to provide so that generators can be resumed. -/
structure Logic.Resumes (L : B.Logic) : Prop where
  /-- A generator is replaced by another one. -/
  drive : ∀ {n : Nat} {m : Machine P} {m' : Machine Q} {h : Handle} {g g₁ : Generator P}
    {g' g₁' : Generator Q}, B.machine n m m' → m.Holds h g → m'.Holds h g' →
    B.Generators n g₁ g₁' →
    ∃ n', n ≤ n' ∧ B.machine n' (m.setGenerator h g₁) (m'.setGenerator h g₁')
  /-- A body is resumed in the frame in which it corresponds to the other,
  and one goes on with what it has left. -/
  resume : ∀ {γ δ : Type} {S : Nat → γ → δ → Prop} {n : Nat} {m : Machine P} {m' : Machine Q}
    {frame : Frame} {body : P.Body} {body' : Q.Body} {completion : Completion}
    {returns : Fault → Machine P → Outcome P γ → Prop}
    (next : Outcome P (Resumption P) → Hooks P → Outcome P γ)
    (next' : Outcome Q (Resumption Q) → Hooks Q → Outcome Q δ), B.machine n m m' →
    B.likeness.body frame body body' → B.Within n body → B.Within n frame →
    B.Within n completion →
    (∀ outcome outcome', B.Ends B.Resumptions n outcome outcome' →
      L.Rel S n returns (next outcome) (next' outcome')) →
    Concludes (fun fault k outcome => outcome.Raises fault k) next returns →
    L.Rel S n returns (fun hooks => next (hooks.resume body frame completion m) hooks)
      (fun hooks => next' (hooks.resume body' frame completion m') hooks)

/-- A sequence that begins with resuming a body. What comes second gets what
the two bodies have left, which corresponds but is not the same. -/
theorem Logic.Resumes.bind {L : B.Logic} (hL : L.Resumes) {γ δ : Type} {S : Nat → γ → δ → Prop}
    {frame : Frame} {body : P.Body} {body' : Q.Body} {completion : Completion}
    {returns : Fault → Machine P → Outcome P γ → Prop} {f : Hooks P → Resumption P → Action P γ}
    {g : Hooks Q → Resumption Q → Action Q δ} (hm : B.machine n m m')
    (hbody : B.likeness.body frame body body') (hin : B.Within n body) (hframe : B.Within n frame)
    (hcompletion : B.Within n completion)
    (hf : ∀ {n' : Nat} {k : Machine P} {k' : Machine Q} (x : Resumption P) (y : Resumption Q),
      n ≤ n' → B.machine n' k k' → B.Resumptions n' x y →
      L.Rel S n' returns (fun hooks => f hooks x k) fun hooks => g hooks y k')
    (hfatal : Concludes (fun fault k outcome => outcome.Raises fault k)
      (fun outcome hooks => outcome.bind fun x k => f hooks x k) returns) :
    L.Rel S n returns (fun hooks => (hooks.resume body frame completion >>= f hooks) m)
      (fun hooks => (hooks.resume body' frame completion >>= g hooks) m') := by
  refine hL.resume (fun outcome hooks => outcome.bind fun x k => f hooks x k)
    (fun outcome hooks => outcome.bind fun y k => g hooks y k) hm hbody hin hframe hcompletion ?_
    hfatal
  intro outcome outcome' hends
  cases hends with
  | done hle hk hxy => exact L.weaken hle (hf _ _ hle hk hxy)
  | failed hle hk hfault => exact L.const (.failed hle hk hfault)
  | exhausted => exact L.const .exhausted

/-- In a simulation, it is enough that hooks that are alike also resume bodies
alike. As for calls, nothing is asked about fatal faults. -/
theorem simulation_resumes {hB : B.Lawful} {alike : Hooks P → Hooks Q → Prop}
    {hruns : ∀ {hooks hooks'}, alike hooks hooks' → B.Runs hooks hooks'}
    (hdrive : ∀ {n : Nat} {m : Machine P} {m' : Machine Q} {h : Handle} {g g₁ : Generator P}
      {g' g₁' : Generator Q}, B.machine n m m' → m.Holds h g → m'.Holds h g' →
      B.Generators n g₁ g₁' →
      ∃ n', n ≤ n' ∧ B.machine n' (m.setGenerator h g₁) (m'.setGenerator h g₁'))
    (hresume : ∀ {n : Nat} {m : Machine P} {m' : Machine Q} {hooks : Hooks P} {hooks' : Hooks Q}
      {frame : Frame} {body : P.Body} {body' : Q.Body} {completion : Completion},
      alike hooks hooks' → B.machine n m m' → B.likeness.body frame body body' →
      B.Within n body → B.Within n frame → B.Within n completion →
      B.Ends B.Resumptions n (hooks.resume body frame completion m)
        (hooks'.resume body' frame completion m')) :
    (simulation B hB alike hruns).Resumes where
  drive := hdrive
  resume _ _ hm hbody hin hframe hcompletion hnext _ hooks hooks' halike :=
    hnext _ _ (hresume halike hm hbody hin hframe hcompletion) hooks hooks' halike

end Bond

namespace Generator

variable {h : Handle} {value : Value} {completion : Completion} {delegate : IteratorRecord}

/-! ### Steps of the driver -/

/-- The generator that a handle leads to is found on both sides or on
neither. -/
theorem find_carried (hB : B.Lawful) (h : Handle) (method : Method) :
    B.Carries B.Generators n (find h method : Action P (Generator P)) (find h method) := by
  intro n' m m' _ hm
  refine .record_bind ?_
  have hkind := ((hB.alike hm).record h).kind
  obtain ⟨hnone, hnone'⟩ | ⟨g, g', hsome, hsome', hg⟩ := hkind.generator?
  · simp only [hnone, hnone']
    exact .fail hm fun _ => trivial
  · simp only [hsome, hsome']
    refine .pure hm ⟨hg, fun ht => ?_⟩
    exact (Kind.below_generator? ((hB.traces hm ht).objects h).kind).of_eq_some hsome

variable {L : B.Logic} (hL : L.Resumes)
include hL

/-- The same is done to the generators of both sides, or there are none. What
is done has to lead from generators that correspond to such, and to add
nothing that is out of reach. -/
theorem modify_carried (h : Handle) {f : Generator P → Generator P}
    {f' : Generator Q → Generator Q}
    (hf : ∀ n' g g', n ≤ n' → B.Generators n' g g' → B.Generators n' (f g) (f' g')) :
    B.Carries B.Same n (modify h f) (modify h f') := by
  intro n' m m' hle hm
  have hkind := ((L.lawful.alike hm).record h).kind
  have hwithin : B.Within n' (m.realm.record h).kind :=
    fun ht => ((L.lawful.traces hm ht).objects h).kind
  generalize hx : (m.realm.record h).kind = kind at hkind hwithin
  generalize hy : (m'.realm.record h).kind = kind' at hkind
  cases hkind with
  | generator hg =>
      obtain ⟨n₁, hle₁, hm₁⟩ := hL.drive hm hx hy (hf n' _ _ hle ⟨hg, hwithin⟩)
      rw [modify_apply hx, modify_apply hy]
      exact .done hle₁ hm₁ ⟨rfl, fun _ => trivial⟩
  -- Under a handle that is no generator's, nothing changes.
  | _ =>
      refine .modify ⟨n', Nat.le_refl n', ?_⟩
      rw [Realm.update_eq_self (by simp only [hx]), Realm.update_eq_self (by simp only [hy])]
      exact hm

/-- A generator that is completed lets go of its body and its delegate. -/
theorem complete_carried (h : Handle) :
    B.Carries B.Same n (modify h (complete (P := P))) (modify h (complete (P := Q))) := by
  refine modify_carried hL h ?_
  exact fun _ _ _ _ hg => ⟨⟨rfl, hg.1.frame, rfl, hg.1.lastLocation, .none⟩,
    fun ht => ⟨(hg.2 ht).1, trivial, trivial⟩⟩

/-- A generator that lets go of its delegate keeps everything else. -/
theorem clearDelegate_carried (h : Handle) :
    B.Carries B.Same n (clearDelegate h : Action P Unit) (clearDelegate h) := by
  refine modify_carried hL h ?_
  exact fun _ _ _ _ hg => ⟨{ hg.1 with delegate := rfl },
    fun ht => ⟨(hg.2 ht).1, (hg.2 ht).2.1, trivial⟩⟩

omit hL in
/-- A fault that the body may catch becomes the next thing that is thrown into
it. -/
theorem recover_carried (hB : B.Lawful) {fault : Fault} (hfault : B.Within n fault) :
    B.Carries B.Same n (recover fault : Action P Flow) (recover fault) :=
  fun hle hm => .bind (Object.faultToValue_carried hB hfault hle hm) fun _ _ hk hvalue =>
    .pure hk ⟨rfl, hvalue⟩

/-- What was opened is stored, and what could not be is thrown into the body.
The cases are the ways in which a body can leave its turn: with a value, with
its last value, with a throw, or by handing over to a delegate. -/
theorem follow_related (h : Handle) {step : Step} (hstep : B.Within n step) :
    L.Relates B.Same n (TurnReturns h) (fun hooks => follow hooks h step)
      (fun hooks => follow hooks h step) := by
  cases step with
  | yielded value => exact .pure hstep
  | returned value =>
      exact .step (complete_carried hL h) fun _ _ hle _ => .pure fun ht => Below.mono (hstep ht) hle
  | threw value location =>
      refine .step (modify_carried hL h fun _ _ _ _ hg => ?_) fun _ _ hle _ =>
        .fail fun ht => Below.mono (hstep ht) hle
      exact ⟨⟨rfl, hg.1.frame, rfl, rfl, .none⟩, fun ht => ⟨(hg.2 ht).1, trivial, trivial⟩⟩
  | delegated iterable =>
      have hiterable : B.Within n iterable := hstep
      refine Relates.attempt_bind (Iteration.iterator_related L hiterable)
        (fun opened n' _ hopened => ?_) fun fault k hfault =>
          ⟨_, turnReturns_failed h fault k, fun _ => congrFun (recover_of_fatal hfault) k⟩
      cases opened with
      | ok delegate =>
          refine .step (modify_carried hL h fun _ _ _ hle hg => ?_) fun _ _ _ _ =>
            .pure fun _ => trivial
          exact ⟨{ hg.1 with delegate := rfl }, fun ht =>
            ⟨(hg.2 ht).1, (hg.2 ht).2.1, Below.mono (hopened ht) hle⟩⟩
      | error fault => exact .const (recover_carried L.lawful hopened)

/-! ### Turns of the body -/

/-- The body runs in the frame that was read before both were taken out, and
what is put back is what the body has left. This is the one place where bodies
are resumed, so the two bodies must correspond in just that frame. -/
theorem bodyTurn_related (h : Handle) (hcompletion : B.Within n completion) :
    L.Relates B.Same n (TurnReturns h) (fun hooks => bodyTurn hooks h completion)
      (fun hooks => bodyTurn hooks h completion) := by
  intro n' m m' hle hm
  refine Logic.step_pair (find_carried L.lawful h .resuming hle hm)
    fun {n₁ _ _} g g' hle₁ hk₁ hg => ?_
  obtain ⟨hg, hwithin⟩ := hg
  have hbody := hg.body
  rw [← hg.frame]
  generalize hx : g.body = body at hbody
  generalize g'.body = body' at hbody
  cases hbody with
  | none => exact L.const (.fail hk₁ fun _ => trivial)
  | some hbody =>
      have hin : B.Within _ g.body := fun ht => (hwithin ht).2.1
      rw [hx] at hin
      refine Logic.step_of (modify_carried hL h (fun _ _ _ _ hg' => ?_) (Nat.le_refl _) hk₁)
        fun _ hle₂ hk₂ _ => ?_
      -- While the body runs, the generator has neither body nor frame.
      · exact ⟨⟨hg'.1.state, rfl, hg'.1.delegate, hg'.1.lastLocation, .none⟩,
          fun ht => ⟨Refers.below_nil, trivial, (hg'.2 ht).2.2⟩⟩
      have hle := Nat.le_trans hle (Nat.le_trans hle₁ hle₂)
      refine hL.bind hk₂ hbody (fun ht => Below.mono (hin ht) hle₂)
        (fun ht => (hwithin ht).1.mono hle₂) (hcompletion.mono hle)
        (fun resumption resumption' hle₃ hk₃ hresumption => ?_) ?_
      · obtain ⟨halike, hin₃⟩ := hresumption
        rw [← halike.step]
        refine Logic.step_of (modify_carried hL h (fun _ _ _ hle' hg' => ?_) (Nat.le_refl _) hk₃)
          fun _ hle₄ hk₄ _ => ?_
        -- What is put back corresponds in the frame that is put back with it.
        · refine ⟨⟨hg'.1.state, halike.frame, hg'.1.delegate, hg'.1.lastLocation,
            .some halike.body⟩, fun ht => ?_⟩
          exact ⟨(hin₃ ht).2.1.mono hle', Below.mono (hin₃ ht).1 hle', (hg'.2 ht).2.2⟩
        · refine Logic.step_of (.ofExcept hk₄ fun ht => (hin₃ ht).2.2.mono hle₄)
            fun step _ hk₅ hstep => ?_
          exact follow_related hL h hstep (Nat.le_refl _) hk₅
      · -- A fault that the body reports comes after the body was put back.
        intro fault k answer _ hraises
        cases answer with
        | exhausted => exact hraises.elim
        | failed fault' k' =>
            obtain ⟨rfl, rfl⟩ := hraises
            exact ⟨_, turnReturns_failed h fault' k', fun _ => rfl⟩
        | done resumption k' =>
            obtain ⟨hstep, rfl⟩ := hraises
            refine ⟨.failed fault _, ⟨_, ⟨fun g =>
              { g with body := some resumption.body, frame := resumption.frame }, rfl⟩, rfl⟩,
              fun hooks => ?_⟩
            show (modify h _ >>= fun _ => Action.ofExcept resumption.step >>= _) k' = _
            rw [hstep]
            rfl

/-! ### Turns of a delegate -/

omit hL in
/-- An answer of the delegate is taken apart: it has to be an object, and its
two properties are read. -/
theorem unpack_related {answer : Value} (hanswer : B.Within n answer) :
    L.Relays n (fun hooks => unpack hooks answer) (fun hooks => unpack hooks answer) := by
  refine .step (Iteration.resultObject_carried hanswer) fun result n₁ _ hresult => ?_
  refine Relays.bind (Iteration.isDone_related L hresult) fun done n₂ hle₂ _ => ?_
  exact Relays.bind (Iteration.resultValue_related L (hresult.mono hle₂)) fun _ _ _ hvalue =>
    .pure hvalue

/-- An answer leads out, into the body, or is thrown into the body. A fatal
fault ends the turn, once the delegate is let go of. `onDone` is what the body
is resumed with after the delegate's last answer. -/
theorem settle_related (h : Handle) {onDone : Value → Completion}
    (honDone : ∀ n' value, B.Within n' value → B.Within n' (onDone value))
    {answer : Hooks P → Action P IterResult} {answer' : Hooks Q → Action Q IterResult}
    (hanswer : L.Relays n answer answer') :
    L.Relates B.Same n (TurnReturns h) (fun hooks => settle h onDone (answer hooks))
      (fun hooks => settle h onDone (answer' hooks)) := by
  refine Relates.attempt_bind hanswer (fun result n' _ hresult => ?_) fun fault k hfault =>
    ⟨_, clearDelegate_recover h hfault k, fun _ => rfl⟩
  rcases result with fault | ⟨value, _ | _⟩
  · refine .step (clearDelegate_carried hL h) fun _ _ hle _ => ?_
    exact .const (recover_carried L.lawful (hresult.mono hle))
  · exact .pure hresult
  · refine .step (clearDelegate_carried hL h) fun _ n'' hle _ => .pure ?_
    exact honDone n'' value (hresult.mono hle)

omit hL in
/-- A method of the delegate is called, and its answer read. -/
theorem ask_related {method : Value} (hmethod : B.Within n method)
    (hdelegate : B.Within n delegate) (hvalue : B.Within n value) :
    L.Relays n
      (fun hooks => do unpack hooks (← hooks.call method (.object delegate.iterator) [value]))
      (fun hooks => do unpack hooks (← hooks.call method (.object delegate.iterator) [value])) :=
  Relays.bind (.call hmethod (fun ht => (hdelegate ht).1) fun ht => (hvalue ht).singleton)
    fun _ _ _ hanswer => unpack_related hanswer

/-- The delegate is asked to return. If it has no method for that, it is let
go of, and the body returns. -/
theorem delegateReturn_related (h : Handle) (hdelegate : B.Within n delegate)
    (hvalue : B.Within n value) :
    L.Relates B.Same n (TurnReturns h) (fun hooks => delegateReturn hooks h delegate value)
      (fun hooks => delegateReturn hooks h delegate value) := by
  have hiterator : B.Within n (Value.object delegate.iterator) := fun ht => (hdelegate ht).1
  refine Relates.attempt_bind (Object.getMethod?_related L hiterator _)
    (fun method n' hle hmethod => ?_) fun fault k hfault =>
      ⟨_, settle_fail h .returning hfault k, fun _ => rfl⟩
  rcases method with fault | _ | method
  · exact settle_related hL h (fun _ _ hv => hv) (.fail hmethod)
  · exact .step (clearDelegate_carried hL h) fun _ _ hle' _ =>
      .pure (hvalue.mono (Nat.le_trans hle hle'))
  · exact settle_related hL h (fun _ _ hv => hv)
      (ask_related hmethod (hdelegate.mono hle) (hvalue.mono hle))

/-- The value that is to be thrown waits until the delegate is closed. It has
been at hand since the turn began, so it is still within reach then. -/
theorem delegateThrow_related (h : Handle) (hdelegate : B.Within n delegate)
    (hvalue : B.Within n value) :
    L.Relates B.Same n (TurnReturns h) (fun hooks => delegateThrow hooks h delegate value)
      (fun hooks => delegateThrow hooks h delegate value) := by
  have hiterator : B.Within n (Value.object delegate.iterator) := fun ht => (hdelegate ht).1
  refine Relates.attempt_bind (Object.getMethod?_related L hiterator _)
    (fun method n₁ hle₁ hmethod => ?_) fun fault k hfault =>
      ⟨_, settle_fail h .next hfault k, fun _ => rfl⟩
  rcases method with fault | _ | method
  · exact settle_related hL h (fun _ _ hv => hv) (.fail hmethod)
  · refine .step (clearDelegate_carried hL h) fun _ n₂ hle₂ _ => ?_
    have hle := Nat.le_trans hle₁ hle₂
    have hundefined : B.Within n₂ (Except.ok Value.undefined : Except Fault Value) :=
      fun _ => trivial
    -- Closing may raise a fatal fault as well.
    refine Relates.attempt_bind (Iteration.close_related L (hdelegate.mono hle) hundefined)
      (fun closed n₃ hle₃ hclosed => ?_) fun fault k hfault =>
        ⟨_, turnReturns_failed h fault k, fun _ => congrFun (recover_of_fatal hfault) k⟩
    cases closed with
    | ok answer => exact .pure (hvalue.mono (Nat.le_trans hle hle₃))
    | error fault => exact .const (recover_carried L.lawful hclosed)
  · exact settle_related hL h (fun _ _ hv => hv)
      (ask_related hmethod (hdelegate.mono hle₁) (hvalue.mono hle₁))

/-- A turn that goes to the delegate, by the completion that it is given. The
delegate is the same on both sides, and was stored in the generator. -/
theorem delegateTurn_related (h : Handle) (hcompletion : B.Within n completion) :
    L.Relates B.Same n (TurnReturns h) (fun hooks => delegateTurn hooks h completion)
      (fun hooks => delegateTurn hooks h completion) := by
  intro n' m m' hle hm
  refine Logic.step_pair (find_carried L.lawful h .resuming hle hm)
    fun {n₁ _ _} g g' hle₁ hk₁ hg => ?_
  obtain ⟨hg, hwithin⟩ := hg
  rw [← hg.delegate]
  cases hdelegate : g.delegate with
  | none => exact L.const (.fail hk₁ fun _ => trivial)
  | some delegate =>
      have hdelegate : B.Within _ delegate := fun ht => (hwithin ht).2.2.of_eq_some hdelegate
      have hcompletion := hcompletion.mono (Nat.le_trans hle hle₁)
      cases completion with
      | next value =>
          have hnext : B.Within _ delegate.next := fun ht => (hdelegate ht).2
          exact settle_related hL h (fun _ _ hv => hv) (ask_related hnext hdelegate hcompletion)
            (Nat.le_refl _) hk₁
      | returning value =>
          exact delegateReturn_related hL h hdelegate hcompletion (Nat.le_refl _) hk₁
      | throwing value => exact delegateThrow_related hL h hdelegate hcompletion (Nat.le_refl _) hk₁

/-- One turn of the driver. The body takes it or the delegate does. -/
theorem takeTurn_related (h : Handle) {turn : Turn} (hturn : B.Within n turn) :
    L.Relates B.Same n (TurnReturns h) (fun hooks => takeTurn hooks h turn)
      (fun hooks => takeTurn hooks h turn) := by
  cases turn with
  | body completion => exact bodyTurn_related hL h hturn
  | delegate completion => exact delegateTurn_related hL h hturn

/-! ### Runs and resumptions -/

/-- By induction on the rounds: what one turn leads to is what the next one
begins with. A turn that meets a fatal fault is the last, and completes the
generator. The generator is then finished by two changes in a row, the turn's
and the driver's. -/
theorem run_related (h : Handle) (rounds : Nat) : ∀ {n : Nat} {turn : Turn}, B.Within n turn →
    L.Relates B.Same n (ResumptionReturns [h]) (fun hooks => run hooks h rounds turn)
      (fun hooks => run hooks h rounds turn) := by
  induction rounds with
  | zero => exact fun _ => .exhausted
  | succ rounds ih =>
      intro n turn hturn
      refine Relates.attempt_bind_of (takeTurn_related hL h hturn) (fun flow n' _ hflow => ?_) ?_
      · -- Leaving and failing change the generator once more, but add nothing to what it holds.
        rcases flow with fault | next | result
        · refine .step (modify_carried hL h fun _ _ _ _ hg => ?_) fun _ _ hle _ =>
            .fail (hflow.mono hle)
          exact ⟨⟨rfl, hg.1.frame, rfl, congrArg (fault.location?.or ·) hg.1.lastLocation, .none⟩,
            fun ht => ⟨(hg.2 ht).1, trivial, trivial⟩⟩
        · exact ih hflow
        · refine .step (modify_carried hL h fun _ g g' _ hg => ?_) fun _ _ hle _ =>
            .pure (hflow.mono hle)
          unfold leftWith
          rw [← hg.1.state]
          split
          · exact ⟨{ hg.1 with state := rfl }, hg.2⟩
          · exact hg
      -- The turn has changed the generator by `f`, and the driver completes what `f` has left.
      · rintro fault k _ _ ⟨m, ⟨f, hf⟩, rfl⟩
        have hfinish := Machine.Touches.modify_modify hf
          (show modify h (failedWith fault) m = .done () _ from rfl)
        exact ⟨_, ⟨_, .of_modify (fun g => finished_failedWith fault (f g)) hfinish, rfl⟩,
          fun _ => rfl⟩

/-- All but the last case are answered from the state and the completion
alone. A generator that is entered is marked as executing and run; a new one
is entered by `next` only, and one that is completed is not entered. -/
theorem resume_related (h : Handle) (hcompletion : B.Within n completion) :
    L.Relates B.Same n (ResumptionReturns [h]) (fun hooks => resume hooks h completion)
      (fun hooks => resume hooks h completion) := by
  intro n' m m' hle hm
  refine Logic.step_pair (find_carried L.lawful h .resuming hle hm)
    fun {n₁ _ _} g g' hle₁ hk₁ hg => ?_
  obtain ⟨hg, hwithin⟩ := hg
  rw [← hg.state, ← hg.delegate, ← hg.lastLocation]
  have hcompletion := hcompletion.mono (Nat.le_trans hle hle₁)
  -- The way in is the same from both suspended states.
  have henter : L.Relates B.Same n₁ (ResumptionReturns [h])
      (fun hooks => do
        modify h fun g => { g with state := .executing }
        run hooks h hooks.rounds
          (if g.delegate.isSome then .delegate completion else .body completion))
      (fun hooks => do
        modify h fun g => { g with state := .executing }
        run hooks h hooks.rounds
          (if g.delegate.isSome then .delegate completion else .body completion)) := by
    refine .step (modify_carried hL h fun _ _ _ _ hg' => ?_) fun _ _ hle' _ =>
      .rounds _ _ fun rounds => run_related hL h rounds ?_
    · exact ⟨{ hg'.1 with state := rfl }, hg'.2⟩
    · intro ht
      split
      · exact Below.mono (hcompletion ht) hle'
      · exact Below.mono (hcompletion ht) hle'
  cases g.state with
  | executing => exact L.const (.fail hk₁ fun _ => trivial)
  | suspendedYield => exact henter (Nat.le_refl _) hk₁
  | suspendedStart =>
      cases completion with
      | next value => exact henter (Nat.le_refl _) hk₁
      | returning value =>
          exact L.const (.bind (complete_carried hL h (Nat.le_refl _) hk₁) fun _ hle' hk _ =>
            .pure hk ⟨rfl, fun ht => Below.mono (hcompletion ht) hle'⟩)
      | throwing value =>
          exact L.const (.bind (complete_carried hL h (Nat.le_refl _) hk₁) fun _ hle' hk _ =>
            .fail hk fun ht => Below.mono (hcompletion ht) hle')
  | completed =>
      cases completion with
      | next value => exact L.const (.pure hk₁ ⟨rfl, fun _ => trivial⟩)
      | returning value => exact L.const (.pure hk₁ ⟨rfl, hcompletion⟩)
      | throwing value => exact L.const (.fail hk₁ hcompletion)

/-- The functions that resume their receiver make an object of the answer,
which is no part of what a fatal fault leads to. -/
theorem resumeReceiver_related (method : Method) {completion : Value → Completion}
    (hcompletion : ∀ value, B.Within n value → B.Within n (completion value)) (h : Handle)
    {args : List Value} (hargs : B.Within n args) :
    L.Relates B.Same n (ResumptionReturns [h])
      (fun hooks => resumeReceiver hooks method completion (.object h) args)
      (fun hooks => resumeReceiver hooks method completion (.object h) args) := by
  have hargument : B.Within n (completion (args.headD .undefined)) :=
    hcompletion _ fun ht => (hargs ht).headD trivial
  refine .bind_of (resume_related hL h hargument) (fun _ _ _ hresult => ?_) ?_
  · exact .const (IterResult.toObject_carried L.lawful hresult)
  · rintro fault k _ _ ⟨m, hfinishes, rfl⟩
    exact ⟨_, ⟨m, hfinishes, rfl⟩, fun _ => rfl⟩

end Generator

/-! ### Every operation -/

open Generator (ResumptionReturns)

/-- What fails with a fatal fault finishes no generator. -/
theorem Generator.ResumptionReturns.of_relayed {P : Platform} {α : Type} {fault : Fault}
    {k : Machine P} {outcome : Outcome P α} (h : Relayed fault k outcome) :
    ResumptionReturns [] fault k outcome :=
  ⟨k, .refl k, h⟩

/-- All functions of a new realm. Those that resume a generator finish it if
they meet a fatal fault, and the others fail as they did before. -/
theorem IntrinsicFunction.run_resumed {L : B.Logic} (hL : L.Resumes) (f : IntrinsicFunction)
    {this : Value} {args : List Value} (hthis : B.Within n this) (hargs : B.Within n args)
    (hmoves : ∀ h, f = .listIteratorNext → this = .object h → B.licence.moves h) :
    L.Relates B.Same n (ResumptionReturns (f.resumed? this).toList)
      (fun hooks => f.run hooks this args) (fun hooks => f.run hooks this args) := by
  cases hresumed : f.resumed? this with
  | none =>
      exact .relax (run_related L f hthis hmoves hresumed) fun _ _ _ => .of_relayed
  | some h =>
      -- The three functions differ in the completion that they make of their argument.
      cases this with
      | object h' =>
          cases f with
          | generatorNext =>
              cases hresumed
              exact Generator.resumeReceiver_related hL .next (fun _ hv => hv) h hargs
          | generatorReturn =>
              cases hresumed
              exact Generator.resumeReceiver_related hL .returning (fun _ hv => hv) h hargs
          | generatorThrow =>
              cases hresumed
              exact Generator.resumeReceiver_related hL .throwing (fun _ hv => hv) h hargs
          | _ => cases hresumed
      | _ => cases f <;> cases hresumed

namespace Request

/-- A request that a fatal fault ends: it gives out that fault, with the
generator it has resumed finished. -/
def Returns (request : Request P) (fault : Fault) (k : Machine P)
    (outcome : Outcome P request.Reply) : Prop :=
  ∃ m, k.Finishes request.resumed?.toList m ∧ request.Gives fault m outcome

/-- All requests. One that resumes a generator finishes it. The other requests
are those of `perform_related`, and finish none. -/
theorem perform_resumed {L : B.Logic} (hL : L.Resumes) {t : Translation P Q}
    (hrespects : t.Respects B.likeness) (request : Request P)
    (hkeys : request.KeysIn B.likeness.key) (hwithin : B.traced → request.Within n)
    (hraw : request.isRaw = true → B.licence.raw) :
    L.Relates (B.Replies t request) n request.Returns (fun hooks => request.perform hooks)
      (fun hooks => (request.translate t).perform hooks) := by
  cases hresumed : request.resumed? with
  | none =>
      refine .relax (perform_related L hrespects request hkeys hwithin hraw hresumed) ?_
      intro fault k outcome hgives
      refine ⟨k, ?_, hgives⟩
      rw [hresumed]
      exact .refl k
  | some h =>
      obtain ⟨completion, rfl⟩ := exists_of_resumed? hresumed
      exact Generator.resume_related hL h fun ht => (hwithin ht).2

end Request

end ScriptRealm
