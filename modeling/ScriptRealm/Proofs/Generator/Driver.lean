import ScriptRealm.Proofs.Table
import ScriptRealm.Generator

/-!
# `ScriptRealm.Proofs.Generator.Driver`: the driver's steps as equations

What the driver of a generator does in one machine, as equations on
outcomes. `Machine.Holds h g` says that the generator under `h` is `g`, and
`Machine.setGenerator` puts another one there. With a generator at hand,
`find_apply` and `modify_apply` evaluate the two basic actions, and from
these follow the first step of a turn of the body, the three ways in which
a run goes on after a turn, and the beginning of a resumption.
-/

set_option autoImplicit false

namespace ScriptRealm

variable {P : Platform}

namespace Machine

/-- The machine with another generator under a handle. -/
def setGenerator (m : Machine P) (h : Handle) (g : Generator P) : Machine P :=
  { m with realm := m.realm.setKind h (.generator g) }

/-- The generator under `h` is `g`. -/
def Holds (m : Machine P) (h : Handle) (g : Generator P) : Prop :=
  (m.realm.record h).kind = .generator g

variable {m : Machine P} {h : Handle} {g g' : Generator P}

/-- What was put under a handle is there, if there was a generator before. -/
theorem Holds.setGenerator (hm : m.Holds h g) (g' : Generator P) :
    (m.setGenerator h g').Holds h g' := by
  show ((m.realm.update h _).record h).kind = _
  rw [Realm.record_update_self (Realm.lt_size_of_generator hm)]

/-- Of two generators put in one place the second stays. The driver writes to
its generator several times in a turn, and only what it has written last
shows. -/
theorem setGenerator_setGenerator (m : Machine P) (h : Handle) (g g' : Generator P) :
    (m.setGenerator h g).setGenerator h g' = m.setGenerator h g' :=
  congrArg (fun realm => Machine.mk realm m.memory) (Realm.update_update m.realm h _ _)

/-- Putting a generator where it is changes nothing. -/
theorem Holds.setGenerator_self (hm : m.Holds h g) : m.setGenerator h g = m := by
  refine congrArg (fun realm => Machine.mk realm m.memory) (Realm.update_eq_self ?_)
  have hkind : (m.realm.record h).kind = .generator g := hm
  rw [← hkind]

/-- Other objects do not notice that a generator was put somewhere. -/
theorem record_setGenerator_of_ne {h' : Handle} (hne : h' ≠ h) (g : Generator P) :
    (m.setGenerator h g).realm.record h' = m.realm.record h' :=
  Realm.record_update_of_ne hne _

end Machine

namespace Generator

variable {h : Handle} {g : Generator P} {m : Machine P}

/-- What is found under a handle is the generator that is there. The method is
for the message of a failure alone, so it may be any. -/
theorem find_apply (hm : m.Holds h g) (method : Method) :
    (find h method : Action P (Generator P)) m = .done g m := by
  -- The record is looked at once, and has a generator in it.
  have hgenerator : (m.realm.record h).kind.generator? = some g := congrArg Kind.generator? hm
  unfold find
  rw [Action.bind_apply]
  simp only [Action.record, hgenerator]
  rfl

/-- Changing a generator puts the changed one in its place. With `find_apply`
this evaluates all that the driver does to its generator. -/
theorem modify_apply (hm : m.Holds h g) (f : Generator P → Generator P) :
    (modify h f : Action P Unit) m = .done () (m.setGenerator h (f g)) := by
  have hkind : (m.realm.record h).kind = .generator g := hm
  refine congrArg (fun realm => Outcome.done () (Machine.mk realm m.memory)) ?_
  -- The change is only made to what is a generator, and here it is one.
  apply Realm.update_congr
  simp only [hkind]

/-- A turn of the body takes body and frame out of the generator and resumes
the one in the other. So the generator that code can see in the meantime has
neither. -/
theorem bodyTurn_apply (hooks : Hooks P) {body : P.Body} (hm : m.Holds h g)
    (hbody : g.body = some body) (completion : Completion) :
    bodyTurn hooks h completion m = (do
      let resumption ← hooks.resume body g.frame completion
      modify h fun g => { g with body := some resumption.body, frame := resumption.frame }
      follow hooks h (← Action.ofExcept resumption.step))
        (m.setGenerator h { g with body := none, frame := {} }) := by
  rw [bodyTurn, Action.bind_apply, find_apply hm]
  simp only [hbody]
  rw [Action.bind_apply, modify_apply hm]

section

variable {hooks : Hooks P} {body : P.Body} {completion : Completion} {resumption : Resumption P}
  {m₁ : Machine P} {g₁ : Generator P}

/-- After the body has run, body and frame are put back and the step it took
is followed. They go into the generator as it is then, which may not be the
one they were taken from. -/
theorem bodyTurn_of_step {step : Step} (hm : m.Holds h g) (hbody : g.body = some body)
    (hresume : hooks.resume body g.frame completion
      (m.setGenerator h { g with body := none, frame := {} }) = .done resumption m₁)
    (hm₁ : m₁.Holds h g₁) (hstep : resumption.step = .ok step) :
    bodyTurn hooks h completion m = follow hooks h step
      (m₁.setGenerator h { g₁ with body := some resumption.body, frame := resumption.frame }) := by
  rw [bodyTurn_apply hooks hm hbody, Action.bind_apply, hresume]
  simp only
  -- The generator is looked up again, as it may have changed in the meantime.
  rw [Action.bind_apply, modify_apply hm₁]
  simp only [hstep]
  rfl

/-- A body that has left the realm alone. The generator is then the one it was
before the turn, with the new body and frame in it. -/
theorem bodyTurn_of_quiet {step : Step} {memory : P.Memory} (hm : m.Holds h g)
    (hbody : g.body = some body)
    (hresume : hooks.resume body g.frame completion
        (m.setGenerator h { g with body := none, frame := {} })
      = .done resumption { m.setGenerator h { g with body := none, frame := {} } with memory })
    (hstep : resumption.step = .ok step) :
    bodyTurn hooks h completion m = follow hooks h step ({ m with memory }.setGenerator h
      { g with body := some resumption.body, frame := resumption.frame }) := by
  -- Taking out and putting back are two writes in one place.
  have hback := Machine.setGenerator_setGenerator { m with memory } h
    { g with body := none, frame := {} }
    { g with body := some resumption.body, frame := resumption.frame }
  rw [bodyTurn_of_step hm hbody hresume (hm.setGenerator _) hstep, ← hback]
  rfl

/-- They are put back too if the body has failed. The fault is the end of the
turn, so no step is followed. -/
theorem bodyTurn_of_fault {fault : Fault} (hm : m.Holds h g) (hbody : g.body = some body)
    (hresume : hooks.resume body g.frame completion
      (m.setGenerator h { g with body := none, frame := {} }) = .done resumption m₁)
    (hm₁ : m₁.Holds h g₁) (hstep : resumption.step = .error fault) :
    bodyTurn hooks h completion m = .failed fault
      (m₁.setGenerator h { g₁ with body := some resumption.body, frame := resumption.frame }) := by
  rw [bodyTurn_apply hooks hm hbody, Action.bind_apply, hresume]
  simp only
  rw [Action.bind_apply, modify_apply hm₁]
  simp only [hstep]
  rfl

end

/-- A step that returns completes the generator and leads out, with the last
value. -/
theorem follow_returned (hooks : Hooks P) (hm : m.Holds h g) (value : Value) :
    follow hooks h (.returned value) m
      = .done (.leave ⟨value, true⟩) (m.setGenerator h g.complete) := by
  rw [follow, Action.bind_apply, modify_apply hm]
  rfl

/-- A step that throws completes the generator and fails. The location of the
throw stays in the generator. -/
theorem follow_threw (hooks : Hooks P) (hm : m.Holds h g) (value : Value)
    (location : Option Location) :
    follow hooks h (.threw value location) m = .failed (.thrown value location)
      (m.setGenerator h { g.complete with lastLocation := location }) := by
  rw [follow, Action.bind_apply, modify_apply hm]
  rfl

/-! ### Runs -/

section

variable {hooks : Hooks P} {m' : Machine P}

/-- A turn that leads to another one, for which one round less is left. -/
theorem run_of_turn {rounds : Nat} {turn next : Turn}
    (hturn : takeTurn hooks h turn m = .done (.turn next) m') :
    run hooks h (rounds + 1) turn m = run hooks h rounds next m' := by
  rw [run, Action.bind_apply, Action.attempt, hturn]

/-- A turn that leads out. The generator is suspended with what it has
yielded, unless the turn has completed it. -/
theorem run_of_leave {rounds : Nat} {turn : Turn} {result : IterResult}
    (hturn : takeTurn hooks h turn m = .done (.leave result) m') (hm' : m'.Holds h g) :
    run hooks h (rounds + 1) turn m
      = .done result (m'.setGenerator h (g.leftWith result)) := by
  rw [run, Action.bind_apply, Action.attempt, hturn]
  -- Leaving sets the state, if the turn has not set it.
  show (modify h (leftWith result) >>= fun _ => pure result) m' = _
  rw [Action.bind_apply, modify_apply hm']
  rfl

/-- A turn that fails. The generator is completed, and keeps the location of
the fault if the fault has one. -/
theorem run_of_failed {rounds : Nat} {turn : Turn} {fault : Fault}
    (hturn : takeTurn hooks h turn m = .failed fault m') (hm' : m'.Holds h g) :
    run hooks h (rounds + 1) turn m
      = .failed fault (m'.setGenerator h (g.failedWith fault)) := by
  rw [run, Action.bind_apply, Action.attempt, hturn]
  show (modify h (failedWith fault) >>= fun _ => Action.fail fault) m' = _
  rw [Action.bind_apply, modify_apply hm']
  rfl

end

/-! ### Resumptions -/

/-- A second resumption in the meantime is refused, before anything is done.
The machine is the one that it was. -/
theorem resume_of_executing (hooks : Hooks P) (hm : m.Holds h g)
    (hexecuting : g.state = .executing) (completion : Completion) :
    resume hooks h completion m = .failed .reentrancy m := by
  rw [resume, Action.bind_apply, find_apply hm]
  simp only [hexecuting]
  rfl

/-- What is no generator is not resumed, and nothing is done to it. The fault
says that the receiver is of the wrong kind. -/
theorem resume_of_none (hooks : Hooks P) (hnone : (m.realm.record h).kind.generator? = none)
    (completion : Completion) :
    resume hooks h completion m = .failed (.type (.incompatibleReceiver .resuming)) m := by
  have hfind : (find h .resuming : Action P (Generator P)) m
      = .failed (.type (.incompatibleReceiver .resuming)) m := by
    unfold find
    rw [Action.bind_apply]
    simp only [Action.record, hnone]
    rfl
  rw [resume, Action.bind_apply, hfind]

/-- A generator suspended with a delegate gives it the first turn, whatever
the completion is. The generator counts as executing from there on. -/
theorem resume_of_delegate (hooks : Hooks P) {delegate : IteratorRecord} (hm : m.Holds h g)
    (hstate : g.state = .suspendedYield) (hdelegate : g.delegate = some delegate)
    (completion : Completion) :
    resume hooks h completion m = run hooks h hooks.rounds (.delegate completion)
      (m.setGenerator h { g with state := .executing }) := by
  have hsome : g.delegate.isSome = true := by rw [hdelegate]; rfl
  rw [resume, Action.bind_apply, find_apply hm]
  simp only [hstate, hsome, if_true]
  rw [Action.bind_apply, modify_apply hm]

/-- A generator without a delegate that is suspended, or begins with a value,
gives its body the first turn. A generator that has not begun is not entered
by any other completion. -/
theorem resume_of_body (hooks : Hooks P) {completion : Completion} (hm : m.Holds h g)
    (hstate : g.state = .suspendedYield ∨
      g.state = .suspendedStart ∧ ∃ value, completion = .next value)
    (hdelegate : g.delegate = none) :
    resume hooks h completion m = run hooks h hooks.rounds (.body completion)
      (m.setGenerator h { g with state := .executing }) := by
  have hnone : ¬ g.delegate.isSome = true := by simp [hdelegate]
  rw [resume, Action.bind_apply, find_apply hm]
  -- The two ways in differ in the state that they start from only.
  rcases hstate with hstate | ⟨hstate, value, rfl⟩
  · simp only [hstate, hnone]
    rw [Action.bind_apply, modify_apply hm]
    rfl
  · simp only [hstate, hnone]
    rw [Action.bind_apply, modify_apply hm]
    rfl

end Generator

end ScriptRealm
