import ScriptRealm.Iteration
import ScriptRealm.Object.Construction

/-!
# Generators

A generator is resumed with a completion: a value sent, a value to return
or a value to throw. While it is resumed it is executing, and a second
resumption in the meantime is a fatal fault. It ends suspended at a yield
or completed; completed it stays.

Resumed, a generator takes turns. In a turn of the body, the body runs
until it yields, returns, throws or delegates to an iterable. In a turn
of the delegate, the completion goes to the delegate instead, and the
body does not run until the delegate has come to its end or has failed. A
failure of the delegate is thrown into the body, unless it is fatal.
-/

set_option autoImplicit false

namespace ScriptRealm

/-- What a resumed generator does next. -/
inductive Turn where
  /-- The body runs with a completion. -/
  | body (completion : Completion)
  /-- The delegate gets a completion. -/
  | delegate (completion : Completion)
  deriving DecidableEq

/-- Where a turn leads: to another turn, or out of the generator. -/
inductive Flow where
  | turn (next : Turn)
  | leave (result : IterResult)
  deriving DecidableEq

namespace Generator

variable {P : Platform} (hooks : Hooks P)

/-- The generator under a handle. -/
def find (h : Handle) (method : Method) : Action P (Generator P) := do
  match (← Action.record h).kind.generator? with
  | some g => return g
  | none => Action.fail (.type (.incompatibleReceiver method))

/-- Changes the generator under a handle. -/
def modify (h : Handle) (f : Generator P → Generator P) : Action P Unit :=
  Action.modify (·.update h fun record =>
    match record.kind with
    | .generator g => { record with kind := .generator (f g) }
    | _ => record)

/-- The state of the generator under a handle. -/
def currentState (h : Handle) : Action P GeneratorState := do
  return (← find h .inspecting).state

/-- Throws the value of a fault into the body. A fatal fault is not
thrown but raised. -/
def recover (fault : Fault) : Action P Flow := do
  return .turn (.body (.throwing (← Object.faultToValue fault)))

/-- Ends a delegation. -/
def clearDelegate (h : Handle) : Action P Unit :=
  modify h fun g => { g with delegate := none }

/-- Follows a step of the body. -/
def follow (h : Handle) : Step → Action P Flow
  | .yielded value => return .leave ⟨value, false⟩
  | .returned value => do
      modify h complete
      return .leave ⟨value, true⟩
  | .threw value location => do
      modify h fun g => { g.complete with lastLocation := location }
      Action.fail (.thrown value location)
  | .delegated iterable => do
      -- An iterable that cannot be opened is the body's own mistake: the fault is thrown back
      -- into it.
      match ← (Iteration.iterator hooks iterable).attempt with
      | .ok delegate =>
          modify h fun g => { g with delegate := some delegate }
          return .turn (.delegate (.next .undefined))
      | .error fault => recover fault

/-- A turn of the body. Body and frame are out of the generator while the
body runs, and are put back however the run ends. -/
def bodyTurn (h : Handle) (completion : Completion) : Action P Flow := do
  let g ← find h .resuming
  match g.body with
  | none => Action.fail (.internal .missingBody)
  | some body =>
      modify h fun g => { g with body := none, frame := {} }
      let resumption ← hooks.resume body g.frame completion
      modify h fun g => { g with body := some resumption.body, frame := resumption.frame }
      follow hooks h (← Action.ofExcept resumption.step)

/-- Reads a delegate's answer: whether it is the last, and its value. -/
def unpack (answer : Value) : Action P IterResult := do
  let result ← Iteration.resultObject answer
  let done ← Iteration.isDone hooks result
  return ⟨← Iteration.resultValue hooks result, done⟩

/-- Follows a delegate's answer. An answer that is not the last leaves the
generator; the last one goes to the body as `onDone` says, and a failure
is thrown into the body. -/
def settle (h : Handle) (onDone : Value → Completion) (answer : Action P IterResult) :
    Action P Flow := do
  match ← answer.attempt with
  | .ok ⟨value, false⟩ => return .leave ⟨value, false⟩
  | .ok ⟨value, true⟩ =>
      clearDelegate h
      return .turn (.body (onDone value))
  | .error fault =>
      clearDelegate h
      recover fault

/-- Asks the delegate for its next value. -/
def delegateNext (h : Handle) (delegate : IteratorRecord) (value : Value) : Action P Flow :=
  settle h .next do
    unpack hooks (← hooks.call delegate.next (.object delegate.iterator) [value])

/-- Tells the delegate to return. One that cannot be told is let go. -/
def delegateReturn (h : Handle) (delegate : IteratorRecord) (value : Value) :
    Action P Flow := do
  let iterator := Value.object delegate.iterator
  match ← (Object.getMethod? hooks iterator (.string "return")).attempt with
  -- A failed read ends the delegation as a failed call of the method would.
  | .error fault => settle h .returning (Action.fail fault)
  | .ok none =>
      clearDelegate h
      return .turn (.body (.returning value))
  | .ok (some method) =>
      settle h .returning do unpack hooks (← hooks.call method iterator [value])

/-- Throws into the delegate. One that cannot be thrown into is closed,
and the body gets the value instead. -/
def delegateThrow (h : Handle) (delegate : IteratorRecord) (value : Value) :
    Action P Flow := do
  let iterator := Value.object delegate.iterator
  match ← (Object.getMethod? hooks iterator (.string "throw")).attempt with
  | .error fault => settle h .next (Action.fail fault)
  | .ok none =>
      clearDelegate h
      -- The delegation is over before the closing runs, so code that the closing calls no
      -- longer sees a delegate.
      match ← (Iteration.close hooks delegate (.ok .undefined)).attempt with
      | .ok _ => return .turn (.body (.throwing value))
      | .error fault => recover fault
  | .ok (some method) =>
      settle h .next do unpack hooks (← hooks.call method iterator [value])

/-- A turn of the delegate. -/
def delegateTurn (h : Handle) (completion : Completion) : Action P Flow := do
  let g ← find h .resuming
  match g.delegate with
  | none => Action.fail (.internal .missingDelegate)
  | some delegate =>
      match completion with
      | .next value => delegateNext hooks h delegate value
      | .returning value => delegateReturn hooks h delegate value
      | .throwing value => delegateThrow hooks h delegate value

/-- One turn. -/
def takeTurn (h : Handle) : Turn → Action P Flow
  | .body completion => bodyTurn hooks h completion
  | .delegate completion => delegateTurn hooks h completion

/-- The generator after it was left with a result. -/
def leftWith (result : IterResult) (g : Generator P) : Generator P :=
  -- A generator that its body's return has completed keeps that state.
  if g.state = .executing then
    { g with state := if result.done then .completed else .suspendedYield }
  else g

/-- The generator after a fault has passed through it. The place the fault
came from is remembered, if it is known. -/
def failedWith (fault : Fault) (g : Generator P) : Generator P :=
  { g.complete with lastLocation := fault.location?.or g.lastLocation }

/-- Takes turns until one leads out, for at most the given number. -/
def run (h : Handle) : Nat → Turn → Action P IterResult
  | 0, _ => Action.exhausted
  | rounds + 1, turn => do
      match ← (takeTurn hooks h turn).attempt with
      | .ok (.turn next) => run h rounds next
      | .ok (.leave result) =>
          modify h (leftWith result)
          return result
      | .error fault =>
          modify h (failedWith fault)
          Action.fail fault

/-- Resumes a generator. -/
def resume (h : Handle) (completion : Completion) : Action P IterResult := do
  let g ← find h .resuming
  match g.state, completion with
  | .executing, _ => Action.fail .reentrancy
  | .completed, .next _ => return ⟨.undefined, true⟩
  | .completed, .returning value => return ⟨value, true⟩
  | .completed, .throwing value => Action.fail (.thrown value g.lastLocation)
  -- A body that never ran has nothing to clean up, so it is not entered.
  | .suspendedStart, .returning value =>
      modify h complete
      return ⟨value, true⟩
  | .suspendedStart, .throwing value =>
      modify h complete
      Action.fail (.thrown value none)
  | _, completion =>
      modify h fun g => { g with state := .executing }
      run hooks h hooks.rounds
        (if g.delegate.isSome then .delegate completion else .body completion)

/-- Resumes the receiver of a generator's method, and answers with a result
object. -/
def resumeReceiver (method : Method) (completion : Value → Completion) (this : Value)
    (args : List Value) : Action P Value :=
  match this with
  | .object h => do
      (← resume hooks h (completion (args.headD .undefined))).toObject
  | _ => Action.fail (.type (.incompatibleReceiver method))

end Generator

end ScriptRealm
