import ScriptRealm.Embedder.Request

/-!
# An embedder's code

The code of an embedder is a `Script`: it asks the library for things one
after the other, each time seeing the reply or the fault before it goes
on, and it reads and writes the embedder's own memory in between. Whatever
an embedder does to a realm it does by requests, so a property that every
request keeps is kept by every script.

An `Embedder` gives the script of each native function and of each
generator body. `Embedder.hooks` runs them: code that is called from
code is run the same way, one level deeper, up to a bound on the depth.
-/

set_option autoImplicit false

namespace ScriptRealm

/-- Code that works on a realm by requests. -/
inductive Script (P : Platform) (α : Type) where
  | done (value : α)
  | ask (request : Request P) (next : Except Fault request.Reply → Script P α)
  | recall (next : P.Memory → Script P α)
  | remember (memory : P.Memory) (next : Script P α)

namespace Script

variable {P : Platform} {α β : Type}

/-- Goes on with the value of a first script. -/
protected def bind : Script P α → (α → Script P β) → Script P β
  | .done value, f => f value
  | .ask request next, f => .ask request fun reply => (next reply).bind f
  | .recall next, f => .recall fun memory => (next memory).bind f
  | .remember memory next, f => .remember memory (next.bind f)

instance : Monad (Script P) where
  pure := .done
  bind := Script.bind

instance [Inhabited α] : Inhabited (Script P α) := ⟨.done default⟩

/-- Makes a request and gives what came of it. -/
def attempt (request : Request P) : Script P (Except Fault request.Reply) :=
  .ask request .done

/-- Reads the embedder's memory. -/
def memory : Script P P.Memory := .recall .done

/-- Changes the embedder's memory. -/
def modifyMemory (f : P.Memory → P.Memory) : Script P Unit :=
  .recall fun memory => .remember (f memory) (.done ())

/-- Runs a script. -/
def run (hooks : Hooks P) : Script P α → Action P α
  | .done value => return value
  | .ask request next => do
      (next (← (request.perform hooks).attempt)).run hooks
  | .recall next => fun m => (next m.memory).run hooks m
  | .remember memory next => fun m => next.run hooks { m with memory }

end Script

/-- What an embedder's functions and generator bodies do. -/
structure Embedder (P : Platform) where
  /-- A native function, called on a receiver with arguments. -/
  function : P.Code → Value → List Value → Script P (Except Fault Value)
  /-- A generator's body, resumed in a frame. -/
  body : P.Body → Frame → Completion → Script P (Resumption P)

/-- What the functions of a new realm do. -/
def IntrinsicFunction.run {P : Platform} (hooks : Hooks P) :
    IntrinsicFunction → Value → List Value → Action P Value
  | .iteratorSelf, this, _ => return this
  | .listIteratorNext, this, _ => do (← ListIterator.next hooks this).toObject
  | .arrayValues, this, _ => ListIterator.ofReceiver this
  | .generatorNext, this, args => Generator.resumeReceiver hooks .next .next this args
  | .generatorReturn, this, args =>
      Generator.resumeReceiver hooks .returning .returning this args
  | .generatorThrow, this, args =>
      Generator.resumeReceiver hooks .throwing .throwing this args

namespace Embedder

variable {P : Platform}

/-- Calls a value, the code it calls being run by the given hooks. -/
def call (embedder : Embedder P) (hooks : Hooks P) (f this : Value) (args : List Value) :
    Action P Value :=
  match f with
  | .object h => do
      match (← Action.record h).kind with
      | .function data =>
          match data.code with
          | .intrinsic i => i.run hooks this args
          | .native code =>
              Action.ofExcept (← (embedder.function code this args).run hooks)
      -- A host answers by itself: it is handed no hooks, so it cannot call back.
      | .foreign host =>
          if P.hosts.isCallable host then
            Action.ofExcept (← Action.askHost h (P.hosts.call host this args))
          else
            Action.fail (.type .objectNotCallable)
      | _ => Action.fail (.type .objectNotCallable)
  | _ => Action.fail (.type (.notCallable f))

/-- Hooks that run an embedder's code to a depth of nested calls, with a
bound on the rounds of each loop. -/
def hooks (embedder : Embedder P) (rounds : Nat) : Nat → Hooks P
  | 0 =>
      { call := fun _ _ _ => Action.exhausted
        resume := fun _ _ _ => Action.exhausted
        rounds }
  | depth + 1 =>
      { call := fun f this args => embedder.call (embedder.hooks rounds depth) f this args
        resume := fun body frame completion =>
          (embedder.body body frame completion).run (embedder.hooks rounds depth)
        rounds }

/-- Runs a script on a machine. -/
def run {α : Type} (embedder : Embedder P) (rounds depth : Nat) (script : Script P α) :
    Action P α :=
  script.run (embedder.hooks rounds depth)

end Embedder

end ScriptRealm
