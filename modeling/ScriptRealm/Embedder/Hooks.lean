import ScriptRealm.Action

/-!
# Running an embedder's code

The operations of the library do not know how an embedder's code runs.
Where they have to run some, they are given `Hooks`: a way to call a
value, a way to resume a generator's body, and an allowance for the loops
whose length only a script decides.

Nothing is assumed of hooks. An operation is therefore described for
every behaviour of the code it runs, and the particular hooks that run
an embedder's scripts are made elsewhere.
-/

set_option autoImplicit false

namespace ScriptRealm

/-- What a resumed body leaves behind: the body and the frame as they are
now, and the step it took, or the fault it ended with. -/
structure Resumption (P : Platform) where
  body : P.Body
  frame : Frame
  step : Except Fault Step

/-- How code is run. -/
structure Hooks (P : Platform) where
  /-- Calls a value with a receiver and arguments. -/
  call : Value → Value → List Value → Action P Value
  /-- Resumes a generator's body in a frame. -/
  resume : P.Body → Frame → Completion → Action P (Resumption P)
  /-- How many rounds a loop may make. -/
  rounds : Nat

end ScriptRealm
