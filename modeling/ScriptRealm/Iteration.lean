import ScriptRealm.Object.ArrayLike
import ScriptRealm.Realm.Intrinsics

/-!
# Iteration

An iterable has a method under the iterator symbol that answers an
iterator; an iterator has a method `next` that answers objects with a
`value` and a `done`. An iterator that is left before its end is closed
by its method `return`, if it has one.

A step of an iterator gives an outcome and the record as it is
afterwards: a record is done once its iterator has finished or failed.
-/

set_option autoImplicit false

namespace ScriptRealm

/-- What an iterator or a generator gives: a value, and whether it is the
last. -/
structure IterResult where
  value : Value
  done : Bool
  deriving DecidableEq

/-- The object that shows a result to a script. -/
def IterResult.toObject {P : Platform} (result : IterResult) : Action P Value :=
  .object <$> Action.modifyGet (·.createIterResult result.value result.done)

namespace Iteration

variable {P : Platform} (hooks : Hooks P)

/-- Opens an iterable. -/
def iterator (iterable : Value) : Action P IteratorRecord := do
  match ← Object.getMethod? hooks iterable (.symbol .iterator) with
  | none => Action.fail (.type (.notIterable iterable))
  | some method =>
      match ← hooks.call method iterable [] with
      | .object iterator =>
          -- The method is read once, here; a later change of the property is not seen.
          let next ← Object.get hooks iterator (.string "next")
          return { iterator, next, done := false }
      | _ => Action.fail (.type .iteratorNotObject)

/-- The object a value of an iterator's method must be. -/
def resultObject : Value → Action P Handle
  | .object h => return h
  | other => Action.fail (.type (.resultNotObject other))

/-- Asks an iterator for its next result, passing on a value if there is
one. -/
def next (record : IteratorRecord) (value : Option Value) : Action P Handle := do
  resultObject (← hooks.call record.next (.object record.iterator) value.toList)

/-- Whether a result is the last. -/
def isDone (result : Handle) : Action P Bool := do
  return (← Object.get hooks result (.string "done")).toBoolean

/-- The value of a result. -/
def resultValue (result : Handle) : Action P Value :=
  Object.get hooks result (.string "value")

/-- The next result unless it is the last. -/
def nextUnlessDone (record : IteratorRecord) : Action P (Option Handle) := do
  let result ← next hooks record none
  return if ← isDone hooks result then none else some result

/-- The next value unless the iterator is at its end. -/
def nextValue (record : IteratorRecord) : Action P (Option Value) := do
  match ← nextUnlessDone hooks record with
  | none => return none
  | some result => some <$> resultValue hooks result

/-- Takes a step, and marks the record done if it led nowhere. -/
def stepWith {α : Type} (advance : IteratorRecord → Action P (Option α))
    (record : IteratorRecord) : Action P (Except Fault (Option α) × IteratorRecord) := do
  match ← (advance record).attempt with
  | .ok (some a) => return (.ok (some a), record)
  -- The end and a failure alike: neither leaves anything to close.
  | outcome => return (outcome, { record with done := true })

/-- Steps to the next result, none at the end. -/
def step (record : IteratorRecord) :
    Action P (Except Fault (Option Handle) × IteratorRecord) :=
  stepWith (nextUnlessDone hooks) record

/-- Steps to the next value, none at the end. -/
def stepValue (record : IteratorRecord) :
    Action P (Except Fault (Option Value) × IteratorRecord) :=
  stepWith (nextValue hooks) record

/-- Collects values for at most the given number of rounds. -/
def collect : Nat → IteratorRecord → Action P (Except Fault (List Value) × IteratorRecord)
  | 0, _ => Action.exhausted
  | rounds + 1, record => do
      match ← stepValue hooks record with
      | (.ok (some value), record) =>
          -- A later failure loses the values before it.
          let (values, record) ← collect rounds record
          return (values.map (value :: ·), record)
      | (.ok none, record) => return (.ok [], record)
      | (.error fault, record) => return (.error fault, record)

/-- The values an iterator still has to give. -/
def toList (record : IteratorRecord) :
    Action P (Except Fault (List Value) × IteratorRecord) :=
  collect hooks hooks.rounds record

/-- Calls an iterator's `return`, if it has one. -/
def callReturn (iterator : Handle) : Action P (Option Value) := do
  match ← Object.getMethod? hooks (.object iterator) (.string "return") with
  | none => return none
  | some method => some <$> hooks.call method (.object iterator) []

/-- Closes an iterator when what used it has come to an end. A failure of
the user outlasts everything the closing does, short of a fatal fault; a
fatal failure does not even close. A value of the user is the result
unless the closing fails or answers something that is no object. -/
def close (record : IteratorRecord) (completion : Except Fault Value) : Action P Value :=
  match completion with
  | .error fault =>
      if fault.isFatal then Action.fail fault
      else do
        match ← (callReturn hooks record.iterator).attempt with
        -- The first failure is the one reported, unless the second cannot be caught.
        | .error inner => Action.fail (if inner.isFatal then inner else fault)
        | .ok _ => Action.fail fault
  | .ok value => do
      match ← callReturn hooks record.iterator with
      | some (.object _) | none => return value
      | some _ => Action.fail (.type .closingResultNotObject)

end Iteration

namespace ListIterator

variable {P : Platform} (hooks : Hooks P)

/-- The cursor after a step: at the end it is done, otherwise it moves on
by one. -/
def advance (finished : Bool) (c : ListCursor) : ListCursor :=
  if finished then { c with done := true } else { c with next := c.next + 1 }

/-- A cursor stays with its target, however it moves. -/
theorem target_advance (finished : Bool) (c : ListCursor) :
    (advance finished c).target = c.target := by
  unfold advance
  split <;> rfl

/-- Moves the cursor of a list iterator. -/
def moveCursor (h : Handle) (finished : Bool) : Action P Unit :=
  Action.modify (·.update h fun record =>
    match record.kind with
    | .listIterator c => { record with kind := .listIterator (advance finished c) }
    | _ => record)

/-- The next element of a list iterator. The length is read first, and
the cursor moves before the element is read. -/
def next (this : Value) : Action P IterResult :=
  match this with
  | .object h => do
      match (← Action.record h).kind with
      | .listIterator c =>
          if c.done then
            return ⟨.undefined, true⟩
          else
            let finished := (← ArrayLike.length hooks c.target) ≤ c.next
            moveCursor h finished
            if finished then
              return ⟨.undefined, true⟩
            else
              return ⟨← Object.get hooks c.target (.ofPosition c.next), false⟩
      | _ => Action.fail (.type (.incompatibleReceiver .next))
  | _ => Action.fail (.type (.incompatibleReceiver .next))

/-- A list iterator over the receiver. -/
def ofReceiver (this : Value) : Action P Value :=
  match this with
  | .object target => .object <$> Action.modifyGet (·.createListIterator target)
  | _ => Action.fail (.type .valuesOfPrimitive)

end ListIterator

end ScriptRealm
