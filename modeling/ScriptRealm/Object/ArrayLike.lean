import ScriptRealm.Object.Lookup
import ScriptRealm.Value.Conversion

/-!
# Array-like objects

Anything with a `length` is array-like. A list of its elements is read
index by index, getters and all; the realm's bound on loops is a bound on
the length.
-/

set_option autoImplicit false

namespace ScriptRealm.ArrayLike

variable {P : Platform} (hooks : Hooks P)

/-- The length of an array-like object. -/
def length (h : Handle) : Action P Nat := do
  let value ← Object.get hooks h (.string "length")
  return (← Action.ofExcept value.toNumber).toLength

/-- The `remaining` elements from a position on. Each must be admitted. -/
def elementsFrom (h : Handle) (admits : Value → Bool) :
    (remaining position : Nat) → Action P (List Value)
  | 0, _ => return []
  | remaining + 1, position => do
      let element ← Object.get hooks h (.ofPosition position)
      if admits element then
        return element :: (← elementsFrom h admits remaining (position + 1))
      else
        Action.fail (.type (.listElement ((← Action.realm).typeName element)))

/-- The elements of an array-like object. -/
def toList (value : Value) (admits : Value → Bool) : Action P (List Value) :=
  match value with
  | .object h => do
      let length ← length hooks h
      if (← Action.realm).config.maxIterations < length then
        Action.fail (.range (.arrayLength length))
      else
        elementsFrom hooks h admits length 0
  | _ => Action.fail (.type .listFromPrimitive)

end ScriptRealm.ArrayLike
