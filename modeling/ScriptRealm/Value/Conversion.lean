import ScriptRealm.Fault
import ScriptRealm.Number.Literal

/-!
# Conversions that can fail

A symbol has neither a text nor a number. An object has a default text
but no number, since no method of it is called for one.
-/

set_option autoImplicit false

namespace ScriptRealm.Value

/-- The text of a value. -/
def toText (v : Value) : Except Fault String :=
  match v.text? with
  | some text => .ok text
  | none => .error (.type .symbolToText)

/-- The number of a value. -/
def toNumber : Value → Except Fault Number
  | .undefined => .ok .nan
  | .null => .ok .zero
  | .boolean b => .ok (if b then .ofNat 1 else .zero)
  | .number n => .ok n
  | .string s => .ok (.ofText s)
  | .symbol _ => .error (.type .symbolToNumber)
  | .object _ => .error (.type .objectToPrimitive)

end ScriptRealm.Value
