import ScriptRealm.Number.Literal
import ScriptRealm.Value.Basic

/-!
# Property keys

A key is a text, an array index or a symbol. The same property could be
named by an index and by that index's decimal text, so keys have a normal
form: `PropertyKey.canonical` turns the decimal text of an array index
into the index and leaves every other key alone. Array indices are the
natural numbers up to `2 ^ 32 - 2`; their decimal text has no leading
zeros.

Tables of properties compare keys as they are. Folding is for the
operations that take keys from outside.
-/

set_option autoImplicit false

namespace ScriptRealm

/-- The name of a property. -/
inductive PropertyKey where
  | string (text : String)
  | index (i : Nat)
  | symbol (s : Symbol)
  deriving DecidableEq, Inhabited

namespace PropertyKey

/-- The largest array index. -/
def maxIndex : Nat := Nat.pow 2 32 - 2

/-- The array index whose decimal text this is. -/
def index? (text : String) : Option Nat :=
  match text.toList with
  | ['0'] => some 0
  | '0' :: _ => none
  | digits => (Literal.numeral? 10 digits).filter (· ≤ maxIndex)

/-- The key a text names. -/
def ofText (text : String) : PropertyKey :=
  match index? text with
  | some i => .index i
  | none => .string text

/-- The key of a place in a list: an index as long as there is one, then
the decimal text. -/
def ofPosition (i : Nat) : PropertyKey :=
  if i ≤ maxIndex then .index i else .string (toString i)

/-- The key a value names. A symbol names itself, everything else the key
of its text; a number that is an array index needs no text for that, and
negative zero names index zero. -/
def ofValue : Value → PropertyKey
  | .symbol s => .symbol s
  | .number n =>
      match n.toNat?.filter (· ≤ maxIndex) with
      | some i => .index i
      | none => ofText n.toText
  | v => ofText v.display

/-- The normal form of a key. -/
def canonical : PropertyKey → PropertyKey
  | .string text => ofText text
  | key => key

def isSymbol : PropertyKey → Bool
  | .symbol _ => true
  | _ => false

/-- A key as a script value; an index is its decimal text. -/
def toValue : PropertyKey → Value
  | .string text => .string text
  | .index i => .string (toString i)
  | .symbol s => .symbol s

/-- A key as shown in messages. -/
def display : PropertyKey → String
  | .string text => text
  | .index i => toString i
  | .symbol s => s.display

end PropertyKey

end ScriptRealm
