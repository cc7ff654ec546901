import ScriptRealm.Number.Text

/-!
# Values

A script value is one of seven kinds. Objects are handles into a realm's
arena, and a symbol is an identity that a realm hands out once, together
with the description it was made with; the same realm never gives two
descriptions to one identity.

Because numbers are equal here exactly when a script can never tell them
apart, equality of values is the finest of the three sameness relations
that scripts know. `Value.sameZero` and `Value.strictlyEqual` are the two
coarser ones; they differ from it on numbers alone.
-/

set_option autoImplicit false

namespace ScriptRealm

/-- The place of an object in the arena. -/
structure Handle where
  index : Nat
  deriving DecidableEq, Inhabited

/-- A symbol: its identity in the realm, and its description. Symbols are
compared by both. That is the same as comparing identities, since only
`Realm.newSymbol` makes them, each with an identity that no symbol of the realm
has had, and so no two symbols of a realm differ in their description alone. -/
structure Symbol where
  id : Nat
  description : Option String
  deriving DecidableEq, Inhabited

namespace Symbol

/-- The key of the method that makes an object iterable. -/
def iterator : Symbol := ⟨0, some "Symbol.iterator"⟩

/-- The key of the constructor for derived objects. -/
def species : Symbol := ⟨1, some "Symbol.species"⟩

/-- The key of an object's descriptive tag. -/
def toStringTag : Symbol := ⟨2, some "Symbol.toStringTag"⟩

/-- The identity of the first symbol a realm makes on request. -/
def firstFree : Nat := 3

/-- A symbol as shown in messages. -/
def display (s : Symbol) : String := "Symbol(" ++ s.description.getD "" ++ ")"

end Symbol

/-- A script value. -/
inductive Value where
  | undefined
  | null
  | boolean (b : Bool)
  | number (n : Number)
  | string (s : String)
  | symbol (s : Symbol)
  | object (h : Handle)
  deriving DecidableEq, Inhabited

/-- What a script calls the kind of a value. -/
inductive TypeName where
  | undefined
  | object
  | boolean
  | number
  | string
  | symbol
  | function
  deriving DecidableEq

def TypeName.text : TypeName → String
  | .undefined => "undefined"
  | .object => "object"
  | .boolean => "boolean"
  | .number => "number"
  | .string => "string"
  | .symbol => "symbol"
  | .function => "function"

namespace Value

def isUndefined : Value → Bool
  | .undefined => true
  | _ => false

/-- Undefined or null. -/
def isNullish : Value → Bool
  | .undefined | .null => true
  | _ => false

def isObject : Value → Bool
  | .object _ => true
  | _ => false

def asObject? : Value → Option Handle
  | .object h => some h
  | _ => none

def asNumber? : Value → Option Number
  | .number n => some n
  | _ => none

def asString? : Value → Option String
  | .string s => some s
  | _ => none

def asSymbol? : Value → Option Symbol
  | .symbol s => some s
  | _ => none

/-- The kind of a value, telling no object from a function. Null counts
as an object. -/
def typeName : Value → TypeName
  | .undefined => .undefined
  | .null => .object
  | .boolean _ => .boolean
  | .number _ => .number
  | .string _ => .string
  | .symbol _ => .symbol
  | .object _ => .object

/-- The truth of a value: undefined, null, zero, NaN and the empty text
are false. -/
def toBoolean : Value → Bool
  | .undefined | .null => false
  | .boolean b => b
  | .number n => !(n.isZero || n.isNaN)
  | .string s => !s.isEmpty
  | .symbol _ | .object _ => true

/-- The text of a value, which a symbol has none of. An object's text is
the default one; none of its methods is consulted. -/
def text? : Value → Option String
  | .undefined => some "undefined"
  | .null => some "null"
  | .boolean true => some "true"
  | .boolean false => some "false"
  | .number n => some n.toText
  | .string s => some s
  | .symbol _ => none
  | .object _ => some "[object Object]"

/-- The text of a value in messages. -/
def display : Value → String
  | .symbol s => s.display
  | v => v.text?.getD ""

/-- Sameness up to the sign of zero. -/
def sameZero : Value → Value → Bool
  | .number x, .number y => x.sameZero y
  | a, b => a == b

/-- Strict equality: sameness, but the zeros are equal and NaN equals
nothing. -/
def strictlyEqual : Value → Value → Bool
  | .number x, .number y => x.equal y
  | a, b => a == b

end Value

end ScriptRealm
