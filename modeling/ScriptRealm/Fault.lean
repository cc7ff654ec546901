import ScriptRealm.Opcode.Basic
import ScriptRealm.Property.Key

/-!
# Faults

What can go wrong, by cause. A fault is an error a script can catch (a
type error, a range error or a thrown value) or a fatal one: resuming a
generator that is running, an opcode outside the catalog, a broken
invariant of the engine. A fatal fault is never handed to a script.

Causes carry what their message shows; the wording is in the `message`
functions alone. Embedders raise faults with wordings of their own, the
`custom` causes.
-/

set_option autoImplicit false

namespace ScriptRealm

/-- A place in a script. -/
structure Location where
  source : String
  line : Nat
  deriving DecidableEq, Inhabited

def Location.display (l : Location) : String := l.source ++ "#" ++ toString l.line

/-- Why a property could not be assigned to. -/
inductive WriteRefusal where
  | hostManaged
  | nonExtensible
  | readOnly
  | getterOnly
  deriving DecidableEq

def WriteRefusal.text : WriteRefusal → String
  | .hostManaged => "host-managed"
  | .nonExtensible => "non-extensible object's"
  | .readOnly => "read-only"
  | .getterOnly => "getter-only"

/-- The methods that ask for a particular kind of receiver. -/
inductive Method where
  | next
  | returning
  | throwing
  | inspecting
  | resuming
  deriving DecidableEq

def Method.text : Method → String
  | .next => "next"
  | .returning => "return"
  | .throwing => "throw"
  | .inspecting => "state"
  | .resuming => "generator"

/-- The causes of a type error. -/
inductive TypeCause where
  | symbolToText
  | symbolToNumber
  | objectToPrimitive
  | notCallable (value : Value)
  | objectNotCallable
  | foreignNotCallable
  | notConstructor (value : Value)
  | mixedDescriptor
  | cannotDelete (key : PropertyKey)
  | cannotRedefine (key : PropertyKey)
  | cannotDefine (key : PropertyKey)
  | cannotAssign (reason : WriteRefusal) (key : PropertyKey)
  | propertyOfNullish (value : Value) (key : PropertyKey)
  | methodNotCallable (key : PropertyKey)
  | constructorNotObject (type : TypeName)
  | speciesNotConstructor (type : TypeName)
  | listFromPrimitive
  | listElement (type : TypeName)
  | descriptorNotObject (value : Value)
  | getterNotCallable (value : Value)
  | setterNotCallable (value : Value)
  | notIterable (value : Value)
  | iteratorNotObject
  | resultNotObject (value : Value)
  | closingResultNotObject
  | incompatibleReceiver (method : Method)
  | valuesOfPrimitive
  | groupingNullish (value : Value)
  | callbackNotCallable (value : Value) (type : TypeName)
  | custom (message : String)
  deriving DecidableEq

def TypeCause.message : TypeCause → String
  | .symbolToText => "Cannot convert a Symbol value to a string"
  | .symbolToNumber => "Cannot convert a Symbol value to a number"
  | .objectToPrimitive => "Cannot convert object to primitive value"
  | .notCallable v => v.display ++ " is not a function"
  | .objectNotCallable => "object is not a function"
  | .foreignNotCallable => "foreign object is not a function"
  | .notConstructor v => v.display ++ " is not a constructor"
  | .mixedDescriptor =>
      "Invalid property descriptor. " ++
        "Cannot both specify accessors and a value or writable attribute"
  | .cannotDelete key => "Cannot delete property '" ++ key.display ++ "' of object"
  | .cannotRedefine key => "Cannot redefine property: " ++ key.display
  | .cannotDefine key => "Cannot define property " ++ key.display
  | .cannotAssign reason key =>
      "Cannot assign to " ++ reason.text ++ " property '" ++ key.display ++ "'"
  | .propertyOfNullish v key =>
      "Cannot read properties of " ++ v.display ++ " (reading '" ++ key.display ++ "')"
  | .methodNotCallable key => key.display ++ " is not a function"
  | .constructorNotObject type =>
      "Expected argument of type object, but instead had type " ++ type.text
  | .speciesNotConstructor type => type.text ++ " is not a constructor"
  | .listFromPrimitive => "CreateListFromArrayLike called on non-object"
  | .listElement type => type.text ++ " is not a valid list element"
  | .descriptorNotObject v => "Property description must be an object: " ++ v.display
  | .getterNotCallable v => "Getter must be a function: " ++ v.display
  | .setterNotCallable v => "Setter must be a function: " ++ v.display
  | .notIterable v => v.display ++ " is not iterable"
  | .iteratorNotObject => "Result of the Symbol.iterator method is not an object"
  | .resultNotObject v => "Iterator result " ++ v.display ++ " is not an object"
  | .closingResultNotObject => "Iterator result is not an object"
  | .incompatibleReceiver method => method.text ++ " method called on incompatible receiver"
  | .valuesOfPrimitive => "Array.prototype.values called on non-object"
  | .groupingNullish v => "Cannot convert " ++ v.display ++ " to object"
  | .callbackNotCallable v type =>
      v.display ++ " is not a function, it is " ++ type.text ++ "."
  | .custom message => message

/-- The causes of a range error. -/
inductive RangeCause where
  | arrayLength (length : Nat)
  | tooManyValues
  | custom (message : String)
  deriving DecidableEq

def RangeCause.message : RangeCause → String
  | .arrayLength length => "Invalid array length: " ++ toString length
  | .tooManyValues => "Too many values to iterate"
  | .custom message => message

/-- Broken invariants of the engine. -/
inductive InternalCause where
  | missingBody
  | missingDelegate
  | custom (message : String)
  deriving DecidableEq

def InternalCause.message : InternalCause → String
  | .missingBody => "generator resumed without a continuation"
  | .missingDelegate => "delegation without a delegate"
  | .custom message => message

/-- The failure of an operation. -/
inductive Fault where
  | type (cause : TypeCause)
  | range (cause : RangeCause)
  | thrown (value : Value) (location : Option Location)
  | reentrancy
  | opcode (e : InvalidOpcode)
  | internal (cause : InternalCause)
  deriving DecidableEq

namespace Fault

/-- A fault that no script may see. -/
def isFatal : Fault → Bool
  | .type _ | .range _ | .thrown _ _ => false
  | .reentrancy | .opcode _ | .internal _ => true

/-- The full text of a fault. -/
def message : Fault → String
  | .type cause => "TypeError: " ++ cause.message
  | .range cause => "RangeError: " ++ cause.message
  | .thrown value none => "Uncaught exception: " ++ value.display
  | .thrown value (some location) =>
      "Uncaught exception: " ++ value.display ++ " (" ++ location.display ++ ")"
  | .reentrancy => "Generator is already running"
  | .opcode e => "Bytecode error: " ++ e.message
  | .internal cause => "InternalError: " ++ cause.message

/-- The place a thrown value came from, if it is known. -/
def location? : Fault → Option Location
  | .thrown _ location => location
  | _ => none

end Fault

end ScriptRealm
