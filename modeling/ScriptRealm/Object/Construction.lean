import ScriptRealm.Object.Lookup
import ScriptRealm.Realm.Intrinsics

/-!
# Construction

A constructor is called on a new object that inherits from the
constructor's `prototype`; an object that it answers with takes the new
object's place. The species of an object is the constructor that its own
constructor names for objects derived from it.
-/

set_option autoImplicit false

namespace ScriptRealm.Object

variable {P : Platform} (hooks : Hooks P)

/-- Constructs an object. -/
def construct (constructor : Value) (args : List Value) : Action P Value := do
  match constructor with
  | .object h =>
      if (← Action.realm).isConstructor constructor then
        let prototype := (← get hooks h (.string "prototype")).asObject?.getD
          Intrinsic.objectPrototype
        let this ← Action.modifyGet (·.createWith (some prototype))
        let result ← hooks.call constructor (.object this) args
        return if result.isObject then result else .object this
      else
        Action.fail (.type (.notConstructor constructor))
  | _ => Action.fail (.type (.notConstructor constructor))

/-- The constructor for objects derived from an object, `default` unless
its constructor names another. -/
def species (h : Handle) (default : Value) : Action P Value := do
  match ← get? hooks h (.string "constructor") with
  | none | some .undefined => return default
  | some (.object constructor) =>
      let species := (← get? hooks constructor (.symbol .species)).getD .undefined
      let realm ← Action.realm
      if species.isNullish then
        return default
      else if realm.isConstructor species then
        return species
      else
        Action.fail (.type (.speciesNotConstructor (realm.typeName species)))
  | some other =>
      Action.fail (.type (.constructorNotObject ((← Action.realm).typeName other)))

/-- The value a script gets to see for a fault: a thrown value is itself,
an error becomes an error object, and a fatal fault stays a fault. -/
def faultToValue (fault : Fault) : Action P Value :=
  match fault with
  | .thrown value _ => return value
  | .type cause => .object <$> Action.modifyGet (·.createError "TypeError" cause.message)
  | .range cause => .object <$> Action.modifyGet (·.createError "RangeError" cause.message)
  | fatal => Action.fail fatal

end ScriptRealm.Object
