import ScriptRealm.Object.Lookup
import ScriptRealm.Realm.Intrinsics

/-!
# Descriptors as script objects

A script states a descriptor as an object with a property for each field
that is present, and gets to see descriptors in the same form.
-/

set_option autoImplicit false

namespace ScriptRealm.Descriptor

variable {P : Platform} (hooks : Hooks P)

/-- Reads a field, if the object has it or inherits it. -/
def field? (h : Handle) (name : String) : Action P (Option Value) := do
  if (← Action.realm).has h (.string name) then
    some <$> Object.get hooks h (.string name)
  else
    return none

/-- Reads an accessor field, which must be undefined or callable. -/
def accessor? (h : Handle) (name : String) (cause : Value → TypeCause) :
    Action P (Option Value) := do
  match ← field? hooks h name with
  | none => return none
  | some accessor =>
      if accessor.isUndefined || (← Action.realm).isCallable accessor then
        return some accessor
      else
        Action.fail (.type (cause accessor))

/-- The descriptor that a script object states. -/
def ofObject (value : Value) : Action P Descriptor :=
  match value with
  | .object h => do
      let enumerable ← field? hooks h "enumerable"
      let configurable ← field? hooks h "configurable"
      let value ← field? hooks h "value"
      let writable ← field? hooks h "writable"
      let get ← accessor? hooks h "get" .getterNotCallable
      let set ← accessor? hooks h "set" .setterNotCallable
      let d : Descriptor :=
        { value
          writable := writable.map Value.toBoolean
          get
          set
          enumerable := enumerable.map Value.toBoolean
          configurable := configurable.map Value.toBoolean }
      if d.isMixed then Action.fail (.type .mixedDescriptor) else return d
  | _ => Action.fail (.type (.descriptorNotObject value))

/-- The fields that are present, as values under their names. -/
def fields (d : Descriptor) : List (String × Value) :=
  [("value", d.value),
    ("writable", d.writable.map .boolean),
    ("get", d.get),
    ("set", d.set),
    ("enumerable", d.enumerable.map .boolean),
    ("configurable", d.configurable.map .boolean)].filterMap
      fun (name, value) => value.map (name, ·)

/-- The script object that states a descriptor; undefined for none. -/
def toObject : Option Descriptor → Action P Value
  | none => return .undefined
  | some d => do
      let h ← Action.modifyGet (·.createObject)
      Action.modify fun realm => d.fields.foldl
        (fun realm (name, value) => realm.insertSlot h (.string name) (.plain value)) realm
      return .object h

end ScriptRealm.Descriptor
