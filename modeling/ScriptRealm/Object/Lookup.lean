import ScriptRealm.Embedder.Hooks

/-!
# Reading properties

A lookup goes along the chain of an object and stops at the first that has
something to read under the key. A stored value is the answer as it is; an
accessor runs its getter, on behalf of the receiver and not of the owner;
a foreign owner answers from its own storage.
-/

set_option autoImplicit false

namespace ScriptRealm

/-- What there is to read: a value, or what a getter answers. -/
inductive Reading where
  | value (v : Value)
  | getter (f : Value)

/-- What there is to read of a slot's content. An accessor without getter
reads as undefined. -/
def Content.reading : Content → Reading
  | .data value _ => .value value
  | .accessor .undefined _ => .value .undefined
  | .accessor getter _ => .getter getter

variable {P : Platform}

/-- What an object itself has to read under a key. A foreign object that
has the key may have no value for it. -/
def ObjectRecord.reading? (record : ObjectRecord P) (key : PropertyKey) : Option Reading :=
  match record.kind.host? with
  | some host =>
      if P.hosts.has host key then some (.value ((P.hosts.get? host key).getD .undefined)) else none
  | none => (record.slot? key).map (·.content.reading)

/-- What the first of `n` objects on the chain from a handle has to read
that has anything. -/
def Realm.readingUpTo? (r : Realm P) (key : PropertyKey) : Nat → Handle → Option Reading
  | 0, _ => none
  | n + 1, h =>
      match (r.record h).reading? key with
      | some reading => some reading
      | none => match (r.record h).prototype with
        | some p => r.readingUpTo? key n p
        | none => none

namespace Object

variable (hooks : Hooks P)

/-- Reads a property on behalf of a receiver. There is no answer if no
object on the chain has the key. A getter is called once, without
arguments. -/
def getFor? (h : Handle) (key : PropertyKey) (receiver : Value) : Action P (Option Value) := do
  let realm ← Action.realm
  match realm.readingUpTo? key realm.size h with
  | some (.value value) => return some value
  | some (.getter getter) => some <$> hooks.call getter receiver []
  | none => return none

/-- Reads a property. -/
def get? (h : Handle) (key : PropertyKey) : Action P (Option Value) :=
  getFor? hooks h key (.object h)

/-- Reads a property, undefined if there is none. -/
def get (h : Handle) (key : PropertyKey) : Action P Value := do
  return (← get? hooks h key).getD .undefined

/-- Reads a method of a value. Undefined and null are no methods, and
neither has any; other primitive values have none. What is there must be
callable. -/
def getMethod? (value : Value) (key : PropertyKey) : Action P (Option Value) :=
  match value with
  | .object h => do
      let method ← get hooks h key
      if method.isNullish then
        return none
      else if (← Action.realm).isCallable method then
        return some method
      else
        Action.fail (.type (.methodNotCallable key))
  | .undefined | .null => Action.fail (.type (.propertyOfNullish value key))
  | _ => return none

end Object

end ScriptRealm
