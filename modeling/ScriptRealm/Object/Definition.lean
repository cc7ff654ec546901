import ScriptRealm.Object.Write
import ScriptRealm.Property.Reconciliation

/-!
# Defining properties

Definition applies a descriptor to the property an object holds, as
reconciliation decides. A foreign object can only be given a value.

An integrity level ends an object's extensibility and locks the
properties it has: a sealed object's properties are not configurable, and
a frozen object's values cannot be written either.
-/

set_option autoImplicit false

namespace ScriptRealm

/-- The realm after a descriptor is applied to an object's property, and
whether it could be. -/
def Realm.applyDescriptor {P : Platform} (r : Realm P) (h : Handle) (key : PropertyKey)
    (extensible : Bool) (d : Descriptor) (current : Option Slot) : Bool × Realm P :=
  match reconcile extensible d current with
  | .reject => (false, r)
  | .keep => (true, r)
  | .replace slot => (true, r.insertSlot h key slot)

namespace Object

variable {P : Platform}

/-- Whether an object has a property of its own, keys being taken in their
normal form. -/
def owns (r : Realm P) (h : Handle) (key : PropertyKey) : Bool := r.hasOwn h key.canonical

/-- The complete description of a property in an object's own table. -/
def describe? (r : Realm P) (h : Handle) (key : PropertyKey) : Option Descriptor :=
  ((r.record h).slot? key.canonical).map Slot.toDescriptor

/-- Applies a descriptor to an object's property, and says whether that
was done. -/
def define (h : Handle) (key : PropertyKey) (d : Descriptor) : Action P Bool :=
  if d.isMixed then Action.fail (.type .mixedDescriptor)
  else do
    let key := key.canonical
    let record ← Action.record h
    match record.kind.host? with
    | some host =>
        match d.value, d.family? with
        | some value, some .data => hostPut h host key value
        | _, _ => return false
    | none =>
        Action.modifyGet (·.applyDescriptor h key record.extensible d (record.slot? key))

/-- Applies a descriptor; a refusal is a fault. -/
def defineOrFail (h : Handle) (key : PropertyKey) (d : Descriptor) : Action P Unit := do
  unless ← define h key d do
    Action.fail (.type (.cannotRedefine key))

/-- Defines a data property with every flag set. -/
def createData (h : Handle) (key : PropertyKey) (value : Value) : Action P Bool :=
  define h key
    { value := some value
      writable := some true
      enumerable := some true
      configurable := some true }

/-- Defines a data property with every flag set; a refusal is a fault. -/
def createDataOrFail (h : Handle) (key : PropertyKey) (value : Value) : Action P Unit := do
  unless ← createData h key value do
    Action.fail (.type (.cannotDefine key))

end Object

/-- How far an object is locked. -/
inductive Integrity where
  | sealed
  | frozen
  deriving DecidableEq

namespace Integrity

variable {P : Platform}

/-- Whether a slot is locked as far as a level asks. -/
def admits (level : Integrity) (slot : Slot) : Bool :=
  !slot.configurable && !(level = .frozen && slot.isWritable)

/-- Whether an object is locked as far as a level asks. A property that is
not in the object's own table has no flags to judge by. -/
def test (r : Realm P) (h : Handle) (level : Integrity) : Bool :=
  !(r.record h).extensible &&
    (r.ownKeys h true true).all fun key => ((r.record h).slot? key).any level.admits

/-- What a level asks of a slot. -/
def demand (level : Integrity) (slot : Slot) : Descriptor :=
  { configurable := some false
    writable := if level = .frozen ∧ slot.family = .data then some false else none }

/-- Locks the properties under the given keys one after the other, up to
the first that cannot be locked. -/
def lockKeys (level : Integrity) (h : Handle) : List PropertyKey → Realm P → Bool × Realm P
  | [], r => (true, r)
  | key :: rest, r =>
      match (r.record h).slot? key with
      | none => (false, r)
      | some slot =>
          match r.applyDescriptor h key false (level.demand slot) (some slot) with
          | (true, r) => lockKeys level h rest r
          | (false, r) => (false, r)

/-- Locks an object, and says whether that was done. -/
def set (r : Realm P) (h : Handle) (level : Integrity) : Bool × Realm P :=
  let r := r.preventExtensions h
  level.lockKeys h (r.ownKeys h true true) r

end Integrity

end ScriptRealm
