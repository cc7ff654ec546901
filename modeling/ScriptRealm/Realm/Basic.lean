import ScriptRealm.Config.Basic
import ScriptRealm.Object.Record

/-!
# Realms

A realm is an arena of objects with a configuration. Objects are never
removed, so a handle keeps its meaning for the life of the realm.

The functions here read the arena or change one object of it. They run
no code of an embedder. Lookups go along prototype chains: the chain of
an object is the object, its prototype, that one's prototype and so on,
and the owner of a key is the first object on the chain that has it. A
chain without a cycle has no more members than the arena, so that is how
many objects a lookup goes along.
-/

set_option autoImplicit false

namespace ScriptRealm

/-- An arena of objects with a configuration. -/
structure Realm (P : Platform) where
  objects : Array (ObjectRecord P)
  config : Config
  nextSymbol : Nat

namespace Realm

variable {P : Platform}

/-- The number of objects. -/
def size (r : Realm P) : Nat := r.objects.size

/-- The object under a handle. -/
def record (r : Realm P) (h : Handle) : ObjectRecord P := r.objects.getD h.index default

/-- The realm with one object changed. -/
def update (r : Realm P) (h : Handle) (f : ObjectRecord P → ObjectRecord P) : Realm P :=
  { r with objects := r.objects.modify h.index f }

/-- Adds an object. -/
def allocate (r : Realm P) (record : ObjectRecord P) : Handle × Realm P :=
  (⟨r.size⟩, { r with objects := r.objects.push record })

/-- Makes a symbol. Identities are counted upwards and never used again, so
the identity tells which symbol it is. They are counted without a bound,
where 32 bits have room for the symbols of a realm. -/
def newSymbol (r : Realm P) (description : Option String) : Symbol × Realm P :=
  (⟨r.nextSymbol, description⟩, { r with nextSymbol := r.nextSymbol + 1 })

/-! ### Reading -/

/-- The first `n` objects of the chain that starts at a handle. -/
def chainUpTo (r : Realm P) : Nat → Handle → List Handle
  | 0, _ => []
  | n + 1, h =>
      h :: match (r.record h).prototype with
        | some p => r.chainUpTo n p
        | none => []

/-- The prototype chain of an object, itself first. -/
def chain (r : Realm P) (h : Handle) : List Handle := r.chainUpTo r.size h

/-- Whether an object has a key of its own. -/
def hasOwn (r : Realm P) (h : Handle) (key : PropertyKey) : Bool :=
  match (r.record h).kind.host? with
  | some host => P.hosts.has host key
  | none => (r.record h).slots.contains key

/-- The first of `n` objects on the chain from a handle that has a key. -/
def ownerUpTo? (r : Realm P) (key : PropertyKey) : Nat → Handle → Option Handle
  | 0, _ => none
  | n + 1, h =>
      if r.hasOwn h key then some h
      else match (r.record h).prototype with
        | some p => r.ownerUpTo? key n p
        | none => none

/-- The first object on a chain that has a key. -/
def owner? (r : Realm P) (h : Handle) (key : PropertyKey) : Option Handle :=
  r.ownerUpTo? key r.size h

/-- Whether one of `n` objects on the chain from a handle stores a key. -/
def hasUpTo (r : Realm P) (key : PropertyKey) : Nat → Handle → Bool
  | 0, _ => false
  | n + 1, h =>
      let record := r.record h
      let found := match record.kind.host? with
        | some host => P.hosts.has host key
        | none => record.slots.contains key
      found || match record.prototype with
        | some p => r.hasUpTo key n p
        | none => false

/-- Whether an object has a key, its own or inherited. -/
def has (r : Realm P) (h : Handle) (key : PropertyKey) : Bool := r.hasUpTo key r.size h

/-- The own keys of an object in enumeration order. A foreign object has
an order of its own and hides nothing but symbols. -/
def ownKeys (r : Realm P) (h : Handle) (hidden symbols : Bool) : List PropertyKey :=
  match (r.record h).kind.host? with
  | some host => (P.hosts.ownKeys host).filter fun key => symbols || !key.isSymbol
  | none => (r.record h).orderedKeys hidden symbols r.config.enumerateIndicesFirst

def isCallable (r : Realm P) : Value → Bool
  | .object h => (r.record h).kind.isCallable
  | _ => false

def isConstructor (r : Realm P) : Value → Bool
  | .object h => (r.record h).kind.constructor?.isSome
  | _ => false

/-- The kind of a value, with functions told from other objects. -/
def typeName (r : Realm P) (v : Value) : TypeName :=
  if r.isCallable v then .function else v.typeName

/-! ### Changing one object -/

/-- The realm with a slot under a key of an object. -/
def insertSlot (r : Realm P) (h : Handle) (key : PropertyKey) (slot : Slot) : Realm P :=
  r.update h (·.insert key slot)

/-- The realm with an object's kind changed. -/
def setKind (r : Realm P) (h : Handle) (kind : Kind P) : Realm P :=
  r.update h fun record => { record with kind }

/-- Gives an object another prototype, and says whether that was done. An
object that is not extensible keeps its prototype, and no object may come
to lie on its own chain. -/
def setPrototype (r : Realm P) (h : Handle) (prototype : Option Handle) : Bool × Realm P :=
  if (r.record h).prototype = prototype then (true, r)
  else if !(r.record h).extensible then (false, r)
  else if prototype.any fun p => (r.chain p).contains h then (false, r)
  else (true, r.update h fun record => { record with prototype })

/-- Encloses an object in a scope. -/
def setScope (r : Realm P) (h : Handle) (scope : Option Handle) : Realm P :=
  r.update h fun record => { record with scope }

/-- Asks an object for extensibility or its end, and says whether it now
is as asked. -/
def setExtensible (r : Realm P) (h : Handle) (extensible : Bool) : Bool × Realm P :=
  let (held, record) := (r.record h).setExtensible extensible
  (held, r.update h fun _ => record)

/-- Ends an object's extensibility. -/
def preventExtensions (r : Realm P) (h : Handle) : Realm P :=
  r.update h fun record => { record with extensible := false }

end Realm

end ScriptRealm
