import ScriptRealm.Object.Lookup

/-!
# Writing and deleting properties

`put` writes to one object alone: a stored value is overwritten, an
accessor runs its setter, a new property needs an extensible object.

`assign` is the assignment of scripts. It finds the owner of the key
first. A stored value of the object itself is overwritten; one that is
inherited is shadowed by a new property of the object, unless it is
read-only; an accessor runs its setter on behalf of the object, wherever
it was found; a foreign owner takes the write itself. A refusal is a
fault if the caller or the realm is strict.
-/

set_option autoImplicit false

namespace ScriptRealm.Object

variable {P : Platform} (hooks : Hooks P)

/-- Hands a write to a foreign object. -/
def hostPut (h : Handle) (host : P.Host) (key : PropertyKey) (value : Value) : Action P Bool :=
  Action.askHost h (P.hosts.put host key value)

/-- Overwrites the value of a data property, keeping its flags. -/
def overwrite (h : Handle) (key : PropertyKey) (slot : Slot) (value : Value) : Action P Unit :=
  Action.modify (·.insertSlot h key { slot with content := .data value true })

/-- Adds a data property with every flag set. -/
def addPlain (h : Handle) (key : PropertyKey) (value : Value) : Action P Unit :=
  Action.modify (·.insertSlot h key (.plain value))

/-- Writes a property of an object itself, and says whether the write was
taken. -/
def put (h : Handle) (key : PropertyKey) (value : Value) : Action P Bool := do
  let record ← Action.record h
  match record.kind.host? with
  | some host => hostPut h host key value
  | none =>
      match record.slot? key with
      | some slot =>
          match slot.content with
          | .data _ writable =>
              if writable then overwrite h key slot value
              return writable
          | .accessor _ .undefined => return false
          | .accessor _ setter => do
              let _ ← hooks.call setter (.object h) [value]
              return true
      | none =>
          if record.extensible then addPlain h key value
          return record.extensible

/-- Reports a refused assignment. -/
def refuse (key : PropertyKey) (reason : WriteRefusal) (strict : Bool) : Action P Bool := do
  if strict || (← Action.realm).config.strict then
    Action.fail (.type (.cannotAssign reason key))
  else
    return false

/-- Assigns to a property, and says whether that was done. -/
def assign (h : Handle) (key : PropertyKey) (value : Value) (strict : Bool) : Action P Bool := do
  let key := key.canonical
  let realm ← Action.realm
  -- A key that nobody on the chain owns is assigned where the search began.
  let base := (realm.owner? h key).getD h
  let record := realm.record base
  match record.kind.host? with
  | some host =>
      if ← hostPut base host key value then
        return true
      else
        refuse key .hostManaged strict
  | none =>
      match record.slot? key with
      | none =>
          if record.extensible then
            addPlain base key value
            return true
          else
            refuse key .nonExtensible strict
      | some slot =>
          match slot.content with
          | .data _ false => refuse key .readOnly strict
          | .data _ true =>
              -- A value that is inherited is shadowed by one of the receiver's own.
              if base = h then
                overwrite h key slot value
                return true
              else if ← put hooks h key value then
                return true
              else
                refuse key .nonExtensible strict
          | .accessor _ .undefined => refuse key .getterOnly strict
          | .accessor _ setter => do
              let _ ← hooks.call setter (.object h) [value]
              return true

/-- Deletes a property of an object itself, and says whether it is gone.
What is not there is gone; what is not configurable stays, which is a
fault in a strict realm. -/
def delete (h : Handle) (key : PropertyKey) : Action P Bool := do
  let realm ← Action.realm
  let record := realm.record h
  match record.kind.host? with
  | some host => Action.askHost h (P.hosts.delete host key)
  | none =>
      match record.slot? key with
      | none => return true
      | some slot =>
          if slot.configurable then
            Action.modify (·.update h (·.erase key))
            return true
          else if realm.config.strict then
            Action.fail (.type (.cannotDelete key))
          else
            return false

/-- Deletes a property; one that stays is a fault. -/
def deleteOrFail (h : Handle) (key : PropertyKey) : Action P Unit := do
  unless ← delete h key.canonical do
    Action.fail (.type (.cannotDelete key))

end ScriptRealm.Object
