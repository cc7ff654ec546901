import ScriptRealm.Fault

/-!
# Platforms

A realm is embedded in a program that brings its own functions,
generator bodies and objects. A `Platform` names the types of these and
says how foreign objects behave. The realm itself stores only
descriptions (`Code`, `Body`) and the foreign objects' own storage
(`Host`); what descriptions do is told by an `Embedder`, in terms of
requests to the library.
-/

set_option autoImplicit false

namespace ScriptRealm

/-- The behaviour of foreign objects. They answer questions from their own
storage; a write, a deletion or a call may change that storage and the
embedder's memory. -/
structure HostBehaviour (Host Memory : Type) where
  /-- How the object is called in inspections. -/
  label : Host → String
  has : Host → PropertyKey → Bool
  /-- The value under a key; a key may be there without one. -/
  get? : Host → PropertyKey → Option Value
  /-- The keys in the object's own order. -/
  ownKeys : Host → List PropertyKey
  /-- Writes a value, and says whether the object took it. -/
  put : Host → PropertyKey → Value → Memory → Bool × Host × Memory
  /-- Removes a key, and says whether the object did. -/
  delete : Host → PropertyKey → Memory → Bool × Host × Memory
  isCallable : Host → Bool := fun _ => false
  call : Host → Value → List Value → Memory → Except Fault Value × Host × Memory :=
    fun host _ _ memory => (.error (.type .foreignNotCallable), host, memory)

/-- What an embedder brings to a realm. -/
structure Platform where
  /-- Descriptions of native functions. -/
  Code : Type
  /-- Descriptions of generator bodies. -/
  Body : Type
  /-- The storage of a foreign object. -/
  Host : Type
  /-- Whatever else the embedder remembers. -/
  Memory : Type
  hosts : HostBehaviour Host Memory

end ScriptRealm
