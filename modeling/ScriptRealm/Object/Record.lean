import ScriptRealm.Object.Kind
import ScriptRealm.OrderedMap
import ScriptRealm.Property.Descriptor

/-!
# Object records

An object in the arena: its kind, its own properties in insertion order,
a prototype, an enclosing scope, and whether properties may be added.
-/

set_option autoImplicit false

namespace ScriptRealm

/-- An object. -/
structure ObjectRecord (P : Platform) where
  kind : Kind P
  slots : OrderedMap PropertyKey Slot
  prototype : Option Handle
  scope : Option Handle
  extensible : Bool

namespace ObjectRecord

variable {P : Platform}

/-- An extensible object without properties. -/
def create (kind : Kind P) (prototype : Option Handle) : ObjectRecord P :=
  { kind, slots := .empty, prototype, scope := none, extensible := true }

instance : Inhabited (ObjectRecord P) := ⟨create .ordinary none⟩

/-- The slot under a key. -/
def slot? (r : ObjectRecord P) (key : PropertyKey) : Option Slot := r.slots.get? key

/-- The object with a slot under a key. -/
def insert (r : ObjectRecord P) (key : PropertyKey) (slot : Slot) : ObjectRecord P :=
  { r with slots := r.slots.insert key slot }

/-- The object without a key. -/
def erase (r : ObjectRecord P) (key : PropertyKey) : ObjectRecord P :=
  { r with slots := r.slots.erase key }

/-- Asks for extensibility or its end, and says whether the object now is
as asked. What has ended stays ended. -/
def setExtensible (r : ObjectRecord P) (extensible : Bool) : Bool × ObjectRecord P :=
  if extensible && !r.extensible then (false, r) else (true, { r with extensible })

/-- The array index of a key. -/
def arrayIndex? : PropertyKey → Option Nat
  | .index i => some i
  | _ => none

/-- The own keys: those that enumeration skips only if `hidden`, symbols
only if `symbols` and then last. With `indicesFirst` the indices come in
ascending order before the texts; otherwise, like all other keys, in
insertion order. -/
def orderedKeys (r : ObjectRecord P) (hidden symbols indicesFirst : Bool) : List PropertyKey :=
  let visible := (r.slots.entries.filter fun entry => hidden || entry.2.enumerable).map Prod.fst
  let named := visible.filter (!·.isSymbol)
  let indices := named.filterMap arrayIndex?
  let texts := named.filter fun key => (arrayIndex? key).isNone
  (if indicesFirst then (indices.mergeSort fun i j => i ≤ j).map .index ++ texts else named) ++
    (if symbols then visible.filter (·.isSymbol) else [])

end ObjectRecord

end ScriptRealm
