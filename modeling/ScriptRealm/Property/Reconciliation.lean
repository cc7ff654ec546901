import ScriptRealm.Property.Descriptor

/-!
# Reconciliation

What becomes of a property when a descriptor is applied to it, decided
without touching any object. A configurable property takes whatever the
descriptor says, changing family if it must. A property that is not
configurable keeps its flags, its family and its accessors; if it is not
writable either, it keeps its value.

A locked property that is asked for nothing new is kept as it is, which
is not the same as being replaced by an equal one.
-/

set_option autoImplicit false

namespace ScriptRealm

/-- The result of applying a descriptor to a property. -/
inductive Reconciliation where
  /-- The descriptor asks for what the property does not allow. -/
  | reject
  /-- The property stays as it is. -/
  | keep
  /-- The property is to be this slot. -/
  | replace (slot : Slot)
  deriving DecidableEq

namespace Reconciliation

def isAllowed : Reconciliation → Bool
  | .reject => false
  | .keep | .replace _ => true

/-- A descriptor asks for flags that a property which is not configurable
cannot get. -/
def changesFlags (d : Descriptor) (s : Slot) : Bool :=
  d.configurable == some true || d.enumerable.any (· != s.enumerable)

/-- A descriptor asks for another value or for a right to write. -/
def changesValue (d : Descriptor) (value : Value) : Bool :=
  d.writable == some true || d.value.any (· != value)

/-- A descriptor asks for another accessor. -/
def changesAccessors (d : Descriptor) (get set : Value) : Bool :=
  d.set.any (· != set) || d.get.any (· != get)

/-- Applies a descriptor to a property that is not configurable, its flags
being in order already. -/
def ofLocked (d : Descriptor) (s : Slot) : Reconciliation :=
  match d.family?, s.content with
  -- Only flags are asked for, and they are in order.
  | none, _ => .replace (s.update d)
  | some .data, .data value writable =>
      if writable then .replace (s.update d)
      else if changesValue d value then .reject
      else .keep
  | some .accessor, .accessor get set =>
      if changesAccessors d get set then .reject else .keep
  | some _, _ => .reject

/-- Applies a descriptor to a configurable property. -/
def ofOpen (d : Descriptor) (s : Slot) : Slot :=
  match d.family? with
  | some family =>
      if s.family = family then s.update d
      -- A change of family starts from that family's defaults; only the flags carry over.
      else Slot.update d { s with content := .initial family }
  | none => s.update d

end Reconciliation

open Reconciliation in
/-- Applies a descriptor to the property an object holds under a key, if it
holds one; a new property needs an extensible object. -/
def reconcile (extensible : Bool) (d : Descriptor) : Option Slot → Reconciliation
  | none => if extensible then .replace (.ofDescriptor d) else .reject
  | some s =>
      if d.isEmpty then .keep
      else if s.configurable then .replace (ofOpen d s)
      else if changesFlags d s then .reject
      else ofLocked d s

/-- Whether a descriptor could be applied. -/
def isCompatible (extensible : Bool) (d : Descriptor) (current : Option Slot) : Bool :=
  (reconcile extensible d current).isAllowed

end ScriptRealm
