import ScriptRealm.Value.Basic

/-!
# Descriptors and slots

A `Slot` is a property as an object holds it: a content, which is a
stored value or a pair of accessors, and two flags. A `Descriptor` is a
request about a property. Any of its fields may be absent, and the
present ones decide which of the two families of content it is about, if
any.
-/

set_option autoImplicit false

namespace ScriptRealm

/-- The two families of properties. -/
inductive Family where
  | data
  | accessor
  deriving DecidableEq

/-- A partial description of a property. An accessor, when present, is
undefined or something callable. -/
structure Descriptor where
  value : Option Value := none
  writable : Option Bool := none
  get : Option Value := none
  set : Option Value := none
  enumerable : Option Bool := none
  configurable : Option Bool := none
  deriving DecidableEq, Inhabited

namespace Descriptor

/-- Some field belongs to the data family. -/
def hasData (d : Descriptor) : Bool := d.value.isSome || d.writable.isSome

/-- Some field belongs to the accessor family. -/
def hasAccessor (d : Descriptor) : Bool := d.get.isSome || d.set.isSome

/-- The family a descriptor is about. A descriptor with fields of both is
taken for an accessor; one with fields of neither has no family. -/
def family? (d : Descriptor) : Option Family :=
  if d.hasAccessor then some .accessor
  else if d.hasData then some .data
  else none

/-- Every field is absent. -/
def isEmpty (d : Descriptor) : Bool :=
  !d.hasData && !d.hasAccessor && d.enumerable.isNone && d.configurable.isNone

/-- Fields of both families are present. -/
def isMixed (d : Descriptor) : Bool := d.hasData && d.hasAccessor

end Descriptor

/-- What a property holds. -/
inductive Content where
  | data (value : Value) (writable : Bool)
  | accessor (get set : Value)
  deriving DecidableEq, Inhabited

namespace Content

def family : Content → Family
  | .data _ _ => .data
  | .accessor _ _ => .accessor

/-- The content of a new property of the given family, before anything is
said about it. -/
def initial : Family → Content
  | .data => .data .undefined false
  | .accessor => .accessor .undefined .undefined

/-- The content with every field that a descriptor gives replaced. Fields
of the other family are of no account. -/
def update (d : Descriptor) : Content → Content
  | .data value writable => .data (d.value.getD value) (d.writable.getD writable)
  | .accessor get set => .accessor (d.get.getD get) (d.set.getD set)

end Content

/-- A property as an object holds it. -/
structure Slot where
  content : Content
  enumerable : Bool
  configurable : Bool
  deriving DecidableEq, Inhabited

namespace Slot

/-- A data property with every flag set. -/
def plain (value : Value) : Slot := ⟨.data value true, true, true⟩

/-- A data property that enumeration skips: the form of built-in
properties. -/
def hidden (value : Value) : Slot := ⟨.data value true, false, true⟩

def family (s : Slot) : Family := s.content.family

/-- Whether the value may be overwritten. Accessors hold none. -/
def isWritable (s : Slot) : Bool :=
  match s.content with
  | .data _ writable => writable
  | .accessor _ _ => false

/-- The stored value. -/
def value? (s : Slot) : Option Value :=
  match s.content with
  | .data value _ => some value
  | .accessor _ _ => none

/-- The slot with every field that a descriptor gives replaced. -/
def update (d : Descriptor) (s : Slot) : Slot :=
  { content := s.content.update d
    enumerable := d.enumerable.getD s.enumerable
    configurable := d.configurable.getD s.configurable }

/-- The slot a descriptor describes when there was none: a data property
unless it says otherwise, and every absent field undefined or false. -/
def ofDescriptor (d : Descriptor) : Slot :=
  update d ⟨.initial (d.family?.getD .data), false, false⟩

/-- The complete description of a slot. -/
def toDescriptor (s : Slot) : Descriptor :=
  match s.content with
  | .data value writable =>
      { value, writable, enumerable := s.enumerable, configurable := s.configurable }
  | .accessor get set =>
      { get, set, enumerable := s.enumerable, configurable := s.configurable }

end Slot

end ScriptRealm
