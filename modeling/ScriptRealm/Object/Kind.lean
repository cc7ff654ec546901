import ScriptRealm.Embedder.Platform

/-!
# Kinds of objects

Every object has properties; what it can do beyond that is its kind. A
kind carries the state that goes with it: a function its code, a
generator its suspended frame, a list iterator its cursor, a foreign
object the embedder's storage.
-/

set_option autoImplicit false

namespace ScriptRealm

/-- The functions every realm has from the start. -/
inductive IntrinsicFunction where
  /-- Answers its receiver. -/
  | iteratorSelf
  | listIteratorNext
  | arrayValues
  | generatorNext
  | generatorReturn
  | generatorThrow
  deriving DecidableEq

/-- What a function runs. -/
inductive FunctionCode (P : Platform) where
  | intrinsic (f : IntrinsicFunction)
  | native (code : P.Code)

/-- A function: its name and declared length, its code, and whether it
can construct. -/
structure FunctionData (P : Platform) where
  name : String
  length : Nat
  code : FunctionCode P
  isConstructor : Bool

/-- An iterator together with its `next`, which is read once. The flag is
set when the iterator has finished or failed. -/
structure IteratorRecord where
  iterator : Handle
  next : Value
  done : Bool
  deriving DecidableEq, Inhabited

/-- A position in something array-like. Its length and elements are read
anew at each step. -/
structure ListCursor where
  target : Handle
  next : Nat
  done : Bool
  deriving DecidableEq, Inhabited

/-- The life of a generator. -/
inductive GeneratorState where
  | suspendedStart
  | suspendedYield
  | executing
  | completed
  deriving DecidableEq, Inhabited

/-- Where a generator's body stands: a resume point that only the body
understands, and its saved locals. -/
structure Frame where
  resumePoint : Nat := 0
  locals : List Value := []
  deriving DecidableEq, Inhabited

/-- How a generator is resumed. -/
inductive Completion where
  | next (value : Value)
  | returning (value : Value)
  | throwing (value : Value)
  deriving DecidableEq

/-- What a body did before it paused or finished. -/
inductive Step where
  | yielded (value : Value)
  | delegated (iterable : Value)
  | returned (value : Value)
  | threw (value : Value) (location : Option Location)
  deriving DecidableEq

/-- A generator. The body and the frame are taken out while the body
runs; the delegate is the iterator that stands in for the body. -/
structure Generator (P : Platform) where
  state : GeneratorState
  frame : Frame
  body : Option P.Body
  delegate : Option IteratorRecord
  /-- Where the fault that completed the generator came from. -/
  lastLocation : Option Location

namespace Generator

/-- A generator that has not been entered. -/
def create {P : Platform} (body : P.Body) (frame : Frame) : Generator P :=
  { state := .suspendedStart
    frame
    body := some body
    delegate := none
    lastLocation := none }

/-- The end of a generator's life. -/
def complete {P : Platform} (g : Generator P) : Generator P :=
  { g with state := .completed, delegate := none, body := none }

end Generator

/-- The kind of an object. -/
inductive Kind (P : Platform) where
  | ordinary
  | function (f : FunctionData P)
  | generator (g : Generator P)
  | listIterator (c : ListCursor)
  | error
  | foreign (host : P.Host)

namespace Kind

variable {P : Platform}

def isCallable : Kind P → Bool
  | .function _ => true
  | .foreign host => P.hosts.isCallable host
  | _ => false

/-- The function data of a kind that can construct. -/
def constructor? : Kind P → Option (FunctionData P)
  | .function f => if f.isConstructor then some f else none
  | _ => none

def host? : Kind P → Option P.Host
  | .foreign host => some host
  | _ => none

def generator? : Kind P → Option (Generator P)
  | .generator g => some g
  | _ => none

end Kind

end ScriptRealm
