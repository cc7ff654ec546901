import ScriptRealm.Realm.Basic

/-!
# Intrinsic objects

The shapes of objects that the library itself makes, and the realm that
holds nothing else. A new realm has six prototypes at fixed places,
followed by the functions on them:

* `Intrinsic.iteratorPrototype`: an iterator is its own iterable;
* `Intrinsic.listIteratorPrototype`: `next` of a list iterator;
* `Intrinsic.arrayPrototype`: arrays are iterable;
* `Intrinsic.generatorPrototype`: `next`, `return` and `throw`.
-/

set_option autoImplicit false

namespace ScriptRealm

namespace Intrinsic

def objectPrototype : Handle := ⟨0⟩

def functionPrototype : Handle := ⟨1⟩

def iteratorPrototype : Handle := ⟨2⟩

def generatorPrototype : Handle := ⟨3⟩

def listIteratorPrototype : Handle := ⟨4⟩

def arrayPrototype : Handle := ⟨5⟩

end Intrinsic

namespace Realm

variable {P : Platform}

/-- Makes an object with a given prototype. -/
def createWith (r : Realm P) (prototype : Option Handle) : Handle × Realm P :=
  r.allocate (.create .ordinary prototype)

/-- Makes an object with the usual prototype. -/
def createObject (r : Realm P) : Handle × Realm P :=
  r.createWith (some Intrinsic.objectPrototype)

/-- Wraps a foreign object. -/
def createForeign (r : Realm P) (host : P.Host) : Handle × Realm P :=
  r.allocate (.create (.foreign host) (some Intrinsic.objectPrototype))

/-- Makes a function. Its length and its name cannot be written, but they
can be redefined. -/
def createFunction (r : Realm P) (f : FunctionData P) : Handle × Realm P :=
  let bare : ObjectRecord P := .create (.function f) (some Intrinsic.functionPrototype)
  r.allocate
    ((bare.insert (.string "length") ⟨.data (.number (.ofNat f.length)) false, false, true⟩).insert
      (.string "name") ⟨.data (.string f.name) false, false, true⟩)

/-- Makes a constructor: a function with a `prototype` object whose
`constructor` leads back to it. -/
def createConstructor (r : Realm P) (f : FunctionData P) : Handle × Realm P :=
  let (constructor, r) := r.createFunction f
  let (prototype, r) := r.createObject
  let r := r.insertSlot prototype (.string "constructor") (.hidden (.object constructor))
  let r := r.insertSlot constructor (.string "prototype")
    ⟨.data (.object prototype) true, false, false⟩
  (constructor, r)

/-- Gives an object a property in the form of built-in ones. -/
def defineBuiltin (r : Realm P) (h : Handle) (key : PropertyKey) (value : Value) : Realm P :=
  r.insertSlot h key (.hidden value)

/-- Makes a function and gives it to an object as a method. -/
def defineMethod (r : Realm P) (h : Handle) (key : PropertyKey) (f : FunctionData P) :
    Handle × Realm P :=
  let (method, r) := r.createFunction f
  (method, r.defineBuiltin h key (.object method))

/-- The properties of an array: an element under each index and their
number under `length`. Places are counted without a bound, where an index has
32 bits. For lists of fewer than `2 ^ 32` values that is the same, and
statements about longer ones say nothing about arrays that there can be. -/
def arraySlots (values : List Value) : OrderedMap PropertyKey Slot where
  entries := values.zipIdx.map (fun (value, i) => (.index i, .plain value)) ++
    [(.string "length", ⟨.data (.number (.ofNat values.length)) true, false, false⟩)]
  nodup := by
    have h : (values.zipIdx.map (fun (value, i) =>
        ((.index i, .plain value) : PropertyKey × Slot))).map Prod.fst =
          (List.range' 0 values.length).map PropertyKey.index := by
      rw [← List.zipIdx_map_snd 0 values, List.map_map, List.map_map]
      rfl
    rw [List.map_append, h]
    refine List.nodup_append.mpr ⟨?_, by simp, by simp⟩
    exact List.Pairwise.map PropertyKey.index (fun a b hab => by simpa using hab)
      List.nodup_range'

/-- Makes an array. -/
def createArray (r : Realm P) (values : List Value) : Handle × Realm P :=
  r.allocate { (ObjectRecord.create .ordinary (some Intrinsic.arrayPrototype) : ObjectRecord P) with
    slots := arraySlots values }

/-- Makes the object that an iterator answers with. -/
def createIterResult (r : Realm P) (value : Value) (done : Bool) : Handle × Realm P :=
  let bare : ObjectRecord P := .create .ordinary (some Intrinsic.objectPrototype)
  r.allocate ((bare.insert (.string "value") (.plain value)).insert (.string "done")
    (.plain (.boolean done)))

/-- Makes an error object. -/
def createError (r : Realm P) (name message : String) : Handle × Realm P :=
  let bare : ObjectRecord P := .create .error (some Intrinsic.objectPrototype)
  r.allocate ((bare.insert (.string "name") (.hidden (.string name))).insert (.string "message")
    (.hidden (.string message)))

/-- Makes an iterator over something array-like. -/
def createListIterator (r : Realm P) (target : Handle) : Handle × Realm P :=
  r.allocate (.create (.listIterator ⟨target, 0, false⟩) (some Intrinsic.listIteratorPrototype))

/-- Makes a generator that has not been entered. -/
def createGenerator (r : Realm P) (body : P.Body) (frame : Frame) : Handle × Realm P :=
  r.allocate (.create (.generator (.create body frame)) (some Intrinsic.generatorPrototype))

/-- The prototypes of a new realm, without the functions on them. -/
def prototypes (config : Config) : Realm P where
  objects := #[.create .ordinary none,
    .create .ordinary (some Intrinsic.objectPrototype),
    .create .ordinary (some Intrinsic.objectPrototype),
    .create .ordinary (some Intrinsic.iteratorPrototype),
    .create .ordinary (some Intrinsic.iteratorPrototype),
    .create .ordinary (some Intrinsic.objectPrototype)]
  config
  nextSymbol := Symbol.firstFree

/-- An intrinsic function of the given name and length. -/
def intrinsic (f : IntrinsicFunction) (name : String) (length : Nat) : FunctionData P :=
  { name, length, code := .intrinsic f, isConstructor := false }

/-- A new realm. -/
def initial (config : Config) : Realm P :=
  let r := prototypes config
  let method (r : Realm P) (h : Handle) (key : PropertyKey) (f : FunctionData P) : Realm P :=
    (r.defineMethod h key f).2
  let r := method r Intrinsic.iteratorPrototype (.symbol .iterator)
    (intrinsic .iteratorSelf "[Symbol.iterator]" 0)
  let r := method r Intrinsic.listIteratorPrototype (.string "next")
    (intrinsic .listIteratorNext "next" 0)
  let r := r.defineBuiltin Intrinsic.listIteratorPrototype (.symbol .toStringTag)
    (.string "Array Iterator")
  let r := method r Intrinsic.arrayPrototype (.symbol .iterator)
    (intrinsic .arrayValues "values" 0)
  let r := method r Intrinsic.generatorPrototype (.string "next")
    (intrinsic .generatorNext "next" 1)
  let r := method r Intrinsic.generatorPrototype (.string "return")
    (intrinsic .generatorReturn "return" 1)
  let r := method r Intrinsic.generatorPrototype (.string "throw")
    (intrinsic .generatorThrow "throw" 1)
  r.defineBuiltin Intrinsic.generatorPrototype (.symbol .toStringTag) (.string "Generator")

/-- What two new realms have in common: what their prototypes have, as far
as it survives that both are given the same method or the same tag. Methods
go under names that are no indices. -/
theorem initial_induction {P Q : Platform} {M : Realm P → Realm Q → Prop} (config config' : Config)
    (hprototypes : M (prototypes config) (prototypes config'))
    (hmethod : ∀ (r : Realm P) (s : Realm Q) (h : Handle) (key : PropertyKey)
      (f : IntrinsicFunction) (name : String) (length : Nat),
      (key = .symbol .iterator ∨ ∃ text, key = .string text ∧ PropertyKey.index? text = none) →
      M r s → M (r.defineMethod h key (intrinsic f name length)).2
        (s.defineMethod h key (intrinsic f name length)).2)
    (htag : ∀ (r : Realm P) (s : Realm Q) (h : Handle) (text : String), M r s →
      M (r.defineBuiltin h (.symbol .toStringTag) (.string text))
        (s.defineBuiltin h (.symbol .toStringTag) (.string text))) :
    M (initial config) (initial config') := by
  have hiterator := hmethod _ _ Intrinsic.iteratorPrototype (.symbol .iterator) .iteratorSelf
    "[Symbol.iterator]" 0 (.inl rfl) hprototypes
  have hlist := hmethod _ _ Intrinsic.listIteratorPrototype (.string "next") .listIteratorNext
    "next" 0 (.inr ⟨_, rfl, rfl⟩) hiterator
  have harray := hmethod _ _ Intrinsic.arrayPrototype (.symbol .iterator) .arrayValues "values" 0
    (.inl rfl) (htag _ _ Intrinsic.listIteratorPrototype "Array Iterator" hlist)
  have hnext := hmethod _ _ Intrinsic.generatorPrototype (.string "next") .generatorNext "next" 1
    (.inr ⟨_, rfl, rfl⟩) harray
  have hreturn := hmethod _ _ Intrinsic.generatorPrototype (.string "return") .generatorReturn
    "return" 1 (.inr ⟨_, rfl, rfl⟩) hnext
  have hthrow := hmethod _ _ Intrinsic.generatorPrototype (.string "throw") .generatorThrow
    "throw" 1 (.inr ⟨_, rfl, rfl⟩) hreturn
  exact htag _ _ Intrinsic.generatorPrototype "Generator" hthrow

end Realm

end ScriptRealm
