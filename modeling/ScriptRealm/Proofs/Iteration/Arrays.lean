import ScriptRealm.Proofs.Assignment
import ScriptRealm.Proofs.Fatality
import ScriptRealm.Proofs.Grouping.Object
import ScriptRealm.Proofs.Number.Whole

/-!
# `ScriptRealm.Proofs.Iteration.Arrays`: reading arrays

An array that is as it was made can be read in two ways: as something
array-like, by its length and its indices, and by the iterator that the
prototype of arrays provides. Neither runs any code of an embedder, whatever
the hooks are.

The second way goes through functions of the realm, so these must be there.
`Realm.Untouched` says that the intrinsic objects are those of a new realm.
What is needed of it is that arrays have their method under the iterator
symbol and list iterators their `next` (`Realm.Provides`), and that list
iterators have no `return` (`Realm.Untouched.owner?_return`).

`Iteration.iterator_array` opens an array. A step of an iterator is an answer
of its `next`, which is a new result object (`Iteration.Answers`). For an array
it is `Iteration.answers_array`: the cursor moves, and all other objects stay
as they are (`Realm.record_stepped_of_lt`).
-/

set_option autoImplicit false

namespace ScriptRealm

variable {P : Platform}

/-! ### Looking up methods -/

namespace Realm

variable {r : Realm P} {o p f : Handle} {key : PropertyKey} {i : IntrinsicFunction}

/-- An object has a function of a new realm as a method. -/
structure Provides (r : Realm P) (h : Handle) (key : PropertyKey) (f : Handle)
    (i : IntrinsicFunction) : Prop where
  native : (r.record h).kind.host? = none
  slot : ∃ slot writable, (r.record h).slot? key = some slot ∧
    slot.content = .data (.object f) writable
  runs : r.RunsIntrinsic f i

/-- What provides something is in the arena, since an object outside of it has
no slots. -/
theorem Provides.lt_size (hprovides : r.Provides p key f i) : p.index < r.size := by
  apply lt_size_of_record_ne
  intro hdefault
  obtain ⟨slot, writable, hslot, -⟩ := hprovides.slot
  rw [hdefault] at hslot
  cases hslot

/-- Whether a method is provided depends on two objects only, the one that has
it and the function that it is. -/
theorem Provides.congr {s : Realm P} (hprovides : r.Provides p key f i)
    (hp : s.record p = r.record p) (hf : s.record f = r.record f) : s.Provides p key f i where
  native := hp ▸ hprovides.native
  slot := hp ▸ hprovides.slot
  runs := by
    rw [RunsIntrinsic, hf]
    exact hprovides.runs

/-- A method that the prototype provides is found, unless the object has a
property of its own under the key. Nothing is run, because the method is a
value. -/
theorem Provides.get_eq (hprovides : r.Provides p key f i) (hooks : Hooks P) (memory : P.Memory)
    (hprototype : (r.record o).prototype = some p) (hlacks : r.hasOwn o key = false) :
    Object.get hooks o key ⟨r, memory⟩ = .done (.object f) ⟨r, memory⟩ := by
  obtain ⟨slot, writable, hslot, hcontent⟩ := hprovides.slot
  -- The prototype has the method, and it is the second object that is asked.
  have hown : r.hasOwn p key = true := by
    rw [hasOwn_of_native hprovides.native, hslot]
    rfl
  exact Object.get_of_owner hooks (m := ⟨r, memory⟩)
    (owner?_of_inherits hprototype hlacks hown) hprovides.native hslot hcontent

end Realm

namespace Object

variable {m : Machine P} {o f : Handle} {key : PropertyKey}

/-- A property that reads as `undefined` is no method. -/
theorem getMethod?_of_undefined (hooks : Hooks P)
    (hget : get hooks o key m = .done .undefined m) :
    getMethod? hooks (.object o) key m = .done none m := by
  rw [getMethod?, Action.bind_apply, hget]
  rfl

/-- A property that reads as something callable is a method. Whether it is
callable is asked of the realm after the reading, and here that is the realm
as it was. -/
theorem getMethod?_of_callable (hooks : Hooks P)
    (hget : get hooks o key m = .done (.object f) m)
    (hcallable : m.realm.isCallable (.object f) = true) :
    getMethod? hooks (.object o) key m = .done (some (.object f)) m := by
  rw [getMethod?, Action.bind_apply, hget]
  show (if m.realm.isCallable (.object f) then pure (some (.object f))
    else Action.fail (.type (.methodNotCallable key)) : Action P (Option Value)) m = _
  rw [if_pos hcallable]
  rfl

end Object

/-! ### The intrinsics of a realm -/

/-- The record of a function as it is made. -/
def ObjectRecord.function (f : FunctionData P) : ObjectRecord P :=
  ((create (.function f) (some Intrinsic.functionPrototype)).insert (.string "length")
    ⟨.data (.number (.ofNat f.length)) false, false, true⟩).insert (.string "name")
    ⟨.data (.string f.name) false, false, true⟩

namespace Realm

/-- The objects of a new realm in their places: the prototypes with their
methods, and then the functions that the methods are. -/
def intrinsics (P : Platform) : Array (ObjectRecord P) :=
  let prototype (parent : Handle) : ObjectRecord P := .create .ordinary (some parent)
  #[.create .ordinary none,
    prototype Intrinsic.objectPrototype,
    (prototype Intrinsic.objectPrototype).insert (.symbol .iterator) (.hidden (.object ⟨6⟩)),
    ((((prototype Intrinsic.iteratorPrototype).insert
      (.string "next") (.hidden (.object ⟨9⟩))).insert
      (.string "return") (.hidden (.object ⟨10⟩))).insert
      (.string "throw") (.hidden (.object ⟨11⟩))).insert
      (.symbol .toStringTag) (.hidden (.string "Generator")),
    ((prototype Intrinsic.iteratorPrototype).insert
      (.string "next") (.hidden (.object ⟨7⟩))).insert
      (.symbol .toStringTag) (.hidden (.string "Array Iterator")),
    (prototype Intrinsic.objectPrototype).insert (.symbol .iterator) (.hidden (.object ⟨8⟩)),
    .function (intrinsic .iteratorSelf "[Symbol.iterator]" 0),
    .function (intrinsic .listIteratorNext "next" 0),
    .function (intrinsic .arrayValues "values" 0),
    .function (intrinsic .generatorNext "next" 1),
    .function (intrinsic .generatorReturn "return" 1),
    .function (intrinsic .generatorThrow "throw" 1)]

/-- Defining a hidden property changes one object of the array. -/
theorem objects_defineBuiltin (r : Realm P) (h : Handle) (key : PropertyKey) (value : Value) :
    (r.defineBuiltin h key value).objects
      = r.objects.modify h.index (·.insert key (.hidden value)) :=
  rfl

/-- Defining a method adds the function at the end of the array, and then
changes one object of it. This and the lemma before compute the objects of a
new realm. -/
theorem objects_defineMethod (r : Realm P) (h : Handle) (key : PropertyKey) (f : FunctionData P) :
    (r.defineMethod h key f).2.objects
      = (r.objects.push (.function f)).modify h.index
          (·.insert key (.hidden (.object ⟨r.objects.size⟩))) :=
  rfl

/-- What a new realm is made of, after all its methods have been defined. The
functions are numbered in the order in which they were made. -/
theorem objects_initial (config : Config) : (initial config : Realm P).objects = intrinsics P := by
  simp only [initial, objects_defineBuiltin, objects_defineMethod, prototypes, intrinsics,
    Array.size_modify, Array.size_push, List.push_toArray, List.size_toArray, List.length_cons,
    List.length_nil, Intrinsic.iteratorPrototype, Intrinsic.listIteratorPrototype,
    Intrinsic.arrayPrototype, Intrinsic.generatorPrototype]
  simp

/-- Six prototypes and six functions. -/
theorem size_initial (config : Config) : (initial config : Realm P).size = 12 := by
  rw [size, objects_initial]
  rfl

/-- The objects of a new realm are read off the list of them. -/
theorem record_initial (config : Config) (h : Handle) :
    (initial config : Realm P).record h = (intrinsics P).getD h.index default := by
  rw [record, objects_initial]

/-- The intrinsic objects are those of a new realm. -/
def Untouched (r : Realm P) : Prop :=
  ∀ h, h.index < (initial {} : Realm P).size → r.record h = (initial {} : Realm P).record h

/-- A new realm is untouched. Its objects do not depend on its
configuration. -/
theorem untouched_initial (config : Config) : (initial config : Realm P).Untouched :=
  fun _ _ => rfl

namespace Untouched

variable {r s : Realm P} {iterator : Handle}

/-- Only the intrinsic objects matter for whether a realm is untouched. -/
theorem congr (hr : r.Untouched)
    (hsame : ∀ h, h.index < (initial {} : Realm P).size → s.record h = r.record h) : s.Untouched :=
  fun h hlt => (hsame h hlt).trans (hr h hlt)

/-- A realm with the intrinsic objects has at least as many objects as a new
one. The last of them is a function, and past the arena there are none. -/
theorem size_le (hr : r.Untouched) : (initial {} : Realm P).size ≤ r.size := by
  have hlast : (⟨11⟩ : Handle).index < r.size := by
    apply lt_size_of_record_ne
    intro hdefault
    -- The last intrinsic is a function. A bare object, which is read past the end, is none.
    have hthrow := record_initial (P := P) {} ⟨11⟩
    rw [← hr ⟨11⟩ (by rw [size_initial]; decide), hdefault] at hthrow
    cases congrArg ObjectRecord.kind hthrow
  rw [size_initial]
  exact hlast

/-- A new object is not an intrinsic. It comes after all objects there are,
and the intrinsic ones are among those. -/
theorem allocate (hr : r.Untouched) (record : ObjectRecord P) :
    (r.allocate record).2.Untouched := by
  apply hr.congr
  intro h hlt
  have hsize := hr.size_le
  rw [record_allocate, if_neg (by omega)]

/-- A new array leaves the objects of a new realm untouched, as every new
object does. -/
theorem createArray (hr : r.Untouched) (values : List Value) :
    (r.createArray values).2.Untouched :=
  hr.allocate _

/-- A method that is on the list of intrinsics is provided. The three facts
that are asked for are about the list, so that they hold by computation for
each method. -/
theorem provides {p f : Handle} {key : PropertyKey} {i : IntrinsicFunction} {name : String}
    {length : Nat} (hr : r.Untouched)
    (hordinary : ((intrinsics P).getD p.index default).kind = .ordinary)
    (hslot : ((intrinsics P).getD p.index default).slot? key = some (.hidden (.object f)))
    (hfunction : ((intrinsics P).getD f.index default).kind = .function (intrinsic i name length)) :
    r.Provides p key f i := by
  have hinitial : (initial {} : Realm P).Provides p key f i := by
    refine ⟨?native, ⟨.hidden (.object f), true, ?slot, rfl⟩,
      ⟨intrinsic i name length, ?runs, rfl⟩⟩
    case native => rw [record_initial, hordinary]; rfl
    case slot => rw [record_initial, hslot]
    case runs => rw [record_initial, hfunction]
  -- What holds in a new realm holds here, as both objects are those of a new realm.
  exact hinitial.congr (hr p hinitial.lt_size) (hr f hinitial.runs.lt_size)

/-- Arrays can be iterated. -/
theorem provides_values (hr : r.Untouched) :
    r.Provides Intrinsic.arrayPrototype (.symbol .iterator) ⟨8⟩ .arrayValues :=
  hr.provides rfl rfl rfl

/-- List iterators can be asked for their next element. -/
theorem provides_next (hr : r.Untouched) :
    r.Provides Intrinsic.listIteratorPrototype (.string "next") ⟨7⟩ .listIteratorNext :=
  hr.provides rfl rfl rfl

/-- List iterators need no closing: neither they nor the objects on their way
have a `return`. Generators have one, but on a prototype that list iterators
do not inherit from. -/
theorem owner?_return (hr : r.Untouched) (hnative : (r.record iterator).kind.host? = none)
    (hslot : (r.record iterator).slot? (.string "return") = none)
    (hprototype : (r.record iterator).prototype = some Intrinsic.listIteratorPrototype) :
    r.owner? iterator (.string "return") = none := by
  have hlist := hr Intrinsic.listIteratorPrototype (by rw [size_initial]; decide)
  have hgeneral := hr Intrinsic.iteratorPrototype (by rw [size_initial]; decide)
  have hobject := hr Intrinsic.objectPrototype (by rw [size_initial]; decide)
  rw [record_initial] at hlist hgeneral hobject
  -- The way goes through three intrinsic objects.
  have hwalk : r.Walk iterator [iterator, Intrinsic.listIteratorPrototype,
      Intrinsic.iteratorPrototype, Intrinsic.objectPrototype] := by
    apply Walk.step hprototype
    apply Walk.step (p := Intrinsic.iteratorPrototype)
    · rw [hlist]; rfl
    apply Walk.step (p := Intrinsic.objectPrototype)
    · rw [hgeneral]; rfl
    apply Walk.last
    rw [hobject]; rfl
  have hlacks : ∀ h, (r.record h).kind.host? = none →
      (r.record h).slot? (.string "return") = none → r.hasOwn h (.string "return") = false := by
    intro h hnative hslot
    rw [hasOwn_of_native hnative, hslot]
    rfl
  apply hwalk.owner?_eq_none
  intro h hmem
  simp only [List.mem_cons, List.not_mem_nil, or_false] at hmem
  obtain rfl | rfl | rfl | rfl := hmem
  · exact hlacks _ hnative hslot
  · exact hlacks _ (by rw [hlist]; rfl) (by rw [hlist]; rfl)
  · exact hlacks _ (by rw [hgeneral]; rfl) (by rw [hgeneral]; rfl)
  · exact hlacks _ (by rw [hobject]; rfl) (by rw [hobject]; rfl)

end Untouched

end Realm

/-! ### Arrays as they were made -/

/-- The record of an array that is as it was made. -/
def ObjectRecord.array (values : List Value) : ObjectRecord P :=
  { (create .ordinary (some Intrinsic.arrayPrototype) : ObjectRecord P) with
    slots := Realm.arraySlots values }

namespace Realm

variable {r : Realm P} {array : Handle} {values : List Value}

/-- An array that was just made is as it was made. -/
theorem record_createArray_self (r : Realm P) (values : List Value) :
    (r.createArray values).2.record ⟨r.size⟩ = .array values := by
  rw [record_createArray, if_pos rfl]
  rfl

/-- An array has no method of its own. Its keys are the indices and `length`,
so there is nothing under a symbol. -/
theorem get?_arraySlots_symbol (values : List Value) (symbol : Symbol) :
    (arraySlots values).get? (.symbol symbol) = none := by
  apply OrderedMap.get?_eq_none_of_not_contains
  rw [OrderedMap.contains_iff]
  simp [OrderedMap.keys, arraySlots]

/-- An array is in the arena. It has a prototype, which an object outside of
the arena does not have. -/
theorem lt_size_of_array (harray : r.record array = .array values) : array.index < r.size := by
  apply lt_size_of_record_ne
  intro hdefault
  have hprototype := congrArg ObjectRecord.prototype (harray.symm.trans hdefault)
  cases hprototype

/-- An array that is as it was made holds the values it was made with. -/
theorem holdsArray_of_array (harray : r.record array = .array values) :
    r.HoldsArray array values :=
  holdsArray_of_record (harray.trans (record_createArray_self r values).symm)

end Realm

section Reading

variable {m : Machine P} {array : Handle} {values : List Value}

/-- The length of an array is that of the list it was made from. The array has
to be short enough for its length to be an exact number. -/
theorem ArrayLike.length_array (hooks : Hooks P)
    (harray : m.realm.record array = .array values) (hshort : values.length < Nat.pow 2 32) :
    ArrayLike.length hooks array m = .done values.length m := by
  have hholds := Realm.holdsArray_of_array harray
  have hget : Object.get hooks array (.string "length") m
      = .done (.number (.ofNat values.length)) m :=
    Object.get_of_data hooks (by rw [hholds.kind]; rfl)
      hholds.length rfl
  -- Fewer than `2 ^ 32` elements are counted by an exact number.
  have hlength : (Number.ofNat values.length).toLength = values.length :=
    Number.toLength_ofNat (Nat.lt_trans hshort (by decide))
  rw [ArrayLike.length, Action.bind_apply, hget]
  show Outcome.done (Number.ofNat values.length).toLength m = _
  rw [hlength]

/-- An element of an array is read as it was stored. Positions within a short
array are indices, so the key is the one that the element is under. -/
theorem Object.get_array (hooks : Hooks P) (harray : m.realm.record array = .array values)
    (hshort : values.length < Nat.pow 2 32) {i : Nat} {value : Value}
    (hvalue : values[i]? = some value) :
    Object.get hooks array (.ofPosition i) m = .done value m := by
  have hholds := Realm.holdsArray_of_array harray
  have hlt : i < values.length := (List.getElem?_eq_some_iff.mp hvalue).1
  -- A position is an index up to a bound, which short arrays do not reach.
  have hindex : i ≤ PropertyKey.maxIndex := by
    rw [Nat.pow_eq] at hshort
    rw [PropertyKey.maxIndex, Nat.pow_eq]
    omega
  have hslot : (m.realm.record array).slot? (.index i) = some (.plain value) := by
    rw [hholds.element, hvalue]
    rfl
  rw [PropertyKey.ofPosition, if_pos hindex]
  exact Object.get_of_data hooks (by rw [hholds.kind]; rfl)
    hslot rfl

/-- What reading a list of values comes to: the values, unless one of them is
not admitted. -/
def ArrayLike.readingOf (admits : Value → Bool) (values : List Value) (m : Machine P) :
    Outcome P (List Value) :=
  match values.find? (!admits ·) with
  | none => .done values m
  | some value => .failed (.type (.listElement (m.realm.typeName value))) m

/-- By induction on the elements that remain, each of which is read without
running code. The first that is not admitted is what the reading fails
with. -/
theorem ArrayLike.elementsFrom_array (hooks : Hooks P)
    (harray : m.realm.record array = .array values) (hshort : values.length < Nat.pow 2 32)
    (admits : Value → Bool) {remaining position : Nat}
    (hrange : position + remaining = values.length) :
    ArrayLike.elementsFrom hooks array admits remaining position m
      = ArrayLike.readingOf admits (values.drop position) m := by
  induction remaining generalizing position with
  | zero =>
      rw [List.drop_of_length_le (by omega)]
      rfl
  | succ remaining ih =>
      have hlt : position < values.length := by omega
      have hget := Object.get_array hooks harray hshort (List.getElem?_eq_getElem hlt)
      have hrange' : position + 1 + remaining = values.length := by omega
      have hrest := ih hrange'
      rw [ArrayLike.elementsFrom, Action.bind_apply, hget, List.drop_eq_getElem_cons hlt]
      -- What was read is one value, and what is left is a shorter list.
      generalize values[position] = element
      generalize values.drop (position + 1) = rest at hrest
      cases hadmits : admits element with
      | true =>
          simp only [hadmits, if_true]
          rw [Action.bind_apply, hrest, ArrayLike.readingOf, ArrayLike.readingOf,
            List.find?_cons_of_neg (by simp [hadmits])]
          cases rest.find? (!admits ·) <;> rfl
      | false =>
          -- The reading stops here, and this is the first element that is not admitted.
          simp only [hadmits, Bool.false_eq_true, if_false]
          rw [ArrayLike.readingOf, List.find?_cons_of_pos (by simp [hadmits])]
          rfl

/-- An array is read as a list if it is not longer than the realm's bound. The
bound is checked first, before any element is looked at. -/
theorem ArrayLike.toList_array (hooks : Hooks P) (harray : m.realm.record array = .array values)
    (hshort : values.length < Nat.pow 2 32) (admits : Value → Bool) :
    ArrayLike.toList hooks (.object array) admits m
      = if m.realm.config.maxIterations < values.length
        then .failed (.range (.arrayLength values.length)) m
        else ArrayLike.readingOf admits values m := by
  rw [ArrayLike.toList, Action.bind_apply, ArrayLike.length_array hooks harray hshort]
  show (if m.realm.config.maxIterations < values.length
    then Action.fail (.range (.arrayLength values.length))
    else ArrayLike.elementsFrom hooks array admits values.length 0 : Action P (List Value)) m = _
  by_cases hover : m.realm.config.maxIterations < values.length
  · rw [if_pos hover, if_pos hover]
    rfl
  · rw [if_neg hover, if_neg hover,
      ArrayLike.elementsFrom_array hooks harray hshort admits (Nat.zero_add _), List.drop_zero]

end Reading

/-! ### Stepping through an array -/

namespace Realm

variable {r : Realm P} {iterator h : Handle} {c : ListCursor} {value : Value} {done : Bool}

/-- The realm after a step of a list iterator: the cursor has moved, and a
result was made. -/
def stepped (r : Realm P) (iterator : Handle) (c : ListCursor) (value : Value) (done : Bool) :
    Realm P :=
  ((r.setKind iterator (.listIterator c)).createIterResult value done).2

/-- A step adds one object, the result. -/
theorem size_stepped (r : Realm P) (iterator : Handle) (c : ListCursor) (value : Value)
    (done : Bool) : (r.stepped iterator c value done).size = r.size + 1 := by
  rw [stepped, createIterResult, size_allocate, setKind, size_update]

/-- A step leaves every object alone but the iterator. -/
theorem record_stepped_of_lt (hlt : h.index < r.size) (hne : h ≠ iterator) :
    (r.stepped iterator c value done).record h = r.record h := by
  rw [stepped, createIterResult, record_allocate, setKind, size_update, if_neg (Nat.ne_of_lt hlt),
    record_update_of_ne hne]

/-- Of the iterator, a step changes the cursor. -/
theorem record_stepped_self (hlt : iterator.index < r.size) :
    (r.stepped iterator c value done).record iterator
      = { r.record iterator with kind := .listIterator c } := by
  rw [stepped, createIterResult, record_allocate, setKind, size_update, if_neg (Nat.ne_of_lt hlt),
    record_update_self hlt]

end Realm

namespace ListIterator

variable {m : Machine P} {iterator array : Handle} {values : List Value} {i : Nat}
  {c : ListCursor}

/-- Moving the cursor of a list iterator, as an equation. The program finds
out what the object is before it writes, and here that is known. -/
theorem moveCursor_apply (hcursor : (m.realm.record iterator).kind = .listIterator c)
    (finished : Bool) :
    moveCursor iterator finished m = .done ()
      ⟨m.realm.setKind iterator (.listIterator (advance finished c)), m.memory⟩ := by
  show Outcome.done () (Machine.mk _ m.memory) = _
  congr 2
  apply Realm.update_congr
  simp only [hcursor]

/-- A step over an array gives the element at the cursor, if there is one. The
cursor moves before the element is read, and this does not touch the array. -/
theorem next_array (hooks : Hooks P)
    (hcursor : (m.realm.record iterator).kind = .listIterator ⟨array, i, false⟩)
    (harray : m.realm.record array = .array values) (hshort : values.length < Nat.pow 2 32) :
    next hooks (.object iterator) m
      = .done ⟨values[i]?.getD .undefined, values[i]?.isNone⟩
          ⟨m.realm.setKind iterator (.listIterator (advance values[i]?.isNone ⟨array, i, false⟩)),
            m.memory⟩ := by
  -- The array is no list iterator, so moving the cursor leaves it as it is.
  have hne : array ≠ iterator := by
    rintro rfl
    rw [harray] at hcursor
    cases hcursor
  have hlength : ArrayLike.length hooks array m = .done values.length m :=
    ArrayLike.length_array hooks harray hshort
  have hmove := fun finished => moveCursor_apply (m := m) hcursor finished
  rw [next, Action.bind_apply, Action.record]
  simp only [hcursor]
  rw [if_neg (by simp), Action.bind_apply, hlength]
  -- Past the last element the iterator is finished, and otherwise it reads one.
  cases hvalue : values[i]? with
  | none =>
      have hend : values.length ≤ i := List.getElem?_eq_none_iff.mp hvalue
      simp only [hend, decide_true]
      rw [Action.bind_apply, hmove]
      rfl
  | some value =>
      have hlt : ¬ values.length ≤ i := Nat.not_le.mpr (List.getElem?_eq_some_iff.mp hvalue).1
      have hget := Object.get_array (m := ⟨m.realm.setKind iterator
        (.listIterator (advance false ⟨array, i, false⟩)), m.memory⟩) hooks
        ((Realm.record_update_of_ne hne _).trans harray) hshort hvalue
      simp only [hlt, decide_false]
      rw [Action.bind_apply, hmove]
      show ((Object.get hooks array (.ofPosition i) >>= fun value => pure ⟨value, false⟩ :
        Action P IterResult) _) = _
      rw [Action.bind_apply, hget]
      rfl

end ListIterator

/-! ### Answers -/

namespace Machine

variable {m : Machine P} {result : IterResult}

/-- The machine with a new object that shows a result. -/
def showing (m : Machine P) (result : IterResult) : Machine P :=
  { m with realm := (m.realm.createIterResult result.value result.done).2 }

/-- The new object has the value and the flag, both as plain properties, so
reading them runs nothing. -/
theorem get_showing (m : Machine P) (result : IterResult) (hooks : Hooks P) :
    Object.get hooks ⟨m.realm.size⟩ (.string "value") (m.showing result)
        = .done result.value (m.showing result) ∧
      Object.get hooks ⟨m.realm.size⟩ (.string "done") (m.showing result)
        = .done (.boolean result.done) (m.showing result) := by
  -- The object is the last one of the arena, with two properties.
  have hrecord : (m.showing result).realm.record ⟨m.realm.size⟩
      = ((ObjectRecord.create .ordinary (some Intrinsic.objectPrototype)).insert (.string "value")
          (.plain result.value)).insert (.string "done") (.plain (.boolean result.done)) := by
    rw [showing, Realm.createIterResult, Realm.record_allocate, if_pos rfl]
  have hvalue : ((m.showing result).realm.record ⟨m.realm.size⟩).slot? (.string "value")
      = some (.plain result.value) := by
    rw [hrecord]
    rfl
  have hdone : ((m.showing result).realm.record ⟨m.realm.size⟩).slot? (.string "done")
      = some (.plain (.boolean result.done)) := by
    rw [hrecord]
    rfl
  have hnative : ((m.showing result).realm.record ⟨m.realm.size⟩).kind.host? = none := by
    rw [hrecord]
    rfl
  exact ⟨Object.get_of_data hooks hnative hvalue rfl,
    Object.get_of_data hooks hnative hdone rfl⟩

end Machine

namespace Iteration

section

variable {hooks : Hooks P} {record : IteratorRecord} {result : IterResult} {m m' : Machine P}

/-- An iterator that is asked for its next result answers with a new object.
All else that it does leads from `m` to `m'`. -/
def Answers (hooks : Hooks P) (record : IteratorRecord) (args : List Value) (result : IterResult)
    (m m' : Machine P) : Prop :=
  hooks.call record.next (.object record.iterator) args m
    = .done (.object ⟨m'.realm.size⟩) (m'.showing result)

/-- What an iterator's answer is worth to the one who asked: its value, or
nothing if it was the last. The answer is a new object whose properties are
read back. -/
theorem nextValue_of_answers (hanswers : Answers hooks record [] result m m') :
    nextValue hooks record m
      = .done (if result.done then none else some result.value) (m'.showing result) := by
  have hnext : next hooks record none m = .done ⟨m'.realm.size⟩ (m'.showing result) := by
    rw [next, Action.bind_apply, Option.toList_none, hanswers]
    rfl
  obtain ⟨hvalue, hdone⟩ := m'.get_showing result hooks
  rw [nextValue, Action.bind_apply, nextUnlessDone, Action.bind_apply, hnext]
  simp only []
  rw [Action.bind_apply, isDone, Action.bind_apply, hdone]
  -- The flag is read first, and the value only if there is one.
  obtain ⟨value, done⟩ := result
  cases done with
  | true => rfl
  | false =>
      show ((some <$> resultValue hooks ⟨m'.realm.size⟩ : Action P (Option Value)) _) = _
      rw [resultValue, Action.map_apply, hvalue]
      rfl

end

variable (embedder : Embedder P) (rounds depth : Nat) {m : Machine P} {array f : Handle}
  {values : List Value} {record : IteratorRecord} {i : Nat}

/-- Calling a function of a new realm runs it one level deeper. -/
theorem call_of_runsIntrinsic {intrinsic : IntrinsicFunction}
    (hruns : m.realm.RunsIntrinsic f intrinsic) (this : Value) (args : List Value) :
    (embedder.hooks rounds (depth + 1)).call (.object f) this args m
      = intrinsic.run (embedder.hooks rounds depth) this args m := by
  obtain ⟨data, hkind, hcode⟩ := hruns
  exact embedder.call_of_intrinsic (embedder.hooks rounds depth) hkind hcode this args

/-- A step over an array gives the element at the cursor and moves the cursor,
or is at the end. The arguments of `next` do not matter. -/
theorem answers_array {iterator : Handle} (hruns : m.realm.RunsIntrinsic f .listIteratorNext)
    (hcursor : (m.realm.record iterator).kind = .listIterator ⟨array, i, false⟩)
    (harray : m.realm.record array = .array values) (hshort : values.length < Nat.pow 2 32)
    (args : List Value) :
    Answers (embedder.hooks rounds (depth + 1)) ⟨iterator, .object f, false⟩ args
      ⟨values[i]?.getD .undefined, values[i]?.isNone⟩ m
      ⟨m.realm.setKind iterator
        (.listIterator (ListIterator.advance values[i]?.isNone ⟨array, i, false⟩)), m.memory⟩ := by
  rw [Answers, call_of_runsIntrinsic embedder rounds depth hruns, IntrinsicFunction.run,
    Action.bind_apply, ListIterator.next_array _ hcursor harray hshort]
  rfl

/-- One round over an array: the element at the cursor, in a realm with the
cursor moved and one more object, which is the result that was read. -/
theorem nextValue_array (hnext : record.next = .object f)
    (hruns : m.realm.RunsIntrinsic f .listIteratorNext)
    (hcursor : (m.realm.record record.iterator).kind = .listIterator ⟨array, i, false⟩)
    (harray : m.realm.record array = .array values) (hshort : values.length < Nat.pow 2 32) :
    nextValue (embedder.hooks rounds (depth + 1)) record m
      = .done values[i]? ⟨m.realm.stepped record.iterator
          (ListIterator.advance values[i]?.isNone ⟨array, i, false⟩)
          (values[i]?.getD .undefined) values[i]?.isNone, m.memory⟩ := by
  obtain ⟨iterator, next, done⟩ := record
  cases hnext
  have hanswers : Answers _ ⟨iterator, .object f, done⟩ [] _ m _ :=
    answers_array embedder rounds depth hruns hcursor harray hshort []
  refine (nextValue_of_answers hanswers).trans ?_
  cases values[i]? <;> rfl

/-- An array is opened. What comes out is a list iterator over the array at
its beginning, with the `next` of its prototype. The two methods may be any
that are provided, so this applies to realms that are not new. -/
theorem iterator_array {v : Handle}
    (hvalues : m.realm.Provides Intrinsic.arrayPrototype (.symbol .iterator) v .arrayValues)
    (hnext : m.realm.Provides Intrinsic.listIteratorPrototype (.string "next") f .listIteratorNext)
    (harray : m.realm.record array = .array values) :
    iterator (embedder.hooks rounds (depth + 1)) (.object array) m
      = .done ⟨⟨m.realm.size⟩, .object f, false⟩
          ⟨(m.realm.createListIterator array).2, m.memory⟩ := by
  -- The method is found, and answers a list iterator.
  have hmethod : Object.getMethod? (embedder.hooks rounds (depth + 1)) (.object array)
      (.symbol .iterator) m = .done (some (.object v)) m := by
    apply Object.getMethod?_of_callable _ _ hvalues.runs.isCallable
    apply hvalues.get_eq _ m.memory
    · rw [harray]
      rfl
    · rw [Realm.hasOwn_of_native (by rw [harray]; rfl), harray]
      exact congrArg Option.isSome (Realm.get?_arraySlots_symbol values .iterator)
  have hcall : (embedder.hooks rounds (depth + 1)).call (.object v) (.object array) [] m
      = .done (.object ⟨m.realm.size⟩) ⟨(m.realm.createListIterator array).2, m.memory⟩ :=
    call_of_runsIntrinsic embedder rounds depth hvalues.runs _ _
  -- Its `next` is that of the prototype.
  have hrecord : (m.realm.createListIterator array).2.record ⟨m.realm.size⟩
      = .create (.listIterator ⟨array, 0, false⟩) (some Intrinsic.listIteratorPrototype) := by
    rw [Realm.createListIterator, Realm.record_allocate, if_pos rfl]
  have hothers : ∀ h : Handle, h.index < m.realm.size →
      (m.realm.createListIterator array).2.record h = m.realm.record h := by
    intro h hlt
    rw [Realm.createListIterator, Realm.record_allocate, if_neg (Nat.ne_of_lt hlt)]
  have hget : Object.get (embedder.hooks rounds (depth + 1)) ⟨m.realm.size⟩ (.string "next")
      ⟨(m.realm.createListIterator array).2, m.memory⟩
        = .done (.object f) ⟨(m.realm.createListIterator array).2, m.memory⟩ := by
    have hprovides := hnext.congr (hothers _ hnext.lt_size) (hothers f hnext.runs.lt_size)
    apply hprovides.get_eq
    · rw [hrecord]
      rfl
    · rw [Realm.hasOwn_of_native (by rw [hrecord]; rfl), hrecord]
      rfl
  rw [iterator, Action.bind_apply, hmethod]
  simp only []
  rw [Action.bind_apply, hcall]
  simp only []
  rw [Action.bind_apply, hget]
  rfl

end Iteration

end ScriptRealm
