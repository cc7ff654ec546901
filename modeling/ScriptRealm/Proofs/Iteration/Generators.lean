import ScriptRealm.Proofs.Generator.Moments
import ScriptRealm.Proofs.Iteration.Arrays

/-!
# `ScriptRealm.Proofs.Iteration.Generators`: iterating over generators

A generator is its own iterator. Its methods are two prototypes away from each
other: `next` is on the prototype of generators, and the method that answers
the generator itself is on the prototype of iterators. In a realm whose
intrinsics are untouched both are found, so that opening a generator changes
nothing (`Iteration.iterator_generator`), and asking it for its next result is
resuming it (`Iteration.answers_generator`).

The intrinsic objects are ordinary objects and functions
(`Realm.kind_initial`). So generators and list iterators are not among them,
and changing these leaves a realm untouched.
-/

set_option autoImplicit false

namespace ScriptRealm

variable {P : Platform}

namespace Realm

/-- An object of a new realm is ordinary or a function. Outside its arena
there are bare objects, which are ordinary, too. -/
theorem kind_initial (config : Config) (h : Handle) :
    ((initial config : Realm P).record h).kind = .ordinary ∨
      ∃ f, ((initial config : Realm P).record h).kind = .function f := by
  -- Beyond the list of intrinsics there is nothing but the bare object.
  have hall : ∀ record ∈ intrinsics P,
      record.kind = .ordinary ∨ ∃ f, record.kind = .function f := by
    simp [intrinsics, ObjectRecord.create, ObjectRecord.insert, ObjectRecord.function]
  rw [record_initial, Array.getD_eq_getD_getElem?]
  cases hrecord : (intrinsics P)[h.index]? with
  | none => exact .inl rfl
  | some record => exact hall record (Array.mem_of_getElem? hrecord)

/-! ### The methods of generators -/

namespace Untouched

variable {r : Realm P} {h : Handle}

/-- What is neither ordinary nor a function is no intrinsic, so it comes
behind the objects of a new realm. -/
theorem size_le_index (hr : r.Untouched) (hordinary : (r.record h).kind ≠ .ordinary)
    (hfunction : ∀ f, (r.record h).kind ≠ .function f) :
    (initial {} : Realm P).size ≤ h.index := by
  refine Nat.le_of_not_lt fun hlt => ?_
  rw [hr h hlt] at hordinary hfunction
  rcases kind_initial {} h with hkind | ⟨f, hkind⟩
  · exact hordinary hkind
  · exact hfunction f hkind

/-- Generators can be asked for their next value. -/
theorem provides_generatorNext (hr : r.Untouched) :
    r.Provides Intrinsic.generatorPrototype (.string "next") ⟨9⟩ .generatorNext :=
  hr.provides rfl rfl rfl

/-- Iterators can be opened. -/
theorem provides_self (hr : r.Untouched) :
    r.Provides Intrinsic.iteratorPrototype (.symbol .iterator) ⟨6⟩ .iteratorSelf :=
  hr.provides rfl rfl rfl

/-- The method that opens a generator is that of all iterators. It is the
third object on the walk: neither the generator nor the prototype of
generators has one. -/
theorem owner?_iterator (hr : r.Untouched) {g : Generator P}
    (hrecord : r.record h = .create (.generator g) (some Intrinsic.generatorPrototype)) :
    r.owner? h (.symbol .iterator) = some Intrinsic.iteratorPrototype := by
  have hgenerator := hr Intrinsic.generatorPrototype (by rw [size_initial]; decide)
  have hiterator := hr Intrinsic.iteratorPrototype (by rw [size_initial]; decide)
  have hobject := hr Intrinsic.objectPrototype (by rw [size_initial]; decide)
  rw [record_initial] at hgenerator hiterator hobject
  -- The walk of a generator in an untouched realm is known in full.
  have hwalk : r.Walk h [h, Intrinsic.generatorPrototype, Intrinsic.iteratorPrototype,
      Intrinsic.objectPrototype] := by
    apply Walk.step (p := Intrinsic.generatorPrototype)
    · rw [hrecord]; rfl
    apply Walk.step (p := Intrinsic.iteratorPrototype)
    · rw [hgenerator]; rfl
    apply Walk.step (p := Intrinsic.objectPrototype)
    · rw [hiterator]; rfl
    apply Walk.last
    rw [hobject]; rfl
  have hself : r.hasOwn h (.symbol .iterator) = false := by
    rw [hasOwn_of_native (by rw [hrecord]; rfl), hrecord]
    rfl
  have hlacks : r.hasOwn Intrinsic.generatorPrototype (.symbol .iterator) = false := by
    rw [hasOwn_of_native (by rw [hgenerator]; rfl), hgenerator]
    rfl
  have hown : r.hasOwn Intrinsic.iteratorPrototype (.symbol .iterator) = true := by
    rw [hasOwn_of_native (by rw [hiterator]; rfl), hiterator]
    rfl
  rw [hwalk.owner?_eq_find?, List.find?_cons_of_neg (by simp [hself]),
    List.find?_cons_of_neg (by simp [hlacks]), List.find?_cons_of_pos (by simpa using hown)]

end Untouched

end Realm

/-! ### Opening and asking -/

namespace Iteration

variable (embedder : Embedder P) (rounds depth : Nat) {m m' : Machine P} {h : Handle}

/-- A generator is its own iterator. Three things are asked for: the method,
which is the one of all iterators, what it answers, which is the generator,
and the generator's `next`. -/
theorem iterator_generator (hr : m.realm.Untouched) {g : Generator P}
    (hrecord : m.realm.record h = .create (.generator g) (some Intrinsic.generatorPrototype)) :
    iterator (embedder.hooks rounds (depth + 1)) (.object h) m
      = .done ⟨h, .object ⟨9⟩, false⟩ m := by
  have hself := hr.provides_self
  obtain ⟨slot, writable, hslot, hcontent⟩ := hself.slot
  have hmethod : Object.getMethod? (embedder.hooks rounds (depth + 1)) (.object h)
      (.symbol .iterator) m = .done (some (.object ⟨6⟩)) m := by
    apply Object.getMethod?_of_callable _ _ hself.runs.isCallable
    exact Object.get_of_owner _ (hr.owner?_iterator hrecord) hself.native hslot hcontent
  have hcall : (embedder.hooks rounds (depth + 1)).call (.object ⟨6⟩) (.object h) [] m
      = .done (.object h) m :=
    call_of_runsIntrinsic embedder rounds depth hself.runs _ _
  have hget : Object.get (embedder.hooks rounds (depth + 1)) h (.string "next") m
      = .done (.object ⟨9⟩) m := by
    apply hr.provides_generatorNext.get_eq _ m.memory
    · rw [hrecord]
      rfl
    · rw [Realm.hasOwn_of_native (by rw [hrecord]; rfl), hrecord]
      rfl
  rw [iterator, Action.bind_apply, hmethod]
  simp only []
  rw [Action.bind_apply, hcall]
  simp only []
  rw [Action.bind_apply, hget]
  rfl

/-- What a generator answers is what it gives when it is resumed one level
deeper. -/
theorem answers_generator {f : Handle} (hruns : m.realm.RunsIntrinsic f .generatorNext)
    (args : List Value) {result : IterResult}
    (hresume : Generator.resume (embedder.hooks rounds depth) h (.next (args.headD .undefined)) m
      = .done result m') :
    Answers (embedder.hooks rounds (depth + 1)) ⟨h, .object f, false⟩ args result m m' := by
  rw [Answers, call_of_runsIntrinsic embedder rounds depth hruns, IntrinsicFunction.run,
    Generator.resumeReceiver, Action.bind_apply, hresume]
  rfl

end Iteration

end ScriptRealm
