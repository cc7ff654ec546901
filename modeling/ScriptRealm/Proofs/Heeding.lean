import ScriptRealm.Embedder.Script
import ScriptRealm.Proofs.Operations

/-!
# `ScriptRealm.Proofs.Heeding`: operations that heed fatal faults

An operation is a function of hooks, but it uses them in one way only: it
runs a piece of code in the machine it has come to, and goes on as that
code ends. `Dialogue returns` describes what an operation comes to in these
terms. It is at its end, or it asks for its allowance, or it makes a call,
or it resumes a body, and in the last two cases it goes on with any outcome
there could be. If the outcome is a fatal fault, the operation must be at
its end: what it comes to no longer depends on the hooks, so it runs no
more code, and `returns` relates it to the fault and the machine the fault
was raised in.

Nothing is assumed of the outcomes. An operation is described for whatever
the code may do, including what no embedder's code does.

Descriptions compose: `Dialogue.bind` goes on after a first part, and all
that is asked is what becomes of a fatal fault that the first part returns.
This is what the walk over the operations needs of its logic, so the walk
describes every operation (`Bond.Logic.heeding`). The second side of the
bond plays no part in it. A machine is bonded to itself, whatever it is
like, because an operation has to be ready for every outcome.
-/

set_option autoImplicit false

namespace ScriptRealm

variable {P : Platform} {α β : Type}

/-- What an operation comes to, as a function of the hooks, told as a
dialogue with the code it runs that a fatal fault ends. -/
inductive Dialogue (returns : Fault → Machine P → Outcome P α → Prop) :
    (Hooks P → Outcome P α) → Prop where
  /-- It is at its end. -/
  | ends (outcome : Outcome P α) : Dialogue returns fun _ => outcome
  /-- It looks up how many rounds a loop may make. -/
  | allowance (next : Nat → Hooks P → Outcome P α)
      (hnext : ∀ rounds, Dialogue returns (next rounds)) :
      Dialogue returns fun hooks => next hooks.rounds hooks
  /-- It makes a call in the machine `k`. A fatal fault is its end. -/
  | call (f this : Value) (args : List Value) (k : Machine P)
      (next : Outcome P Value → Hooks P → Outcome P α)
      (hnext : ∀ outcome, Dialogue returns (next outcome))
      (hfatal : ∀ fault k', fault.isFatal = true →
        ∃ outcome, returns fault k' outcome ∧ ∀ hooks, next (.failed fault k') hooks = outcome) :
      Dialogue returns fun hooks => next (hooks.call f this args k) hooks
  /-- It resumes a body in the machine `k`. A fatal fault is its end. -/
  | resume (body : P.Body) (frame : Frame) (completion : Completion) (k : Machine P)
      (next : Outcome P (Resumption P) → Hooks P → Outcome P α)
      (hnext : ∀ outcome, Dialogue returns (next outcome))
      (hfatal : ∀ answer fault k', fault.isFatal = true → answer.Raises fault k' →
        ∃ outcome, returns fault k' outcome ∧ ∀ hooks, next answer hooks = outcome) :
      Dialogue returns fun hooks => next (hooks.resume body frame completion k) hooks

namespace Dialogue

variable {returns : Fault → Machine P → Outcome P α → Prop}
  {returns' : Fault → Machine P → Outcome P β → Prop}

/-- A description of a first part goes on with descriptions of the rest. Once
the first part has returned a fatal fault, the rest must be at its end, too.
By induction on the first part, which keeps its own questions and hands its
end to the rest. -/
theorem bind (next : Outcome P α → Hooks P → Outcome P β) {x : Hooks P → Outcome P α}
    (hx : Dialogue returns x) (hnext : ∀ outcome, Dialogue returns' (next outcome))
    (hfatal : Concludes returns next returns') :
    Dialogue returns' fun hooks => next (x hooks) hooks := by
  -- A fatal fault leaves the first part at its end, and so the whole.
  have hended : ∀ {y : Hooks P → Outcome P α} {fault : Fault} {k : Machine P},
      fault.isFatal = true → (∃ outcome, returns fault k outcome ∧ ∀ hooks, y hooks = outcome) →
      ∃ outcome', returns' fault k outcome' ∧ ∀ hooks, next (y hooks) hooks = outcome' := by
    rintro y fault k hfault ⟨outcome, hreturns, hy⟩
    obtain ⟨outcome', hreturns', hend⟩ := hfatal fault k outcome hfault hreturns
    exact ⟨outcome', hreturns', fun hooks => by rw [hy hooks, hend hooks]⟩
  -- The first part keeps asking its own questions. Only its end is replaced, by the rest.
  induction hx with
  | ends outcome => exact hnext outcome
  | allowance step _ ih => exact .allowance (fun rounds hooks => next (step rounds hooks) hooks) ih
  | call f this args k step _ hstep ih =>
      exact .call f this args k (fun outcome hooks => next (step outcome hooks) hooks) ih
        fun fault k' hfault => hended hfault (hstep fault k' hfault)
  | resume body frame completion k step _ hstep ih =>
      exact .resume body frame completion k (fun outcome hooks => next (step outcome hooks) hooks)
        ih fun answer fault k' hfault hraises =>
          hended hfault (hstep answer fault k' hfault hraises)

/-- What is returned may be described more loosely. Nothing is added to the
dialogue, so this is a rest that gives back what it is given. -/
theorem mono {returns' : Fault → Machine P → Outcome P α → Prop} {x : Hooks P → Outcome P α}
    (hx : Dialogue returns x)
    (himp : ∀ fault k outcome, returns fault k outcome → returns' fault k outcome) :
    Dialogue returns' x :=
  bind (fun outcome _ => outcome) hx .ends fun fault k outcome _ hreturns =>
    ⟨outcome, himp fault k outcome hreturns, fun _ => rfl⟩

end Dialogue

/-! ### Actions -/

namespace Action

/-- An operation heeds fatal faults, from whatever machine it starts. -/
def Heeds (returns : Fault → Machine P → Outcome P α → Prop) (op : Hooks P → Action P α) : Prop :=
  ∀ m, Dialogue returns fun hooks => op hooks m

/-- An operation fails with a fatal fault in the machine that the fault was
raised in. -/
abbrev Relays (op : Hooks P → Action P α) : Prop :=
  Heeds (fun fault k outcome => outcome = .failed fault k) op

/-- An action that runs no code heeds all it has to. -/
theorem Heeds.const {returns : Fault → Machine P → Outcome P α → Prop} (x : Action P α) :
    Heeds returns fun _ => x :=
  fun m => .ends (x m)

/-- An operation may look up its allowance, if it heeds fatal faults with
every allowance. -/
theorem Heeds.rounds {returns : Fault → Machine P → Outcome P α → Prop}
    (op : Nat → Hooks P → Action P α) (hop : ∀ rounds, Heeds returns (op rounds)) :
    Heeds returns fun hooks => op hooks.rounds hooks :=
  fun m => .allowance (fun rounds hooks => op rounds hooks m) fun rounds => hop rounds m

/-- A call is the shortest dialogue. It passes on whatever the callee has
come to, a fatal fault like everything else. -/
theorem Relays.call (f this : Value) (args : List Value) :
    Relays fun hooks : Hooks P => hooks.call f this args :=
  fun m => .call f this args m (fun outcome _ => outcome) .ends fun _ _ _ => ⟨_, rfl, fun _ => rfl⟩

end Action

/-! ### The logic -/

section

open scoped Untraced

/-- All changes are allowed, and nothing is asked of the realm. -/
abbrev Bond.heedless (P : Platform) : Bond P P := agreeing (True : Prop) fun _ => True

/-- Any outcome is bonded to itself. A description has to be ready for every
outcome, and this is why every machine is bonded. -/
theorem Bond.heedless.ends [Refers α] (n : Nat) (outcome : Outcome P α) :
    (heedless P).Ends (heedless P).Same n outcome outcome := by
  cases outcome with
  | done a k => exact .done (Nat.le_refl n) ⟨rfl, trivial⟩ ⟨rfl, False.elim⟩
  | failed fault k => exact .failed (Nat.le_refl n) ⟨rfl, trivial⟩ False.elim
  | exhausted => exact .exhausted

/-- The walk over the operations, for fatal faults. What is related is the
description of the first operation, and the laws of a logic are how
descriptions compose. -/
def Bond.Logic.heeding : (heedless P).Logic where
  lawful := agreeing.lawful fun _ _ _ _ => trivial
  Rel _ _ returns x _ := Dialogue returns x
  const _ := .ends _
  weaken _ hx := hx
  mono _ himp hx := hx.mono himp
  allowance x _ hx := .allowance x hx
  call _ _ _ _ := Action.Relays.call _ _ _ _
  bind next _ hx hnext hfatal :=
    .bind next hx (fun outcome => hnext outcome outcome (heedless.ends _ outcome)) hfatal

/-- A generator may be replaced by any other, and a body may leave anything
behind. What the body leaves is the same on both sides, since there is but
one. -/
theorem Bond.Logic.heeding_resumes : (heeding (P := P)).Resumes where
  drive := by
    rintro n m _ h g g₁ g' g₁' ⟨rfl, -⟩ - - hg₁
    -- Both sides write the same generator to the same object.
    exact ⟨n, Nat.le_refl n, by rw [hg₁.1.eq], trivial⟩
  resume next _ _ _ _ _ _ hnext hfatal := by
    refine .resume _ _ _ _ next (fun outcome => ?_) fun answer fault k hfault hraises =>
      hfatal fault k answer hfault hraises
    refine hnext outcome outcome ?_
    -- The body may come to anything, and each outcome is bonded to itself.
    cases outcome with
    | done x k => exact .done (Nat.le_refl _) ⟨rfl, trivial⟩ ⟨⟨rfl, rfl, rfl⟩, False.elim⟩
    | failed fault k => exact .failed (Nat.le_refl _) ⟨rfl, trivial⟩ False.elim
    | exhausted => exact .exhausted

/-- What the walk relates is described from every machine. So each lemma of
the walk is also one about fatal faults. -/
theorem Bond.Logic.Relates.heeds {R : Nat → α → β → Prop}
    {returns : Fault → Machine P → Outcome P α → Prop} {x : Hooks P → Action P α}
    {y : Hooks P → Action P β} (h : heeding.Relates R 0 returns x y) : Action.Heeds returns x :=
  fun _ => h (Nat.le_refl 0) ⟨rfl, trivial⟩

/-! ### Operations

These are the operations that are taken apart elsewhere, to tell what code
they run. -/

open Bond.Logic (heeding)
open ScriptRealm.Action (Relays Heeds)

/-- Reading a property runs a getter at most, and passes on what it fails
with. -/
theorem Object.getFor?_relays (h : Handle) (key : PropertyKey) (receiver : Value) :
    Relays fun hooks : Hooks P => getFor? hooks h key receiver :=
  (getFor?_related heeding h key False.elim).heeds

/-- The same with the object itself as the receiver. -/
theorem Object.get_relays (h : Handle) (key : PropertyKey) :
    Relays fun hooks : Hooks P => get hooks h key :=
  (get_related heeding False.elim key).heeds

/-- Looking up a method runs what reading it runs. -/
theorem Object.getMethod?_relays (value : Value) (key : PropertyKey) :
    Relays fun hooks : Hooks P => getMethod? hooks value key :=
  (getMethod?_related heeding False.elim key).heeds

/-- Asking for a length runs what reading `length` runs. -/
theorem ArrayLike.length_relays (h : Handle) : Relays fun hooks : Hooks P => length hooks h :=
  (length_related heeding False.elim).heeds

/-- Asking for an iterator makes a call and reads a property, and ends with a
fatal fault of either. -/
theorem Iteration.iterator_relays (iterable : Value) :
    Relays fun hooks : Hooks P => iterator hooks iterable :=
  (iterator_related heeding False.elim).heeds

/-- Advancing an iterator makes a call and reads the answer. -/
theorem Iteration.nextValue_relays (record : IteratorRecord) :
    Relays fun hooks : Hooks P => nextValue hooks record :=
  (nextValue_related heeding False.elim).heeds

/-- Looking for `return` may run a getter, and calling it is a call. -/
theorem Iteration.callReturn_relays (iterator : Handle) :
    Relays fun hooks : Hooks P => callReturn hooks iterator :=
  (callReturn_related heeding False.elim).heeds

/-- A failure of the user outlasts everything that closing does, but not a
fatal fault. -/
theorem Iteration.close_relays (record : IteratorRecord) (completion : Except Fault Value) :
    Relays fun hooks : Hooks P => close hooks record completion :=
  (close_related heeding False.elim False.elim).heeds

/-- Advancing a list iterator reads a length and an element. -/
theorem ListIterator.next_relays (this : Value) :
    Relays fun hooks : Hooks P => next hooks this :=
  (next_related heeding False.elim fun _ _ => trivial).heeds

/-- A fault of the iterator is passed on as it is. A fault of the callback
closes the iterator, unless it is fatal. -/
theorem Grouping.keyFrom_relays (callback : Value) (coercion : KeyCoercion) (limit rounds : Nat)
    (record : IteratorRecord) (index : Nat) :
    Relays fun hooks : Hooks P => keyFrom hooks callback coercion limit rounds record index :=
  (keyFrom_related heeding coercion limit rounds index False.elim False.elim).heeds

/-! ### Every operation -/

/-- The functions of a new realm heed fatal faults. Those that resume a
generator finish it, which is a change made after the fault was raised. -/
theorem IntrinsicFunction.run_heeds (i : IntrinsicFunction) (this : Value) (args : List Value) :
    Heeds (Generator.ResumptionReturns (i.resumed? this).toList) fun hooks : Hooks P =>
      i.run hooks this args :=
  (run_resumed Bond.Logic.heeding_resumes i False.elim False.elim fun _ _ _ => trivial).heeds

/-- Every request heeds fatal faults. `Request.Returns` says for each what it
comes to, and nothing is asked of the request. -/
theorem Request.perform_heeds (request : Request P) :
    Heeds request.Returns fun hooks => request.perform hooks :=
  (perform_resumed Bond.Logic.heeding_resumes Translation.id_respects request
    (keysIn_of_forall (fun _ => trivial) request) False.elim fun _ => trivial).heeds

end

end ScriptRealm
