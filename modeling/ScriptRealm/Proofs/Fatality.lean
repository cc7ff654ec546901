import ScriptRealm.Proofs.Generator.Moments
import ScriptRealm.Proofs.Heeding

/-!
# `ScriptRealm.Proofs.Fatality`: a fatal fault is the end

No operation recovers from a fatal fault of the code it runs. It runs no
more code and gives out that fault. `ScriptRealm.Proofs.Heeding` has this
for code that an operation runs itself: by `Hooks.Enters.returns`, code that
raises a fatal fault decides what the operation returns.

A fault can also pass through several generators, since the functions of a
new realm resume generators and are called like others. `Moment.Started`
leads from a request through such functions to the code that an embedder
wrote. By then the generators under way stand on the stack, and
`Moment.Started.gives` says that the request gives out the fault with all
of them finished.

Faults also tell what code an operation starts. `Hooks.raiseAt` makes one
piece of code raise a fault, and an operation that starts it fails with that
fault (`Hooks.Enters.raiseAt`).
-/

set_option autoImplicit false

namespace ScriptRealm

open ScriptRealm.Action (Heeds Relays)
open Generator (ResumptionReturns)

variable {P : Platform} {α β : Type}

/-! ### Through the functions of a realm -/

/-- The code under an entry ends with a fault. -/
def Hooks.Raises (hooks : Hooks P) (fault : Fault) (k : Machine P) : Entry P → Machine P → Prop
  | .call f this args, m => hooks.call f this args m = .failed fault k
  | .body body frame completion, m => (hooks.resume body frame completion m).Raises fault k

/-- Code that an operation starts and that raises a fatal fault ends the
operation. By induction on the dialogue. Two hooks that differ in one place
tell the operation apart, so there is a question in the dialogue where they
answer differently, and that is the one. -/
theorem Dialogue.returns_of_raises {returns : Fault → Machine P → Outcome P α → Prop}
    {x : Hooks P → Outcome P α} (hx : Dialogue returns x) {entry : Entry P} {m k : Machine P}
    {hooks hooks' : Hooks P} (houtside : hooks.AgreeOutside entry m hooks')
    (hne : x hooks ≠ x hooks') {fault : Fault} (hfault : fault.isFatal = true)
    (hraises : hooks.Raises fault k entry m) : returns fault k (x hooks) := by
  -- As long as the hooks agree, the dialogue goes the same way under both.
  induction hx with
  | ends outcome => exact absurd rfl hne
  | allowance next _ ih =>
      -- Both hooks allow the same number of rounds, so the question is elsewhere.
      have hne : next hooks.rounds hooks ≠ next hooks'.rounds hooks' := hne
      rw [← houtside.rounds] at hne
      exact ih _ hne
  | call f this args k₀ next _ hfatal ih =>
      by_cases hhere : entry = .call f this args ∧ k₀ = m
      -- This is the code in question. What it has raised is the end of the operation.
      · obtain ⟨rfl, rfl⟩ := hhere
        obtain ⟨outcome, hreturns, hend⟩ := hfatal fault k hfault
        have hcall : hooks.call f this args k₀ = .failed fault k := hraises
        show returns fault k (next (hooks.call f this args k₀) hooks)
        rw [hcall, hend]
        exact hreturns
      · have hne : next (hooks.call f this args k₀) hooks
            ≠ next (hooks'.call f this args k₀) hooks' := hne
        rw [← houtside.call f this args k₀ hhere] at hne
        exact ih _ hne
  | resume body frame completion k₀ next _ hfatal ih =>
      by_cases hhere : entry = .body body frame completion ∧ k₀ = m
      · obtain ⟨rfl, rfl⟩ := hhere
        obtain ⟨outcome, hreturns, hend⟩ := hfatal _ fault k hfault hraises
        show returns fault k (next (hooks.resume body frame completion k₀) hooks)
        rw [hend]
        exact hreturns
      · have hne : next (hooks.resume body frame completion k₀) hooks
            ≠ next (hooks'.resume body frame completion k₀) hooks' := hne
        rw [← houtside.resume body frame completion k₀ hhere] at hne
        exact ih _ hne

/-- An operation that starts such code returns what it has to return for the
fault. That it starts the code is all that is asked of the machine. -/
theorem Hooks.Enters.returns {hooks : Hooks P} {op : Hooks P → Action P α} {m k k' : Machine P}
    {entry : Entry P} (henters : hooks.Enters op m entry k)
    {returns : Fault → Machine P → Outcome P α → Prop} (hop : Heeds returns op) {fault : Fault}
    (hfault : fault.isFatal = true) (hraises : hooks.Raises fault k' entry k) :
    returns fault k' (op hooks m) := by
  obtain ⟨hooks', houtside, hne⟩ := henters
  exact (hop m).returns_of_raises houtside hne hfault hraises

namespace Hooks

open Classical in
/-- Hooks that raise a fault when an entry is started in the machine `k`. -/
noncomputable def raiseAt (hooks : Hooks P) (entry : Entry P) (k : Machine P) (fault : Fault) :
    Hooks P where
  call f this args m :=
    if entry = .call f this args ∧ m = k then .failed fault k else hooks.call f this args m
  resume body frame completion m :=
    if entry = .body body frame completion ∧ m = k then .failed fault k
    else hooks.resume body frame completion m
  rounds := hooks.rounds

/-- Hooks that raise a fault at an entry do so. For a body this is a failure
of the resumption, and not a step that it reports. -/
theorem raises_raiseAt (hooks : Hooks P) (entry : Entry P) (k : Machine P) (fault : Fault) :
    (hooks.raiseAt entry k fault).Raises fault k entry k := by
  cases entry with
  | call f this args => exact if_pos ⟨rfl, rfl⟩
  | body body frame completion =>
      have hfailed : (hooks.raiseAt (.body body frame completion) k fault).resume body frame
          completion k = .failed fault k := if_pos ⟨rfl, rfl⟩
      rw [Raises, hfailed]
      exact ⟨rfl, rfl⟩

/-- Hooks that raise a fault at one entry agree with the given ones everywhere
else. -/
theorem agreeOutside_raiseAt (hooks : Hooks P) (entry : Entry P) (k : Machine P) (fault : Fault) :
    hooks.AgreeOutside entry k (hooks.raiseAt entry k fault) where
  call _ _ _ _ hne := (if_neg hne).symm
  resume _ _ _ _ hne := (if_neg hne).symm
  rounds := rfl

variable {hooks hooks' hooks'' : Hooks P} {op : Hooks P → Action P α} {m k : Machine P}
  {entry : Entry P}

/-- To differ at most in one place is symmetric. -/
theorem AgreeOutside.symm (h : hooks.AgreeOutside entry k hooks') :
    hooks'.AgreeOutside entry k hooks where
  call f this args m hne := (h.call f this args m hne).symm
  resume body frame completion m hne := (h.resume body frame completion m hne).symm
  rounds := h.rounds.symm

/-- It is transitive, the place being the same. -/
theorem AgreeOutside.trans (h : hooks.AgreeOutside entry k hooks')
    (h' : hooks'.AgreeOutside entry k hooks'') : hooks.AgreeOutside entry k hooks'' where
  call f this args m hne := (h.call f this args m hne).trans (h'.call f this args m hne)
  resume body frame completion m hne :=
    (h.resume body frame completion m hne).trans (h'.resume body frame completion m hne)
  rounds := h.rounds.trans h'.rounds

/-- An operation that does not start some code comes to the same whatever the
code does. This is what `Hooks.Enters` denies, read the other way. -/
theorem AgreeOutside.same (houtside : hooks.AgreeOutside entry k hooks')
    (hnot : ¬ hooks.Enters op m entry k) : op hooks' m = op hooks m :=
  Classical.byContradiction fun hne => hnot ⟨hooks', houtside, fun heq => hne heq.symm⟩

/-- An operation that starts some code and relays fatal faults fails with
the fault that the code raises. -/
theorem Enters.raiseAt (henters : hooks.Enters op m entry k) (hop : Relays op) {fault : Fault}
    (hfault : fault.isFatal = true) : op (hooks.raiseAt entry k fault) m = .failed fault k := by
  have hself := hooks.agreeOutside_raiseAt entry k fault
  obtain ⟨hooks', houtside, hne⟩ := henters
  -- The raising hooks cannot come to the same as both of two hooks that differ.
  have hraises : (hooks.raiseAt entry k fault).Enters op m entry k := by
    by_cases hsame : op (hooks.raiseAt entry k fault) m = op hooks m
    · exact ⟨hooks', hself.symm.trans houtside, hsame ▸ hne⟩
    · exact ⟨hooks, hself.symm, hsame⟩
  exact hraises.returns hop hfault (hooks.raises_raiseAt entry k fault)

end Hooks

/-- A call of a function of a new realm does what that function does. -/
theorem Embedder.call_of_intrinsic (embedder : Embedder P) (hooks : Hooks P) {m : Machine P}
    {f : Handle} {data : FunctionData P} {i : IntrinsicFunction}
    (hkind : (m.realm.record f).kind = .function data) (hcode : data.code = .intrinsic i)
    (this : Value) (args : List Value) :
    embedder.call hooks (.object f) this args m = i.run hooks this args m := by
  simp only [Embedder.call, Action.bind_apply, Action.record, hkind, hcode]

/-- The runs that an operation has begun lie above those that were under way
before. There is one if the operation resumes a generator, and none
otherwise. -/
theorem Entry.stack_eq_append (entry : Entry P) (resumed? : Option Handle) (stack : List Run) :
    ∃ runs, entry.stack resumed? stack = runs ++ stack ∧
      runs.map Run.generator = resumed?.toList := by
  cases resumed? with
  | none => exact ⟨[], rfl, rfl⟩
  | some h => exact ⟨[⟨h, entry.isBody⟩], rfl, rfl⟩

namespace Moment

/-- From a request to the code that is started for it, by the request itself
or by functions of the realm that it has called. No script of an embedder
runs in between. -/
inductive Started (embedder : Embedder P) (rounds : Nat) (start : Moment P) : Moment P → Prop where
  | first {moment : Moment P} {entry : Entry P} (hnext : Moment.Next embedder rounds start moment)
      (hentry : moment.activity = .entry entry) : Started embedder rounds start moment
  | deeper {moment moment' : Moment P} {entry : Entry P}
      (hstarted : Started embedder rounds start moment)
      (hnext : Moment.Next embedder rounds moment moment')
      (hentry : moment'.activity = .entry entry) : Started embedder rounds start moment'

variable {embedder : Embedder P} {rounds : Nat} {moment : Moment P} {fault : Fault}
  {k : Machine P}

/-- A fatal fault passes through a function of the realm, and finishes the
generator that the function has resumed. The embedder's code does not come
into this, as a script would run then. -/
theorem Next.raises {depth : Nat} {stack : List Run} {entry entry' : Entry P} {m : Machine P}
    (hnext : Moment.Next embedder rounds ⟨depth, stack, .entry entry, m⟩ moment)
    (hentry : moment.activity = .entry entry') (hfault : fault.isFatal = true)
    (hraises : (embedder.hooks rounds moment.depth).Raises fault k entry' moment.machine) :
    ∃ runs m', moment.stack = runs ++ stack ∧ k.Finishes (runs.map Run.generator) m' ∧
      (embedder.hooks rounds depth).Raises fault m' entry m := by
  cases hnext with
  -- Here a script would be the next thing to run, and not an entry.
  | native hkind hcode => cases hentry
  | body => cases hentry
  | @intrinsic depth _ f this args _ k₀ data i _ hkind hcode henters =>
      cases hentry
      obtain ⟨runs, hstack, hruns⟩ := entry'.stack_eq_append (i.resumed? this) stack
      -- The function has started the code, and it heeds fatal faults.
      obtain ⟨m', hfinishes, houtcome⟩ := henters.returns (i.run_heeds this args) hfault hraises
      refine ⟨runs, m', hstack, ?_, ?_⟩
      · rw [hruns]
        exact hfinishes
      · show embedder.call (embedder.hooks rounds depth) (.object f) this args m = _
        rw [embedder.call_of_intrinsic _ hkind hcode]
        exact houtcome

/-- What becomes of a fatal fault on the way back to the request, by
induction on the functions it passes through: the request gives it out, and
all the generators whose runs were begun on the way are finished. -/
theorem Started.gives {depth : Nat} {stack : List Run} {request : Request P}
    {next : Except Fault request.Reply → Script P α} {m : Machine P}
    (hstarted : Started embedder rounds ⟨depth, stack, .script (.ask request next), m⟩ moment)
    {entry : Entry P} (hentry : moment.activity = .entry entry) (hfault : fault.isFatal = true)
    (hraises : (embedder.hooks rounds moment.depth).Raises fault k entry moment.machine) :
    ∃ runs m', moment.stack = runs ++ stack ∧ k.Finishes (runs.map Run.generator) m' ∧
      request.Gives fault m' (request.perform (embedder.hooks rounds depth) m) := by
  induction hstarted generalizing entry k with
  | first hnext _ =>
      cases hnext with
      | reply hreply => cases hentry
      | request henters =>
          cases hentry
          obtain ⟨runs, hstack, hruns⟩ := entry.stack_eq_append request.resumed? stack
          obtain ⟨m', hfinishes, hgives⟩ := henters.returns request.perform_heeds hfault hraises
          refine ⟨runs, m', hstack, ?_, hgives⟩
          rw [hruns]
          exact hfinishes
  | @deeper moment₁ moment₂ entry₂ hstarted hnext _ ih =>
      obtain ⟨depth₁, stack₁, activity₁, m₁⟩ := moment₁
      -- Only the call of a function leads from code to more code without a script.
      have hentry₁ : ∃ entry₁, activity₁ = .entry entry₁ := by
        cases hstarted with
        | first _ hentry₁ => exact ⟨_, hentry₁⟩
        | deeper _ _ hentry₁ => exact ⟨_, hentry₁⟩
      obtain ⟨entry₁, rfl⟩ := hentry₁
      -- The function on top passes the fault on, and those below it are the induction
      -- hypothesis.
      obtain ⟨runs, m', hstack, hfinishes, hraises₁⟩ := hnext.raises hentry hfault hraises
      obtain ⟨runs₁, m'', hstack₁, hfinishes₁, hgives⟩ := ih rfl hraises₁
      refine ⟨runs ++ runs₁, m'', ?_, ?_, hgives⟩
      · rw [hstack, show stack₁ = runs₁ ++ stack from hstack₁, List.append_assoc]
      · rw [List.map_append]
        exact hfinishes.trans hfinishes₁

end Moment

/-- A fatal fault is the end of the operation that meets it.

- Every request, whatever code it runs and from whatever machine, heeds
  fatal faults: once a call or a body has ended with one, the request runs
  no more code and gives out that very fault, in the machine it was raised
  in, but for the generator it has resumed, which is finished.
- The functions of a new realm do the same.
- A fault that is raised by code that such functions have started for a
  request reaches the request through all of them, and finishes every
  generator whose run was begun on the way. -/
theorem fatal_is_the_end :
    (∀ request : Request P, Heeds request.Returns fun hooks => request.perform hooks) ∧
    (∀ (i : IntrinsicFunction) (this : Value) (args : List Value),
      Heeds (ResumptionReturns (i.resumed? this).toList) fun hooks : Hooks P =>
        i.run hooks this args) ∧
    (∀ (embedder : Embedder P) (rounds depth : Nat) (stack : List Run) (α : Type)
      (request : Request P) (next : Except Fault request.Reply → Script P α) (m k : Machine P)
      (moment : Moment P) (entry : Entry P) (fault : Fault),
      Moment.Started embedder rounds ⟨depth, stack, .script (.ask request next), m⟩ moment →
      moment.activity = .entry entry → fault.isFatal = true →
      (embedder.hooks rounds moment.depth).Raises fault k entry moment.machine →
      ∃ runs m', moment.stack = runs ++ stack ∧ k.Finishes (runs.map Run.generator) m' ∧
        request.Gives fault m' (request.perform (embedder.hooks rounds depth) m)) := by
  refine ⟨Request.perform_heeds, IntrinsicFunction.run_heeds, ?_⟩
  intro embedder rounds depth stack α request next m k moment entry fault hstarted hentry hfault
    hraises
  exact hstarted.gives hentry hfault hraises

/-- An embedder all of whose code is broken. -/
def Embedder.broken : Embedder Platform.fixed where
  function _ _ _ := .done (.error (.internal (.custom "broken")))
  body steps frame _ :=
    .done { body := steps, frame, step := .error (.internal (.custom "broken")) }

/-- A machine with a generator that has not been entered. -/
def unenteredMachine : Machine Platform.fixed :=
  ⟨((Realm.initial {}).createGenerator [] {}).2, ()⟩

/-- The body of the generator raises its fault, and the resumption gives it
out with the generator finished. -/
theorem fatal_is_the_end_broken :
    ∃ m', (Request.resumeGenerator ⟨12⟩ (.next .undefined)).perform (Embedder.broken.hooks 1 1)
        unenteredMachine = .failed (.internal (.custom "broken")) m' ∧
      ∃ g, m'.Holds ⟨12⟩ g ∧ g.Finished := by
  have hends : Generator.resume (Embedder.broken.hooks 1 1) ⟨12⟩ (.next .undefined)
      unenteredMachine ≠ .exhausted := by
    intro h
    have hfailed : Outcome.failed (P := Platform.fixed) (α := IterResult)
        (.internal (.custom "broken")) _ = .exhausted := h
    cases hfailed
  have hnext : Moment.Next Embedder.broken 1 ⟨1, [], .script (.ask
      (.resumeGenerator ⟨12⟩ (.next .undefined)) Script.done), unenteredMachine⟩ _ :=
    .request (Generator.enters_body (g := Generator.create (P := Platform.fixed) [] {}) rfl rfl rfl
      rfl rfl hends)
  obtain ⟨runs, m', hstack, hfinishes, hgives⟩ := fatal_is_the_end.2.2 Embedder.broken 1 1 [] _ _
    Script.done unenteredMachine _ _ _ (.internal (.custom "broken")) (.first hnext rfl) rfl rfl
    ⟨rfl, rfl⟩
  refine ⟨m', hgives, ?_⟩
  have hruns : runs.map Run.generator = [⟨12⟩] := by
    rw [← List.append_nil runs, ← hstack]
    rfl
  rw [hruns] at hfinishes
  obtain ⟨g, hfinished, hrecord⟩ := hfinishes.finished ⟨12⟩ List.mem_cons_self _ rfl
  exact ⟨g, by rw [Machine.Holds, hrecord], hfinished⟩

end ScriptRealm
