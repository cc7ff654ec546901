import ScriptRealm.Proofs.Generator.Resumption

/-!
# `ScriptRealm.Proofs.Generator.Moments`: every moment at which code runs

The library is left and entered again at many points: it calls getters,
callbacks and a delegate's methods, it resumes bodies, and the code that
runs there makes requests of its own. A `Moment` is one of these points,
with the runs of generators that are under way listed on a stack.
`Next` leads from one moment to the next. A script makes a request and
sees the reply, or the request starts other code before it is answered.

Operations are functions of the hooks they are given, so what code an
operation starts is read off what it depends on. `Hooks.Enters` says that
an operation starts a piece of code in a machine: what the operation comes
to changes with what that code would do in that very machine.

`Realm.Accounts` is the invariant. A generator executes exactly if a run
of it is on the stack. It has no delegate while its body runs, and at rest
it holds what its state tells (`Generator.Sound`). The lemmas about two
hooks in `ScriptRealm.Proofs.Generator.Turns` say in which realms a
resumption starts code, and so what holds when the stack has grown by one.

`reachable_accounts` is the result for every moment that can be reached
from a new realm. Two consequences stand beside the invariant. A
generator on the stack refuses to be resumed, whatever would run. And in
every turn of a resumption the generator has what the turn needs, so that
the two internal faults of the driver are never raised.
-/

set_option autoImplicit false

namespace ScriptRealm

open ScriptRealm.Action (Agree AgreeAt Keeps)

variable {P : Platform} {α : Type}

/-! ### Starting code -/

/-- Code that the library starts: a call, or the body of a generator. -/
inductive Entry (P : Platform) where
  | call (f this : Value) (args : List Value)
  | body (body : P.Body) (frame : Frame) (completion : Completion)

def Entry.isBody : Entry P → Bool
  | .call .. => false
  | .body .. => true

namespace Hooks

/-- Two hooks differ at most in what an entry does in the machine `k`. -/
structure AgreeOutside (entry : Entry P) (k : Machine P) (hooks hooks' : Hooks P) : Prop where
  call : ∀ f this args m, ¬ (entry = .call f this args ∧ m = k) →
    hooks.call f this args m = hooks'.call f this args m
  resume : ∀ body frame completion m, ¬ (entry = .body body frame completion ∧ m = k) →
    hooks.resume body frame completion m = hooks'.resume body frame completion m
  rounds : hooks.rounds = hooks'.rounds

/-- From `m`, an operation starts an entry in the machine `k`: what the
operation comes to depends on what the entry does there. -/
def Enters (hooks : Hooks P) (op : Hooks P → Action P α) (m : Machine P) (entry : Entry P)
    (k : Machine P) : Prop :=
  ∃ hooks', hooks.AgreeOutside entry k hooks' ∧ op hooks m ≠ op hooks' m

open Classical in
/-- Hooks that stop when an entry is started in the machine `k`. -/
noncomputable def stopAt (hooks : Hooks P) (entry : Entry P) (k : Machine P) : Hooks P where
  call f this args m :=
    if entry = .call f this args ∧ m = k then .exhausted else hooks.call f this args m
  resume body frame completion m :=
    if entry = .body body frame completion ∧ m = k then .exhausted
    else hooks.resume body frame completion m
  rounds := hooks.rounds

/-- Hooks that stop at an entry differ from the others nowhere else. So an
operation that they bring to a stop starts the entry. -/
theorem agreeOutside_stopAt (hooks : Hooks P) (entry : Entry P) (k : Machine P) :
    hooks.AgreeOutside entry k (hooks.stopAt entry k) where
  call _ _ _ _ hne := (if_neg hne).symm
  resume _ _ _ _ hne := (if_neg hne).symm
  rounds := rfl

variable {hooks : Hooks P} {op : Hooks P → Action P α} {m k : Machine P} {entry : Entry P}

/-- An operation on which hooks that call alike within `I` agree starts calls
only, and within `I`. For if it started anything else, hooks that differ in
that alone would call alike within `I`, and yet the operation would tell them
apart. -/
theorem Enters.within {I : Realm P → Prop} (henters : hooks.Enters op m entry k)
    (hkeeps : hooks.Agree I hooks)
    (hop : ∀ hooks', hooks.Agree I hooks' → op hooks m = op hooks' m) :
    entry.isBody = false ∧ I k.realm := by
  obtain ⟨hooks', houtside, hne⟩ := henters
  by_cases hwithin : entry.isBody = false ∧ I k.realm
  · exact hwithin
  · -- Otherwise the hooks differ where no call is made.
    refine absurd (hop hooks' ⟨fun f this args m₀ hm₀ => ⟨?_, ?_⟩, houtside.rounds⟩) hne
    · apply houtside.call
      rintro ⟨rfl, rfl⟩
      exact hwithin ⟨rfl, hm₀⟩
    · exact (hkeeps.call f this args m₀ hm₀).meets

/-- A resumption that starts code is that of a generator at rest: one that
executes, or none at all, refuses before any code is started. -/
theorem Enters.rest {h : Handle} {completion : Completion}
    (henters : hooks.Enters (Generator.resume · h completion) m entry k) :
    ∃ g, m.Holds h g ∧ g.state ≠ .executing := by
  obtain ⟨hooks', -, hne⟩ := henters
  cases hgenerator : (m.realm.record h).kind.generator? with
  | none =>
      -- The two hooks would come to the same, since neither is asked anything.
      refine absurd ?_ hne
      show Generator.resume hooks h completion m = Generator.resume hooks' h completion m
      rw [Generator.resume_of_none _ hgenerator, Generator.resume_of_none _ hgenerator]
  | some g =>
      have hm : m.Holds h g := Kind.eq_generator hgenerator
      refine ⟨g, hm, fun hexecuting => absurd ?_ hne⟩
      show Generator.resume hooks h completion m = Generator.resume hooks' h completion m
      rw [Generator.resume_of_executing _ hm hexecuting,
        Generator.resume_of_executing _ hm hexecuting]

/-- The resumption of a generator at rest starts code only while the generator
executes, and its body only when it has no delegate. Beside the generator,
what the code that is run keeps holds by then. The argument is that of
`Enters.within`, with hooks that drive alike. -/
theorem Enters.driven_beside {I : Realm P → Prop} {h : Handle} {g : Generator P}
    {completion : Completion}
    (henters : hooks.Enters (Generator.resume · h completion) m entry k)
    (hI : Realm.Beside True h I) (hself : hooks.DriveAlike g.Sound g.lastLocation I h hooks)
    (hm : Generator.Driven I h g m.realm) (hrest : g.state ≠ .executing) :
    ∃ g', Generator.Driven I h g' k.realm ∧ g'.Executing g.lastLocation ∧
      (entry.isBody = true → g.Sound → g'.delegate = none) := by
  obtain ⟨hooks', houtside, hne⟩ := henters
  by_cases hdriven : ∃ g', Generator.Driven I h g' k.realm ∧
      g'.Executing g.lastLocation ∧ (entry.isBody = true → g.Sound → g'.delegate = none)
  · exact hdriven
  · -- Otherwise the hooks differ where the driving runs no code.
    have halike : hooks.DriveAlike g.Sound g.lastLocation I h hooks' := by
      refine ⟨?_, ?_, houtside.rounds⟩
      · intro g' hexecuting hbody f this args m₀ hm₀
        refine ⟨houtside.call f this args m₀ ?_,
          (hself.call g' hexecuting hbody f this args m₀ hm₀).meets⟩
        -- A call of this kind is what the conclusion is about, and it was excluded.
        rintro ⟨rfl, rfl⟩
        exact hdriven ⟨g', hm₀, hexecuting, nofun⟩
      · intro g' hexecuting hbody hdelegate body frame completion m₀ hm₀
        refine ⟨houtside.resume body frame completion m₀ ?_,
          (hself.resume g' hexecuting hbody hdelegate body frame completion m₀ hm₀).meets⟩
        rintro ⟨rfl, rfl⟩
        exact hdriven ⟨g', hm₀, hexecuting, fun _ => hdelegate⟩
    exact absurd (Generator.resume_agree hI halike hm hrest completion).same hne

/-- In particular, by the time the code is started every object beside the
generator has passed. -/
theorem Enters.driven {h : Handle} {g : Generator P} {completion : Completion}
    (henters : hooks.Enters (Generator.resume · h completion) m entry k)
    (hpasses : hooks.Keeps Realm.Passes) (hm : m.Holds h g) (hrest : g.state ≠ .executing) :
    ∃ g', Generator.Driven (m.realm.PassesBeside h) h g' k.realm ∧ g'.state = .executing ∧
      (entry.isBody = true → g.Sound → g'.delegate = none) := by
  obtain ⟨g', hdriven, hexecuting, hdelegate⟩ := henters.driven_beside (.passes h m.realm)
    (hpasses.driveBeside g.Sound m.realm h) ⟨hm, .refl h m.realm⟩ hrest
  exact ⟨g', hdriven, hexecuting.1, hdelegate⟩

end Hooks

/-! ### The invariant -/

/-- A run of a generator that is under way. -/
structure Run where
  generator : Handle
  /-- Whether its body is running, and not a delegate or a getter. -/
  inBody : Bool

/-- The generators of a realm are as the runs on the stack tell. -/
structure Realm.Accounts (r : Realm P) (stack : List Run) : Prop where
  /-- A generator at rest holds what its state tells. -/
  sound : ∀ h g, (r.record h).kind = .generator g → g.Sound
  /-- A generator that executes is on the stack. -/
  executing : ∀ h g, (r.record h).kind = .generator g → g.state = .executing →
    ∃ run ∈ stack, run.generator = h
  /-- What is on the stack is a generator that executes, and has no delegate
  while its body runs. -/
  onStack : ∀ run ∈ stack, ∃ g, (r.record run.generator).kind = .generator g ∧
    g.state = .executing ∧ (run.inBody = true → g.delegate = none)

namespace Kind.Passes

variable {old new : Kind P} {g : Generator P}

/-- A generator that executes has been executing. A new one does not execute,
and one at rest is at rest after others have run. -/
theorem executing_eq (h : old.Passes new) (hnew : new = .generator g)
    (hexecuting : g.state = .executing) : old = .generator g := by
  cases hold : old.generator? with
  | none => exact absurd hexecuting (h.fresh hold g hnew).1
  | some g₀ =>
      have hkind := Kind.eq_generator hold
      by_cases hexecuting₀ : g₀.state = .executing
      · rw [hkind, ← hnew, h.executing g₀ hkind hexecuting₀]
      -- It cannot have been at rest, or it would be at rest now.
      · obtain ⟨g', hnew', hrest, -, -⟩ := h.resting g₀ hkind hexecuting₀
        rw [hnew] at hnew'
        cases hnew'
        exact absurd hexecuting hrest

/-- A generator that has passed is sound if all there was before is. A new one
is sound from the start, and one that executes is as it was. -/
theorem sound (h : old.Passes new) (hold : ∀ g, old = .generator g → g.Sound)
    (hnew : new = .generator g) : g.Sound := by
  cases hgenerator : old.generator? with
  | none => exact (h.fresh hgenerator g hnew).2
  | some g₀ =>
      have hkind := Kind.eq_generator hgenerator
      -- One that executes was not touched. One at rest is sound again.
      by_cases hexecuting : g₀.state = .executing
      · rw [h.executing g₀ hkind hexecuting] at hnew
        cases hnew
        exact hold _ hkind
      · obtain ⟨g', hnew', -, hsound, -⟩ := h.resting g₀ hkind hexecuting
        rw [hnew] at hnew'
        cases hnew'
        exact hsound (hold g₀ hkind)

end Kind.Passes

/-- Of a generator that executes, nothing is said. -/
theorem Generator.sound_of_executing {g : Generator P} (h : g.state = .executing) : g.Sound := by
  refine ⟨fun hstate => ?_, fun hstate => ?_, fun hstate => ?_⟩
  all_goals
    rw [h] at hstate
    cases hstate

namespace Realm.Accounts

variable {r s : Realm P} {stack : List Run}

/-- Objects pass without a run being begun or ended. So the stack is as good
for the later realm. -/
theorem passes (haccounts : r.Accounts stack) (hpasses : r.Passes s) : s.Accounts stack where
  sound h g hg := (hpasses h).sound (haccounts.sound h) hg
  executing h g hg hexecuting :=
    haccounts.executing h g ((hpasses h).executing_eq hg hexecuting) hexecuting
  onStack run hrun := by
    obtain ⟨g, hg, hexecuting, hdelegate⟩ := haccounts.onStack run hrun
    exact ⟨g, (hpasses run.generator).executing g hg hexecuting, hexecuting, hdelegate⟩

/-- A run is begun by driving a generator that was at rest. It goes on top of
the stack, and the runs below are of other generators, which have passed. -/
theorem push {h : Handle} {g g' : Generator P} (haccounts : r.Accounts stack)
    (hg : (r.record h).kind = .generator g) (hrest : g.state ≠ .executing)
    (hdriven : Generator.Driven (r.PassesBeside h) h g' s) (hexecuting : g'.state = .executing)
    {inBody : Bool} (hdelegate : inBody = true → g'.delegate = none) :
    s.Accounts (⟨h, inBody⟩ :: stack) := by
  refine ⟨fun h₀ g₀ hg₀ => ?_, fun h₀ g₀ hg₀ hexecuting₀ => ?_, fun run hrun => ?_⟩
  -- The new run is of this generator, and all others have passed.
  · by_cases hh : h₀ = h
    · subst hh
      rw [hdriven.kind] at hg₀
      cases hg₀
      exact Generator.sound_of_executing hexecuting
    · exact (hdriven.beside h₀ hh).sound (haccounts.sound h₀) hg₀
  · by_cases hh : h₀ = h
    · exact ⟨⟨h, inBody⟩, List.mem_cons_self, hh.symm⟩
    · have hold := (hdriven.beside h₀ hh).executing_eq hg₀ hexecuting₀
      obtain ⟨run, hrun, hgenerator⟩ := haccounts.executing h₀ g₀ hold hexecuting₀
      exact ⟨run, List.mem_cons_of_mem _ hrun, hgenerator⟩
  · rcases List.mem_cons.mp hrun with rfl | hrun
    · exact ⟨g', hdriven.kind, hexecuting, hdelegate⟩
    · obtain ⟨g₀, hg₀, hexecuting₀, hdelegate₀⟩ := haccounts.onStack run hrun
      -- An older run is of a generator that executed while this one was at rest.
      have hne : run.generator ≠ h := by
        intro heq
        rw [heq, hg] at hg₀
        cases hg₀
        exact hrest hexecuting₀
      exact ⟨g₀, (hdriven.beside _ hne).executing g₀ hg₀ hexecuting₀, hexecuting₀, hdelegate₀⟩

end Realm.Accounts

/-! ### Moments -/

/-- What is going on: a script is about to take its next step, or an entry
is about to be run. -/
inductive Activity (P : Platform) : Type 1 where
  | script {α : Type} (script : Script P α)
  | entry (entry : Entry P)

/-- A moment at which code runs: the depth that is left for nested calls,
the runs of generators that are under way, the innermost first, what is
going on, and the machine. -/
structure Moment (P : Platform) where
  depth : Nat
  stack : List Run
  activity : Activity P
  machine : Machine P

/-- The stack under an entry: an operation that resumes a generator puts a
run of it there. -/
def Entry.stack (entry : Entry P) (resumed? : Option Handle) (stack : List Run) : List Run :=
  match resumed? with
  | some h => ⟨h, entry.isBody⟩ :: stack
  | none => stack

/-- From one moment to the next. -/
inductive Moment.Next (embedder : Embedder P) (rounds : Nat) : Moment P → Moment P → Prop where
  /-- A request is answered. -/
  | reply {depth : Nat} {stack : List Run} {α : Type} {request : Request P}
      {next : Except Fault request.Reply → Script P α} {m m' : Machine P}
      {reply : Except Fault request.Reply}
      (hreply : (request.perform (embedder.hooks rounds depth)).attempt m = .done reply m') :
      Next embedder rounds ⟨depth, stack, .script (.ask request next), m⟩
        ⟨depth, stack, .script (next reply), m'⟩
  | consult {depth : Nat} {stack : List Run} {α : Type} {next : P.Memory → Script P α}
      {m : Machine P} :
      Next embedder rounds ⟨depth, stack, .script (.recall next), m⟩
        ⟨depth, stack, .script (next m.memory), m⟩
  | remember {depth : Nat} {stack : List Run} {α : Type} {memory : P.Memory}
      {next : Script P α} {m : Machine P} :
      Next embedder rounds ⟨depth, stack, .script (.remember memory next), m⟩
        ⟨depth, stack, .script next, { m with memory }⟩
  /-- A request starts other code before it is answered. -/
  | request {depth : Nat} {stack : List Run} {α : Type} {request : Request P}
      {next : Except Fault request.Reply → Script P α} {m k : Machine P} {entry : Entry P}
      (henters : (embedder.hooks rounds depth).Enters (request.perform ·) m entry k) :
      Next embedder rounds ⟨depth, stack, .script (.ask request next), m⟩
        ⟨depth, entry.stack request.resumed? stack, .entry entry, k⟩
  /-- A call of a native function runs its script. -/
  | native {depth : Nat} {stack : List Run} {f : Handle} {this : Value} {args : List Value}
      {m : Machine P} {data : FunctionData P} {code : P.Code}
      (hkind : (m.realm.record f).kind = .function data) (hcode : data.code = .native code) :
      Next embedder rounds ⟨depth + 1, stack, .entry (.call (.object f) this args), m⟩
        ⟨depth, stack, .script (embedder.function code this args), m⟩
  /-- A call of a function of a new realm starts other code. -/
  | intrinsic {depth : Nat} {stack : List Run} {f : Handle} {this : Value} {args : List Value}
      {m k : Machine P} {data : FunctionData P} {i : IntrinsicFunction} {entry : Entry P}
      (hkind : (m.realm.record f).kind = .function data) (hcode : data.code = .intrinsic i)
      (henters : (embedder.hooks rounds depth).Enters (i.run · this args) m entry k) :
      Next embedder rounds ⟨depth + 1, stack, .entry (.call (.object f) this args), m⟩
        ⟨depth, entry.stack (i.resumed? this) stack, .entry entry, k⟩
  /-- A body that is resumed runs its script. -/
  | body {depth : Nat} {stack : List Run} {body : P.Body} {frame : Frame}
      {completion : Completion} {m : Machine P} :
      Next embedder rounds ⟨depth + 1, stack, .entry (.body body frame completion), m⟩
        ⟨depth, stack, .script (embedder.body body frame completion), m⟩

/-- The moments that are reached from a new realm by running scripts. -/
inductive Moment.Reachable (embedder : Embedder P) (rounds : Nat) (config : Config) :
    Moment P → Prop where
  | start {α : Type} (depth : Nat) (memory : P.Memory) (script : Script P α) :
      Reachable embedder rounds config ⟨depth, [], .script script, ⟨.initial config, memory⟩⟩
  | next {moment moment' : Moment P} (hreachable : Reachable embedder rounds config moment)
      (hnext : Moment.Next embedder rounds moment moment') :
      Reachable embedder rounds config moment'

/-! ### What a step preserves -/

/-- An operation either resumes one generator and depends on the hooks
through that alone, or makes calls only. -/
def Resumes (op : Hooks P → Action P α) : Option Handle → Prop
  | some h => ∃ completion, ∀ hooks hooks' m,
      Generator.resume hooks h completion m = Generator.resume hooks' h completion m →
      op hooks m = op hooks' m
  | none => ∀ I, Realm.Stable True I → ∀ hooks hooks' : Hooks P, hooks.Agree I hooks' →
      Agree I (op hooks) (op hooks')

/-- A request either resumes a generator and does nothing else, or makes calls
only. -/
theorem Request.resumes (request : Request P) :
    Resumes (request.perform ·) request.resumed? := by
  cases hresumed : request.resumed? with
  | some h =>
      cases request with
      | resumeGenerator h' completion =>
          cases hresumed
          exact ⟨completion, fun _ _ _ hsame => hsame⟩
      | _ => cases hresumed
  | none =>
      intro I hI hooks hooks' hh
      -- Without a generator to resume the case for resumptions is empty.
      refine request.perform_agree hI hh (fun _ => trivial) fun h completion hsome => ?_
      rw [hresumed] at hsome
      cases hsome

/-- So does an intrinsic function. The methods of generators resume their
receiver, and what they do with the result does not depend on the hooks. -/
theorem IntrinsicFunction.resumes (i : IntrinsicFunction) (this : Value) (args : List Value) :
    Resumes (fun hooks : Hooks P => i.run hooks this args) (i.resumed? this) := by
  have hreceiver : ∀ (method : Method) (completion : Value → Completion) (h : Handle),
      Resumes (fun hooks : Hooks P =>
        Generator.resumeReceiver hooks method completion (.object h) args) (some h) := by
    intro method completion h
    refine ⟨completion (args.headD .undefined), fun hooks hooks' m hsame => ?_⟩
    -- What follows the resumption is the same action on both sides.
    show (Generator.resume hooks h _ >>= _) m = (Generator.resume hooks' h _ >>= _) m
    rw [Action.bind_apply, Action.bind_apply, hsame]
  cases hresumed : i.resumed? this with
  | some h =>
      -- The three methods that resume, one for each kind of completion.
      unfold IntrinsicFunction.resumed? at hresumed
      split at hresumed
      · cases hresumed
        exact hreceiver .next .next h
      · cases hresumed
        exact hreceiver .returning .returning h
      · cases hresumed
        exact hreceiver .throwing .throwing h
      · cases hresumed
  | none =>
      intro I hI hooks hooks' hh
      refine i.run_agree hI hh this args (fun _ _ _ => trivial) fun h completion hsome => ?_
      rw [hresumed] at hsome
      cases hsome

/-- Code that an operation starts by resuming a generator is started by the
resumption. -/
theorem Hooks.Enters.of_resumes {hooks : Hooks P} {op : Hooks P → Action P α} {m k : Machine P}
    {entry : Entry P} {h : Handle} (henters : hooks.Enters op m entry k)
    (hop : Resumes op (some h)) :
    ∃ completion, hooks.Enters (Generator.resume · h completion) m entry k := by
  obtain ⟨completion, hresume⟩ := hop
  obtain ⟨hooks', houtside, hne⟩ := henters
  exact ⟨completion, hooks', houtside, fun hsame => hne (hresume hooks hooks' m hsame)⟩

/-- Code that an operation starts finds the generators as the stack of the
entry tells. If the operation resumes no generator, all objects pass until
then and the stack stays; otherwise the resumption has begun a run. -/
theorem Realm.Accounts.enters {hooks : Hooks P} {op : Hooks P → Action P α}
    {resumed? : Option Handle} {m k : Machine P} {entry : Entry P} {stack : List Run}
    (haccounts : m.realm.Accounts stack) (hop : Resumes op resumed?)
    (hpasses : hooks.Keeps Realm.Passes) (henters : hooks.Enters op m entry k) :
    k.realm.Accounts (entry.stack resumed? stack) := by
  cases resumed? with
  | none =>
      -- No generator is driven here, so everything that was run has only passed objects.
      have hwithin := henters.within (I := m.realm.Passes)
        ⟨hpasses.call m.realm, rfl⟩
        fun hooks' hh => (hop _ (Realm.passes_law.stable m.realm) hooks hooks' hh m
          (.refl m.realm)).same
      exact haccounts.passes hwithin.2
  | some h =>
      -- A run begins. The generator was at rest, or else it would have refused.
      obtain ⟨completion, hresume⟩ := henters.of_resumes hop
      obtain ⟨g, hm, hrest⟩ := hresume.rest
      obtain ⟨g', hdriven, hexecuting, hdelegate⟩ := hresume.driven hpasses hm hrest
      exact haccounts.push hm hrest hdriven hexecuting fun hbody =>
        hdelegate hbody (haccounts.sound h g hm)

/-- What one step preserves: the generators stay as the stack tells. To a
request that is answered the stack is the same before and after, as every run
that it began is over. -/
theorem Moment.Next.accounts {embedder : Embedder P} {rounds : Nat} {moment moment' : Moment P}
    (hnext : Moment.Next embedder rounds moment moment')
    (haccounts : moment.machine.realm.Accounts moment.stack) :
    moment'.machine.realm.Accounts moment'.stack := by
  cases hnext with
  | @reply depth stack _ request next m m' reply hreply =>
      -- All that the request has run is over, and it has left objects as passing leaves them.
      have hpasses := (Realm.passes_law.perform_keeps (embedder.hooks_passes rounds depth) m.realm
        request (fun _ => trivial)).attempt m (.refl m.realm)
      have hmeets := hpasses.meets
      rw [hreply] at hmeets
      exact haccounts.passes hmeets
  | consult => exact haccounts
  | remember => exact haccounts
  | request henters =>
      exact haccounts.enters (Request.resumes _) (embedder.hooks_passes _ _) henters
  | native => exact haccounts
  | intrinsic hkind hcode henters =>
      exact haccounts.enters (IntrinsicFunction.resumes _ _ _) (embedder.hooks_passes _ _) henters
  | body => exact haccounts

/-! ### A new realm -/

namespace Realm

/-- Before it has functions, a new realm has ordinary objects only. -/
theorem kind_prototypes (config : Config) (h : Handle) :
    ((prototypes config : Realm P).record h).kind = .ordinary := by
  obtain ⟨index⟩ := h
  match index with
  | 0 | 1 | 2 | 3 | 4 | 5 => rfl
  | n + 6 => rfl

/-- What every change keeps holds of a new realm, if it holds of one that has
no functions yet. The functions are put there by changes. -/
theorem initial_of_stable {I : Realm P → Prop} (hI : Stable True I) {config : Config}
    (hordinary : I (prototypes config)) : I (initial config) := by
  refine initial_induction (M := fun r (_ : Realm P) => I r) config config hordinary ?_ ?_
  -- A method is allocated and then stored, and a tag is only stored.
  · exact fun _ _ h key _ _ _ _ hr =>
      hI _ _ (.rawInsert _ h key _ trivial) (hI.allocate hr trivial)
  · exact fun r _ h _ hr => hI _ _ (.rawInsert r h _ _ trivial) hr

/-- A new realm has no generators, and so there is nothing to be on the
stack. -/
theorem accounts_initial (config : Config) : (initial config : Realm P).Accounts [] := by
  -- The empty stack is kept by changes, as they pass all objects.
  have hI : Stable True fun r : Realm P => r.Accounts [] :=
    fun _ _ hchange hr => hr.passes hchange.passes
  refine initial_of_stable hI ⟨fun h g hg => ?_, fun h g hg _ => ?_, nofun⟩
  all_goals
    rw [kind_prototypes] at hg
    cases hg

end Realm

/-- At every moment of every run the generators are accounted for by the stack
of resumptions under way. The induction is on the steps, and the stack is
empty at the start. -/
theorem Moment.Reachable.accounts {embedder : Embedder P} {rounds : Nat} {config : Config}
    {moment : Moment P} (hreachable : Moment.Reachable embedder rounds config moment) :
    moment.machine.realm.Accounts moment.stack := by
  induction hreachable with
  | start depth memory script => exact Realm.accounts_initial config
  | next _ hnext ih => exact hnext.accounts ih

/-! ### The turns of a resumption -/

namespace Generator

/-- The turns that a resumption takes, each with the rounds that are left
and the machine it is taken in. -/
inductive Turns (hooks : Hooks P) (h : Handle) (completion : Completion) (m : Machine P) :
    Nat → Turn → Machine P → Prop where
  /-- A generator at rest that is entered begins with its delegate, if it
  has one. -/
  | first (g : Generator P) (hm : m.Holds h g)
      (hstate : g.state = .suspendedYield ∨
        g.state = .suspendedStart ∧ ∃ value, completion = .next value) :
      Turns hooks h completion m hooks.rounds
        (if g.delegate.isSome then .delegate completion else .body completion)
        (m.setGenerator h { g with state := .executing })
  | next {rounds : Nat} {turn turn' : Turn} {m₁ m₂ : Machine P}
      (hturns : Turns hooks h completion m (rounds + 1) turn m₁)
      (hturn : takeTurn hooks h turn m₁ = .done (.turn turn') m₂) :
      Turns hooks h completion m rounds turn' m₂

variable {hooks : Hooks P} {h : Handle} {completion : Completion} {m m₁ : Machine P}
  {rounds : Nat} {turn : Turn}

/-- A resumption that has come to a turn goes on from there. By induction on
the turns taken. -/
theorem Turns.resume_eq (hturns : Turns hooks h completion m rounds turn m₁) :
    resume hooks h completion m = run hooks h rounds turn m₁ := by
  induction hturns with
  | first g hm hstate =>
      rw [resume, Action.bind_apply, find_apply hm]
      -- Both ways to enter a generator begin by marking it as executing.
      rcases hstate with hstate | ⟨hstate, value, rfl⟩
      · simp only [hstate]
        rw [Action.bind_apply, modify_apply hm]
      · simp only [hstate]
        rw [Action.bind_apply, modify_apply hm]
  | next _ hturn ih => rw [ih, run_of_turn hturn]

/-- In every turn the generator has what the turn needs, if it was sound when
the resumption began. By induction on the turns: the first finds what a
generator at rest holds, and each leaves what the next one needs. -/
theorem Turns.ready (hpasses : hooks.Keeps Realm.Passes)
    (hsound : ∀ g, m.Holds h g → g.Sound)
    (hturns : Turns hooks h completion m rounds turn m₁) :
    ∃ g, Driven (m.realm.PassesBeside h) h g m₁.realm ∧ g.state = .executing ∧
      turn.Ready True g := by
  induction hturns with
  | first g hm hstate =>
      -- A generator that is entered was suspended, at its start or at a yield.
      have hrest : g.state ≠ .executing ∧ g.state ≠ .completed := by
        rcases hstate with hstate | ⟨hstate, -⟩
        · rw [hstate]
          decide
        · rw [hstate]
          decide
      have hdriven : Driven (m.realm.PassesBeside h) h g m.realm := ⟨hm, .refl h m.realm⟩
      exact ⟨_, hdriven.setGenerator (.passes h m.realm) _, rfl,
        ready_first hrest.1 hrest.2 (fun _ => hsound g hm) completion⟩
  | next _ hturn ih =>
      obtain ⟨g, hdriven, hexecuting, hready⟩ := ih
      -- The turn that was taken says what it has left.
      have hmeets := (takeTurn_agree (.passes h m.realm) (hpasses.driveBeside True m.realm h)
        hdriven ⟨hexecuting, rfl⟩ _ hready).meets
      rw [hturn] at hmeets
      obtain ⟨g', hdriven', hexecuting', hready'⟩ := hmeets
      exact ⟨g', hdriven', hexecuting'.1, hready'⟩

/-- The first resumption of a generator comes to no end if its body does
not. The body is out of the generator then. -/
theorem resume_of_exhausted {g : Generator P} {body : P.Body} {value : Value} (hm : m.Holds h g)
    (hstate : g.state = .suspendedStart) (hdelegate : g.delegate = none)
    (hbody : g.body = some body) (hrounds : hooks.rounds = rounds + 1)
    (hexhausted : hooks.resume body g.frame (.next value)
      ((m.setGenerator h { g with state := .executing }).setGenerator h
        { g with state := .executing, body := none, frame := {} }) = .exhausted) :
    resume hooks h (.next value) m = .exhausted := by
  have hfirst : Turns hooks h (.next value) m (rounds + 1) (.body (.next value))
      (m.setGenerator h { g with state := .executing }) := by
    -- The body is taken out and resumed, and this is where the hooks stop.
    have hturns : Turns hooks h (.next value) m hooks.rounds _ _ :=
      .first g hm (.inr ⟨hstate, value, rfl⟩)
    have hnone : g.delegate.isSome = false := by rw [hdelegate]; rfl
    rw [hnone, hrounds] at hturns
    exact hturns
  have hturn : takeTurn hooks h (.body (.next value))
      (m.setGenerator h { g with state := .executing }) = .exhausted := by
    have hbody : ({ g with state := .executing } : Generator P).body = some body := hbody
    refine (bodyTurn_apply hooks (hm.setGenerator _) hbody _).trans ?_
    rw [Action.bind_apply, hexhausted]
  rw [hfirst.resume_eq, run, Action.bind_apply, Action.attempt, hturn]

/-- The first resumption of a generator starts its body. Hooks that stop there
bring the resumption to no end, while with the given ones it has an end. -/
theorem enters_body {g : Generator P} {body : P.Body} {value : Value} (hm : m.Holds h g)
    (hstate : g.state = .suspendedStart) (hdelegate : g.delegate = none)
    (hbody : g.body = some body) (hrounds : hooks.rounds = rounds + 1)
    (hends : resume hooks h (.next value) m ≠ .exhausted) :
    hooks.Enters (resume · h (.next value)) m (.body body g.frame (.next value))
      ((m.setGenerator h { g with state := .executing }).setGenerator h
        { g with state := .executing, body := none, frame := {} }) := by
  refine ⟨hooks.stopAt _ _, hooks.agreeOutside_stopAt _ _, fun hsame => hends (hsame.trans ?_)⟩
  exact resume_of_exhausted hm hstate hdelegate hbody hrounds (if_pos ⟨rfl, rfl⟩)

end Generator

/-- At every moment at which code runs, in every realm that is reached from
a new one, whatever the embedder's code does:

- generators are as the runs on the stack tell;
- a generator that is on the stack refuses to be resumed, whatever hooks
  there are to run code with, and leaves the machine as it is;
- in every turn of every resumption that can be made, the generator has
  the body or the delegate that the turn needs. -/
theorem reachable_accounts (embedder : Embedder P) (rounds : Nat) (config : Config)
    (moment : Moment P) (hreachable : Moment.Reachable embedder rounds config moment) :
    moment.machine.realm.Accounts moment.stack ∧
    (∀ run ∈ moment.stack, ∀ hooks completion,
      Generator.resume hooks run.generator completion moment.machine
        = .failed .reentrancy moment.machine) ∧
    (∀ depth h completion rounds' turn m,
      Generator.Turns (embedder.hooks rounds depth) h completion moment.machine rounds' turn m →
      Generator.resume (embedder.hooks rounds depth) h completion moment.machine
        = Generator.run (embedder.hooks rounds depth) h rounds' turn m ∧
      ∃ g, m.Holds h g ∧ turn.Ready True g) := by
  have haccounts := hreachable.accounts
  refine ⟨haccounts, ?_, ?_⟩
  · intro run hrun hooks completion
    obtain ⟨g, hg, hexecuting, -⟩ := haccounts.onStack run hrun
    exact Generator.resume_of_executing hooks hg hexecuting completion
  · intro depth h completion rounds' turn m hturns
    obtain ⟨g, hdriven, -, hready⟩ :=
      hturns.ready (embedder.hooks_passes rounds depth) (haccounts.sound h)
    exact ⟨hturns.resume_eq, g, hdriven.kind, hready⟩

/-- A script that makes a generator with the given steps and frame, and resumes
it. -/
def Script.resumeNewGenerator (steps : List Step) (frame : Frame) : Script Platform.fixed Unit :=
  .ask (.createGenerator steps frame) fun reply =>
  .ask (.resumeGenerator (reply.toOption.getD ⟨0⟩) (.next .undefined)) fun _ => .done ()

/-- The body of the generator is reached. Its run is on the stack there, and
a second resumption is refused. -/
theorem reachable_accounts_beginning :
    ∃ m, Moment.Reachable Embedder.fixed 1 {} ⟨1, [⟨⟨12⟩, true⟩],
        .entry (.body [.yielded .null] {} (.next .undefined)), m⟩ ∧
      m.realm.Accounts [⟨⟨12⟩, true⟩] ∧
      ∀ hooks completion, Generator.resume hooks ⟨12⟩ completion m = .failed .reentrancy m := by
  have hstart : Moment.Reachable Embedder.fixed 1 {}
      ⟨1, [], .script (.resumeNewGenerator [.yielded .null] {}), ⟨.initial {}, ()⟩⟩ :=
    .start 1 () (.resumeNewGenerator [.yielded .null] {})
  -- One request makes the generator, and the other one resumes it.
  have hmade := hstart.next (.reply rfl)
  have hends : Generator.resume (Embedder.fixed.hooks 1 1) ⟨12⟩ (.next .undefined)
      ⟨((Realm.initial {}).createGenerator [.yielded .null] {}).2, ()⟩ ≠ .exhausted := by
    intro h
    have hdone :
        Outcome.done (P := Platform.fixed) (⟨.null, false⟩ : IterResult) _ = .exhausted := h
    cases hdone
  have hbody := hmade.next (.request (Generator.enters_body
    (g := Generator.create (P := Platform.fixed) [.yielded .null] {}) rfl rfl rfl rfl rfl hends))
  have h := reachable_accounts Embedder.fixed 1 {} _ hbody
  exact ⟨_, hbody, h.1, h.2.1 _ List.mem_cons_self⟩

end ScriptRealm
