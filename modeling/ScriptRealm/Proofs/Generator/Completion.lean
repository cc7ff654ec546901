import ScriptRealm.Proofs.Generator.Moments

/-!
# `ScriptRealm.Proofs.Generator.Completion`: completed generators

A completed generator answers from its record alone. Sent a value it is
done, told to return it returns what it is told, and what is thrown into
it comes back with the place that its own end is remembered by.

Three questions are settled here. The first is what that place is. By
`Generator.resume_agree` it is the place of the fault that the generator
ended with, and none if a result came, provided that it remembered nothing
before. `Realm.Unmarked` says so: a generator has a place only once it has
completed.

The second is whether this invariant holds, which `Moment.Reachable.unmarked`
answers for every moment that is reached from a new realm. A resumption
keeps it because the turns write no place before the end, and because the
invariant holds beside the generator all along (`Realm.UnmarkedBeside`).

The third is what becomes of a completed generator later on. Nothing does:
no step to a next moment changes it (`Moment.Next.holds_completed`), and
since it does not execute, no run of it is ever on the stack again.
-/

set_option autoImplicit false

namespace ScriptRealm

variable {P : Platform} {α : Type}

namespace Generator

variable {h : Handle} {g : Generator P} {m : Machine P}

/-- A completed generator that is sent a value is done. The hooks are not
asked, so they may be any. -/
theorem resume_next_of_completed (hooks : Hooks P) (hm : m.Holds h g)
    (hcompleted : g.state = .completed) (value : Value) :
    resume hooks h (.next value) m = .done ⟨.undefined, true⟩ m := by
  rw [resume, Action.bind_apply, find_apply hm]
  simp only [hcompleted]
  rfl

/-- A completed generator that is told to return does. -/
theorem resume_returning_of_completed (hooks : Hooks P) (hm : m.Holds h g)
    (hcompleted : g.state = .completed) (value : Value) :
    resume hooks h (.returning value) m = .done ⟨value, true⟩ m := by
  rw [resume, Action.bind_apply, find_apply hm]
  simp only [hcompleted]
  rfl

/-- What is thrown into a completed generator comes back, with the place
that the generator remembers. -/
theorem resume_throwing_of_completed (hooks : Hooks P) (hm : m.Holds h g)
    (hcompleted : g.state = .completed) (value : Value) :
    resume hooks h (.throwing value) m = .failed (.thrown value g.lastLocation) m := by
  rw [resume, Action.bind_apply, find_apply hm]
  simp only [hcompleted]
  rfl

/-- The resumption of a completed generator runs no code, and leaves the
machine alone. -/
theorem resume_of_completed (hm : m.Holds h g) (hcompleted : g.state = .completed)
    (completion : Completion) :
    ∃ outcome, (∀ hooks, resume hooks h completion m = outcome) ∧
      outcome.Meets (fun _ m' => m' = m) (fun _ m' => m' = m) := by
  cases completion with
  | next value =>
      exact ⟨_, fun hooks => resume_next_of_completed hooks hm hcompleted value, rfl⟩
  | returning value =>
      exact ⟨_, fun hooks => resume_returning_of_completed hooks hm hcompleted value, rfl⟩
  | throwing value =>
      exact ⟨_, fun hooks => resume_throwing_of_completed hooks hm hcompleted value, rfl⟩

end Generator

/-! ### Places -/

namespace Realm

/-- A generator remembers a place only once it has completed. -/
def Unmarked (r : Realm P) : Prop :=
  ∀ h g, (r.record h).kind = .generator g → g.state ≠ .completed → g.lastLocation = none

/-- No generator but the one under `h` remembers a place before it has
completed. -/
def UnmarkedBeside (h : Handle) (r : Realm P) : Prop :=
  ∀ h' g, h' ≠ h → (r.record h').kind = .generator g → g.state ≠ .completed →
    g.lastLocation = none

variable {r s : Realm P} {h : Handle}

/-- What holds of every generator holds of those beside one. -/
theorem Unmarked.beside (hr : r.Unmarked) (h : Handle) : r.UnmarkedBeside h :=
  fun h' g _ => hr h' g

/-- The generator under `h` may come last. If it keeps to the rule like all
others, the rule holds in the realm. -/
theorem UnmarkedBeside.unmarked {g : Generator P} (hr : r.UnmarkedBeside h)
    (hg : (r.record h).kind = .generator g) (hrule : g.state ≠ .completed → g.lastLocation = none) :
    r.Unmarked := by
  intro h' g' hg' hstate
  by_cases hh : h' = h
  · subst hh
    rw [hg] at hg'
    cases hg'
    exact hrule hstate
  · exact hr h' g' hh hg' hstate

/-- What is new in a realm that has changed is a generator that has been
nowhere yet, and what is not new is as it was. No change writes a place; that
is left to resumptions. -/
theorem Change.lastLocation (hchange : Change True r s) {g : Generator P}
    (hg : (s.record h).kind = .generator g) :
    (r.record h).kind = .generator g ∨ g.lastLocation = none := by
  rcases hchange.kind_eq h with hsame | ⟨-, hnone | ⟨body, frame, hnew⟩⟩
  · rw [hsame] at hg
    exact .inl hg
  · rw [hg] at hnone
    cases hnone
  · rw [hnew] at hg
    cases hg
    exact .inr rfl

/-- A change of a realm gives no generator a place. -/
theorem Unmarked.change (hr : r.Unmarked) (hchange : Change True r s) : s.Unmarked :=
  fun h g hg hstate => (hchange.lastLocation hg).elim (fun hold => hr h g hold hstate) id

/-- Changing the generator under `h` changes nothing beside it. So the rule
for the others is known while that one is driven, whatever place it may have
got meanwhile. -/
theorem Beside.unmarked (h : Handle) : Beside (P := P) True h (UnmarkedBeside h) where
  change _ _ hchange hr h' g hne hg hstate :=
    (hchange.lastLocation hg).elim (fun hold => hr h' g hne hold hstate) id
  drive r g g' _ hr h' g₀ hne hg₀ hstate := by
    rw [setKind, record_update_of_ne hne] at hg₀
    exact hr h' g₀ hne hg₀ hstate

end Realm

/-! ### Every moment -/

/-- Both of two demands on the end are met if each is. An action that was
stopped meets both. -/
theorem Outcome.Meets.and {done done' : α → Machine P → Prop}
    {failed failed' : Fault → Machine P → Prop} {outcome : Outcome P α}
    (h : outcome.Meets done failed) (h' : outcome.Meets done' failed') :
    outcome.Meets (fun a m => done a m ∧ done' a m)
      (fun fault m => failed fault m ∧ failed' fault m) := by
  cases outcome with
  | done a m => exact ⟨h, h'⟩
  | failed fault m => exact ⟨h, h'⟩
  | exhausted => trivial

namespace Realm

/-- Every object has passed, and no generator has got a place before it
completed. -/
def StaysUnmarked (r s : Realm P) : Prop := r.Passes s ∧ (r.Unmarked → s.Unmarked)

variable {r s t : Realm P} {h : Handle}

/-- Nothing has happened to any generator. -/
theorem StaysUnmarked.refl (r : Realm P) : r.StaysUnmarked r := ⟨.refl r, id⟩

/-- Two stretches of a run, one after the other. -/
theorem StaysUnmarked.trans (hrs : r.StaysUnmarked s) (hst : s.StaysUnmarked t) :
    r.StaysUnmarked t :=
  ⟨hrs.1.trans hst.1, fun hr => hst.2 (hrs.2 hr)⟩

end Realm

namespace Hooks.Keeps

variable {hooks : Hooks P}

/-- Hooks that give no generator a place before its end pass every object. The
two belong together, as a place is written where a generator completes. -/
theorem passes (hh : hooks.Keeps Realm.StaysUnmarked) : hooks.Keeps Realm.Passes where
  call _ f this args m hm :=
    (hh.call m.realm f this args m (.refl m.realm)).mono (fun _ _ hm' => hm.trans hm'.1)
      fun _ _ hm' => hm.trans hm'.1
  resume _ body frame completion m hm :=
    (hh.resume m.realm body frame completion m (.refl m.realm)).mono
      (fun _ _ hm' => hm.trans hm'.1) fun _ _ hm' => hm.trans hm'.1

/-- While a generator executes that remembers no place, what runs gives no
other one a place before its end. -/
theorem driveUnmarked (hh : hooks.Keeps Realm.StaysUnmarked) (sound : Prop) (h : Handle) :
    hooks.DriveAlike sound none (Realm.UnmarkedBeside h) h hooks := by
  refine hh.driveAlike Realm.StaysUnmarked.refl (fun _ _ => And.left) ?_ sound
  intro g r s hexecuting hdriven hstays
  -- With the executing generator counted in, the rule holds in the realm, so code may run
  -- there.
  have hr : r.Unmarked := hdriven.beside.unmarked hdriven.kind fun _ => hexecuting.2
  exact (hstays.2 hr).beside h

end Hooks.Keeps

namespace Generator

variable {hooks : Hooks P} {m : Machine P} {h : Handle} {g : Generator P}

/-- What the resumption of a generator comes to in a realm in which no
generator remembers a place before its end. The place it comes to is settled,
since it had none before. -/
theorem resume_places (hh : hooks.Keeps Realm.StaysUnmarked) (hunmarked : m.realm.Unmarked)
    (hm : m.Holds h g) (hrest : g.state ≠ .executing) (hcompleted : g.state ≠ .completed)
    (completion : Completion) :
    (resume hooks h completion m).Meets
      (fun result => CameTo (Realm.UnmarkedBeside h) h g result.stateAfter none)
      (fun fault => CameTo (Realm.UnmarkedBeside h) h g .completed fault.location?) := by
  have halike := hh.driveUnmarked g.Sound h
  rw [← hunmarked h g hm hcompleted] at halike
  exact (resume_agree (.unmarked h) halike ⟨hm, hunmarked.beside h⟩ hrest completion).meets

/-- No resumption gives a generator a place before its end, if the code that
is run on the way does not. Most resumptions leave the machine alone. One that
enters a generator ends with a result, which has no place, or with a fault, by
which the generator has completed. -/
theorem resume_unmarked (hh : hooks.Keeps Realm.StaysUnmarked) (hunmarked : m.realm.Unmarked)
    (h : Handle) (completion : Completion) :
    (resume hooks h completion m).Meets (fun _ m' => m'.realm.Unmarked)
      (fun _ m' => m'.realm.Unmarked) := by
  cases hgenerator : (m.realm.record h).kind.generator? with
  | none =>
      rw [resume_of_none hooks hgenerator]
      exact hunmarked
  | some g =>
      have hm : m.Holds h g := Kind.eq_generator hgenerator
      by_cases hexecuting : g.state = .executing
      · rw [resume_of_executing hooks hm hexecuting]
        exact hunmarked
      -- One that has completed may keep its place, and is not entered.
      · by_cases hcompleted : g.state = .completed
        · obtain ⟨outcome, heq, hsame⟩ := resume_of_completed hm hcompleted completion
          rw [heq]
          exact hsame.mono (fun _ m' hm' => hm' ▸ hunmarked) fun _ m' hm' => hm' ▸ hunmarked
        · have hnone := hunmarked h g hm hcompleted
          refine (resume_places hh hunmarked hm hexecuting hcompleted completion).mono ?_ ?_
          · rintro result m' ⟨g', hdriven, hcame⟩
            exact hdriven.beside.unmarked hdriven.kind fun _ => hcame.place hcompleted hnone
          · rintro fault m' ⟨g', hdriven, hcame⟩
            exact hdriven.beside.unmarked hdriven.kind fun hstate => absurd hcame.state hstate

end Generator

/-- That no generator gets a place before its end is a law of code that runs
in a realm, resuming included. -/
theorem Realm.staysUnmarked_law : Law True (StaysUnmarked (P := P)) where
  refl := StaysUnmarked.refl
  trans _ _ _ := StaysUnmarked.trans
  change _ _ hchange := ⟨hchange.passes, fun hr => hr.change hchange⟩
  resume hooks hh r h completion m hm := by
    refine ⟨rfl, ?_⟩
    have hpasses := (passes_law.resume hooks hh.passes r h completion m hm.1).meets
    -- Where the rule did not hold to begin with, only the passing is left to show.
    by_cases hr : r.Unmarked
    · have hunmarked := Generator.resume_unmarked hh (hm.2 hr) h completion
      exact (hpasses.and hunmarked).mono (fun _ _ hm' => ⟨hm'.1, fun _ => hm'.2⟩)
        fun _ _ hm' => ⟨hm'.1, fun _ => hm'.2⟩
    · exact hpasses.mono (fun _ _ hm' => ⟨hm', fun hr' => absurd hr' hr⟩)
        fun _ _ hm' => ⟨hm', fun hr' => absurd hr' hr⟩

/-- The hooks that run an embedder's code give no generator a place before its
end, whatever the code does. -/
theorem Embedder.hooks_staysUnmarked (embedder : Embedder P) (rounds depth : Nat) :
    (embedder.hooks rounds depth).Keeps Realm.StaysUnmarked :=
  embedder.hooks_keeps Realm.staysUnmarked_law (embedder.uses_of_forall fun _ _ => trivial) rounds
    depth

namespace Hooks.Enters

variable {hooks : Hooks P} {op : Hooks P → Action P α} {m k : Machine P} {entry : Entry P}
  {h : Handle} {g : Generator P} {completion : Completion}

/-- The resumption of a completed generator starts no code: it ends in the
same way whatever the hooks are, while code that is started shows in what the
hooks do. -/
theorem not_completed (henters : hooks.Enters (Generator.resume · h completion) m entry k)
    (hm : m.Holds h g) : g.state ≠ .completed := by
  intro hcompleted
  obtain ⟨hooks', -, hne⟩ := henters
  obtain ⟨outcome, heq, -⟩ := Generator.resume_of_completed hm hcompleted completion
  exact hne ((heq hooks).trans (heq hooks').symm)

/-- Where a resumption starts code, no generator has a place before its end.
The driven one still executes there, and has the place that it had when it was
entered, which is none. -/
theorem unmarked_of_resume (henters : hooks.Enters (Generator.resume · h completion) m entry k)
    (hh : hooks.Keeps Realm.StaysUnmarked) (hunmarked : m.realm.Unmarked) : k.realm.Unmarked := by
  obtain ⟨g, hm, hrest⟩ := henters.rest
  have hnone := hunmarked h g hm (henters.not_completed hm)
  have halike := hh.driveUnmarked g.Sound h
  rw [← hnone] at halike
  obtain ⟨g', hdriven, hexecuting, -⟩ :=
    henters.driven_beside (.unmarked h) halike ⟨hm, hunmarked.beside h⟩ hrest
  exact hdriven.beside.unmarked hdriven.kind fun _ => hexecuting.2.trans hnone

/-- Code that an operation starts finds no generator with a place before its
end. Either the operation resumes no generator, and keeps the rule on its way,
or it is a resumption. -/
theorem unmarked {resumed? : Option Handle} (henters : hooks.Enters op m entry k)
    (hop : Resumes op resumed?) (hh : hooks.Keeps Realm.StaysUnmarked)
    (hunmarked : m.realm.Unmarked) : k.realm.Unmarked := by
  cases resumed? with
  | none =>
      have hwithin := henters.within (I := m.realm.StaysUnmarked) ⟨hh.call m.realm, rfl⟩
        fun hooks' hagree => (hop _ (Realm.staysUnmarked_law.stable m.realm) hooks hooks' hagree m
          (.refl m.realm)).same
      exact hwithin.2.2 hunmarked
  | some h =>
      obtain ⟨completion, hresume⟩ := henters.of_resumes hop
      exact hresume.unmarked_of_resume hh hunmarked

/-- Code that an operation starts finds a completed generator as it was. Every
object beside the driven generator has passed, and what has completed passes
unchanged. -/
theorem holds_completed {resumed? : Option Handle} (henters : hooks.Enters op m entry k)
    (hop : Resumes op resumed?) (hpasses : hooks.Keeps Realm.Passes) (hm : m.Holds h g)
    (hcompleted : g.state = .completed) : k.Holds h g := by
  have hrest : g.state ≠ .executing := by rw [hcompleted]; decide
  cases resumed? with
  | none =>
      have hwithin := henters.within (I := m.realm.Passes) ⟨hpasses.call m.realm, rfl⟩
        fun hooks' hagree => (hop _ (Realm.passes_law.stable m.realm) hooks hooks' hagree m
          (.refl m.realm)).same
      obtain ⟨g', hg', -, -, hsame⟩ := (hwithin.2 h).resting g hm hrest
      exact hsame hcompleted ▸ hg'
  | some h' =>
      obtain ⟨completion, hresume⟩ := henters.of_resumes hop
      obtain ⟨g₀, hm₀, hrest₀⟩ := hresume.rest
      obtain ⟨g₁, hdriven, -, -⟩ := hresume.driven hpasses hm₀ hrest₀
      -- The generator that is resumed is another one, since this one would start no code.
      have hne : h ≠ h' := by
        rintro rfl
        exact hresume.not_completed hm hcompleted
      obtain ⟨g', hg', -, -, hsame⟩ := (hdriven.beside h hne).resting g hm hrest
      exact hsame hcompleted ▸ hg'

end Hooks.Enters

namespace Moment

variable {embedder : Embedder P} {rounds : Nat} {config : Config} {moment moment' : Moment P}

/-- What one step preserves: no generator gets a place before its end. A step
is a request that is replied to, or the start of code in the course of a
request or an intrinsic function, or it does not touch the realm. -/
theorem Next.unmarked (hnext : Moment.Next embedder rounds moment moment')
    (hunmarked : moment.machine.realm.Unmarked) : moment'.machine.realm.Unmarked := by
  cases hnext with
  | @reply depth stack _ request next m m' reply hreply =>
      have hkeeps := (Realm.staysUnmarked_law.perform_keeps
        (embedder.hooks_staysUnmarked rounds depth) m.realm request (fun _ => trivial)).attempt m
        (.refl m.realm)
      have hmeets := hkeeps.meets
      rw [hreply] at hmeets
      exact hmeets.2 hunmarked
  | consult => exact hunmarked
  | remember => exact hunmarked
  | request henters =>
      exact henters.unmarked (Request.resumes _) (embedder.hooks_staysUnmarked _ _) hunmarked
  | native => exact hunmarked
  | intrinsic hkind hcode henters =>
      exact henters.unmarked (IntrinsicFunction.resumes _ _ _) (embedder.hooks_staysUnmarked _ _)
        hunmarked
  | body => exact hunmarked

/-- What one step preserves: a completed generator stays as it is, by the same
cases. -/
theorem Next.holds_completed (hnext : Moment.Next embedder rounds moment moment') {h : Handle}
    {g : Generator P} (hm : moment.machine.Holds h g) (hcompleted : g.state = .completed) :
    moment'.machine.Holds h g := by
  cases hnext with
  | @reply depth stack _ request next m m' reply hreply =>
      have hkeeps := (Realm.passes_law.perform_keeps (embedder.hooks_passes rounds depth) m.realm
        request (fun _ => trivial)).attempt m (.refl m.realm)
      have hmeets := hkeeps.meets
      rw [hreply] at hmeets
      obtain ⟨g', hg', -, -, hsame⟩ := (hmeets h).resting g hm (by rw [hcompleted]; decide)
      exact hsame hcompleted ▸ hg'
  | consult => exact hm
  | remember => exact hm
  | request henters =>
      exact henters.holds_completed (Request.resumes _) (embedder.hooks_passes _ _) hm hcompleted
  | native => exact hm
  | intrinsic hkind hcode henters =>
      exact henters.holds_completed (IntrinsicFunction.resumes _ _ _) (embedder.hooks_passes _ _)
        hm hcompleted
  | body => exact hm

/-- In no realm that is reached from a new one has a generator a place before
its end. A new realm has no generators, and each step preserves it. -/
theorem Reachable.unmarked (hreachable : Moment.Reachable embedder rounds config moment) :
    moment.machine.realm.Unmarked := by
  induction hreachable with
  | start depth memory script =>
      have hI : Realm.Stable True (Realm.Unmarked (P := P)) :=
        fun _ _ hchange hr => hr.change hchange
      refine Realm.initial_of_stable hI fun h g hg => ?_
      rw [Realm.kind_prototypes] at hg
      cases hg
  | next _ hnext ih => exact hnext.unmarked ih

/-- The moments that follow on a moment. -/
inductive Later (embedder : Embedder P) (rounds : Nat) (moment : Moment P) : Moment P → Prop where
  | refl : Later embedder rounds moment moment
  | next {moment' moment'' : Moment P} (hlater : Later embedder rounds moment moment')
      (hnext : Moment.Next embedder rounds moment' moment'') : Later embedder rounds moment moment''

/-- What follows on a moment that is reached is reached. -/
theorem Reachable.later (hreachable : Moment.Reachable embedder rounds config moment)
    (hlater : Later embedder rounds moment moment') :
    Moment.Reachable embedder rounds config moment' := by
  induction hlater with
  | refl => exact hreachable
  | next _ hnext ih => exact ih.next hnext

/-- What every run preserves: a completed generator stays as it is. By
induction on the steps. -/
theorem Later.holds_completed (hlater : Later embedder rounds moment moment') {h : Handle}
    {g : Generator P} (hm : moment.machine.Holds h g) (hcompleted : g.state = .completed) :
    moment'.machine.Holds h g := by
  induction hlater with
  | refl => exact hm
  | next _ hnext ih => exact hnext.holds_completed ih hcompleted

end Moment

/-- A generator at rest, at any moment that is reached from a new realm.

If it has not completed, then whatever completes it also settles the place
it remembers: that of the fault it ended with, and none if it ended with a
result.

If it has completed, it has no body left. Every resumption of it is
answered at once, in every machine that holds it and whatever hooks there
are to run code with, and changes nothing; what is thrown into it comes
back with that place. And it is the same generator at every later moment,
with no run of it under way. -/
theorem completed_absorbs (embedder : Embedder P) (rounds : Nat) (config : Config)
    (moment : Moment P) (hreachable : Moment.Reachable embedder rounds config moment) (h : Handle)
    (g : Generator P) (hm : moment.machine.Holds h g) :
    (g.state ≠ .executing → g.state ≠ .completed → ∀ depth completion,
      (Generator.resume (embedder.hooks rounds depth) h completion moment.machine).Meets
        (fun result m' => result.done = true → ∃ g', m'.Holds h g' ∧ g'.state = .completed ∧
          g'.lastLocation = none)
        (fun fault m' => ∃ g', m'.Holds h g' ∧ g'.state = .completed ∧
          g'.lastLocation = fault.location?)) ∧
    (g.state = .completed →
      g.body = none ∧
      (∀ (m : Machine P), m.Holds h g → ∀ (hooks : Hooks P) (value : Value),
        Generator.resume hooks h (.next value) m = .done ⟨.undefined, true⟩ m ∧
        Generator.resume hooks h (.returning value) m = .done ⟨value, true⟩ m ∧
        Generator.resume hooks h (.throwing value) m
          = .failed (.thrown value g.lastLocation) m) ∧
      (∀ moment', Moment.Later embedder rounds moment moment' →
        moment'.machine.Holds h g ∧ ∀ run ∈ moment'.stack, run.generator ≠ h)) := by
  refine ⟨fun hrest hcompleted depth completion => ?_, fun hcompleted => ⟨?_, ?_, ?_⟩⟩
  · have hunmarked := hreachable.unmarked
    have hnone := hunmarked h g hm hcompleted
    refine (Generator.resume_places (embedder.hooks_staysUnmarked rounds depth) hunmarked hm hrest
      hcompleted completion).mono ?_ ?_
    · rintro result m' ⟨g', hdriven, hcame⟩ hdone
      refine ⟨g', hdriven.kind, ?_, hcame.place hcompleted hnone⟩
      rw [hcame.state, IterResult.stateAfter, if_pos hdone]
    · rintro fault m' ⟨g', hdriven, hcame⟩
      exact ⟨g', hdriven.kind, hcame.state, hcame.place hcompleted hnone⟩
  · exact ((hreachable.accounts.sound h g hm).completed hcompleted).1
  · intro m hm' hooks value
    exact ⟨Generator.resume_next_of_completed hooks hm' hcompleted value,
      Generator.resume_returning_of_completed hooks hm' hcompleted value,
      Generator.resume_throwing_of_completed hooks hm' hcompleted value⟩
  · intro moment' hlater
    have hsame := hlater.holds_completed hm hcompleted
    refine ⟨hsame, fun run hrun heq => ?_⟩
    -- What is on the stack executes, and a completed generator does not.
    obtain ⟨g', hg', hexecuting, -⟩ := (hreachable.later hlater).accounts.onStack run hrun
    rw [heq] at hg'
    cases hsame.symm.trans hg'
    rw [hcompleted] at hexecuting
    cases hexecuting

/-- The generator remembers where its body threw, and gives that place to
whatever is thrown into it afterwards. -/
theorem completed_absorbs_failing :
    ∃ m, Moment.Reachable Embedder.fixed 1 {} ⟨1, [], .script (Script.done ()), m⟩ ∧
      ∀ (hooks : Hooks Platform.fixed) (value : Value),
        Generator.resume hooks ⟨12⟩ (.throwing value) m
          = .failed (.thrown value (some ⟨"main", 7⟩)) m := by
  have hstart : Moment.Reachable Embedder.fixed 1 {}
      ⟨1, [], .script (.resumeNewGenerator [.threw .null (some ⟨"main", 7⟩)] {}),
        ⟨.initial {}, ()⟩⟩ :=
    .start 1 () (.resumeNewGenerator [.threw .null (some ⟨"main", 7⟩)] {})
  have hended := (hstart.next (.reply rfl)).next (.reply rfl)
  refine ⟨_, hended, fun hooks value => ?_⟩
  obtain ⟨-, hanswers, -⟩ := (completed_absorbs Embedder.fixed 1 {} _ hended ⟨12⟩
    ⟨.completed, { resumePoint := 1 }, none, none, some ⟨"main", 7⟩⟩ rfl).2 rfl
  refine (hanswers _ ?_ hooks value).2.2
  rfl

end ScriptRealm
