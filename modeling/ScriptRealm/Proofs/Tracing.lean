import ScriptRealm.Proofs.Entering
import ScriptRealm.Proofs.Generator.Completion

/-!
# `ScriptRealm.Proofs.Tracing`: tracing a change to the code that makes it

The library keeps many relations between an earlier and a later realm as far as
the code that it runs does. If such a relation is broken in the end, then some
code has broken it. This file finds the code.

Two hooks under which an operation comes to different ends differ in code that
the operation starts (`Dialogue.exists_enters`): as long as they do not, the
dialogue goes the same way under both, and where they first do, the operation
waits for what the code comes to. One of the two hooks may stop the code that
breaks the relation, and so an operation that breaks it has started such code
(`Hooks.exists_breaks`).

Code that was started is a script or a function of a new realm. It again breaks
the relation by a request or by code that it starts. `Realm.RuleBut special R`
says that all requests keep `R` as far as the code they run does, and so do the
functions of a new realm but for those of `special`. So the way down ends at some
moment of the run, at a call of one of these that breaks the relation while all
code that it starts keeps it (`Moment.exists_breaches`). To show that runs keep a
relation it is therefore enough to look at such calls.
-/

set_option autoImplicit false

namespace ScriptRealm

open ScriptRealm.Action (Heeds Keeps Relays)

variable {P : Platform} {α : Type}

/-! ### Hooks that make a difference -/

/-- Two hooks differ in what an entry comes to in the machine `k`. -/
def Hooks.DiffersAt (hooks hooks' : Hooks P) : Entry P → Machine P → Prop
  | .call f this args, k => hooks.call f this args k ≠ hooks'.call f this args k
  | .body body frame completion, k =>
      hooks.resume body frame completion k ≠ hooks'.resume body frame completion k

/-- Where two hooks make a difference, an operation starts code on which they
differ. By induction on the dialogue, which is followed as long as both hooks
answer alike. The first answer in which they differ is the one: that it counts
is seen by raising a fault there. -/
theorem Dialogue.exists_enters {returns : Fault → Machine P → Outcome P α → Prop}
    (hshown : Fault.Shown returns) {x : Hooks P → Outcome P α} (hx : Dialogue returns x)
    {hooks hooks' : Hooks P} (hrounds : hooks.rounds = hooks'.rounds)
    (hne : x hooks ≠ x hooks') (m : Machine P) :
    ∃ entry k, hooks.Enters (fun hooks _ => x hooks) m entry k ∧
      hooks.DiffersAt hooks' entry k := by
  induction hx with
  | ends outcome => exact absurd rfl hne
  | allowance next _ ih =>
      have hne : next hooks.rounds hooks ≠ next hooks'.rounds hooks' := hne
      rw [← hrounds] at hne
      obtain ⟨entry, k, henters, hdiffers⟩ := ih _ hne
      exact ⟨entry, k,
        (Hooks.enters_rounds_iff fun rounds hooks _ => next rounds hooks).mpr henters, hdiffers⟩
  | call f this args k next _ hfatal ih =>
      by_cases hsame : hooks.call f this args k = hooks'.call f this args k
      · have hne : next (hooks.call f this args k) hooks
            ≠ next (hooks'.call f this args k) hooks' := hne
        rw [← hsame] at hne
        obtain ⟨entry, k₁, ⟨hooks'', houtside, hne''⟩, hdiffers⟩ := ih _ hne
        refine ⟨entry, k₁, ⟨hooks'', houtside, ?_⟩, hdiffers⟩
        show next (hooks.call f this args k) hooks ≠ next (hooks''.call f this args k) hooks''
        rw [← houtside.call f this args k]
        · exact hne''
        · -- The first call is none in which the hooks differ.
          rintro ⟨rfl, rfl⟩
          exact hdiffers hsame
      -- The code is started here, for a fault that it raised would show at the end.
      · refine ⟨.call f this args, k, Hooks.enters_of_returns hshown fun fault hfault => ?_, hsame⟩
        obtain ⟨outcome, hreturns, hend⟩ := hfatal fault k hfault
        have hraises : (hooks.raiseAt (.call f this args) k fault).call f this args k
            = .failed fault k := if_pos ⟨rfl, rfl⟩
        show returns fault k (next ((hooks.raiseAt _ k fault).call f this args k) _)
        rw [hraises, hend]
        exact hreturns
  | resume body frame completion k next _ hfatal ih =>
      by_cases hsame : hooks.resume body frame completion k = hooks'.resume body frame completion k
      · have hne : next (hooks.resume body frame completion k) hooks
            ≠ next (hooks'.resume body frame completion k) hooks' := hne
        rw [← hsame] at hne
        obtain ⟨entry, k₁, ⟨hooks'', houtside, hne''⟩, hdiffers⟩ := ih _ hne
        refine ⟨entry, k₁, ⟨hooks'', houtside, ?_⟩, hdiffers⟩
        show next (hooks.resume body frame completion k) hooks
          ≠ next (hooks''.resume body frame completion k) hooks''
        rw [← houtside.resume body frame completion k]
        · exact hne''
        · rintro ⟨rfl, rfl⟩
          exact hdiffers hsame
      · refine ⟨.body body frame completion, k,
          Hooks.enters_of_returns hshown fun fault hfault => ?_, hsame⟩
        obtain ⟨outcome, hreturns, hend⟩ := hfatal (.failed fault k) fault k hfault ⟨rfl, rfl⟩
        have hraises : (hooks.raiseAt (.body body frame completion) k fault).resume body frame
            completion k = .failed fault k := if_pos ⟨rfl, rfl⟩
        show returns fault k (next ((hooks.raiseAt _ k fault).resume body frame completion k) _)
        rw [hraises, hend]
        exact hreturns

/-- From the end of a resumption one can tell with which fault it was brought
about. -/
theorem Generator.shown_resumptionReturns (generators : List Handle) :
    Fault.Shown (ResumptionReturns (P := P) (α := α) generators) := by
  rintro fault fault' k k' outcome ⟨m, -, rfl⟩ ⟨m', -, heq⟩
  cases heq
  rfl

/-- So it is with the end of a request. Those that report on an iterator give
out the fault along with a record, and all others fail with it. -/
theorem Request.shown_returns (request : Request P) : Fault.Shown request.Returns := by
  rintro fault fault' k k' outcome ⟨m, -, hgives⟩ ⟨m', -, hgives'⟩
  cases request with
  | iteratorStep record | iteratorStepValue record | iteratorToList record =>
      obtain ⟨record₁, rfl⟩ := hgives
      obtain ⟨record₂, heq⟩ := hgives'
      cases heq
      rfl
  | _ =>
      have hfailed : outcome = .failed fault m := hgives
      have hfailed' : outcome = .failed fault' m' := hgives'
      rw [hfailed] at hfailed'
      cases hfailed'
      rfl

/-! ### Code that breaks a relation -/

namespace Hooks

variable {R : Realm P → Realm P → Prop} {hooks : Hooks P}

/-- The code under an entry comes to an end at which `R` is broken. -/
def Breaks (hooks : Hooks P) (R : Realm P → Realm P → Prop) : Entry P → Machine P → Prop
  | .call f this args, k =>
      ∃ k', (hooks.call f this args k).EndsIn k' ∧ ¬ R k.realm k'.realm
  | .body body frame completion, k =>
      ∃ k', (hooks.resume body frame completion k).EndsIn k' ∧ ¬ R k.realm k'.realm

open Classical in
/-- The hooks that stop code that breaks `R`. -/
noncomputable def sparing (hooks : Hooks P) (R : Realm P → Realm P → Prop) : Hooks P where
  call f this args k :=
    if hooks.Breaks R (.call f this args) k then .exhausted else hooks.call f this args k
  resume body frame completion k :=
    if hooks.Breaks R (.body body frame completion) k then .exhausted
    else hooks.resume body frame completion k
  rounds := hooks.rounds

/-- Hooks that stop what breaks the relation keep it. All the code that they
let run to its end has kept it. -/
theorem sparing_keeps (htrans : ∀ r s t, R r s → R s t → R r t) : (hooks.sparing R).Keeps R where
  call r f this args m hm := by
    refine ⟨rfl, Outcome.meets_iff_endsIn.mpr fun m' hends => ?_⟩
    by_cases hbreaks : hooks.Breaks R (.call f this args) m
    · rw [show (hooks.sparing R).call f this args m = .exhausted from if_pos hbreaks] at hends
      simp [Outcome.EndsIn] at hends
    · rw [show (hooks.sparing R).call f this args m = _ from if_neg hbreaks] at hends
      exact htrans _ _ _ hm (Classical.byContradiction fun hnot => hbreaks ⟨m', hends, hnot⟩)
  resume r body frame completion m hm := by
    refine ⟨rfl, Outcome.meets_iff_endsIn.mpr fun m' hends => ?_⟩
    by_cases hbreaks : hooks.Breaks R (.body body frame completion) m
    · rw [show (hooks.sparing R).resume body frame completion m = .exhausted from
        if_pos hbreaks] at hends
      simp [Outcome.EndsIn] at hends
    · rw [show (hooks.sparing R).resume body frame completion m = _ from if_neg hbreaks] at hends
      exact htrans _ _ _ hm (Classical.byContradiction fun hnot => hbreaks ⟨m', hends, hnot⟩)

/-- They differ from the others only where code breaks the relation. -/
theorem breaks_of_differsAt {entry : Entry P} {k : Machine P}
    (hdiffers : hooks.DiffersAt (hooks.sparing R) entry k) : hooks.Breaks R entry k := by
  apply Classical.byContradiction
  intro hnot
  cases entry with
  | call f this args => exact hdiffers (if_neg hnot).symm
  | body body frame completion => exact hdiffers (if_neg hnot).symm

/-- An operation that keeps `R` as far as code does, and has broken it, has
started code that breaks it. With hooks that spare it such code it would have
kept `R`, so those hooks make a difference. -/
theorem exists_breaks {returns : Fault → Machine P → Outcome P α → Prop}
    {op : Hooks P → Action P α} (hop : Heeds returns op) (hshown : Fault.Shown returns)
    (htrans : ∀ r s t, R r s → R s t → R r t) {m m' : Machine P} (hrefl : R m.realm m.realm)
    (hkeeps : ∀ hooks : Hooks P, hooks.Keeps R → Action.Keeps (R m.realm) (op hooks))
    (hends : (op hooks m).EndsIn m') (hbroken : ¬ R m.realm m'.realm) :
    ∃ entry k, hooks.Enters op m entry k ∧ hooks.Breaks R entry k := by
  have hne : op hooks m ≠ op (hooks.sparing R) m := by
    intro heq
    rw [heq] at hends
    have hmeets := (hkeeps (hooks.sparing R) (sparing_keeps htrans) m hrefl).meets
    exact hbroken (Outcome.meets_iff_endsIn.mp hmeets m' hends)
  have hrounds : hooks.rounds = (hooks.sparing R).rounds := rfl
  obtain ⟨entry, k, henters, hdiffers⟩ := (hop m).exists_enters hshown hrounds hne m
  exact ⟨entry, k, henters, breaks_of_differsAt hdiffers⟩

/-- So it has kept `R` if all the code that it has started has. This is the
form in which operations are shown to keep a relation without a rule for the
code. -/
theorem kept_of_enters {op : Hooks P → Action P α} (hop : Relays op)
    (htrans : ∀ r s t, R r s → R s t → R r t) {m m' : Machine P} (hrefl : R m.realm m.realm)
    (hkeeps : ∀ hooks : Hooks P, hooks.Keeps R → Action.Keeps (R m.realm) (op hooks))
    (hentries : ∀ entry k, hooks.Enters op m entry k → ¬ hooks.Breaks R entry k)
    (hends : (op hooks m).EndsIn m') : R m.realm m'.realm := by
  apply Classical.byContradiction
  intro hbroken
  obtain ⟨entry, k, henters, hbreaks⟩ :=
    exists_breaks hop Fault.shown_failed htrans hrefl hkeeps hends hbroken
  exact hentries entry k henters hbreaks

end Hooks

/-! ### Moments -/

/-- The relation `R` is kept by all requests, as far as it is kept by the code
they run, and by what a call does without a request, unless it is a call of a
function of `special`. -/
structure Realm.RuleBut (special : IntrinsicFunction → Value → Prop)
    (R : Realm P → Realm P → Prop) : Prop where
  refl : ∀ r, R r r
  trans : ∀ r s t, R r s → R s t → R r t
  request : ∀ hooks : Hooks P, hooks.Keeps R → ∀ (r : Realm P) (request : Request P),
    Keeps (R r) (request.perform hooks)
  intrinsic : ∀ hooks : Hooks P, hooks.Keeps R → ∀ (r : Realm P) (i : IntrinsicFunction) this args,
    ¬ special i this → Keeps (R r) (i.run hooks this args)
  host : ∀ (r : Realm P) (h : Handle) (old new : P.Host), (r.record h).kind = .foreign old →
    P.hosts.Step old new → R r (r.setKind h (.foreign new))

/-- What a call that comes to an end has done: it has run a function of a new
realm, a native function or the code of a foreign object, or it was refused.
The cases follow the value that is called and the kind of its object. -/
theorem Embedder.call_cases (embedder : Embedder P) {hooks : Hooks P} {f this : Value}
    {args : List Value} {k k' : Machine P}
    (hends : (embedder.call hooks f this args k).EndsIn k') :
    (∃ h data i, f = .object h ∧ (k.realm.record h).kind = .function data ∧
      data.code = .intrinsic i ∧ (i.run hooks this args k).EndsIn k') ∨
    (∃ h data code, f = .object h ∧ (k.realm.record h).kind = .function data ∧
      data.code = .native code ∧ ((embedder.function code this args).run hooks k).EndsIn k') ∨
    (∃ h host, (k.realm.record h).kind = .foreign host ∧
      k'.realm = k.realm.setKind h (.foreign (P.hosts.call host this args k.memory).2.1)) ∨
    k' = k := by
  have hrefused : ∀ {fault : Fault},
      ((Action.fail fault : Action P Value) k).EndsIn k' → k' = k := by
    intro fault hends
    have hends : ((Action.ofExcept (.error fault) : Action P Value) k).EndsIn k' := hends
    exact (Action.endsIn_ofExcept.mp hends).symm
  cases f with
  | object h =>
      rw [Embedder.call, Action.bind_apply, Action.record] at hends
      cases hkind : (k.realm.record h).kind with
      | function data =>
          cases hcode : data.code with
          | intrinsic i =>
              simp only [hkind, hcode] at hends
              exact .inl ⟨h, data, i, rfl, hkind, hcode, hends⟩
          | native code =>
              simp only [hkind, hcode] at hends
              refine .inr (.inl ⟨h, data, code, rfl, hkind, hcode, ?_⟩)
              obtain ⟨fault, hfault⟩ | ⟨result, k₁, hdone, hresult⟩ :=
                Action.endsIn_bind_iff.mp hends
              · exact .inr ⟨fault, hfault⟩
              · cases Action.endsIn_ofExcept.mp hresult
                exact .inl ⟨result, hdone⟩
      | foreign host =>
          simp only [hkind] at hends
          split at hends
          · obtain ⟨fault, hfault⟩ | ⟨result, k₁, hdone, hresult⟩ :=
              Action.endsIn_bind_iff.mp hends
            · cases hfault
            · cases Action.endsIn_ofExcept.mp hresult
              cases hdone
              exact .inr (.inr (.inl ⟨h, host, hkind, rfl⟩))
          · exact .inr (.inr (.inr (hrefused hends)))
      | _ =>
          simp only [hkind] at hends
          exact .inr (.inr (.inr (hrefused hends)))
  | _ => exact .inr (.inr (.inr (hrefused hends)))

namespace Moment

/-- A function of `special` is called and the call breaks `R`, but none of the
code that it starts does. -/
def Breaches (embedder : Embedder P) (rounds : Nat) (special : IntrinsicFunction → Value → Prop)
    (R : Realm P → Realm P → Prop) (moment : Moment P) : Prop :=
  ∃ depth f this args i k, moment.depth = depth + 1 ∧
    moment.activity = .entry (.call (.object f) this args) ∧
    moment.machine.realm.RunsIntrinsic f i ∧ special i this ∧
    (i.run (embedder.hooks rounds depth) this args moment.machine).EndsIn k ∧
    ¬ R moment.machine.realm k.realm ∧
    ∀ entry k₁, (embedder.hooks rounds depth).Enters (i.run · this args) moment.machine entry k₁ →
      ¬ (embedder.hooks rounds depth).Breaks R entry k₁

variable {embedder : Embedder P} {rounds depth : Nat} {moment moment' moment'' : Moment P}
  {special : IntrinsicFunction → Value → Prop} {R : Realm P → Realm P → Prop}

/-- What follows on a later moment follows on the earlier one. -/
theorem Later.trans (hfirst : Later embedder rounds moment moment')
    (hrest : Later embedder rounds moment' moment'') : Later embedder rounds moment moment'' := by
  induction hrest with
  | refl => exact hfirst
  | next _ hnext ih => exact ih.next hnext

/-- What follows on the next moment follows on this one. -/
theorem exists_breaches_of_next (hnext : Next embedder rounds moment moment')
    (hbreaches : ∃ moment'', Later embedder rounds moment' moment'' ∧
      moment''.Breaches embedder rounds special R) :
    ∃ moment'', Later embedder rounds moment moment'' ∧
      moment''.Breaches embedder rounds special R := by
  obtain ⟨moment'', hlater, hbreach⟩ := hbreaches
  exact ⟨moment'', (Later.refl.next hnext).trans hlater, hbreach⟩

/-- A script that has broken the relation has come to a breach, if all code
that breaks it has: the script did it by one of its requests, and the request
did it by code that it started. By induction on the script. The first request
that does not keep the relation is the one. -/
theorem exists_breaches_of_script (rule : Realm.RuleBut special R)
    (hentries : ∀ stack entry k, (embedder.hooks rounds depth).Breaks R entry k →
      ∃ moment', Later embedder rounds ⟨depth, stack, .entry entry, k⟩ moment' ∧
        moment'.Breaches embedder rounds special R)
    (script : Script P α) {m m' : Machine P} (stack : List Run)
    (hends : (script.run (embedder.hooks rounds depth) m).EndsIn m')
    (hbroken : ¬ R m.realm m'.realm) :
    ∃ moment', Later embedder rounds ⟨depth, stack, .script script, m⟩ moment' ∧
      moment'.Breaches embedder rounds special R := by
  induction script generalizing m with
  | done value =>
      obtain ⟨value', heq⟩ | ⟨fault, heq⟩ := hends
      · cases heq
        exact absurd (rule.refl _) hbroken
      · cases heq
  | ask request next ih =>
      obtain ⟨fault, hfault⟩ | ⟨reply, m₁, hreply, hrest⟩ := Action.endsIn_bind_iff.mp hends
      · -- An attempt does not fail.
        unfold Action.attempt at hfault
        split at hfault <;> cases hfault
      · have hperform : (request.perform (embedder.hooks rounds depth) m).EndsIn m₁ := by
          unfold Action.attempt at hreply
          split at hreply
          · cases hreply
            exact .inl ⟨_, by assumption⟩
          · cases hreply
            exact .inr ⟨_, by assumption⟩
          · cases hreply
        -- A request that has kept the relation is passed over, and the rest of the script has
        -- broken it.
        by_cases hkept : R m.realm m₁.realm
        · exact exists_breaches_of_next (.reply hreply)
            (ih reply hrest fun hrest' => hbroken (rule.trans _ _ _ hkept hrest'))
        · obtain ⟨entry, k, henters, hbreaks⟩ := Hooks.exists_breaks request.perform_heeds
            request.shown_returns rule.trans (rule.refl _)
            (fun hooks hh => rule.request hooks hh _ request) hperform hkept
          exact exists_breaches_of_next (.request henters) (hentries _ entry k hbreaks)
  | «recall» next ih => exact exists_breaches_of_next .consult (ih m.memory hends hbroken)
  | remember memory next ih => exact exists_breaches_of_next .remember (ih hends hbroken)

/-- Code that breaks the relation comes to a breach in its course, by
induction on the depth that is left for nested calls. A body and a native
function run a script. A function of a new realm may have started code that
breaks the relation, or else it has done so itself. -/
theorem exists_breaches_of_entry (rule : Realm.RuleBut special R) (stack : List Run)
    (entry : Entry P) (k : Machine P) (hbreaks : (embedder.hooks rounds depth).Breaks R entry k) :
    ∃ moment', Later embedder rounds ⟨depth, stack, .entry entry, k⟩ moment' ∧
      moment'.Breaches embedder rounds special R := by
  induction depth generalizing stack entry k with
  | zero =>
      -- No depth is left, so the code does not come to an end.
      cases entry with
      | call f this args =>
          obtain ⟨k', ⟨_, heq⟩ | ⟨_, heq⟩, -⟩ := hbreaks
          · cases heq
          · cases heq
      | body body frame completion =>
          obtain ⟨k', ⟨_, heq⟩ | ⟨_, heq⟩, -⟩ := hbreaks
          · cases heq
          · cases heq
  | succ depth ih =>
      cases entry with
      | body body frame completion =>
          obtain ⟨k', hends, hbroken⟩ := hbreaks
          exact exists_breaches_of_next .body
            (exists_breaches_of_script rule ih _ stack hends hbroken)
      | call f this args =>
          obtain ⟨k', hends, hbroken⟩ := hbreaks
          have hends :
              (embedder.call (embedder.hooks rounds depth) f this args k).EndsIn k' := hends
          rcases embedder.call_cases hends with ⟨h, data, i, rfl, hkind, hcode, hends⟩ |
            ⟨h, data, code, rfl, hkind, hcode, hends⟩ | ⟨h, host, hkind, hrealm⟩ | hsame
          · by_cases hstarts : ∃ entry k₁,
                (embedder.hooks rounds depth).Enters (i.run · this args) k entry k₁ ∧
                  (embedder.hooks rounds depth).Breaks R entry k₁
            · obtain ⟨entry, k₁, henters, hbreaks⟩ := hstarts
              exact exists_breaches_of_next (.intrinsic hkind hcode henters) (ih _ entry k₁ hbreaks)
            · -- It has broken the relation itself, so it is one of those that may.
              by_cases hspecial : special i this
              · exact ⟨_, .refl, depth, h, this, args, i, k', rfl, rfl, ⟨data, hkind, hcode⟩,
                  hspecial, hends, hbroken,
                  fun entry k₁ henters hbreaks => hstarts ⟨entry, k₁, henters, hbreaks⟩⟩
              · exact absurd (Hooks.exists_breaks (i.run_heeds this args)
                  (Generator.shown_resumptionReturns _) rule.trans (rule.refl _)
                  (fun hooks hh => rule.intrinsic hooks hh _ i this args hspecial) hends hbroken)
                  hstarts
          · exact exists_breaches_of_next (.native hkind hcode)
              (exists_breaches_of_script rule ih _ stack hends hbroken)
          · rw [hrealm] at hbroken
            exact absurd (rule.host k.realm h host _ hkind (.call host this args k.memory)) hbroken
          · rw [hsame] at hbroken
            exact absurd (rule.refl _) hbroken

/-- A run that has broken the relation has come to a breach at some moment. -/
theorem exists_breaches (rule : Realm.RuleBut special R) {script : Script P α} {m m' : Machine P}
    (hrun : (embedder.run rounds depth script m).EndsIn m') (hbroken : ¬ R m.realm m'.realm)
    (stack : List Run) :
    ∃ moment', Later embedder rounds ⟨depth, stack, .script script, m⟩ moment' ∧
      moment'.Breaches embedder rounds special R :=
  exists_breaches_of_script rule (exists_breaches_of_entry rule) script stack hrun hbroken

end Moment

end ScriptRealm
