import ScriptRealm.Proofs.Embedding
import ScriptRealm.Proofs.Generator.Completion

/-!
# `ScriptRealm.Proofs.Generator.Independence`: generators that keep to themselves

A body is insular if nothing but the body itself, its frame and the
completion decides what it does next, and if all it changes is the body and
the frame; and if it never delegates. A generator with such a body lives in
its own record: what it answers, and what becomes of it, is the same in every
machine that holds it. `Reactions` is this behaviour for a sequence of
completions, without a machine, and `Insular.exists_reactions` says that every
insular generator has one.

`resumeAll` resumes generators in any order. Two insular generators that are
resumed by turns answer and end as they do alone, which is
`generators_independent`: the calls on the one and the calls on the other are
two sequences of reactions, and putting the one generator back commutes with
putting back the other.
-/

set_option autoImplicit false

namespace ScriptRealm

variable {P : Platform}

/-! ### Two places -/

/-- Changes of two objects can be made in either order. Entry by entry, at
most one of the two changes does something. -/
theorem Realm.update_comm (r : Realm P) {h h' : Handle} (hne : h ≠ h')
    (f f' : ObjectRecord P → ObjectRecord P) :
    (r.update h f).update h' f' = (r.update h' f').update h f := by
  have hindex : ¬ h.index = h'.index := fun heq => hne (congrArg Handle.mk heq)
  have hobjects : (r.objects.modify h.index f).modify h'.index f'
      = (r.objects.modify h'.index f').modify h.index f := by
    apply Array.ext_getElem?
    intro i
    simp only [Array.getElem?_modify]
    -- A place belongs to one handle at most.
    by_cases hi : h.index = i
    · have hi' : ¬ h'.index = i := fun heq => hindex (hi.trans heq.symm)
      simp [hi, hi']
    · simp [hi]
  exact congrArg (fun objects => { r with objects }) hobjects

namespace Machine

variable {m : Machine P} {h h' : Handle} {g g' : Generator P}

/-- Two generators can be put back in either order. -/
theorem setGenerator_comm (m : Machine P) (hne : h ≠ h') (g g' : Generator P) :
    (m.setGenerator h g).setGenerator h' g' = (m.setGenerator h' g').setGenerator h g :=
  congrArg (fun realm => Machine.mk realm m.memory) (Realm.update_comm m.realm hne _ _)

/-- Putting back a generator leaves every other one where it is. -/
theorem Holds.setGenerator_of_ne (hm : m.Holds h g) (hne : h ≠ h') (g' : Generator P) :
    (m.setGenerator h' g').Holds h g := by
  show ((m.setGenerator h' g').realm.record h).kind = _
  rw [record_setGenerator_of_ne hne]
  exact hm

end Machine

/-! ### Insular bodies -/

/-- Body, frame and completion alone decide what the body does, now and ever
after. It changes nothing but itself and its frame, and does not delegate. -/
def Embedder.Insular (embedder : Embedder P) (body : P.Body) : Prop :=
  ∃ bodies : P.Body → Prop, bodies body ∧ ∀ body, bodies body → ∀ frame completion,
    ∃ resumption, bodies resumption.body ∧
      (∀ iterable, resumption.step ≠ .ok (.delegated iterable)) ∧
      ∀ hooks m, (embedder.body body frame completion).run hooks m = .done resumption m

/-- An insular body is insular again after every step. The bodies that it may
come to are closed under steps, and the next body is one of them. -/
theorem Embedder.Insular.resume {embedder : Embedder P} {body : P.Body}
    (hbody : embedder.Insular body) (frame : Frame) (completion : Completion) :
    ∃ resumption, embedder.Insular resumption.body ∧
      (∀ iterable, resumption.step ≠ .ok (.delegated iterable)) ∧
      ∀ hooks m, (embedder.body body frame completion).run hooks m = .done resumption m := by
  obtain ⟨bodies, hmem, hclosed⟩ := hbody
  obtain ⟨resumption, hnext, hstep, hrun⟩ := hclosed body hmem frame completion
  exact ⟨resumption, ⟨bodies, hnext, hclosed⟩, hstep, hrun⟩

namespace Generator

/-- The generator's body is insular, if it has one at present, and no
delegation is under way. -/
structure Insular (embedder : Embedder P) (g : Generator P) : Prop where
  body : ∀ body, g.body = some body → embedder.Insular body
  delegate : g.delegate = none

namespace Insular

variable {embedder : Embedder P} {g : Generator P}

/-- A completed generator has no body and no delegate, so there is nothing to
be said about it. -/
theorem complete (embedder : Embedder P) (g : Generator P) : g.complete.Insular embedder :=
  ⟨fun _ hbody => (Option.some_ne_none _ hbody.symm).elim, rfl⟩

/-- A generator that has failed is completed, whatever was said about it
before. -/
theorem failedWith (embedder : Embedder P) (fault : Fault) (g : Generator P) :
    (g.failedWith fault).Insular embedder :=
  ⟨(complete embedder g).body, rfl⟩

/-- A generator that is left with a result is insular if it was. Only its
state is touched. -/
theorem leftWith (hg : g.Insular embedder) (result : IterResult) :
    (g.leftWith result).Insular embedder := by
  unfold Generator.leftWith
  split
  · exact ⟨hg.body, hg.delegate⟩
  · exact hg

end Insular

/-! ### Reactions -/

/-- In every machine that holds the generator `g` under `h`, a resumption ends
with this outcome, and does nothing but put `g'` in the place of `g`. -/
def Reacts (hooks : Hooks P) (h : Handle) (g : Generator P) (completion : Completion)
    (outcome : Except Fault IterResult) (g' : Generator P) : Prop :=
  ∀ m : Machine P, m.Holds h g →
    (resume hooks h completion).attempt m = .done outcome (m.setGenerator h g')

variable {embedder : Embedder P} {g : Generator P}

/-- A turn of an insular body, from its beginning to the end of the
resumption. The outcome and the generator are found from the body, its frame
and the completion, before any machine is given. The cases are those of the
body: there may be none, or it fails, or it takes one of the steps, of which
delegating is excluded. -/
theorem Insular.exists_run (hg : g.Insular embedder) (rounds depth : Nat) (h : Handle)
    (completion : Completion) :
    ∃ outcome g', Insular embedder g' ∧ ∀ m : Machine P, m.Holds h g →
      (run (embedder.hooks (rounds + 1) (depth + 1)) h (rounds + 1) (.body completion)).attempt m
        = .done outcome (m.setGenerator h g') := by
  cases hbody : g.body with
  | none =>
      refine ⟨.error (.internal .missingBody), _,
        .failedWith embedder (.internal .missingBody) g, fun m hm => ?_⟩
      -- Without a body the turn fails, in the machine as it is.
      have hturn : takeTurn (embedder.hooks (rounds + 1) (depth + 1)) h (.body completion) m
          = .failed (.internal .missingBody) m := by
        rw [takeTurn, bodyTurn, Action.bind_apply, find_apply hm]
        simp only [hbody]
        rfl
      rw [Action.attempt, run_of_failed hturn hm]
  | some body =>
      obtain ⟨resumption, hinsular, hstep, hresume⟩ :=
        (hg.body body hbody).resume g.frame completion
      -- The generator with its body back, before the step is followed.
      let g₁ : Generator P := { g with body := some resumption.body, frame := resumption.frame }
      have hg₁ : g₁.Insular embedder :=
        ⟨fun body hsome => Option.some.inj hsome ▸ hinsular, hg.delegate⟩
      -- What the body answers is known without a machine, and each answer ends the resumption.
      cases hresult : resumption.step with
      | error fault =>
          refine ⟨.error fault, _, .failedWith embedder fault g₁, fun m hm => ?_⟩
          have hturn : takeTurn (embedder.hooks (rounds + 1) (depth + 1)) h (.body completion) m
              = .failed fault (m.setGenerator h g₁) := by
            rw [takeTurn, bodyTurn_of_fault hm hbody (hresume _ _) (hm.setGenerator _) hresult,
              Machine.setGenerator_setGenerator]
          rw [Action.attempt, run_of_failed hturn (hm.setGenerator g₁)]
          simp only [Machine.setGenerator_setGenerator]
      | ok step =>
          have hturn : ∀ m : Machine P, m.Holds h g →
              takeTurn (embedder.hooks (rounds + 1) (depth + 1)) h (.body completion) m
                = follow (embedder.hooks (rounds + 1) (depth + 1)) h step
                    (m.setGenerator h g₁) := by
            intro m hm
            exact bodyTurn_of_quiet hm hbody (hresume _ _) hresult
          cases step with
          | yielded value =>
              refine ⟨.ok ⟨value, false⟩, _, hg₁.leftWith ⟨value, false⟩, fun m hm => ?_⟩
              rw [Action.attempt, run_of_leave (hturn m hm) (hm.setGenerator g₁)]
              simp only [Machine.setGenerator_setGenerator]
          | returned value =>
              refine ⟨.ok ⟨value, true⟩, _, (Insular.complete embedder g₁).leftWith ⟨value, true⟩,
                fun m hm => ?_⟩
              have hm₁ := hm.setGenerator g₁
              rw [Action.attempt, run_of_leave ((hturn m hm).trans (follow_returned _ hm₁ value))
                (hm₁.setGenerator _)]
              simp only [Machine.setGenerator_setGenerator]
          | threw value location =>
              refine ⟨.error (.thrown value location), _,
                .failedWith embedder (.thrown value location)
                  { g₁.complete with lastLocation := location }, fun m hm => ?_⟩
              have hm₁ := hm.setGenerator g₁
              rw [Action.attempt, run_of_failed
                ((hturn m hm).trans (follow_threw _ hm₁ value location)) (hm₁.setGenerator _)]
              simp only [Machine.setGenerator_setGenerator]
          -- An insular body does not delegate, which would bring in other objects.
          | delegated iterable => exact (hstep iterable hresult).elim

/-- So an insular generator whose body gets the first turn reacts. Before the
turn it is marked as executing, which does not make it less insular. -/
theorem Insular.exists_reacts_of_body (hg : g.Insular embedder) (rounds depth : Nat) (h : Handle)
    {completion : Completion}
    (hstate : g.state = .suspendedYield ∨
      g.state = .suspendedStart ∧ ∃ value, completion = .next value) :
    ∃ outcome g', Insular embedder g' ∧
      Reacts (embedder.hooks (rounds + 1) (depth + 1)) h g completion outcome g' := by
  have hexecuting : Insular embedder { g with state := .executing } := ⟨hg.body, hg.delegate⟩
  obtain ⟨outcome, g', hg', hrun⟩ := hexecuting.exists_run rounds depth h completion
  refine ⟨outcome, g', hg', fun m hm => ?_⟩
  have hattempt := hrun _ (hm.setGenerator _)
  rw [Machine.setGenerator_setGenerator] at hattempt
  rw [Action.attempt, resume_of_body _ hm hstate hg.delegate]
  exact hattempt

/-- An insular generator reacts to every completion, in whatever state it is,
and is insular after it. Where the body does not get a turn, the state and the
completion decide. -/
theorem Insular.exists_reacts (hg : g.Insular embedder) (rounds depth : Nat) (h : Handle)
    (completion : Completion) :
    ∃ outcome g', Insular embedder g' ∧
      Reacts (embedder.hooks (rounds + 1) (depth + 1)) h g completion outcome g' := by
  cases hstate : g.state with
  | executing =>
      refine ⟨.error .reentrancy, g, hg, fun m hm => ?_⟩
      rw [Action.attempt, resume_of_executing _ hm hstate, hm.setGenerator_self]
  | completed =>
      cases completion with
      | next value =>
          refine ⟨.ok ⟨.undefined, true⟩, g, hg, fun m hm => ?_⟩
          rw [Action.attempt, resume_next_of_completed _ hm hstate, hm.setGenerator_self]
      | returning value =>
          refine ⟨.ok ⟨value, true⟩, g, hg, fun m hm => ?_⟩
          rw [Action.attempt, resume_returning_of_completed _ hm hstate, hm.setGenerator_self]
      | throwing value =>
          refine ⟨.error (.thrown value g.lastLocation), g, hg, fun m hm => ?_⟩
          rw [Action.attempt, resume_throwing_of_completed _ hm hstate, hm.setGenerator_self]
  -- A suspended body gets the turn. One that was not begun gets it only with a value.
  | suspendedYield => exact hg.exists_reacts_of_body rounds depth h (.inl hstate)
  | suspendedStart =>
      cases completion with
      | next value =>
          exact hg.exists_reacts_of_body rounds depth h (.inr ⟨hstate, value, rfl⟩)
      | returning value =>
          refine ⟨.ok ⟨value, true⟩, g.complete, .complete embedder g, fun m hm => ?_⟩
          rw [Action.attempt, resume, Action.bind_apply, find_apply hm]
          simp only [hstate]
          rw [Action.bind_apply, modify_apply hm]
          rfl
      | throwing value =>
          refine ⟨.error (.thrown value none), g.complete, .complete embedder g, fun m hm => ?_⟩
          rw [Action.attempt, resume, Action.bind_apply, find_apply hm]
          simp only [hstate]
          rw [Action.bind_apply, modify_apply hm]
          rfl

/-- The reactions of a generator to one completion after the other, and what
has become of it in the end. -/
inductive Reactions (hooks : Hooks P) (h : Handle) :
    Generator P → List Completion → List (Except Fault IterResult) → Generator P → Prop
  | nil (g : Generator P) : Reactions hooks h g [] [] g
  | cons {g g₁ g' : Generator P} {completion : Completion} {completions : List Completion}
      {outcome : Except Fault IterResult} {outcomes : List (Except Fault IterResult)}
      (first : Reacts hooks h g completion outcome g₁)
      (rest : Reactions hooks h g₁ completions outcomes g') :
      Reactions hooks h g (completion :: completions) (outcome :: outcomes) g'

/-- An insular generator has reactions to every sequence of completions. By
induction on the sequence, since it is insular again after the first of
them. -/
theorem Insular.exists_reactions (hg : g.Insular embedder) (rounds depth : Nat) (h : Handle)
    (completions : List Completion) :
    ∃ outcomes g',
      Reactions (embedder.hooks (rounds + 1) (depth + 1)) h g completions outcomes g' := by
  induction completions generalizing g with
  | nil => exact ⟨[], g, .nil g⟩
  | cons completion completions ih =>
      obtain ⟨outcome, g₁, hg₁, hfirst⟩ := hg.exists_reacts rounds depth h completion
      obtain ⟨outcomes, g', hrest⟩ := ih hg₁
      exact ⟨outcome :: outcomes, g', .cons hfirst hrest⟩

/-! ### Interleaving -/

/-- Resumes generators one after the other, and notes for each call whose it
was and what came of it. A call that fails does not keep the next from being
made. -/
def resumeAll (hooks : Hooks P) :
    List (Handle × Completion) → Action P (List (Handle × Except Fault IterResult))
  | [] => return []
  | (h, completion) :: calls => do
      let outcome ← (resume hooks h completion).attempt
      let outcomes ← resumeAll hooks calls
      return (h, outcome) :: outcomes

variable {hooks : Hooks P} {m : Machine P}

/-- The first call and the rest of them, each with what comes of it. A fault
of the first call is noted like a result. -/
theorem resumeAll_cons {h : Handle} {completion : Completion}
    {outcome : Except Fault IterResult} {m₁ k : Machine P} {calls : List (Handle × Completion)}
    {outcomes : List (Handle × Except Fault IterResult)}
    (hfirst : (resume hooks h completion).attempt m = .done outcome m₁)
    (hrest : resumeAll hooks calls m₁ = .done outcomes k) :
    resumeAll hooks ((h, completion) :: calls) m = .done ((h, outcome) :: outcomes) k := by
  rw [resumeAll, Action.bind_apply, hfirst]
  simp only
  rw [Action.bind_apply, hrest]
  rfl

/-- What is noted under a handle. -/
def notesOf {α : Type} (h : Handle) (notes : List (Handle × α)) : List α :=
  (notes.filter (·.1 = h)).map (·.2)

section

variable {α : Type} {h h' : Handle}

/-- A note under this handle comes first. -/
theorem notesOf_cons_self (h : Handle) (a : α) (notes : List (Handle × α)) :
    notesOf h ((h, a) :: notes) = a :: notesOf h notes := by
  simp [notesOf]

/-- A note under another handle does not count. -/
theorem notesOf_cons_of_ne (hne : h' ≠ h) (a : α) (notes : List (Handle × α)) :
    notesOf h ((h', a) :: notes) = notesOf h notes := by
  simp [notesOf, hne]

/-- With the handle put back, these are the notes that a filter would have
left. -/
theorem map_notesOf (h : Handle) (notes : List (Handle × α)) :
    (notesOf h notes).map (fun a => (h, a)) = notes.filter (·.1 = h) := by
  induction notes with
  | nil => rfl
  | cons note notes ih =>
      obtain ⟨h', a⟩ := note
      by_cases hh : h' = h
      · subst hh
        rw [notesOf_cons_self, List.map_cons, ih, List.filter_cons_of_pos (by simp)]
      · rw [notesOf_cons_of_ne hh, ih, List.filter_cons_of_neg (by simpa using hh)]

end

/-- Calls on one generator show its reactions. By induction on the reactions,
for every machine that holds the generator, since each call is made in the
machine that the last one left. -/
theorem Reactions.resumeAll {h : Handle} {g g' : Generator P} {completions : List Completion}
    {outcomes : List (Except Fault IterResult)}
    (hreactions : Reactions hooks h g completions outcomes g') (hm : m.Holds h g) :
    resumeAll hooks (completions.map fun completion => (h, completion)) m
      = .done (outcomes.map fun outcome => (h, outcome)) (m.setGenerator h g') := by
  induction hreactions generalizing m with
  | nil g => rw [hm.setGenerator_self]; rfl
  | cons first rest ih =>
      have hrest := ih (hm.setGenerator _)
      rw [Machine.setGenerator_setGenerator] at hrest
      exact resumeAll_cons (first m hm) hrest

variable {a b : Handle} {ga gb ga' gb' : Generator P}

/-- Calls on two generators, in any order, show the reactions of both. By
induction on the calls. Each call takes the first reaction from one of the two
sequences and leaves the other generator where it was, so both hypotheses are
there again for the remaining calls. -/
theorem Reactions.resumeAll_interleaved (hne : a ≠ b) {calls : List (Handle × Completion)}
    {outcomesA outcomesB : List (Except Fault IterResult)}
    (hcalls : ∀ call ∈ calls, call.1 = a ∨ call.1 = b) (ha : m.Holds a ga) (hb : m.Holds b gb)
    (hreactionsA : Reactions hooks a ga (notesOf a calls) outcomesA ga')
    (hreactionsB : Reactions hooks b gb (notesOf b calls) outcomesB gb') :
    ∃ outcomes, Generator.resumeAll hooks calls m
        = .done outcomes ((m.setGenerator a ga').setGenerator b gb') ∧
      notesOf a outcomes = outcomesA ∧ notesOf b outcomes = outcomesB := by
  induction calls generalizing m ga gb outcomesA outcomesB with
  | nil =>
      rw [show notesOf a ([] : List (Handle × Completion)) = [] from rfl] at hreactionsA
      rw [show notesOf b ([] : List (Handle × Completion)) = [] from rfl] at hreactionsB
      cases hreactionsA
      cases hreactionsB
      refine ⟨[], ?_, rfl, rfl⟩
      rw [ha.setGenerator_self, hb.setGenerator_self]
      rfl
  | cons call calls ih =>
      obtain ⟨h, completion⟩ := call
      have hrest : ∀ call ∈ calls, call.1 = a ∨ call.1 = b := fun call hcall =>
        hcalls call (.tail _ hcall)
      rcases hcalls _ (.head _) with hh | hh
      · -- The call is on `a`, whose reactions lose their first, and `b` is where it was.
        cases hh
        rw [notesOf_cons_self] at hreactionsA
        rw [notesOf_cons_of_ne hne] at hreactionsB
        cases hreactionsA with
        | cons first rest =>
            obtain ⟨outcomes, hrun, hnotesA, hnotesB⟩ := ih hrest (ha.setGenerator _)
              (hb.setGenerator_of_ne hne.symm _) rest hreactionsB
            rw [Machine.setGenerator_setGenerator] at hrun
            refine ⟨_, resumeAll_cons (first m ha) hrun, ?_, ?_⟩
            · rw [notesOf_cons_self, hnotesA]
            · rw [notesOf_cons_of_ne hne, hnotesB]
      · -- The call is on `b`. In the end `a` is put back first, so the two changes are swapped.
        cases hh
        rw [notesOf_cons_of_ne hne.symm] at hreactionsA
        rw [notesOf_cons_self] at hreactionsB
        cases hreactionsB with
        | cons first rest =>
            obtain ⟨outcomes, hrun, hnotesA, hnotesB⟩ := ih hrest
              (ha.setGenerator_of_ne hne _) (hb.setGenerator _) hreactionsA rest
            rw [Machine.setGenerator_comm m hne.symm, Machine.setGenerator_setGenerator] at hrun
            refine ⟨_, resumeAll_cons (first m hb) hrun, ?_, ?_⟩
            · rw [notesOf_cons_of_ne hne.symm, hnotesA]
            · rw [notesOf_cons_self, hnotesB]

end Generator

open Generator (resumeAll)

/-- Two insular generators do not interfere. Whatever calls are made on them
in whatever order, the calls on each come to the same as when they alone are
made, and leave the same record, and nothing else in the machine changes. -/
theorem generators_independent (embedder : Embedder P) (rounds depth : Nat) {m : Machine P}
    {a b : Handle} {ga gb : Generator P} (hne : a ≠ b) (ha : m.Holds a ga) (hb : m.Holds b gb)
    (hinsularA : ga.Insular embedder) (hinsularB : gb.Insular embedder)
    (calls : List (Handle × Completion)) (hcalls : ∀ call ∈ calls, call.1 = a ∨ call.1 = b) :
    ∃ outcomes k ka kb,
      resumeAll (embedder.hooks (rounds + 1) (depth + 1)) calls m = .done outcomes k ∧
      resumeAll (embedder.hooks (rounds + 1) (depth + 1)) (calls.filter (·.1 = a)) m
        = .done (outcomes.filter (·.1 = a)) ka ∧
      resumeAll (embedder.hooks (rounds + 1) (depth + 1)) (calls.filter (·.1 = b)) m
        = .done (outcomes.filter (·.1 = b)) kb ∧
      k.realm.record a = ka.realm.record a ∧ k.realm.record b = kb.realm.record b ∧
      (∀ h, h ≠ a → h ≠ b → k.realm.record h = m.realm.record h) ∧
      k.realm.size = m.realm.size ∧ k.memory = m.memory := by
  -- What each generator does is found beforehand, from its own calls alone.
  obtain ⟨outcomesA, ga', hreactionsA⟩ :=
    hinsularA.exists_reactions rounds depth a (Generator.notesOf a calls)
  obtain ⟨outcomesB, gb', hreactionsB⟩ :=
    hinsularB.exists_reactions rounds depth b (Generator.notesOf b calls)
  obtain ⟨outcomes, hrun, rfl, rfl⟩ :=
    hreactionsA.resumeAll_interleaved hne hcalls ha hb hreactionsB
  have hrunA := hreactionsA.resumeAll ha
  have hrunB := hreactionsB.resumeAll hb
  rw [Generator.map_notesOf, Generator.map_notesOf] at hrunA hrunB
  refine ⟨outcomes, _, _, _, hrun, hrunA, hrunB, ?_, ?_, fun h hnea hneb => ?_, ?_, rfl⟩
  · exact Machine.record_setGenerator_of_ne hne gb'
  -- Of two changes to different objects either may be taken for the last.
  · rw [Machine.setGenerator_comm m hne]
    exact Machine.record_setGenerator_of_ne hne.symm ga'
  · rw [Machine.record_setGenerator_of_ne hneb, Machine.record_setGenerator_of_ne hnea]
  · exact (Realm.size_update _ _ _).trans (Realm.size_update _ _ _)

/-- A body of fixed steps is insular, if none of them delegates. The bodies
that it may come to are the lists of such steps. -/
theorem Embedder.fixed_insular {steps : List Step}
    (hsteps : ∀ iterable, Step.delegated iterable ∉ steps) : Embedder.fixed.Insular steps := by
  refine ⟨fun (steps : List Step) => ∀ iterable, Step.delegated iterable ∉ steps, hsteps, ?_⟩
  intro steps hsteps frame completion
  refine ⟨_, fun iterable hmem => hsteps iterable (List.mem_of_mem_tail hmem), ?_,
    fun _ _ => rfl⟩
  -- The step that is taken is the first of the list, or to return.
  intro iterable heq
  cases steps with
  | nil => cases heq
  | cons step rest => exact hsteps iterable (Except.ok.inj heq ▸ .head _)

/-- A generator that has yet to take fixed steps. -/
def fixedGenerator (steps : List Step) : Generator Platform.fixed := .create steps {}

/-- A generator that has yet to take such steps is insular. -/
theorem fixedGenerator_insular {steps : List Step}
    (hsteps : ∀ iterable, Step.delegated iterable ∉ steps) :
    (fixedGenerator steps).Insular Embedder.fixed where
  body body hbody := by
    cases hbody
    exact Embedder.fixed_insular hsteps
  delegate := rfl

/-- Two generators. The first yields and throws, the second yields twice. -/
def pairMachine : Machine Platform.fixed where
  realm :=
    { objects :=
        #[.create (.generator
            (fixedGenerator [.yielded .null, .threw .null (some ⟨"main", 7⟩)])) none,
          .create (.generator (fixedGenerator [.yielded .null, .yielded .undefined])) none]
      config := {}
      nextSymbol := 0 }
  memory := ()

/-- That the first generator throws is nothing to the second. Its calls come
to what they come to by themselves, between the calls on the other one and
after it has failed. -/
theorem generators_independent_throwing :
    ∃ outcomes k kb,
      resumeAll (Embedder.fixed.hooks 1 1) [(⟨0⟩, .next .undefined), (⟨1⟩, .next .null),
        (⟨0⟩, .next .null), (⟨1⟩, .next .undefined), (⟨0⟩, .throwing .undefined)] pairMachine
          = .done outcomes k ∧
      resumeAll (Embedder.fixed.hooks 1 1) [(⟨1⟩, .next .null), (⟨1⟩, .next .undefined)]
        pairMachine = .done (outcomes.filter (·.1 = ⟨1⟩)) kb ∧
      k.realm.record ⟨1⟩ = kb.realm.record ⟨1⟩ := by
  have hfirst : pairMachine.Holds ⟨0⟩
    (fixedGenerator [.yielded .null, .threw .null (some ⟨"main", 7⟩)]) := rfl
  have hsecond : pairMachine.Holds ⟨1⟩ (fixedGenerator [.yielded .null, .yielded .undefined]) :=
    rfl
  obtain ⟨outcomes, k, -, kb, hrun, -, hrunB, -, hsame, -⟩ :=
    generators_independent Embedder.fixed 0 0 (by decide) hfirst hsecond
      (fixedGenerator_insular (by simp)) (fixedGenerator_insular (by simp))
      [(⟨0⟩, .next .undefined), (⟨1⟩, .next .null), (⟨0⟩, .next .null), (⟨1⟩, .next .undefined),
        (⟨0⟩, .throwing .undefined)] (by simp)
  exact ⟨outcomes, k, kb, hrun, hrunB, hsame⟩

end ScriptRealm
