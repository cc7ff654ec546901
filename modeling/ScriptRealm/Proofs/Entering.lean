import ScriptRealm.Proofs.Fatality

/-!
# `ScriptRealm.Proofs.Entering`: what code a sequence starts

`Hooks.Enters` says that what an operation comes to depends on what some code
does in some machine. To show it, two behaviours of the code are needed that
make a difference, and two faults that the code raises are such
(`enters_of_raiseAt`).

So the code that a sequence starts can be read off its parts. It is what the
first part starts, and what the rest starts from where the first part has led
(`enters_bind_iff`, and `enters_attempt_bind_iff` where the first part is
attempted).
-/

set_option autoImplicit false

namespace ScriptRealm

open ScriptRealm.Action (Relays)

variable {P : Platform} {α β : Type}

/-- What is returned for a fault shows which fault it was. -/
def Fault.Shown (returns : Fault → Machine P → Outcome P α → Prop) : Prop :=
  ∀ fault fault' k k' outcome, returns fault k outcome → returns fault' k' outcome →
    fault = fault'

/-- An end that is the fault itself shows which fault it was. -/
theorem Fault.shown_failed :
    Fault.Shown fun fault (k : Machine P) (outcome : Outcome P α) => outcome = .failed fault k := by
  rintro fault fault' k k' outcome rfl hfailed
  cases hfailed
  rfl

namespace Hooks

variable {hooks : Hooks P} {op : Hooks P → Action P α} {m k : Machine P} {entry : Entry P}

/-- An operation that shows every fatal fault that some code raises starts the
code: two of the faults make a difference. Only one of them may come to what
the hooks as they are come to. -/
theorem enters_of_returns {returns : Fault → Machine P → Outcome P α → Prop}
    (hshown : Fault.Shown returns) (hraises : ∀ fault : Fault, fault.isFatal = true →
      returns fault k (op (hooks.raiseAt entry k fault) m)) : hooks.Enters op m entry k := by
  have hfirst := hraises .reentrancy rfl
  have hsecond := hraises (.internal .missingBody) rfl
  by_cases hsame : op hooks m = op (hooks.raiseAt entry k .reentrancy) m
  · refine ⟨_, hooks.agreeOutside_raiseAt entry k (.internal .missingBody), ?_⟩
    rw [hsame]
    intro heq
    rw [heq] at hfirst
    cases hshown _ _ _ _ _ hfirst hsecond
  · exact ⟨_, hooks.agreeOutside_raiseAt entry k .reentrancy, hsame⟩

/-- An operation that fails with every fatal fault that some code raises
starts the code. -/
theorem enters_of_raiseAt (hraises : ∀ fault : Fault, fault.isFatal = true →
    op (hooks.raiseAt entry k fault) m = .failed fault k) : hooks.Enters op m entry k :=
  enters_of_returns Fault.shown_failed hraises

/-- Operations that come to the same in a machine start the same code there. -/
theorem enters_congr {op' : Hooks P → Action P α} (hsame : ∀ hooks, op hooks m = op' hooks m) :
    hooks.Enters op m entry k ↔ hooks.Enters op' m entry k := by
  simp only [Enters, hsame]

/-- The allowance is no code. An operation that looks it up may be read as one
that was given it. -/
theorem enters_rounds_iff (op : Nat → Hooks P → Action P α) :
    hooks.Enters (fun hooks => op hooks.rounds hooks) m entry k ↔
      hooks.Enters (op hooks.rounds) m entry k := by
  -- Hooks that differ in the code have the same allowance.
  apply exists_congr
  intro hooks'
  apply and_congr_right
  intro houtside
  show op hooks.rounds hooks m ≠ op hooks'.rounds hooks' m ↔ _
  rw [← houtside.rounds]

/-! ### The parts of a sequence -/

/-- What does not depend on the hooks starts no code. -/
theorem not_enters_const (x : Action P α) : ¬ hooks.Enters (fun _ => x) m entry k := by
  rintro ⟨hooks', -, hne⟩
  exact hne rfl

/-- A call starts the code it calls, in the machine in which it is made, and
no other code. -/
theorem enters_call_iff {f this : Value} {args : List Value} :
    hooks.Enters (·.call f this args) m entry k ↔ entry = .call f this args ∧ k = m := by
  constructor
  -- Hooks that differ elsewhere make the call alike.
  · rintro ⟨hooks', houtside, hne⟩
    apply Classical.byContradiction
    intro hother
    apply hne
    apply houtside.call
    rintro ⟨rfl, rfl⟩
    exact hother ⟨rfl, rfl⟩
  · rintro ⟨rfl, rfl⟩
    apply enters_of_raiseAt
    intro fault _
    exact if_pos ⟨rfl, rfl⟩

/-- A sequence starts what its first part starts and, if that part is done,
what the rest starts. The first part has to relay fatal faults: otherwise the
rest could undo the difference that the code makes. -/
theorem enters_bind_iff {x : Hooks P → Action P α} {f : Hooks P → α → Action P β}
    (hx : Relays x) :
    hooks.Enters (fun hooks => x hooks >>= f hooks) m entry k ↔
      hooks.Enters x m entry k ∨
        ∃ a m₁, x hooks m = .done a m₁ ∧ hooks.Enters (f · a) m₁ entry k := by
  -- A fault that the first part relays is that of the sequence.
  have hfirst : hooks.Enters x m entry k →
      hooks.Enters (fun hooks => x hooks >>= f hooks) m entry k := by
    intro henters
    apply enters_of_raiseAt
    intro fault hfault
    rw [Action.bind_apply, henters.raiseAt hx hfault]
  constructor
  · rintro ⟨hooks', houtside, hne⟩
    -- If the first part does not start the code, it comes to the same under both hooks.
    by_cases henters : hooks.Enters x m entry k
    · exact .inl henters
    · right
      have hsame : x hooks' m = x hooks m := houtside.same henters
      simp only [Action.bind_apply, hsame] at hne
      cases hend : x hooks m with
      | done a m₁ =>
          rw [hend] at hne
          exact ⟨a, m₁, rfl, hooks', houtside, hne⟩
      | failed fault m₁ =>
          rw [hend] at hne
          exact absurd rfl hne
      | exhausted =>
          rw [hend] at hne
          exact absurd rfl hne
  · rintro (henters | ⟨a, m₁, hend, hooks', houtside, hne⟩)
    · exact hfirst henters
    · by_cases henters : hooks.Enters x m entry k
      · exact hfirst henters
      · refine ⟨hooks', houtside, ?_⟩
        have hsame : x hooks' m = x hooks m := houtside.same henters
        simp only [Action.bind_apply, hsame, hend]
        exact hne

/-- A sequence starts nothing more than its first part if no code is run after
that. -/
theorem enters_bind_const_iff {x : Hooks P → Action P α} (f : α → Action P β) (hx : Relays x) :
    hooks.Enters (fun hooks => x hooks >>= f) m entry k ↔ hooks.Enters x m entry k := by
  rw [enters_bind_iff (f := fun _ => f) hx]
  constructor
  · rintro (henters | ⟨a, m₁, -, henters⟩)
    · exact henters
    · exact absurd henters (not_enters_const _)
  · exact .inl

/-- A sequence whose first part is attempted goes on whether that part is
done or fails. If the fault is fatal the sequence must be at its end. -/
theorem enters_attempt_bind_iff {x : Hooks P → Action P α}
    {f : Hooks P → Except Fault α → Action P β} (hx : Relays x)
    (hfatal : ∀ (hooks : Hooks P) fault m₁, fault.isFatal = true →
      f hooks (.error fault) m₁ = .failed fault m₁) :
    hooks.Enters (fun hooks => (x hooks).attempt >>= f hooks) m entry k ↔
      hooks.Enters x m entry k ∨
        (∃ a m₁, x hooks m = .done a m₁ ∧ hooks.Enters (f · (.ok a)) m₁ entry k) ∨
        ∃ fault m₁, x hooks m = .failed fault m₁ ∧
          hooks.Enters (f · (.error fault)) m₁ entry k := by
  -- A fatal fault of the first part is one of the sequence, for the rest has to fail with it.
  have hfirst : hooks.Enters x m entry k →
      hooks.Enters (fun hooks => (x hooks).attempt >>= f hooks) m entry k := by
    intro henters
    apply enters_of_raiseAt
    intro fault hfault
    rw [Action.bind_apply, Action.attempt, henters.raiseAt hx hfault]
    exact hfatal _ fault k hfault
  constructor
  · rintro ⟨hooks', houtside, hne⟩
    by_cases henters : hooks.Enters x m entry k
    · exact .inl henters
    · right
      have hsame : x hooks' m = x hooks m := houtside.same henters
      simp only [Action.bind_apply, Action.attempt, hsame] at hne
      cases hend : x hooks m with
      | done a m₁ =>
          rw [hend] at hne
          exact .inl ⟨a, m₁, rfl, hooks', houtside, hne⟩
      | failed fault m₁ =>
          rw [hend] at hne
          exact .inr ⟨fault, m₁, rfl, hooks', houtside, hne⟩
      | exhausted =>
          rw [hend] at hne
          exact absurd rfl hne
  · rintro (henters | ⟨a, m₁, hend, hooks', houtside, hne⟩ |
      ⟨fault, m₁, hend, hooks', houtside, hne⟩)
    · exact hfirst henters
    all_goals
      by_cases henters : hooks.Enters x m entry k
      · exact hfirst henters
      · refine ⟨hooks', houtside, ?_⟩
        have hsame : x hooks' m = x hooks m := houtside.same henters
        simp only [Action.bind_apply, Action.attempt, hsame, hend]
        exact hne

end Hooks

end ScriptRealm
