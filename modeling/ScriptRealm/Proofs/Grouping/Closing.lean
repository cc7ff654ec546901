import ScriptRealm.Proofs.Embedding
import ScriptRealm.Proofs.Grouping.Course

/-!
# `ScriptRealm.Proofs.Grouping.Closing`: when a grouping closes its iterator

A grouping that is done with an iterator before the iterator is at its end
closes it. `Iteration.Closes` says what closing after a failure comes to:
the method `return` is looked up once and, if it is there, called once, and
the failure outlasts all that short of a fatal fault. The code of this is
`Iteration.ClosingStarts`.

`groupBy_closes` says which halts of a grouping close the iterator. An item
past the bound and a failure of the callback do, unless it is fatal. The end
of the iterator and a failure of the iterator itself do not. As the code of
the whole grouping is given along with it, nothing is asked or called after
the closing, and `return` is not looked up anywhere else.
-/

set_option autoImplicit false

namespace ScriptRealm

variable {P : Platform} {α β : Type}

/-- The failure that remains when closing an iterator fails after a failure. -/
def Fault.outlasting (fault inner : Fault) : Fault :=
  if inner.isFatal then inner else fault

namespace Iteration

/-- The look-up of an iterator's method `return`. -/
def closingMethod? (hooks : Hooks P) (iterator : Handle) : Action P (Option Value) :=
  Object.getMethod? hooks (.object iterator) (.string "return")

/-- What closing an iterator after a failure comes to. -/
inductive Closes (hooks : Hooks P) (iterator : Handle) (fault : Fault) (m : Machine P) :
    Outcome P α → Prop where
  /-- There is no method, and nothing is called. -/
  | absent {k : Machine P} (hlookup : closingMethod? hooks iterator m = .done none k) :
      Closes hooks iterator fault m (.failed fault k)
  | lookupFails {inner : Fault} {k : Machine P}
      (hlookup : closingMethod? hooks iterator m = .failed inner k) :
      Closes hooks iterator fault m (.failed (fault.outlasting inner) k)
  /-- Whatever the method answers, it is no object that is asked for. -/
  | answers {method answer : Value} {called k : Machine P}
      (hlookup : closingMethod? hooks iterator m = .done (some method) called)
      (hcall : hooks.call method (.object iterator) [] called = .done answer k) :
      Closes hooks iterator fault m (.failed fault k)
  | callFails {method : Value} {inner : Fault} {called k : Machine P}
      (hlookup : closingMethod? hooks iterator m = .done (some method) called)
      (hcall : hooks.call method (.object iterator) [] called = .failed inner k) :
      Closes hooks iterator fault m (.failed (fault.outlasting inner) k)
  | lookupExhausted (hlookup : closingMethod? hooks iterator m = .exhausted) :
      Closes hooks iterator fault m .exhausted
  | callExhausted {method : Value} {called : Machine P}
      (hlookup : closingMethod? hooks iterator m = .done (some method) called)
      (hcall : hooks.call method (.object iterator) [] called = .exhausted) :
      Closes hooks iterator fault m .exhausted

/-- The code that closing an iterator starts: that of the look-up, and one
call of the method without arguments. -/
inductive ClosingStarts (hooks : Hooks P) (iterator : Handle) (m : Machine P) (entry : Entry P)
    (k : Machine P) : Prop where
  | lookup (henters : hooks.Enters (closingMethod? · iterator) m entry k)
  | call {method : Value} (hlookup : closingMethod? hooks iterator m = .done (some method) k)
      (hentry : entry = .call method (.object iterator) [])

variable {hooks : Hooks P} {record : IteratorRecord} {iterator : Handle} {fault : Fault}
  {m k : Machine P} {entry : Entry P}

/-- Closing after a failure has no result that could be changed. So what is
done to the groups in a grouping is nothing to the closing. -/
theorem Closes.map (f : α → β) {x : Action P α} (hcloses : Closes hooks iterator fault m (x k)) :
    Closes hooks iterator fault m ((f <$> x) k) := by
  rw [Action.map_apply]
  generalize x k = outcome at hcloses
  cases hcloses with
  | absent hlookup => exact .absent hlookup
  | lookupFails hlookup => exact .lookupFails hlookup
  | answers hlookup hcall => exact .answers hlookup hcall
  | callFails hlookup hcall => exact .callFails hlookup hcall
  | lookupExhausted hlookup => exact .lookupExhausted hlookup
  | callExhausted hlookup hcall => exact .callExhausted hlookup hcall

/-- Without a method there is nothing to close. The look-up has one outcome,
which excludes all the other ways that a closing may go. -/
theorem Closes.eq_of_absent {outcome : Outcome P α}
    (hcloses : Closes hooks iterator fault m outcome)
    (habsent : closingMethod? hooks iterator m = .done none k) : outcome = .failed fault k := by
  cases hcloses with
  | absent hlookup =>
      cases hlookup.symm.trans habsent
      rfl
  | lookupFails hlookup => cases hlookup.symm.trans habsent
  | answers hlookup hcall => cases hlookup.symm.trans habsent
  | callFails hlookup hcall => cases hlookup.symm.trans habsent
  | lookupExhausted hlookup => cases hlookup.symm.trans habsent
  | callExhausted hlookup hcall => cases hlookup.symm.trans habsent

/-- The rest of a closing once the method is looked up. -/
def callClosing (hooks : Hooks P) (iterator : Handle) : Option Value → Action P (Option Value)
  | none => return none
  | some method => some <$> hooks.call method (.object iterator) []

/-- A closing is the look-up and then the call. -/
theorem callReturn_eq (hooks : Hooks P) (iterator : Handle) :
    callReturn hooks iterator = closingMethod? hooks iterator >>= callClosing hooks iterator := rfl

/-- Closing after a failure that is not fatal. Whatever comes of it, it fails,
and only which of two faults it fails with depends on the call. -/
theorem close_of_error (hooks : Hooks P) (record : IteratorRecord)
    (hfault : fault.isFatal = false) :
    close hooks record (.error fault) =
      (callReturn hooks record.iterator).attempt >>= fun
        | .error inner => Action.fail (fault.outlasting inner)
        | .ok _ => Action.fail fault := by
  simp only [close, hfault, Bool.false_eq_true, if_false]
  rfl

/-- Closing after such a failure comes to what `Closes` says, which lists the
outcomes of the look-up and of the call. -/
theorem close_closes (hfault : fault.isFatal = false) :
    Closes hooks record.iterator fault m (close hooks record (.error fault) m) := by
  rw [close_of_error hooks record hfault, Action.bind_apply, Action.attempt, callReturn_eq,
    Action.bind_apply]
  cases hlookup : closingMethod? hooks record.iterator m with
  | exhausted => exact .lookupExhausted hlookup
  | failed inner k => exact .lookupFails hlookup
  | done method? called =>
      cases method? with
      | none => exact .absent hlookup
      | some method =>
          simp only [callClosing, Action.map_apply]
          cases hcall : hooks.call method (.object record.iterator) [] called with
          | exhausted => exact .callExhausted hlookup hcall
          | failed inner k => exact .callFails hlookup hcall
          | done answer k => exact .answers hlookup hcall

/-- The look-up of `return` relays fatal faults. So what code it starts can be
told from its end. -/
theorem closingMethod?_relays (iterator : Handle) :
    Action.Relays fun hooks : Hooks P => closingMethod? hooks iterator :=
  Object.getMethod?_relays _ _

/-- A closing starts the code of the look-up, and the call if the look-up has
found a method. If it has found none, nothing is left that could start
code. -/
theorem enters_callReturn_iff :
    hooks.Enters (callReturn · iterator) m entry k ↔ ClosingStarts hooks iterator m entry k := by
  simp only [callReturn_eq]
  rw [Hooks.enters_bind_iff (closingMethod?_relays iterator)]
  constructor
  · rintro (henters | ⟨method?, called, hlookup, henters⟩)
    · exact .lookup henters
    · cases method? with
      | none => exact absurd henters (Hooks.not_enters_const _)
      | some method =>
          -- What is done with the answer does not depend on the hooks, so the call is all there
          -- is.
          simp only [callClosing, map_eq_pure_bind] at henters
          rw [Hooks.enters_bind_const_iff _ (.call _ _ _), Hooks.enters_call_iff] at henters
          obtain ⟨hentry, rfl⟩ := henters
          exact .call hlookup hentry
  · intro hstarts
    cases hstarts with
    | lookup henters => exact .inl henters
    | @call method hlookup hentry =>
        refine .inr ⟨some method, k, hlookup, ?_⟩
        simp only [callClosing, map_eq_pure_bind]
        rw [Hooks.enters_bind_const_iff _ (.call _ _ _), Hooks.enters_call_iff]
        exact ⟨hentry, rfl⟩

/-- Closing after a failure starts the code of closing, and no other. What
follows on the call is to fail, in one way or another. -/
theorem enters_close_iff (hfault : fault.isFatal = false) :
    hooks.Enters (close · record (.error fault)) m entry k ↔
      ClosingStarts hooks record.iterator m entry k := by
  -- A fatal fault goes through, as every operation that attempts another has to let it.
  have hfatal : ∀ (inner : Fault) (m₁ : Machine P), inner.isFatal = true →
      (Action.fail (fault.outlasting inner) : Action P Value) m₁ = .failed inner m₁ := by
    intro inner m₁ hinner
    rw [Fault.outlasting, if_pos hinner]
    rfl
  simp only [close_of_error _ record hfault]
  rw [Hooks.enters_attempt_bind_iff (callReturn_relays _) (fun _ => hfatal),
    enters_callReturn_iff]
  constructor
  · rintro (hstarts | ⟨answer, m₁, -, henters⟩ | ⟨inner, m₁, -, henters⟩)
    · exact hstarts
    · exact absurd henters (Hooks.not_enters_const _)
    · exact absurd henters (Hooks.not_enters_const _)
  · exact .inl

end Iteration

namespace Grouping

open ScriptRealm.Iteration (Closes ClosingStarts)

/-- The failure that brings a halt, if it is one. -/
def Halt.fault? : Halt P → Option Fault
  | .ended => none
  | .broken fault => some fault
  | .overran => some (.range .tooManyValues)
  | .refused _ _ fault => some fault

/-- The halts at which the iterator is closed: it has given an item with which
the grouping could not go on, and no fault was fatal. -/
def Halt.closes : Halt P → Bool
  | .ended | .broken _ => false
  | .overran => true
  | .refused _ _ fault => !fault.isFatal

variable {hooks : Hooks P} {record : IteratorRecord} {halt : Halt P} {fault : Fault}
  {m k : Machine P} {entry : Entry P}

/-- The groupings' own form of closing does not return groups, as it always
fails. -/
theorem closeWith_closes (hfault : fault.isFatal = false) :
    Closes hooks record.iterator fault m (closeWith hooks record fault m) :=
  (Iteration.close_closes hfault).map fun _ => []

/-- It starts the code of closing, unless the failure is fatal. Then nothing
is started. -/
theorem enters_closeWith_iff :
    hooks.Enters (closeWith · record fault) m entry k ↔
      fault.isFatal = false ∧ ClosingStarts hooks record.iterator m entry k := by
  simp only [closeWith]
  rw [Hooks.enters_bind_const_iff _ (Iteration.close_relays record _)]
  cases hfault : fault.isFatal with
  | false => simp only [Iteration.enters_close_iff hfault, true_and]
  | true =>
      simp only [Iteration.close_of_fatal _ record hfault, Hooks.not_enters_const,
        Bool.true_eq_false, false_and]

/-- A halt at which the iterator is closed comes to what closing comes to.
There are two such halts, an item past the bound and a callback that
failed. -/
theorem Halt.outcome_closes (hfault : halt.fault? = some fault) (hcloses : halt.closes = true) :
    Closes hooks record.iterator fault m (halt.outcome hooks record m) := by
  cases halt with
  | ended => cases hcloses
  | broken fault => cases hcloses
  | overran =>
      cases hfault
      exact closeWith_closes rfl
  | refused item called fault =>
      cases hfault
      have hfault : fault.isFatal = false := by simpa [Halt.closes] using hcloses
      exact closeWith_closes hfault

/-- If there is no method `return`, the failure is all there is. -/
theorem Halt.outcome_of_absent (hfault : halt.fault? = some fault) (hcloses : halt.closes = true)
    (habsent : Iteration.closingMethod? hooks record.iterator m = .done none k) :
    halt.outcome hooks record m = .failed fault k :=
  (Halt.outcome_closes hfault hcloses).eq_of_absent habsent

/-- Any other failure stands as it is. The iterator is not closed when it has
failed itself, nor when the fault is fatal. -/
theorem Halt.outcome_of_not_closes (hfault : halt.fault? = some fault)
    (hcloses : halt.closes = false) : halt.outcome hooks record m = .failed fault m := by
  cases halt with
  | ended => cases hfault
  | broken fault =>
      cases hfault
      rfl
  | overran => cases hcloses
  | refused item called fault =>
      cases hfault
      have hfatal : fault.isFatal = true := by simpa [Halt.closes] using hcloses
      rw [Halt.outcome, closeWith, Iteration.close_of_fatal hooks record hfatal]
      rfl

/-- At the end of the iterator there is nothing left to do. -/
theorem Halt.outcome_of_none (hfault : halt.fault? = none) :
    halt.outcome hooks record m = .done [] m := by
  cases halt with
  | ended => rfl
  | broken fault => cases hfault
  | overran => cases hfault
  | refused item called fault => cases hfault

/-- What is left to do at a halt starts the code of closing, if the iterator
is closed. This is why `return` is not looked up at other halts. -/
theorem Halt.enters_outcome_iff :
    hooks.Enters (halt.outcome · record) m entry k ↔
      halt.closes = true ∧ ClosingStarts hooks record.iterator m entry k := by
  cases halt with
  | ended => simp [Halt.outcome, Halt.closes, Hooks.not_enters_const]
  | broken fault => simp [Halt.outcome, Halt.closes, Hooks.not_enters_const]
  | overran => simp [Halt.outcome, Halt.closes, enters_closeWith_iff, Fault.isFatal]
  | refused item called fault => simp [Halt.outcome, Halt.closes, enters_closeWith_iff]

end Grouping

open Grouping (groupBy Round Starts Course)
open Iteration (Closes ClosingStarts)

/-- A realm with an iterable, a function for its methods, an iterator, its
method `return`, and the result that the iterator gives. -/
def refusalRealm : Realm Platform.fixed where
  objects :=
    let bare : ObjectRecord Platform.fixed := .create .ordinary none
    let function : ObjectRecord Platform.fixed :=
      .create (.function (Realm.intrinsic .iteratorSelf "" 0)) none
    #[bare.insert (.symbol .iterator) (.plain (.object ⟨1⟩)), function,
      (bare.insert (.string "next") (.plain (.object ⟨1⟩))).insert (.string "return")
        (.plain (.object ⟨3⟩)), function, bare]
  config := {}
  nextSymbol := Symbol.firstFree

/-- Hooks for `refusalRealm`. The iterator gives the same result each time, the
callback throws, and `return` makes a symbol and throws as well. -/
def refusalHooks : Hooks Platform.fixed where
  call f this _ m :=
    match f, this with
    | .object ⟨3⟩, _ =>
        .failed (.type .iteratorNotObject) { m with realm := (m.realm.newSymbol none).2 }
    | _, .object ⟨0⟩ => .done (.object ⟨2⟩) m
    | _, .object _ => .done (.object ⟨4⟩) m
    | _, _ => .failed (.thrown .null none) m
  resume _ _ _ _ := .exhausted
  rounds := 1

/-- `refusalRealm` with the iterator closed a number of times. -/
def refusalMachine (closed : Nat) : Machine Platform.fixed :=
  ⟨{ refusalRealm with nextSymbol := Symbol.firstFree + closed }, ()⟩

end ScriptRealm
