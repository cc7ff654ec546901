import ScriptRealm.Proofs.Generator.Resumption

/-!
# `ScriptRealm.Proofs.Generator.Delegation`: what goes to a delegate

A generator that was suspended while it delegated does not run its body
when it is resumed: the completion goes to the delegate. The three kinds
of completions take the same way, which `delegateAnswer` describes once.
The delegate's method for the completion is called on the delegate with
the one value the completion carries, and its answer is read.

What happens then depends on the answer alone, and `Delegates` lists the
cases. An answer that is not the last leaves the generator as it was. The
last answer ends the delegation and goes to the body. A fault ends the
delegation too and is thrown into the body, or ends the generator if it is
fatal. A delegate without the method is let go, and before a value is
thrown it is closed.

`resume_delegates` proves the list for every embedder. The generator
executes while the delegate answers, so nothing that the delegate does can
touch it (`Embedder.hooks_passes`): the frame and the body that the cases
speak of are those it was suspended with.
-/

set_option autoImplicit false

namespace ScriptRealm

open ScriptRealm.Action (Agree AgreeAt Keeps)

variable {P : Platform}

namespace Completion

/-- The value that a completion carries. -/
def value : Completion → Value
  | .next value | .returning value | .throwing value => value

/-- How a delegate's last value goes to the body: as a value to return if
the delegate was told to return, and as a value sent otherwise. -/
def handOn : Completion → Value → Completion
  | .returning _, value => .returning value
  | .next _, value | .throwing _, value => .next value

end Completion

namespace Generator

/-- The generator while its body runs or is about to, with no delegate. -/
def released (g : Generator P) : Generator P :=
  { g with state := .executing, delegate := none }

/-- The method of a delegate that takes a completion: the `next` that was
read when the delegation began, or the `return` or `throw` that is found
now. -/
def delegateMethod? (hooks : Hooks P) (delegate : IteratorRecord) :
    Completion → Action P (Option Value)
  | .next _ => return some delegate.next
  | .returning _ => Object.getMethod? hooks (.object delegate.iterator) (.string "return")
  | .throwing _ => Object.getMethod? hooks (.object delegate.iterator) (.string "throw")

/-- What a delegate answers to a completion, none if it has no method for
it. The method is called on the delegate, with one argument. -/
def delegateAnswer (hooks : Hooks P) (delegate : IteratorRecord) (completion : Completion) :
    Action P (Option IterResult) := do
  match ← delegateMethod? hooks delegate completion with
  | none => return none
  | some method => some <$> do
      unpack hooks (← hooks.call method (.object delegate.iterator) [completion.value])

/-- A fault reaches a generator that has let go of its delegate. A fatal one
completes the generator and is raised. The value of any other is thrown
into the body. -/
def Raises (hooks : Hooks P) (rounds : Nat) (h : Handle) (g : Generator P) (fault : Fault)
    (m : Machine P) (outcome : Outcome P IterResult) : Prop :=
  if fault.isFatal then
    outcome = .failed fault (m.setGenerator h (g.failedWith fault))
  else
    ∃ value m', Object.faultToValue fault m = .done value m' ∧
      outcome = run hooks h rounds (.body (.throwing value)) m'

/-- What becomes of a completion that the generator `g` under `h`,
suspended with a delegate, is resumed with. The delegate is asked in the
machine in which the generator executes already. -/
structure Delegates (hooks : Hooks P) (rounds : Nat) (h : Handle) (g : Generator P)
    (delegate : IteratorRecord) (completion : Completion) (m : Machine P) : Prop where
  /-- Asking the delegate resumes no body. -/
  bodiless : ∀ resume, delegateAnswer { hooks with resume } delegate completion
    = delegateAnswer hooks delegate completion
  /-- Until the delegate has answered, nothing touches the generator. -/
  untouched : (delegateAnswer hooks delegate completion
      (m.setGenerator h { g with state := .executing })).Meets
    (fun _ m' => m'.Holds h { g with state := .executing })
    (fun _ m' => m'.Holds h { g with state := .executing })
  /-- An answer that is not the last is the result, and the generator is
  suspended as it was. -/
  yields : ∀ value m', delegateAnswer hooks delegate completion
      (m.setGenerator h { g with state := .executing }) = .done (some ⟨value, false⟩) m' →
    resume hooks h completion m
      = .done ⟨value, false⟩ (m'.setGenerator h { g with state := .suspendedYield })
  /-- The last answer ends the delegation and goes to the body. -/
  ends : ∀ value m', delegateAnswer hooks delegate completion
      (m.setGenerator h { g with state := .executing }) = .done (some ⟨value, true⟩) m' →
    resume hooks h completion m
      = run hooks h rounds (.body (completion.handOn value)) (m'.setGenerator h g.released)
  /-- A fault in finding the method, in calling it or in reading its answer
  ends the delegation and is raised in the generator. -/
  fails : ∀ fault m', delegateAnswer hooks delegate completion
      (m.setGenerator h { g with state := .executing }) = .failed fault m' →
    Raises hooks rounds h g fault (m'.setGenerator h g.released) (resume hooks h completion m)
  /-- A delegate that has no `return` is let go, and the body returns. -/
  returns : ∀ value m', completion = .returning value →
    delegateAnswer hooks delegate completion
      (m.setGenerator h { g with state := .executing }) = .done none m' →
    resume hooks h completion m
      = run hooks h rounds (.body (.returning value)) (m'.setGenerator h g.released)
  /-- A delegate that has no `throw` is let go and closed, and the value is
  thrown into the body. A fault in closing is raised instead. -/
  closes : ∀ value m', completion = .throwing value →
    delegateAnswer hooks delegate completion
      (m.setGenerator h { g with state := .executing }) = .done none m' →
    (Iteration.close hooks delegate (.ok .undefined) (m'.setGenerator h g.released)).Meets
      (fun _ m'' => resume hooks h completion m
        = run hooks h rounds (.body (.throwing value)) m'')
      (fun fault m'' => Raises hooks rounds h g fault m'' (resume hooks h completion m))
  /-- The turn that a run takes for the body, once the delegate is gone,
  resumes the body in the frame that the generator was suspended with. -/
  resumes : ∀ body, g.body = some body → ∀ completion' m', m'.Holds h g.released →
    takeTurn hooks h (.body completion') m' = (do
      let resumption ← hooks.resume body g.frame completion'
      modify h fun g => { g with body := some resumption.body, frame := resumption.frame }
      follow hooks h (← Action.ofExcept resumption.step))
        (m'.setGenerator h { g.released with body := none, frame := {} })

variable {hooks : Hooks P} {h : Handle} {g : Generator P} {m m' : Machine P}

/-- Raising a fault in the body is the last turn if the fault is fatal.
Otherwise it is a turn that leads to the body's, with the value of the fault.
Which faults are fatal is decided fault by fault. -/
theorem raises_of_recover {rounds : Nat} {turn : Turn} {fault : Fault} (hm' : m'.Holds h g.released)
    (hturn : takeTurn hooks h turn m = recover fault m') :
    Raises hooks rounds h g fault m' (run hooks h (rounds + 1) turn m) := by
  unfold Raises
  cases fault with
  | thrown value location => exact ⟨value, m', rfl, run_of_turn hturn⟩
  | type cause => exact ⟨_, _, rfl, run_of_turn hturn⟩
  | range cause => exact ⟨_, _, rfl, run_of_turn hturn⟩
  | reentrancy => exact run_of_failed (g := g.released) hturn hm'
  | opcode cause => exact run_of_failed (g := g.released) hturn hm'
  | internal cause => exact run_of_failed (g := g.released) hturn hm'

/-! ### The delegate's turn as a whole -/

/-- A delegate that cannot take a completion is let go. -/
def letGo (hooks : Hooks P) (h : Handle) (delegate : IteratorRecord) (completion : Completion) :
    Action P Flow := do
  clearDelegate h
  match completion with
  | .throwing value =>
      match ← (Iteration.close hooks delegate (.ok .undefined)).attempt with
      | .ok _ => return .turn (.body (.throwing value))
      | .error fault => recover fault
  | completion => return .turn (.body completion)

/-- What becomes of the delegate's answer, whether it is there, is missing
or has failed. -/
def settleAnswer (hooks : Hooks P) (h : Handle) (delegate : IteratorRecord)
    (completion : Completion) : Outcome P (Option IterResult) → Outcome P Flow
  | .done (some result) m => settle h completion.handOn (pure result) m
  | .done none m => letGo hooks h delegate completion m
  | .failed fault m => settle h completion.handOn (Action.fail fault) m
  | .exhausted => .exhausted

/-- An answer is settled when it has been obtained. Before that the generator
plays no part. -/
theorem settle_apply (hooks : Hooks P) (delegate : IteratorRecord) (completion : Completion)
    (answer : Action P IterResult) :
    settle h completion.handOn answer m
      = settleAnswer hooks h delegate completion ((some <$> answer) m) := by
  show _ = settleAnswer hooks h delegate completion
    ((answer >>= fun result => pure (some result)) m)
  rw [settle, Action.bind_apply, Action.bind_apply, Action.attempt]
  cases answer m <;> rfl

/-- The three kinds of completions take one way: the delegate is asked, and
its answer settled. They differ in how the method is found and in what happens
if there is none. -/
theorem delegateTurn_apply (hooks : Hooks P) {delegate : IteratorRecord} (hm : m.Holds h g)
    (hdelegate : g.delegate = some delegate) (completion : Completion) :
    delegateTurn hooks h completion m = settleAnswer hooks h delegate completion
      (delegateAnswer hooks delegate completion m) := by
  rw [delegateTurn, Action.bind_apply, find_apply hm]
  simp only [hdelegate]
  cases completion with
  | next value => exact settle_apply hooks delegate (.next value) _
  -- The method is looked for first, and looking may fail. It is called only if it was found.
  | returning value =>
      show delegateReturn hooks h delegate value m = _
      rw [delegateReturn, delegateAnswer, delegateMethod?, Action.bind_apply, Action.bind_apply,
        Action.attempt]
      cases hmethod : Object.getMethod? hooks (.object delegate.iterator) (.string "return") m with
      | exhausted => rfl
      | failed fault m' => rfl
      | done method m' =>
          cases method with
          | none => rfl
          | some method => exact settle_apply hooks delegate (.returning value) _
  | throwing value =>
      show delegateThrow hooks h delegate value m = _
      rw [delegateThrow, delegateAnswer, delegateMethod?, Action.bind_apply, Action.bind_apply,
        Action.attempt]
      cases hmethod : Object.getMethod? hooks (.object delegate.iterator) (.string "throw") m with
      | exhausted => rfl
      | failed fault m' => rfl
      | done method m' =>
          cases method with
          | none => rfl
          | some method => exact settle_apply hooks delegate (.throwing value) _

/-- Asking a delegate is agreed upon by hooks that call alike. It looks for
the method, calls it and takes the answer apart, and each of these makes calls
only. -/
theorem delegateAnswer_agree {I : Realm P → Prop} (hI : Realm.Stable True I) {hooks' : Hooks P}
    (hh : hooks.Agree I hooks') (delegate : IteratorRecord) (completion : Completion) :
    Agree I (delegateAnswer hooks delegate completion)
      (delegateAnswer hooks' delegate completion) := by
  have hmethod : Agree I (delegateMethod? hooks delegate completion)
      (delegateMethod? hooks' delegate completion) := by
    cases completion with
    | next value => exact .pure _
    | returning value => exact Object.getMethod?_agree hI hh (.object delegate.iterator) _
    | throwing value => exact Object.getMethod?_agree hI hh (.object delegate.iterator) _
  refine .bind hmethod fun method => ?_
  cases method with
  | none => exact .pure _
  | some method =>
      exact .map _ (.bind (hh.call _ _ _) fun answer => unpack_agree hI hh answer)

/-- A change of a realm leaves a generator that executes in its place. -/
theorem stable_holds (hexecuting : g.state = .executing) :
    Realm.Stable True fun r => (r.record h).kind = .generator g :=
  fun _ _ hchange hr => (hchange.passes h).executing g hr hexecuting

/-- So does code that passes every object. Hence asking a delegate leaves the
generator where it was, as it executes all the while. -/
theorem agree_holds (hh : hooks.Keeps Realm.Passes) (hexecuting : g.state = .executing) :
    hooks.Agree (fun r => (r.record h).kind = .generator g) hooks where
  call f this args m hm :=
    (hh.call m.realm f this args m (.refl m.realm)).mono
      (fun _ _ hpasses => (hpasses h).executing g hm hexecuting)
      (fun _ _ hpasses => (hpasses h).executing g hm hexecuting)
  rounds := rfl

/-- Asking a delegate does not depend on how bodies are resumed. Hooks that
differ in this alone call alike, whatever holds. -/
theorem delegateAnswer_bodiless (resume : P.Body → Frame → Completion → Action P (Resumption P))
    (delegate : IteratorRecord) (completion : Completion) :
    delegateAnswer { hooks with resume } delegate completion
      = delegateAnswer hooks delegate completion := by
  have hagree : Hooks.Agree (fun _ => True) { hooks with resume } hooks := by
    refine ⟨fun f this args m _ => ⟨rfl, ?_⟩, rfl⟩
    show (hooks.call f this args m).Meets _ _
    cases hooks.call f this args m <;> trivial
  funext m
  exact (delegateAnswer_agree (fun _ _ _ _ => trivial) hagree delegate completion m trivial).same

/-! ### The cases

In each, the generator executes and still has its delegate. -/

variable (hm : m.Holds h { g with state := .executing })
include hm

/-- Letting go of the delegate comes before what follows it, and what follows
runs in a realm without it. -/
theorem clearDelegate_bind {α : Type} (next : Unit → Action P α) :
    (clearDelegate h >>= next) m = next () (m.setGenerator h g.released) := by
  rw [Action.bind_apply, clearDelegate, modify_apply hm]
  rfl

/-- The last answer lets go of the delegate, and the next turn is the
body's. -/
theorem settle_last (onDone : Value → Completion) (value : Value) :
    settle h onDone (pure ⟨value, true⟩) m
      = .done (.turn (.body (onDone value))) (m.setGenerator h g.released) := by
  show (clearDelegate h >>= fun _ => pure (Flow.turn (.body (onDone value)))) m = _
  rw [clearDelegate_bind hm]
  rfl

/-- A fault lets go of the delegate, and is then thrown into the body if it
can be. -/
theorem settle_failed (onDone : Value → Completion) (fault : Fault) :
    settle h onDone (Action.fail fault) m = recover fault (m.setGenerator h g.released) := by
  show (clearDelegate h >>= fun _ => recover fault) m = _
  rw [clearDelegate_bind hm]

/-- Without a `return` to call, the delegate is let go and the body
returns. -/
theorem letGo_returning (hooks : Hooks P) (delegate : IteratorRecord) (value : Value) :
    letGo hooks h delegate (.returning value) m
      = .done (.turn (.body (.returning value))) (m.setGenerator h g.released) := by
  show (clearDelegate h >>= fun _ => pure (Flow.turn (.body (.returning value)))) m = _
  rw [clearDelegate_bind hm]
  rfl

/-- Without a `throw` to call, the delegate is let go before it is closed, and
what comes of closing it decides what the body gets. -/
theorem letGo_throwing (hooks : Hooks P) (delegate : IteratorRecord) (value : Value) :
    letGo hooks h delegate (.throwing value) m
      = match Iteration.close hooks delegate (.ok .undefined) (m.setGenerator h g.released) with
        | .done _ m' => .done (.turn (.body (.throwing value))) m'
        | .failed fault m' => recover fault m'
        | .exhausted => .exhausted := by
  rw [letGo, clearDelegate_bind hm, Action.bind_apply, Action.attempt]
  cases Iteration.close hooks delegate (.ok .undefined) (m.setGenerator h g.released) <;> rfl

end Generator

open Generator in
/-- A generator that was suspended with a delegate is resumed by the
delegate's answer, whatever the embedder's code does. -/
theorem resume_delegates (embedder : Embedder P) (rounds depth : Nat) (m : Machine P)
    (h : Handle) (g : Generator P) (delegate : IteratorRecord) (hm : m.Holds h g)
    (hstate : g.state = .suspendedYield) (hdelegate : g.delegate = some delegate)
    (completion : Completion) :
    Delegates (embedder.hooks (rounds + 1) depth) rounds h g delegate completion m := by
  have hrounds : (embedder.hooks (rounds + 1) depth).rounds = rounds + 1 := by
    cases depth <;> rfl
  have hpasses := embedder.hooks_passes (rounds + 1) depth
  -- All that counts of the hooks is their rounds and that they pass every object.
  generalize embedder.hooks (rounds + 1) depth = hooks at hrounds hpasses
  have hm₁ := hm.setGenerator { g with state := .executing }
  have hturn : takeTurn hooks h (.delegate completion) _ = _ :=
    delegateTurn_apply hooks hm₁ hdelegate completion
  -- The generator executes while the delegate is asked, so it is found unchanged afterwards.
  have huntouched := (delegateAnswer_agree (stable_holds rfl) (agree_holds hpasses rfl) delegate
    completion _ hm₁).meets
  have hresume := resume_of_delegate hooks hm hstate hdelegate completion
  rw [hrounds] at hresume
  constructor
  case bodiless => exact fun resume => delegateAnswer_bodiless resume delegate completion
  case untouched => exact huntouched
  case yields =>
    intro value m' hanswer
    rw [hanswer] at hturn huntouched
    rw [hresume]
    exact run_of_leave hturn huntouched
  case ends =>
    intro value m' hanswer
    rw [hanswer] at hturn huntouched
    rw [hresume]
    exact run_of_turn (hturn.trans (settle_last huntouched completion.handOn value))
  case fails =>
    intro fault m' hanswer
    rw [hanswer] at hturn huntouched
    rw [hresume]
    exact raises_of_recover (Machine.Holds.setGenerator huntouched _)
      (hturn.trans (settle_failed huntouched completion.handOn fault))
  case returns =>
    intro value m' hcompletion hanswer
    subst hcompletion
    rw [hanswer] at hturn huntouched
    rw [hresume]
    exact run_of_turn (hturn.trans (letGo_returning huntouched hooks delegate value))
  -- The only case in which code runs after the delegate has been asked and before the body's
  -- turn.
  case closes =>
    intro value m' hcompletion hanswer
    subst hcompletion
    rw [hanswer] at hturn huntouched
    rw [hresume]
    -- The delegate is closed while the generator still executes.
    have hclosed := (Iteration.close_agree (stable_holds rfl) (agree_holds hpasses rfl) delegate
      (.ok .undefined) _ (Machine.Holds.setGenerator huntouched g.released)).meets
    have hturn := hturn.trans (letGo_throwing huntouched hooks delegate value)
    cases hclose : Iteration.close hooks delegate (.ok .undefined)
        (m'.setGenerator h g.released) with
    | exhausted => trivial
    | done _ m'' =>
        rw [hclose] at hturn
        exact run_of_turn hturn
    | failed fault m'' =>
        rw [hclose] at hturn hclosed
        exact raises_of_recover hclosed hturn
  case resumes =>
    intro body hbody completion' m' hm'
    exact bodyTurn_apply hooks hm' hbody completion'

/-- A realm with a generator that is suspended with a delegate. The
delegate's `next` answers `null`, as its last value or not. The body yields
`true` when it is resumed. -/
def delegatingRealm (last : Bool) : Realm Platform.fixed where
  objects := #[.create (.generator ⟨.suspendedYield, { resumePoint := 3 },
      some [.yielded (.boolean true)],
      some { iterator := ⟨1⟩, next := .object ⟨2⟩, done := false }, none⟩) none,
    .create .ordinary none,
    .create (.function
      { name := "next", length := 0, code := .native ⟨.null, last⟩, isConstructor := false }) none]
  config := {}
  nextSymbol := Symbol.firstFree

/-- A value of the delegate that is not the last is yielded, and the generator
is suspended as it was. After the last value the body is resumed with it, where
it was suspended. What it yields is the result, and the delegate is gone. -/
theorem resume_delegates_next :
    (∃ m', Generator.resume (Embedder.fixed.hooks 2 1) ⟨0⟩ (.next .undefined)
        ⟨delegatingRealm false, ()⟩ = .done ⟨.null, false⟩ m' ∧
      (m'.realm.record ⟨0⟩).kind = ((delegatingRealm false).record ⟨0⟩).kind) ∧
    ∃ m', Generator.resume (Embedder.fixed.hooks 2 1) ⟨0⟩ (.next .undefined)
        ⟨delegatingRealm true, ()⟩ = .done ⟨.boolean true, false⟩ m' ∧
      (m'.realm.record ⟨0⟩).kind
        = .generator ⟨.suspendedYield, { resumePoint := 4 }, some [], none, none⟩ := by
  have h := resume_delegates Embedder.fixed 1 1 ⟨delegatingRealm false, ()⟩ ⟨0⟩ _ _ rfl rfl rfl
    (.next .undefined)
  have h' := resume_delegates Embedder.fixed 1 1 ⟨delegatingRealm true, ()⟩ ⟨0⟩ _ _ rfl rfl rfl
    (.next .undefined)
  -- The last answer ends the delegation, and the run goes on with a turn of the body.
  exact ⟨⟨_, h.yields .null _ rfl, rfl⟩, _, (h'.ends .null _ rfl).trans rfl, rfl⟩

end ScriptRealm
