import ScriptRealm.Realm.Basic

/-!
# Actions

An operation of the library is an `Action`: it takes the state of the
machine, which is a realm and the embedder's memory, and ends in one of
three ways. It is done with a value, it has failed with a fault, or it
was stopped because its allowance ran out. The first two carry the state
reached, since what was done before a failure stays done. An allowance
that runs out is not a fault: nothing in the library can catch it, and
it says nothing about the program but that it ran for long.
-/

set_option autoImplicit false

namespace ScriptRealm

/-- A realm and its embedder's memory. -/
structure Machine (P : Platform) where
  realm : Realm P
  memory : P.Memory

/-- The end of an action. -/
inductive Outcome (P : Platform) (α : Type) where
  | done (value : α) (state : Machine P)
  | failed (fault : Fault) (state : Machine P)
  | exhausted

/-- An operation on the state of the machine. -/
def Action (P : Platform) (α : Type) : Type := Machine P → Outcome P α

namespace Action

variable {P : Platform} {α β : Type}

@[inline] protected def pure (a : α) : Action P α := fun m => .done a m

/-- Goes on with the value of a first action, if it has one. -/
@[inline] protected def bind (x : Action P α) (f : α → Action P β) : Action P β := fun m =>
  match x m with
  | .done a m' => f a m'
  | .failed fault m' => .failed fault m'
  | .exhausted => .exhausted

instance : Monad (Action P) where
  pure := Action.pure
  bind := Action.bind

/-- Fails. -/
@[inline] def fail (fault : Fault) : Action P α := fun m => .failed fault m

/-- Stops because the allowance has run out. -/
@[inline] def exhausted : Action P α := fun _ => .exhausted

/-- The value of an action or its fault, whichever it ends with. -/
@[inline] def attempt (x : Action P α) : Action P (Except Fault α) := fun m =>
  match x m with
  | .done a m' => .done (.ok a) m'
  | .failed fault m' => .done (.error fault) m'
  | .exhausted => .exhausted

/-- Ends as a result does. -/
@[inline] def ofExcept : Except Fault α → Action P α
  | .ok a => .pure a
  | .error fault => fail fault

/-- The realm as it is now. -/
@[inline] def realm : Action P (Realm P) := fun m => .done m.realm m

/-- The object under a handle as it is now. -/
@[inline] def record (h : Handle) : Action P (ObjectRecord P) := fun m => .done (m.realm.record h) m

/-- Changes the realm. -/
@[inline] def modify (f : Realm P → Realm P) : Action P Unit := fun m =>
  .done () { m with realm := f m.realm }

/-- Changes the realm and answers. -/
@[inline] def modifyGet (f : Realm P → α × Realm P) : Action P α := fun m =>
  let (a, realm) := f m.realm
  .done a { m with realm }

/-- Adds an object of the given kind. -/
def allocate (kind : Kind P) (prototype : Option Handle) : Action P Handle :=
  modifyGet (·.allocate (.create kind prototype))

/-- Asks a foreign object to do something that may change its storage and
the embedder's memory. -/
@[inline] def askHost (h : Handle) (f : P.Memory → α × P.Host × P.Memory) : Action P α := fun m =>
  let (answer, host, memory) := f m.memory
  .done answer { realm := m.realm.setKind h (.foreign host), memory }

/-! ### The monad laws -/

/-- A sequence in a machine: how the first action ends decides what comes
next. -/
theorem bind_apply (x : Action P α) (f : α → Action P β) (m : Machine P) :
    (x >>= f) m = match x m with
      | .done a m' => f a m'
      | .failed fault m' => .failed fault m'
      | .exhausted => .exhausted := rfl

/-- A value is given without touching the machine. -/
theorem pure_apply (a : α) (m : Machine P) : (pure a : Action P α) m = .done a m := rfl

/-- Changing the value of an action changes none of its other ends. -/
theorem map_apply (f : α → β) (x : Action P α) (m : Machine P) :
    (f <$> x) m = match x m with
      | .done a m' => .done (f a) m'
      | .failed fault m' => .failed fault m'
      | .exhausted => .exhausted := rfl

/-- A sequence that is done was done with its first action. For the other two
ends of the first action are ends of the sequence. -/
theorem exists_of_bind {x : Action P α} {f : α → Action P β} {m m' : Machine P} {b : β}
    (hdone : (x >>= f) m = .done b m') : ∃ a m₁, x m = .done a m₁ ∧ f a m₁ = .done b m' := by
  rw [bind_apply] at hdone
  cases hx : x m with
  | done a m₁ =>
      rw [hx] at hdone
      exact ⟨a, m₁, rfl, hdone⟩
  | failed fault m₁ =>
      rw [hx] at hdone
      cases hdone
  | exhausted =>
      rw [hx] at hdone
      cases hdone

instance : LawfulMonad (Action P) := LawfulMonad.mk' (Action P)
  (fun x => by
    funext m
    show (match x m with
      | .done a m' => Outcome.done a m'
      | .failed fault m' => .failed fault m'
      | .exhausted => .exhausted) = x m
    cases x m <;> rfl)
  (fun _ _ => rfl)
  (fun x f g => by
    funext m
    simp only [bind_apply]
    cases x m <;> rfl)

end Action

end ScriptRealm
