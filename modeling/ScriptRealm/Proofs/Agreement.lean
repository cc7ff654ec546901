import ScriptRealm.Embedder.Hooks

/-!
# `ScriptRealm.Proofs.Agreement`: actions that agree

An operation of the library is given the hooks that run an embedder's
code. Two questions come up about it again and again: what holds of the
state it ends in, and in which states it runs code at all. Both are
answered by comparing the operation under two hooks.

`Action.AgreeAt m x y done failed` says that from the state `m` the
actions `x` and `y` come to the same end, and that `done` or `failed`
holds of that end. With `x` and `y` the same action this is a
postcondition. With `x` and `y` an operation under hooks that differ in
some states only, it says that the operation runs no code in those
states.

`Action.Agree I x y` is the form for invariants: from every realm in `I`
the two actions come to the same end, and to a realm in `I`. There is one
lemma for each way of composing actions, so that a proof about an
operation follows the operation's own text.
-/

set_option autoImplicit false

namespace ScriptRealm

variable {P : Platform} {α β : Type}

/-- What holds of the end of an action: `done` of a value and the state
reached with it, `failed` of a fault. An action that was stopped has no
end. -/
def Outcome.Meets (done : α → Machine P → Prop) (failed : Fault → Machine P → Prop) :
    Outcome P α → Prop
  | .done a m => done a m
  | .failed fault m => failed fault m
  | .exhausted => True

/-- Weaker demands on the end are met as well. Both demands may change at
once, and an action that was stopped meets any demands. -/
theorem Outcome.Meets.mono {done done' : α → Machine P → Prop}
    {failed failed' : Fault → Machine P → Prop} {outcome : Outcome P α}
    (h : outcome.Meets done failed) (hdone : ∀ a m, done a m → done' a m)
    (hfailed : ∀ fault m, failed fault m → failed' fault m) : outcome.Meets done' failed' := by
  cases outcome with
  | done a m => exact hdone a m h
  | failed fault m => exact hfailed fault m h
  | exhausted => trivial

/-- The machine in which an action ends, with a value or with a fault. -/
def Outcome.EndsIn (outcome : Outcome P α) (m : Machine P) : Prop :=
  (∃ a, outcome = .done a m) ∨ ∃ fault, outcome = .failed fault m

/-- A demand may be one on the machine only, and then it does not matter
whether the action gave a value or failed. This is the form in which an
invariant of realms is read off an agreement. -/
theorem Outcome.meets_iff_endsIn {outcome : Outcome P α} {p : Machine P → Prop} :
    outcome.Meets (fun _ => p) (fun _ => p) ↔ ∀ m, outcome.EndsIn m → p m := by
  cases outcome with
  | done a m => simp [Meets, EndsIn]
  | failed fault m => simp [Meets, EndsIn]
  | exhausted => simp [Meets, EndsIn]

namespace Action

/-- A sequence ends where its first action has failed or where the rest ends.
The rest is only asked about in the state that the first action has left. -/
theorem endsIn_bind_iff {x : Action P α} {f : α → Action P β} {m m' : Machine P} :
    ((x >>= f) m).EndsIn m' ↔
      (∃ fault, x m = .failed fault m') ∨ ∃ a m₁, x m = .done a m₁ ∧ (f a m₁).EndsIn m' := by
  rw [bind_apply]
  cases x m with
  | done a m₁ =>
      -- Only an answer of the first action lets the rest begin.
      constructor
      · intro hends
        exact .inr ⟨a, m₁, rfl, hends⟩
      · rintro (⟨fault, hfailed⟩ | ⟨a', m₁', hdone, hends⟩)
        · cases hfailed
        · cases hdone
          exact hends
  | failed fault m₁ => simp [Outcome.EndsIn]
  | exhausted => simp [Outcome.EndsIn]

/-- What is made of the answer of an action has no part in where the action
ends. -/
theorem endsIn_map {x : Action P α} {f : α → β} {m m' : Machine P} :
    ((f <$> x) m).EndsIn m' ↔ (x m).EndsIn m' := by
  rw [map_apply]
  cases x m with
  | done a m₁ => simp [Outcome.EndsIn]
  | failed fault m₁ => simp [Outcome.EndsIn]
  | exhausted => simp [Outcome.EndsIn]

/-- An action that gives back a result it was handed, be it a value or a
fault, ends where it began. -/
theorem endsIn_ofExcept {result : Except Fault α} {m m' : Machine P} :
    ((ofExcept result : Action P α) m).EndsIn m' ↔ m = m' := by
  cases result with
  | ok a => simp [ofExcept, Action.pure, Outcome.EndsIn]
  | error fault => simp [ofExcept, Action.fail, Outcome.EndsIn]

/-- From `m`, two actions come to the same end, of which `done` or
`failed` holds. -/
structure AgreeAt (m : Machine P) (x y : Action P α) (done : α → Machine P → Prop)
    (failed : Fault → Machine P → Prop) : Prop where
  same : x m = y m
  meets : (x m).Meets done failed

namespace AgreeAt

variable {m : Machine P} {done : α → Machine P → Prop} {failed : Fault → Machine P → Prop}

/-- An action that only gives a value ends where it began, so `done` has to
hold there. -/
theorem pure {a : α} (h : done a m) : AgreeAt m (pure a) (pure a) done failed :=
  ⟨rfl, h⟩

/-- An action that only fails ends where it began, so `failed` has to hold
there. -/
theorem fail {fault : Fault} (h : failed fault m) :
    AgreeAt m (Action.fail fault) (Action.fail fault) done failed :=
  ⟨rfl, h⟩

/-- Nothing is asked of an action that was stopped: it has no end. -/
theorem exhausted : AgreeAt m Action.exhausted Action.exhausted done failed :=
  ⟨rfl, trivial⟩

/-- Agreement with weaker demands on the end. The ends themselves are not
looked at again. -/
theorem mono {x y : Action P α} {done' : α → Machine P → Prop}
    {failed' : Fault → Machine P → Prop} (h : AgreeAt m x y done failed)
    (hdone : ∀ a m', done a m' → done' a m')
    (hfailed : ∀ fault m', failed fault m' → failed' fault m') :
    AgreeAt m x y done' failed' :=
  ⟨h.same, h.meets.mono hdone hfailed⟩

/-- Two sequences agree if their first actions do and, from wherever these
lead, the rest does. `middle` is what is known of the state in between; a
failure of the first action is the end of both sequences, so it has to meet
the demand on the whole. -/
theorem bind {x x' : Action P α} {f f' : α → Action P β} {middle : α → Machine P → Prop}
    {done : β → Machine P → Prop} (hx : AgreeAt m x x' middle failed)
    (hf : ∀ a m', middle a m' → AgreeAt m' (f a) (f' a) done failed) :
    AgreeAt m (x >>= f) (x' >>= f') done failed := by
  have hsame := hx.same
  have hmeets := hx.meets
  cases hend : x m with
  | done a m' =>
      -- The rest starts in the one state that both first actions have left.
      rw [hend] at hmeets
      obtain ⟨hsame', hmeets'⟩ := hf a m' hmeets
      rw [hend] at hsame
      constructor
      · rw [bind_apply, bind_apply, hend, ← hsame]
        exact hsame'
      · rw [bind_apply, hend]
        exact hmeets'
  | failed fault m' =>
      -- The rest does not begin, and the fault is the end of both.
      rw [hend] at hmeets hsame
      constructor
      · rw [bind_apply, bind_apply, hend, ← hsame]
      · rw [bind_apply, hend]
        exact hmeets
  | exhausted =>
      rw [hend] at hsame
      constructor
      · rw [bind_apply, bind_apply, hend, ← hsame]
      · rw [bind_apply, hend]
        trivial

/-- What is made of the answers may be put into the demand on them. -/
theorem map {x x' : Action P α} {f : α → β} {done : β → Machine P → Prop}
    (hx : AgreeAt m x x' (fun a m' => done (f a) m') failed) :
    AgreeAt m (f <$> x) (f <$> x') done failed :=
  bind hx fun _ _ h => pure h

/-- Attempting turns the fault into a value, so a demand on faults becomes a
demand on values. The demand `failed` on the attempt itself is free. -/
theorem attempt {x y : Action P α} {done : Except Fault α → Machine P → Prop}
    (h : AgreeAt m x y (fun a m' => done (.ok a) m') (fun fault m' => done (.error fault) m')) :
    AgreeAt m x.attempt y.attempt done failed := by
  obtain ⟨hsame, hmeets⟩ := h
  constructor
  · rw [Action.attempt, Action.attempt, hsame]
  -- The three ways to end become two, and being stopped remains.
  · rw [Action.attempt]
    cases hx : x m with
    | done a m' =>
        rw [hx] at hmeets
        exact hmeets
    | failed fault m' =>
        rw [hx] at hmeets
        exact hmeets
    | exhausted => trivial

/-- A result that was handed over is given back, so it is enough to know what
it can be: `done` of each value and `failed` of each fault, in the state as it
is. -/
theorem ofExcept {result : Except Fault α} (hok : ∀ a, result = .ok a → done a m)
    (herror : ∀ fault, result = .error fault → failed fault m) :
    AgreeAt m (Action.ofExcept result) (Action.ofExcept result) done failed := by
  cases result with
  | ok a => exact pure (hok a rfl)
  | error fault => exact fail (herror fault rfl)

/-- What is read of an object is the object as it is. Both sides go on with
the same record, so the agreement is one of the rest. -/
theorem record_bind {handle : Handle} {f f' : ObjectRecord P → Action P β}
    {done : β → Machine P → Prop}
    (h : AgreeAt m (f (m.realm.record handle)) (f' (m.realm.record handle)) done failed) :
    AgreeAt m (Action.record handle >>= f) (Action.record handle >>= f') done failed :=
  ⟨h.same, h.meets⟩

/-- A change to the realm gives no value, so all that is asked is `done` of
the changed realm. The memory of the embedder stays. -/
theorem modify {f : Realm P → Realm P} {done : Unit → Machine P → Prop}
    (h : done () { m with realm := f m.realm }) :
    AgreeAt m (Action.modify f) (Action.modify f) done failed :=
  ⟨rfl, h⟩

/-- A change to the realm that also gives a value, such as the handle of a new
object: `done` has to hold of that value in the changed realm. -/
theorem modifyGet {f : Realm P → α × Realm P}
    (h : done (f m.realm).1 { m with realm := (f m.realm).2 }) :
    AgreeAt m (Action.modifyGet f) (Action.modifyGet f) done failed :=
  ⟨rfl, h⟩

end AgreeAt

/-- From every realm in `I`, two actions come to the same end, which is in
a realm in `I`. -/
def Agree (I : Realm P → Prop) (x y : Action P α) : Prop :=
  ∀ m : Machine P, I m.realm →
    AgreeAt m x y (fun _ m' => I m'.realm) (fun _ m' => I m'.realm)

/-- The action ends in a realm in `I` if it starts in one. -/
abbrev Keeps (I : Realm P → Prop) (x : Action P α) : Prop := Agree I x x

namespace Agree

variable {I : Realm P → Prop}

/-- Giving a value does not change the realm. -/
theorem pure (a : α) : Keeps I (Pure.pure a : Action P α) := fun _ hm => .pure hm

/-- Failing does not change the realm, so what held of it before holds of it
after. -/
theorem fail (fault : Fault) : Keeps I (Action.fail fault : Action P α) := fun _ hm => .fail hm

/-- An action that was stopped ends in no realm, so there is nothing that the
invariant could be asked of. -/
theorem exhausted : Keeps I (Action.exhausted : Action P α) := fun _ _ => .exhausted

/-- Invariants go along sequences. The rest must agree for every answer, since
`I` says nothing of answers. -/
theorem bind {x x' : Action P α} {f f' : α → Action P β} (hx : Agree I x x')
    (hf : ∀ a, Agree I (f a) (f' a)) : Agree I (x >>= f) (x' >>= f') :=
  fun m hm => .bind (hx m hm) fun a m' hm' => hf a m' hm'

/-- What is made of the answers is no matter of realms. -/
theorem map {x x' : Action P α} (f : α → β) (hx : Agree I x x') : Agree I (f <$> x) (f <$> x') :=
  fun m hm => .map (hx m hm)

/-- A fault that is caught leaves the realm where the action has failed, and
that realm is in `I` too. -/
theorem attempt {x y : Action P α} (h : Agree I x y) : Agree I x.attempt y.attempt :=
  fun m hm => .attempt (h m hm)

/-- An attempt does not fail, so nothing is asked of its failing. This is the
form needed where the two ends of a later step are treated differently. -/
theorem attempt_at {x y : Action P α} (h : Agree I x y) {m : Machine P} (hm : I m.realm)
    {failed : Fault → Machine P → Prop} :
    AgreeAt m x.attempt y.attempt (fun _ m' => I m'.realm) failed :=
  .attempt (h m hm)

/-- A change to the realm agrees with itself if `I` is closed under it. -/
theorem modify {f : Realm P → Realm P} (hf : ∀ r, I r → I (f r)) : Keeps I (Action.modify f) :=
  fun _ hm => .modify (hf _ hm)

/-- The same for a change that gives a value; the value is free. -/
theorem modifyGet {f : Realm P → α × Realm P} (hf : ∀ r, I r → I (f r).2) :
    Keeps I (Action.modifyGet f) :=
  fun _ hm => .modifyGet (hf _ hm)

end Agree

end Action

namespace Hooks

/-- Two hooks that call alike from every realm in `I`, that stay in `I`
doing so, and that allow loops the same number of rounds. -/
structure Agree (I : Realm P → Prop) (hooks hooks' : Hooks P) : Prop where
  call : ∀ f this args, Action.Agree I (hooks.call f this args) (hooks'.call f this args)
  rounds : hooks.rounds = hooks'.rounds

end Hooks

end ScriptRealm
