import ScriptRealm.Proofs.Change
import ScriptRealm.Proofs.Handles.Reference
import ScriptRealm.Proofs.Likeness.Translation

/-!
# `ScriptRealm.Proofs.Bond.Basic`: machines side by side

Several things are true of every operation of the library: it keeps the
invariants that the single changes of a realm keep, it makes up no handles,
it does the same on platforms that correspond, and it does not go on after
a fatal fault. Each of them is proved by going through the operations one
after the other. This file states what these walks have in common, so that
the operations are gone through once.

A `Bond` relates machines on two platforms, which may be one. It says what
the machines have in common, which changes may be made to them, and whether
handles are traced: if they are, then a bond at `n` holds of machines with
`n` objects, and what is at hand refers to these (`Bond.Within`).
`Bond.Steady` is what a bond has to provide: what is read off bonded machines
is the same, and the changes of `Bond.Change`, made on both sides, lead to
bonded machines again, at the same number or at a greater one. In a
`Bond.Lawful` one the integrity levels of objects can be set as well.

`Bond.Ends` relates the ends of two actions, and `Bond.Carries` says that
two actions that run no code come to such ends. Operations that run code
are functions of hooks. What a bond makes of those is the business of a
`Bond.Logic`: a relation on functions from hooks to outcomes, with a law for
each way in which the library uses hooks. The laws carry a second thing
along. `returns` describes what is to become of a fatal fault, and a logic
may ask that it is the end of the operation (`Concludes`). Most operations
fail with it (`Relayed`).

The logic of most bonds is `Bond.simulation`, in which hooks that run code
alike give outcomes that are alike.
-/

set_option autoImplicit false

namespace ScriptRealm

open Refers (Below)

/-! ### Fatal faults -/

section

variable {P : Platform} {α β : Type}

/-- The outcome of a sequence, from the outcome of its first action. -/
def Outcome.bind (outcome : Outcome P α) (next : α → Machine P → Outcome P β) : Outcome P β :=
  match outcome with
  | .done a m => next a m
  | .failed fault m => .failed fault m
  | .exhausted => .exhausted

/-- The outcome of an attempt. -/
def Outcome.attempted : Outcome P α → Outcome P (Except Fault α)
  | .done a m => .done (.ok a) m
  | .failed fault m => .done (.error fault) m
  | .exhausted => .exhausted

/-- A body that was resumed has ended with a fault: it was left with one, or
the fault is what it reports. -/
def Outcome.Raises (fault : Fault) (k : Machine P) : Outcome P (Resumption P) → Prop
  | .done resumption k' => resumption.step = .error fault ∧ k' = k
  | .failed fault' k' => fault' = fault ∧ k' = k
  | .exhausted => False

/-- A fatal fault is failed with, in the machine that it was raised in. -/
def Relayed (fault : Fault) (k : Machine P) (outcome : Outcome P α) : Prop :=
  outcome = .failed fault k

/-- What follows on a fatal fault is the end, whatever the hooks: from what
the first part returns, one comes to what is to be returned, and runs no
more code. -/
def Concludes (returns : Fault → Machine P → Outcome P α → Prop)
    (next : Outcome P α → Hooks P → Outcome P β)
    (returns' : Fault → Machine P → Outcome P β → Prop) : Prop :=
  ∀ fault k outcome, fault.isFatal = true → returns fault k outcome →
    ∃ outcome', returns' fault k outcome' ∧ ∀ hooks, next outcome hooks = outcome'

/-- A sequence passes on the fault that its first part has failed with. The
second part is not run, so it does not matter which hooks it would be run
with. -/
theorem concludes_bind {returns : Fault → Machine P → Outcome P β → Prop}
    (hfailed : ∀ fault k, returns fault k (.failed fault k))
    (f : Hooks P → α → Action P β) :
    Concludes Relayed (fun outcome hooks => outcome.bind fun a k => f hooks a k) returns := by
  rintro fault k _ _ rfl
  exact ⟨.failed fault k, hfailed fault k, fun _ => rfl⟩

end

/-! ### Bonds -/

/-- What machines on two platforms, which are run side by side, are to each
other. -/
structure Bond (P Q : Platform) [P.Told] where
  /-- What the machines have in common. -/
  likeness : Likeness P Q
  /-- Which changes may be made to them. -/
  licence : Realm.Licence
  /-- Whether handles are traced. -/
  traced : Prop
  /-- The machines that are run side by side, by the number of their
  objects. The number matters only if handles are traced. -/
  machine : Nat → Machine P → Machine Q → Prop

variable {P Q : Platform} [P.Told] {α β γ δ : Type} {n n' : Nat}

namespace Bond

variable (B : Bond P Q)

/-- If handles are traced, the data refer to the first `n` objects. -/
def Within [Refers α] (n : Nat) (a : α) : Prop := B.traced → Below n a

/-- The same data on both sides, which refer to the first `n` objects. -/
def Same [Refers α] (n : Nat) (a b : α) : Prop := a = b ∧ B.Within n a

/-- The same end on both sides: with answers in `R`, with one fault, or
without an end. The machines are bonded again. -/
inductive Ends (R : Nat → α → β → Prop) (n : Nat) : Outcome P α → Outcome Q β → Prop where
  | done {n' : Nat} {a : α} {b : β} {k : Machine P} {k' : Machine Q} (hle : n ≤ n')
      (hk : B.machine n' k k') (hab : R n' a b) : Ends R n (.done a k) (.done b k')
  | failed {n' : Nat} {fault : Fault} {k : Machine P} {k' : Machine Q} (hle : n ≤ n')
      (hk : B.machine n' k k') (hfault : B.Within n' fault) :
      Ends R n (.failed fault k) (.failed fault k')
  | exhausted : Ends R n .exhausted .exhausted

/-- The changes that the library makes on both sides at once, apart from
driving a generator, each with what has been checked before. -/
inductive Change (n : Nat) : Realm P → Realm Q → Realm P → Realm Q → Prop where
  | allocate {r : Realm P} {s : Realm Q} {x : ObjectRecord P} {y : ObjectRecord Q}
      (hnew : x.kind.IsNew) (hxy : x.Alike B.likeness y) (hx : B.Within n x) :
      Change n r s (r.allocate x).2 (s.allocate y).2
  | symbol {r : Realm P} {s : Realm Q} (description : Option String) :
      Change n r s (r.newSymbol description).2 (s.newSymbol description).2
  | insert {r : Realm P} {s : Realm Q} {h : Handle} {key : PropertyKey} {slot : Slot}
      (hkey : B.likeness.key key) (hslot : B.Within n slot)
      (hadmits : B.licence.raw ∨ (r.record h).Admits key slot) :
      Change n r s (r.insertSlot h key slot) (s.insertSlot h key slot)
  | erase {r : Realm P} {s : Realm Q} {h : Handle} (key : PropertyKey)
      (hopen : B.licence.raw ∨
        ∀ slot, (r.record h).slot? key = some slot → slot.configurable = true) :
      Change n r s (r.update h (·.erase key)) (s.update h (·.erase key))
  | prototype {r : Realm P} {s : Realm Q} {h : Handle} {prototype : Option Handle}
      (hprototype : B.Within n prototype) :
      Change n r s (r.setPrototype h prototype).2 (s.setPrototype h prototype).2
  | scope {r : Realm P} {s : Realm Q} {h : Handle} {scope : Option Handle}
      (hscope : B.Within n scope) : Change n r s (r.setScope h scope) (s.setScope h scope)
  | preventExtensions {r : Realm P} {s : Realm Q} {h : Handle} :
      Change n r s (r.preventExtensions h) (s.preventExtensions h)
  | cursor {r : Realm P} {s : Realm Q} {h : Handle} {c : ListCursor} (finished : Bool)
      (hkind : (r.record h).kind = .listIterator c)
      (hkind' : (s.record h).kind = .listIterator c) (hmoves : B.licence.moves h) :
      Change n r s (r.setKind h (.listIterator (ListIterator.advance finished c)))
        (s.setKind h (.listIterator (ListIterator.advance finished c)))

/-- What handles are traced through: a realm of `n` objects, which refer to
each other only. -/
structure Traces (n : Nat) (r : Realm P) : Prop where
  size : r.size = n
  present : Intrinsic.Present n
  objects : ∀ h, Below n (r.record h)

/-- What a function on realms comes to: the same answer on both sides, and
bonded machines. -/
def Gives [Refers α] (n : Nat) (m : Machine P) (m' : Machine Q) (result : α × Realm P)
    (result' : α × Realm Q) : Prop :=
  ∃ n', n ≤ n' ∧ B.machine n' { m with realm := result.2 } { m' with realm := result'.2 } ∧
    B.Same n' result.1 result'.1

/-- What a bond has to provide. The machines read alike, and what is traced is
traced through a realm of `n` objects. A change on both sides, and what a
foreign object does when it is written to, leads to machines that are bonded
again. -/
structure Steady : Prop where
  alike : ∀ {n : Nat} {m : Machine P} {m' : Machine Q}, B.machine n m m' →
    m.realm.Alike B.likeness m'.realm
  traces : ∀ {n : Nat} {m : Machine P} {m' : Machine Q}, B.machine n m m' → B.traced →
    Traces n m.realm
  /-- What is read may come from a foreign object, so it is told apart from
  what is stored. -/
  reading : ∀ {n : Nat} {m : Machine P} {m' : Machine Q}, B.machine n m m' →
    ∀ (key : PropertyKey) (h : Handle), B.Within n (m.realm.readingUpTo? key m.realm.size h)
  change : ∀ {n : Nat} {m : Machine P} {m' : Machine Q} {r : Realm P} {s : Realm Q},
    B.machine n m m' → B.Change n m.realm m'.realm r s →
    ∃ n', n ≤ n' ∧ B.machine n' { m with realm := r } { m' with realm := s }
  put : ∀ {n : Nat} {m : Machine P} {m' : Machine Q} {h : Handle} {host : P.Host}
    {host' : Q.Host} {value : Value} (key : PropertyKey), B.machine n m m' →
    (m.realm.record h).kind = .foreign host → (m'.realm.record h).kind = .foreign host' →
    B.Within n value →
    B.Ends B.Same n (Object.hostPut h host key value m) (Object.hostPut h host' key value m')
  delete : ∀ {n : Nat} {m : Machine P} {m' : Machine Q} {h : Handle} {host : P.Host}
    {host' : Q.Host} (key : PropertyKey), B.machine n m m' →
    (m.realm.record h).kind = .foreign host → (m'.realm.record h).kind = .foreign host' →
    B.Ends B.Same n (Action.askHost h (P.hosts.delete host key) m)
      (Action.askHost h (Q.hosts.delete host' key) m')

/-- A bond that integrity levels can be set under, too. This is told apart
because it is a whole walk over the keys of an object, which two machines
may list in different orders. Where they do not, `Steady.setIntegrity` has
it. -/
structure Lawful : Prop extends B.Steady where
  integrity : ∀ {n : Nat} {m : Machine P} {m' : Machine Q}, B.machine n m m' →
    ∀ (h : Handle) (level : Integrity), B.Gives n m m' (level.set m.realm h) (level.set m'.realm h)

/-- From bonded machines with `n` objects or more, two actions that run no
code come to the same end. -/
def Carries (R : Nat → α → β → Prop) (n : Nat) (x : Action P α) (y : Action Q β) : Prop :=
  ∀ {n' : Nat} {m : Machine P} {m' : Machine Q}, n ≤ n' → B.machine n' m m' →
    B.Ends R n' (x m) (y m')

variable {B}

/-- What refers to the first objects refers to the first of a greater
number. -/
theorem Within.mono [Refers α] {a : α} (h : B.Within n a) (hle : n ≤ n') : B.Within n' a :=
  fun ht => (h ht).mono hle

/-- Data that are within reach are the same as themselves. -/
theorem Within.same [Refers α] {a : α} (h : B.Within n a) : B.Same n a a := ⟨rfl, h⟩

/-! ### Ends -/

namespace Ends

variable {R : Nat → α → β → Prop} {S : Nat → γ → δ → Prop} {m : Machine P} {m' : Machine Q}

/-- An end that is known from a greater number on is known from a smaller one
on. The machines at the end are those of the greater number in both
statements. -/
theorem weaken {outcome : Outcome P α} {outcome' : Outcome Q β} (hle : n ≤ n')
    (h : B.Ends R n' outcome outcome') : B.Ends R n outcome outcome' := by
  cases h with
  | done hle' hk hab => exact .done (Nat.le_trans hle hle') hk hab
  | failed hle' hk hfault => exact .failed (Nat.le_trans hle hle') hk hfault
  | exhausted => exact .exhausted

/-- Less may be said of the answers. That the number has not become smaller
may be used for it. -/
theorem mono {R' : Nat → α → β → Prop} {outcome : Outcome P α} {outcome' : Outcome Q β}
    (h : B.Ends R n outcome outcome') (hR : ∀ n' a b, n ≤ n' → R n' a b → R' n' a b) :
    B.Ends R' n outcome outcome' := by
  cases h with
  | done hle hk hab => exact .done hle hk (hR _ _ _ hle hab)
  | failed hle hk hfault => exact .failed hle hk hfault
  | exhausted => exact .exhausted

/-- An answer without an action: the machines are left as they are, so the
answers have to be related at the number that is there. -/
theorem pure {a : α} {b : β} (hm : B.machine n m m') (hab : R n a b) :
    B.Ends R n ((Pure.pure a : Action P α) m) ((Pure.pure b : Action Q β) m') :=
  .done (Nat.le_refl n) hm hab

/-- One fault on both sides, in machines that are left as they are. -/
theorem fail {fault : Fault} (hm : B.machine n m m') (hfault : B.Within n fault) :
    B.Ends R n ((Action.fail fault : Action P α) m) ((Action.fail fault : Action Q β) m') :=
  .failed (Nat.le_refl n) hm hfault

/-- What comes second starts from bonded machines with what the first has
answered. The first has one answer on both sides, so only the machines are
different for the second. -/
theorem bind [Refers α] {x : Action P α} {y : Action Q α} {f : α → Action P γ}
    {g : α → Action Q δ} (hx : B.Ends B.Same n (x m) (y m'))
    (hf : ∀ {n' : Nat} {k : Machine P} {k' : Machine Q} (a : α), n ≤ n' → B.machine n' k k' →
      B.Within n' a → B.Ends S n' (f a k) (g a k')) :
    B.Ends S n ((x >>= f) m) ((y >>= g) m') := by
  rw [Action.bind_apply, Action.bind_apply]
  -- Only the ends of the first actions count from here on.
  generalize x m = first at hx ⊢
  generalize y m' = first' at hx ⊢
  cases hx with
  | done hle hk hab =>
      obtain ⟨rfl, ha⟩ := hab
      -- What comes second may know of more objects than there were at the start.
      exact (hf _ hle hk ha).weaken hle
  | failed hle hk hfault => exact .failed hle hk hfault
  | exhausted => exact .exhausted

/-- The answers stay the same if one function is applied on both sides. It has
to refer to nothing but what its argument refers to. -/
theorem map [Refers α] [Refers γ] {x : Action P α} {y : Action Q α} {f : α → γ}
    (hx : B.Ends B.Same n (x m) (y m'))
    (hf : ∀ n' a, B.Within n' a → B.Within n' (f a)) :
    B.Ends B.Same n ((f <$> x) m) ((f <$> y) m') :=
  hx.bind fun a _ hk ha => .pure hk (hf _ a ha).same

/-- What is read of the realms are the realms as they are. They differ from
side to side, so the rest is a function of its own on each. -/
theorem realm_bind {f : Realm P → Action P γ} {g : Realm Q → Action Q δ}
    (h : B.Ends S n (f m.realm m) (g m'.realm m')) :
    B.Ends S n ((Action.realm >>= f) m) ((Action.realm >>= g) m') := h

/-- What is read of the objects are the objects as they are. -/
theorem record_bind {h : Handle} {f : ObjectRecord P → Action P γ}
    {g : ObjectRecord Q → Action Q δ}
    (hends : B.Ends S n (f (m.realm.record h) m) (g (m'.realm.record h) m')) :
    B.Ends S n ((Action.record h >>= f) m) ((Action.record h >>= g) m') := hends

/-- A result that was handed over is given back: as an answer or as a failure,
the same on both sides. -/
theorem ofExcept [Refers α] {result : Except Fault α} (hm : B.machine n m m')
    (hresult : B.Within n result) :
    B.Ends B.Same n ((Action.ofExcept result : Action P α) m)
      ((Action.ofExcept result : Action Q α) m') := by
  cases result with
  | ok a => exact .pure hm ⟨rfl, hresult⟩
  | error fault => exact .fail hm hresult

end Ends

/-! ### Changes -/

variable {m : Machine P} {m' : Machine Q}

/-- A function on realms, made an action. Its answer has to be the same on
both sides. -/
theorem Ends.modifyGet [Refers α] {f : Realm P → α × Realm P} {g : Realm Q → α × Realm Q}
    (h : B.Gives n m m' (f m.realm) (g m'.realm)) :
    B.Ends B.Same n (Action.modifyGet f m) (Action.modifyGet g m') := by
  obtain ⟨n', hle, hm, hsame⟩ := h
  exact .done hle hm hsame

/-- A change of the realm without an answer, made an action. It ends on both
sides with nothing to relate but the machines. -/
theorem Ends.modify {f : Realm P → Realm P} {g : Realm Q → Realm Q}
    (h : ∃ n', n ≤ n' ∧
      B.machine n' { m with realm := f m.realm } { m' with realm := g m'.realm }) :
    B.Ends B.Same n (Action.modify f m) (Action.modify g m') := by
  obtain ⟨n', hle, hm⟩ := h
  exact .done hle hm ⟨rfl, fun _ => trivial⟩

/-- A sequence that begins with a change. What the change has answered is
known, and so are the machines that it has led to. Use this where more is
known of them than that they are bonded, such as that a new object is open. -/
theorem Ends.modifyGet_bind {S : Nat → γ → δ → Prop} {f : Realm P → α × Realm P}
    {g : Realm Q → α × Realm Q} {x : α → Action P γ} {y : α → Action Q δ} (hle : n ≤ n')
    (heq : (f m.realm).1 = (g m'.realm).1)
    (h : B.Ends S n' (x (f m.realm).1 { m with realm := (f m.realm).2 })
      (y (f m.realm).1 { m' with realm := (g m'.realm).2 })) :
    B.Ends S n ((Action.modifyGet f >>= x) m) ((Action.modifyGet g >>= y) m') := by
  -- The second side answers what the first one does, so it goes on with that.
  have hy : (Action.modifyGet g >>= y) m'
      = y (f m.realm).1 { m' with realm := (g m'.realm).2 } := by rw [heq]; rfl
  rw [hy]
  exact h.weaken hle

/-- A realm that is left as it is, with an answer that is within reach. -/
theorem Gives.refl [Refers α] (hm : B.machine n m m') {a : α} (ha : B.Within n a) :
    B.Gives n m m' (a, m.realm) (a, m'.realm) :=
  ⟨n, Nat.le_refl n, hm, rfl, ha⟩

namespace Steady

variable (hB : B.Steady)
include hB

/-- What is stored in an object was there before. So a slot that is read is
within reach, with all that its content refers to. -/
theorem slot? (hm : B.machine n m m') (h : Handle) (key : PropertyKey) :
    B.Within n ((m.realm.record h).slot? key) :=
  fun ht => ObjectRecord.below_slot? ((hB.traces hm ht).objects h) key

/-- The prototypes that every realm has are within reach, since they are
present in every machine whose references are traced. -/
theorem intrinsic (hm : B.machine n m m') {h : Handle}
    (hle : h.index ≤ Intrinsic.arrayPrototype.index) : B.Within n h :=
  fun ht => (hB.traces hm ht).present.below hle

/-- A slot is written on both sides. It is one that the object admits, unless
the bond has a licence for writes without a check. -/
theorem insertSlot (hm : B.machine n m m') {h : Handle} {key : PropertyKey}
    (hkey : B.likeness.key key) (slot : Slot) (hslot : B.Within n slot)
    (hadmits : B.licence.raw ∨ (m.realm.record h).Admits key slot) :
    ∃ n', n ≤ n' ∧ B.machine n' { m with realm := m.realm.insertSlot h key slot }
      { m' with realm := m'.realm.insertSlot h key slot } :=
  hB.change hm (.insert hkey hslot hadmits)

/-- An object is added under the same handle on both sides. The handle is that
of the last object, so it refers to the first `n'`, which has grown by one at
least. -/
theorem allocate (hm : B.machine n m m') {x : ObjectRecord P} {y : ObjectRecord Q}
    (hnew : x.kind.IsNew) (hxy : x.Alike B.likeness y) (hx : B.Within n x) :
    B.Gives n m m' (m.realm.allocate x) (m'.realm.allocate y) := by
  obtain ⟨n', hle, hm'⟩ := hB.change hm (.allocate hnew hxy hx)
  refine ⟨n', hle, hm', ((hB.alike hm).allocate hxy).1, fun ht => ?_⟩
  -- That it is traced is what makes `n'` the number of objects.
  have hsize : (m.realm.allocate x).2.size = n' := (hB.traces hm' ht).size
  rw [Realm.size_allocate] at hsize
  show m.realm.size < n'
  omega

/-- A descriptor is applied by writing a slot that the object admits, or not
at all. Where the descriptor is reconciled with a slot that is not the one in
the object, it takes a licence to write what comes out. -/
theorem applyDescriptor (hm : B.machine n m m') {h : Handle} {key : PropertyKey}
    {extensible : Bool} {d : Descriptor} {current : Option Slot} (hkey : B.likeness.key key)
    (hd : B.Within n d) (hcurrent : B.Within n current)
    (hadmits : B.licence.raw ∨ current = (m.realm.record h).slot? key ∧
      (extensible = true → (m.realm.record h).extensible = true)) :
    B.Gives n m m' (m.realm.applyDescriptor h key extensible d current)
      (m'.realm.applyDescriptor h key extensible d current) := by
  unfold Realm.applyDescriptor
  split
  -- Rejecting and keeping leave the realms as they are, with one answer.
  · exact .refl hm fun _ => trivial
  · exact .refl hm fun _ => trivial
  · rename_i slot hreconcile
    have hslot : B.Within n slot := fun ht => below_of_reconcile (hd ht) (hcurrent ht) hreconcile
    -- Reconciliation has made the check that the object would make.
    have hadmits : B.licence.raw ∨ (m.realm.record h).Admits key slot := by
      refine hadmits.imp_right ?_
      rintro ⟨rfl, hext⟩
      refine ⟨fun hnone => ?_, fun old hold => ?_⟩
      · rw [hnone] at hreconcile
        exact hext (extensible_of_reconcile hreconcile)
      · rw [hold] at hreconcile
        exact admits_of_reconcile hreconcile
    obtain ⟨n', hle, hm'⟩ := hB.insertSlot hm hkey slot hslot hadmits
    exact ⟨n', hle, hm', rfl, fun _ => trivial⟩

/-- Locking goes the same way on both sides, key by key. Each key is that of
a slot which is there, and the lock that is asked for is one that the slot
admits. -/
theorem lockKeys (level : Integrity) (h : Handle) (keys : List PropertyKey) :
    ∀ {n : Nat} {m : Machine P} {m' : Machine Q}, B.machine n m m' →
      B.Gives n m m' (level.lockKeys h keys m.realm) (level.lockKeys h keys m'.realm) := by
  induction keys with
  | nil => exact fun hm => .refl hm fun _ => trivial
  | cons key rest ih =>
      intro n m m' hm
      have hrecord := (hB.alike hm).record h
      have hwithin := hB.slot? hm h key
      rw [Integrity.lockKeys, Integrity.lockKeys, ← hrecord.slot?]
      cases hslot : (m.realm.record h).slot? key with
      -- A key that is listed but not stored ends the walk, and nothing was locked for it.
      | none => exact .refl hm fun _ => trivial
      | some slot =>
          rw [hslot] at hwithin
          -- A lock asks for flags only, so it refers to nothing.
          have happly : B.Gives n m m'
              (m.realm.applyDescriptor h key false (level.demand slot) (some slot))
              (m'.realm.applyDescriptor h key false (level.demand slot) (some slot)) :=
            hB.applyDescriptor hm (hrecord.key_of_slot? hslot)
              (fun _ => ⟨trivial, trivial, trivial⟩) hwithin
              (.inr ⟨hslot.symm, fun hfalse => by cases hfalse⟩)
          obtain ⟨n₁, hle₁, hm₁, hheld, -⟩ := happly
          dsimp only
          -- The two results are taken apart, so that the walk goes on from both realms at once.
          generalize m.realm.applyDescriptor h key false (level.demand slot) (some slot) = held
            at hm₁ hheld
          generalize m'.realm.applyDescriptor h key false (level.demand slot) (some slot) = held'
            at hm₁ hheld
          obtain ⟨held, r⟩ := held
          obtain ⟨held', r'⟩ := held'
          obtain rfl : held = held' := hheld
          cases held with
          | false => exact ⟨n₁, hle₁, hm₁, rfl, fun _ => trivial⟩
          | true =>
              obtain ⟨n₂, hle₂, hm₂, hanswer⟩ := ih hm₁
              exact ⟨n₂, Nat.le_trans hle₁ hle₂, hm₂, hanswer⟩

/-- An integrity level is set alike, if both sides list the keys in the same
order. Setting it ends extensibility first, which has no part in the order,
and then locks the keys one by one. -/
theorem setIntegrity (hm : B.machine n m m') (h : Handle) (level : Integrity)
    (hkeys : (m.realm.preventExtensions h).ownKeys h true true
      = (m'.realm.preventExtensions h).ownKeys h true true) :
    B.Gives n m m' (level.set m.realm h) (level.set m'.realm h) := by
  obtain ⟨n₁, hle₁, hm₁⟩ := hB.change hm (.preventExtensions (h := h))
  obtain ⟨n₂, hle₂, hm₂, hanswer⟩ := hB.lockKeys level h
    ((m.realm.preventExtensions h).ownKeys h true true) hm₁
  -- The same list is walked on both sides.
  rw [Integrity.set, Integrity.set, ← hkeys]
  exact ⟨n₂, Nat.le_trans hle₁ hle₂, hm₂, hanswer⟩

end Steady

/-! ### Operations that run code -/

/-- What it takes to carry a bond over the operations that run code. -/
structure Logic (B : Bond P Q) where
  lawful : B.Lawful
  Rel : {α β : Type} → (Nat → α → β → Prop) → Nat →
    (Fault → Machine P → Outcome P α → Prop) → (Hooks P → Outcome P α) →
    (Hooks Q → Outcome Q β) → Prop
  /-- It is at its end. -/
  const : ∀ {α β : Type} {R : Nat → α → β → Prop} {n : Nat}
    {returns : Fault → Machine P → Outcome P α → Prop} {outcome : Outcome P α}
    {outcome' : Outcome Q β}, B.Ends R n outcome outcome' →
    Rel R n returns (fun _ => outcome) (fun _ => outcome')
  weaken : ∀ {α β : Type} {R : Nat → α → β → Prop} {n n' : Nat}
    {returns : Fault → Machine P → Outcome P α → Prop} {x : Hooks P → Outcome P α}
    {y : Hooks Q → Outcome Q β}, n ≤ n' → Rel R n' returns x y → Rel R n returns x y
  /-- Less may be said of the answers, and of what is returned. -/
  mono : ∀ {α β : Type} {R R' : Nat → α → β → Prop} {n : Nat}
    {returns returns' : Fault → Machine P → Outcome P α → Prop} {x : Hooks P → Outcome P α}
    {y : Hooks Q → Outcome Q β}, (∀ n' a b, R n' a b → R' n' a b) →
    (∀ fault k outcome, returns fault k outcome → returns' fault k outcome) →
    Rel R n returns x y → Rel R' n returns' x y
  /-- It looks up how many rounds a loop may make. -/
  allowance : ∀ {α β : Type} {R : Nat → α → β → Prop} {n : Nat}
    {returns : Fault → Machine P → Outcome P α → Prop} (x : Nat → Hooks P → Outcome P α)
    (y : Nat → Hooks Q → Outcome Q β), (∀ rounds, Rel R n returns (x rounds) (y rounds)) →
    Rel R n returns (fun hooks => x hooks.rounds hooks) (fun hooks => y hooks.rounds hooks)
  /-- It makes a call. -/
  call : ∀ {n : Nat} {m : Machine P} {m' : Machine Q} {f this : Value} {args : List Value},
    B.machine n m m' → B.Within n f → B.Within n this → B.Within n args →
    Rel B.Same n Relayed (fun hooks => hooks.call f this args m)
      (fun hooks => hooks.call f this args m')
  /-- It goes on after a first part of itself has come to an end. -/
  bind : ∀ {α γ δ : Type} [Refers α] {S : Nat → γ → δ → Prop} {n : Nat}
    {returns : Fault → Machine P → Outcome P α → Prop}
    {returns' : Fault → Machine P → Outcome P γ → Prop} {x : Hooks P → Outcome P α}
    {y : Hooks Q → Outcome Q α} (next : Outcome P α → Hooks P → Outcome P γ)
    (next' : Outcome Q α → Hooks Q → Outcome Q δ), Rel B.Same n returns x y →
    (∀ outcome outcome', B.Ends B.Same n outcome outcome' →
      Rel S n returns' (next outcome) (next' outcome')) →
    Concludes returns next returns' →
    Rel S n returns' (fun hooks => next (x hooks) hooks) (fun hooks => next' (y hooks) hooks)

namespace Logic

variable {B : Bond P Q} (L : B.Logic)

/-- From bonded machines with `n` objects or more, two operations are
related. -/
def Relates (R : Nat → α → β → Prop) (n : Nat)
    (returns : Fault → Machine P → Outcome P α → Prop) (x : Hooks P → Action P α)
    (y : Hooks Q → Action Q β) : Prop :=
  ∀ ⦃n' : Nat⦄ ⦃m : Machine P⦄ ⦃m' : Machine Q⦄, n ≤ n' → B.machine n' m m' →
    L.Rel R n' returns (fun hooks => x hooks m) (fun hooks => y hooks m')

/-- Two operations give the same answers, and fail with a fatal fault. -/
abbrev Relays [Refers α] (n : Nat) (x : Hooks P → Action P α) (y : Hooks Q → Action Q α) : Prop :=
  L.Relates B.Same n Relayed x y

variable {L} {R : Nat → α → β → Prop} {S : Nat → γ → δ → Prop}
  {returns : Fault → Machine P → Outcome P α → Prop}
  {returns' : Fault → Machine P → Outcome P γ → Prop} {m : Machine P} {m' : Machine Q}

/-- A sequence in one place: what comes second is related from wherever the
first part leads. `hfatal` says what becomes of the sequence if the first part
meets a fatal fault. -/
theorem bind_of [Refers α] {x : Hooks P → Action P α} {y : Hooks Q → Action Q α}
    {f : Hooks P → α → Action P γ} {g : Hooks Q → α → Action Q δ}
    (hx : L.Rel B.Same n returns (fun hooks => x hooks m) fun hooks => y hooks m')
    (hf : ∀ {n' : Nat} {k : Machine P} {k' : Machine Q} (a : α), n ≤ n' → B.machine n' k k' →
      B.Within n' a → L.Rel S n' returns' (fun hooks => f hooks a k) fun hooks => g hooks a k')
    (hfatal : Concludes returns (fun outcome hooks => outcome.bind fun a k => f hooks a k)
      returns') :
    L.Rel S n returns' (fun hooks => (x hooks >>= f hooks) m)
      (fun hooks => (y hooks >>= g hooks) m') := by
  refine L.bind (fun outcome hooks => outcome.bind fun a k => f hooks a k)
    (fun outcome hooks => outcome.bind fun a k => g hooks a k) hx ?_ hfatal
  intro outcome outcome' hends
  -- Only what comes second after an answer can run code; the other ends stay as they are.
  cases hends with
  | done hle hk hab =>
      obtain ⟨rfl, ha⟩ := hab
      exact L.weaken hle (hf _ hle hk ha)
  | failed hle hk hfault => exact L.const (.failed hle hk hfault)
  | exhausted => exact L.const .exhausted

/-- A sequence whose first part is attempted. What comes second goes on after
a failure, too, and gets the fault as a result. -/
theorem attempt_bind_of [Refers α] {x : Hooks P → Action P α} {y : Hooks Q → Action Q α}
    {f : Hooks P → Except Fault α → Action P γ} {g : Hooks Q → Except Fault α → Action Q δ}
    (hx : L.Rel B.Same n returns (fun hooks => x hooks m) fun hooks => y hooks m')
    (hf : ∀ {n' : Nat} {k : Machine P} {k' : Machine Q} (result : Except Fault α), n ≤ n' →
      B.machine n' k k' → B.Within n' result →
      L.Rel S n' returns' (fun hooks => f hooks result k) fun hooks => g hooks result k')
    (hfatal : Concludes returns
      (fun outcome hooks => outcome.attempted.bind fun result k => f hooks result k) returns') :
    L.Rel S n returns' (fun hooks => ((x hooks).attempt >>= f hooks) m)
      (fun hooks => ((y hooks).attempt >>= g hooks) m') := by
  refine L.bind
    (fun outcome hooks => outcome.attempted.bind fun result k => f hooks result k)
    (fun outcome hooks => outcome.attempted.bind fun result k => g hooks result k) hx ?_ hfatal
  intro outcome outcome' hends
  -- Answer and fault are both results for what comes second. Only being stopped is an end.
  cases hends with
  | done hle hk hab =>
      obtain ⟨rfl, ha⟩ := hab
      exact L.weaken hle (hf (.ok _) hle hk ha)
  | failed hle hk hfault => exact L.weaken hle (hf (.error _) hle hk hfault)
  | exhausted => exact L.const .exhausted

/-- A sequence whose first part runs no code, and gives answers that
correspond. No fatal fault can be raised by code here, so nothing is asked
about one. -/
theorem step_pair {x : Action P α} {y : Action Q β} {f : Hooks P → α → Action P γ}
    {g : Hooks Q → β → Action Q δ} (hx : B.Ends R n (x m) (y m'))
    (hf : ∀ {n' : Nat} {k : Machine P} {k' : Machine Q} (a : α) (b : β), n ≤ n' →
      B.machine n' k k' → R n' a b →
      L.Rel S n' returns' (fun hooks => f hooks a k) fun hooks => g hooks b k') :
    L.Rel S n returns' (fun hooks => (x >>= f hooks) m) (fun hooks => (y >>= g hooks) m') := by
  simp only [Action.bind_apply]
  -- Neither first part depends on the hooks, so that its end is one outcome.
  generalize x m = first at hx ⊢
  generalize y m' = first' at hx ⊢
  cases hx with
  | done hle hk hab => exact L.weaken hle (hf _ _ hle hk hab)
  | failed hle hk hfault => exact L.const (.failed hle hk hfault)
  | exhausted => exact L.const .exhausted

/-- A sequence whose first part runs no code, and gives the same answer on
both sides. -/
theorem step_of [Refers α] {x : Action P α} {y : Action Q α} {f : Hooks P → α → Action P γ}
    {g : Hooks Q → α → Action Q δ} (hx : B.Ends B.Same n (x m) (y m'))
    (hf : ∀ {n' : Nat} {k : Machine P} {k' : Machine Q} (a : α), n ≤ n' → B.machine n' k k' →
      B.Within n' a → L.Rel S n' returns' (fun hooks => f hooks a k) fun hooks => g hooks a k') :
    L.Rel S n returns' (fun hooks => (x >>= f hooks) m) (fun hooks => (y >>= g hooks) m') := by
  refine step_pair hx fun a b hle hk hab => ?_
  obtain ⟨rfl, ha⟩ := hab
  exact hf a hle hk ha

/-- What an operation reads of the realms are the realms as they are. -/
theorem realm_bind {f : Hooks P → Realm P → Action P γ} {g : Hooks Q → Realm Q → Action Q δ}
    (h : L.Rel S n returns' (fun hooks => f hooks m.realm m) fun hooks => g hooks m'.realm m') :
    L.Rel S n returns' (fun hooks => (Action.realm >>= f hooks) m)
      (fun hooks => (Action.realm >>= g hooks) m') := h

/-- What an operation reads of the objects are the objects as they are. -/
theorem record_bind {h : Handle} {f : Hooks P → ObjectRecord P → Action P γ}
    {g : Hooks Q → ObjectRecord Q → Action Q δ}
    (hrel : L.Rel S n returns' (fun hooks => f hooks (m.realm.record h) m)
      fun hooks => g hooks (m'.realm.record h) m') :
    L.Rel S n returns' (fun hooks => (Action.record h >>= f hooks) m)
      (fun hooks => (Action.record h >>= g hooks) m') := hrel

namespace Relates

/-- An action that runs no code. It is an operation for which the hooks do not
matter. -/
theorem const {x : Action P α} {y : Action Q β} (h : B.Carries R n x y) :
    L.Relates R n returns (fun _ => x) (fun _ => y) :=
  fun _ _ _ hle hm => L.const (h hle hm)

/-- An operation that gives an answer and does nothing else. -/
theorem pure [Refers α] {a : α} (ha : B.Within n a) :
    L.Relates B.Same n returns (fun _ => Pure.pure a) (fun _ => Pure.pure a) :=
  const fun hle hm => .pure hm (ha.mono hle).same

/-- An operation that fails and does nothing else. This is no fatal fault that
code has raised, so `returns` is free. -/
theorem fail {fault : Fault} (hfault : B.Within n fault) :
    L.Relates R n returns (fun _ => Action.fail fault) (fun _ => Action.fail fault) :=
  const fun hle hm => .fail hm (hfault.mono hle)

/-- An operation that is stopped is stopped on both sides, and nothing is left
to relate. -/
theorem exhausted : L.Relates R n returns (fun _ => Action.exhausted) (fun _ => Action.exhausted) :=
  const fun _ _ => .exhausted

/-- A change of the realm with an answer, as an operation. It asks nothing of
the hooks, so it suffices that the change carries the bond over. -/
theorem modifyGet [Refers α] {f : Realm P → α × Realm P} {g : Realm Q → α × Realm Q}
    (h : ∀ {n' : Nat} {m : Machine P} {m' : Machine Q}, n ≤ n' → B.machine n' m m' →
      B.Gives n' m m' (f m.realm) (g m'.realm)) :
    L.Relates B.Same n returns (fun _ => Action.modifyGet f) (fun _ => Action.modifyGet g) :=
  const fun hle hm => .modifyGet (h hle hm)

/-- A change of the realm without an answer, as an operation that asks nothing
of the hooks. -/
theorem modify {f : Realm P → Realm P} {g : Realm Q → Realm Q}
    {returns : Fault → Machine P → Outcome P Unit → Prop}
    (h : ∀ {n' : Nat} {m : Machine P} {m' : Machine Q}, n ≤ n' → B.machine n' m m' →
      ∃ n'', n' ≤ n'' ∧ B.machine n'' { m with realm := f m.realm }
        { m' with realm := g m'.realm }) :
    L.Relates B.Same n returns (fun _ => Action.modify f) (fun _ => Action.modify g) :=
  const fun hle hm => .modify (h hle hm)

/-- An answer that is read off the realms. Where the realms read alike, the
answers are the same, or correspond. -/
theorem read {f : Realm P → α} {g : Realm Q → β}
    (h : ∀ {n' : Nat} {m : Machine P} {m' : Machine Q}, n ≤ n' → B.machine n' m m' →
      R n' (f m.realm) (g m'.realm)) :
    L.Relates R n returns (fun _ => do return f (← Action.realm))
      (fun _ => do return g (← Action.realm)) :=
  const fun hle hm => .pure hm (h hle hm)

/-- A sequence whose first part runs no code. The second part is related at a
number that may have grown, for answers within reach of it. -/
theorem step [Refers α] {x : Action P α} {y : Action Q α} {f : Hooks P → α → Action P γ}
    {g : Hooks Q → α → Action Q δ} (hx : B.Carries B.Same n x y)
    (hf : ∀ a n', n ≤ n' → B.Within n' a →
      L.Relates S n' returns' (fun hooks => f hooks a) fun hooks => g hooks a) :
    L.Relates S n returns' (fun hooks => x >>= f hooks) (fun hooks => y >>= g hooks) :=
  fun _ _ _ hle hm => step_of (hx hle hm) fun a hle' hk ha =>
    hf a _ (Nat.le_trans hle hle') ha (Nat.le_refl _) hk

/-- Less may be said of the answers, wherever they are given. The machines and
the fatal faults are not looked at again. -/
theorem mono {R' : Nat → α → β → Prop} {x : Hooks P → Action P α} {y : Hooks Q → Action Q β}
    (hxy : L.Relates R n returns x y) (hR : ∀ n' a b, R n' a b → R' n' a b) :
    L.Relates R' n returns x y :=
  fun _ _ _ hle hm => L.mono hR (fun _ _ _ hreturns => hreturns) (hxy hle hm)

/-- What is said of an operation's returns may be replaced by anything that it
implies. -/
theorem relax {returns'' : Fault → Machine P → Outcome P α → Prop} {x : Hooks P → Action P α}
    {y : Hooks Q → Action Q β} (hxy : L.Relates R n returns x y)
    (himp : ∀ fault k outcome, returns fault k outcome → returns'' fault k outcome) :
    L.Relates R n returns'' x y :=
  fun _ _ _ hle hm => L.mono (fun _ _ _ hab => hab) himp (hxy hle hm)

/-- A sequence whose first part makes something of a fatal fault, on which the
rest must end. -/
theorem bind_of [Refers α] {x : Hooks P → Action P α} {y : Hooks Q → Action Q α}
    {f : Hooks P → α → Action P γ} {g : Hooks Q → α → Action Q δ}
    (hx : L.Relates B.Same n returns x y)
    (hf : ∀ a n', n ≤ n' → B.Within n' a →
      L.Relates S n' returns' (fun hooks => f hooks a) fun hooks => g hooks a)
    (hfatal : Concludes returns (fun outcome hooks => outcome.bind fun a k => f hooks a k)
      returns') :
    L.Relates S n returns' (fun hooks => x hooks >>= f hooks) (fun hooks => y hooks >>= g hooks) :=
  fun _ _ _ hle hm => Logic.bind_of (hx hle hm)
    (fun a hle' hk ha => hf a _ (Nat.le_trans hle hle') ha (Nat.le_refl _) hk) hfatal

/-- A sequence whose first part fails with a fatal fault, on which the
sequence fails, too. What is to be returned has to have such a failure. -/
theorem bind [Refers α] {x : Hooks P → Action P α} {y : Hooks Q → Action Q α}
    {f : Hooks P → α → Action P γ} {g : Hooks Q → α → Action Q δ} (hx : L.Relays n x y)
    (hf : ∀ a n', n ≤ n' → B.Within n' a →
      L.Relates S n' returns' (fun hooks => f hooks a) fun hooks => g hooks a)
    (hfailed : ∀ fault k, returns' fault k (.failed fault k)) :
    L.Relates S n returns' (fun hooks => x hooks >>= f hooks) (fun hooks => y hooks >>= g hooks) :=
  bind_of hx hf (concludes_bind hfailed f)

/-- A sequence whose first part makes something of a fatal fault, and is
attempted. What becomes of the fault after that must be the end. -/
theorem attempt_bind_of [Refers α] {x : Hooks P → Action P α} {y : Hooks Q → Action Q α}
    {f : Hooks P → Except Fault α → Action P γ} {g : Hooks Q → Except Fault α → Action Q δ}
    (hx : L.Relates B.Same n returns x y)
    (hf : ∀ result n', n ≤ n' → B.Within n' result →
      L.Relates S n' returns' (fun hooks => f hooks result) fun hooks => g hooks result)
    (hfatal : Concludes returns
      (fun outcome hooks => outcome.attempted.bind fun result k => f hooks result k) returns') :
    L.Relates S n returns' (fun hooks => (x hooks).attempt >>= f hooks)
      (fun hooks => (y hooks).attempt >>= g hooks) :=
  fun _ _ _ hle hm => Logic.attempt_bind_of (hx hle hm)
    (fun result hle' hk hresult => hf result _ (Nat.le_trans hle hle') hresult (Nat.le_refl _) hk)
    hfatal

/-- A sequence whose first part fails with a fatal fault, and is attempted.
The second part sees the fault, and has to come to an end on it without
running code. -/
theorem attempt_bind [Refers α] {x : Hooks P → Action P α} {y : Hooks Q → Action Q α}
    {f : Hooks P → Except Fault α → Action P γ} {g : Hooks Q → Except Fault α → Action Q δ}
    (hx : L.Relays n x y)
    (hf : ∀ result n', n ≤ n' → B.Within n' result →
      L.Relates S n' returns' (fun hooks => f hooks result) fun hooks => g hooks result)
    (hfatal : ∀ fault k, fault.isFatal = true →
      ∃ outcome, returns' fault k outcome ∧ ∀ hooks, f hooks (.error fault) k = outcome) :
    L.Relates S n returns' (fun hooks => (x hooks).attempt >>= f hooks)
      (fun hooks => (y hooks).attempt >>= g hooks) := by
  refine attempt_bind_of hx hf ?_
  rintro fault k _ hfault rfl
  exact hfatal fault k hfault

/-- A call is related if what it is given is within reach. -/
theorem call {f this : Value} {args : List Value} (hf : B.Within n f) (hthis : B.Within n this)
    (hargs : B.Within n args) :
    L.Relays n (fun hooks => hooks.call f this args) (fun hooks => hooks.call f this args) :=
  fun _ _ _ hle hm => L.call hm (hf.mono hle) (hthis.mono hle) (hargs.mono hle)

/-- An operation may look up its allowance, which hooks that are run side by
side have in common. -/
theorem rounds (x : Nat → Hooks P → Action P α) (y : Nat → Hooks Q → Action Q β)
    (hxy : ∀ rounds, L.Relates R n returns (x rounds) (y rounds)) :
    L.Relates R n returns (fun hooks => x hooks.rounds hooks)
      (fun hooks => y hooks.rounds hooks) :=
  fun _ _ _ hle hm => L.allowance (fun rounds hooks => x rounds hooks _)
    (fun rounds hooks => y rounds hooks _) fun rounds => hxy rounds hle hm

end Relates

namespace Relays

/-- Sequences of operations that fail with a fatal fault do so themselves. -/
theorem bind [Refers α] [Refers γ] {x : Hooks P → Action P α} {y : Hooks Q → Action Q α}
    {f : Hooks P → α → Action P γ} {g : Hooks Q → α → Action Q γ} (hx : L.Relays n x y)
    (hf : ∀ a n', n ≤ n' → B.Within n' a →
      L.Relays n' (fun hooks => f hooks a) fun hooks => g hooks a) :
    L.Relays n (fun hooks => x hooks >>= f hooks) (fun hooks => y hooks >>= g hooks) :=
  Relates.bind hx hf fun _ _ => rfl

/-- What is made of the answers does not touch faults. -/
theorem map [Refers α] [Refers γ] {x : Hooks P → Action P α} {y : Hooks Q → Action Q α}
    {f : α → γ} (hx : L.Relays n x y) (hf : ∀ n' a, B.Within n' a → B.Within n' (f a)) :
    L.Relays n (fun hooks => f <$> x hooks) (fun hooks => f <$> y hooks) :=
  bind hx fun a n' _ ha => Relates.pure (hf n' a ha)

end Relays

end Logic

/-! ### Simulation -/

/-- Hooks that call alike from bonded machines, and lead to bonded
machines. -/
structure Runs (B : Bond P Q) (hooks : Hooks P) (hooks' : Hooks Q) : Prop where
  call : ∀ {n : Nat} {m : Machine P} {m' : Machine Q} {f this : Value} {args : List Value},
    B.machine n m m' → B.Within n f → B.Within n this → B.Within n args →
    B.Ends B.Same n (hooks.call f this args m) (hooks'.call f this args m')
  rounds : hooks.rounds = hooks'.rounds

/-- Under hooks that run code alike, the ends are alike. Nothing is asked
about fatal faults. -/
def simulation (B : Bond P Q) (hB : B.Lawful) (alike : Hooks P → Hooks Q → Prop)
    (hruns : ∀ {hooks hooks'}, alike hooks hooks' → B.Runs hooks hooks') : B.Logic where
  lawful := hB
  Rel R n _ x y := ∀ hooks hooks', alike hooks hooks' → B.Ends R n (x hooks) (y hooks')
  const hends _ _ _ := hends
  weaken hle h hooks hooks' halike := (h hooks hooks' halike).weaken hle
  mono hR _ h hooks hooks' halike := (h hooks hooks' halike).mono fun n' a b _ hab => hR n' a b hab
  allowance x y h hooks hooks' halike := by
    dsimp only
    rw [(hruns halike).rounds]
    exact h _ hooks hooks' halike
  call hm hf hthis hargs _ _ halike := (hruns halike).call hm hf hthis hargs
  bind _ _ hx hnext _ hooks hooks' halike :=
    hnext _ _ (hx hooks hooks' halike) hooks hooks' halike

end Bond

end ScriptRealm
