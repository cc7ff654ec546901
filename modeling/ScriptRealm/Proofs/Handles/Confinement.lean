import ScriptRealm.Proofs.Agreement
import ScriptRealm.Proofs.Bond.Generators
import ScriptRealm.Proofs.Handles.Closure

/-!
# `ScriptRealm.Proofs.Handles.Confinement`: operations make up no handles

An action is confined to what is below `n` if, from every closed machine
with `n` objects or more, it comes to a closed machine with no fewer
objects, and what it ends with refers to objects of that machine. A value
that an action was given is below `n`, so it still is below when other
code has run in between.

As in `ScriptRealm.Proofs.Agreement` the statement is about two actions
that come to the same end. There is one lemma for each way of composing
actions that an embedder's code is put together in.

The operations of the library are confined by the walk over them, for a
bond between a closed machine and itself (`Bond.confined`). Here handles
are traced, so the number of a bond is that of the objects. What a bond has
to provide is then that the changes of a realm keep it closed, which
`ScriptRealm.Proofs.Handles.Closure` shows one by one.

`Request.perform_confined` and `IntrinsicFunction.run_confined` are the
results: a request that names objects among the first `n` is performed
alike under two hooks that are confined, and is confined to what is below
`n`.
-/

set_option autoImplicit false

namespace ScriptRealm

open Refers (Below)

variable {P : Platform} [P.Traced] {α β : Type} [Refers α] [Refers β] {n : Nat}

/-- A machine whose realm is closed and whose memory refers to objects of
that realm. -/
structure Machine.Closed (m : Machine P) : Prop where
  realm : m.realm.Closed
  memory : Below m.realm.size m.memory

/-- A machine becomes a closed one with no fewer objects, and what is
ended with refers to objects of that one. -/
structure Machine.Leads (m : Machine P) (a : α) (m' : Machine P) : Prop where
  size_le : m.realm.size ≤ m'.realm.size
  closed : m'.Closed
  below : Below m'.realm.size a

/-- A closed machine that is left alone leads to itself. -/
theorem Machine.Closed.leads {m : Machine P} (hm : m.Closed) {a : α}
    (ha : Below m.realm.size a) : m.Leads a m :=
  ⟨Nat.le_refl _, hm, ha⟩

/-- What an action has led to, the next one leads on from. What the first has
answered is not kept, since it may not come up again. -/
theorem Machine.Leads.trans {m m' m'' : Machine P} {a : α} {b : β} (hfirst : m.Leads a m')
    (hsecond : m'.Leads b m'') : m.Leads b m'' :=
  ⟨Nat.le_trans hfirst.size_le hsecond.size_le, hsecond.closed, hsecond.below⟩

/-- The memory stays below a realm that grows. So a change of the realm alone
leaves the machine closed. -/
theorem Machine.Closed.grow {m : Machine P} (hm : m.Closed) {r : Realm P}
    (hgrows : m.realm.Grows r) : Machine.Closed { m with realm := r } :=
  ⟨hgrows.closed, hm.memory.mono hgrows.size_le⟩

namespace Action

/-- From every closed machine with `n` objects or more, two actions come to
the same end, which is in a closed machine with no fewer objects. -/
def Confined (n : Nat) (x y : Action P α) : Prop :=
  ∀ m : Machine P, m.Closed → n ≤ m.realm.size → AgreeAt m x y m.Leads m.Leads

namespace Confined

variable {x x' : Action P α}

/-- An answer that was below before is below in every larger machine. -/
theorem pure {a : α} (ha : Below n a) : Confined n (Pure.pure a : Action P α) (Pure.pure a) :=
  fun _ hm hle => .pure (hm.leads (ha.mono hle))

/-- A fault that was below before is below in every larger machine. -/
theorem fail {fault : Fault} (hfault : Below n fault) :
    Confined n (Action.fail fault : Action P α) (Action.fail fault) :=
  fun _ hm hle => .fail (hm.leads (hfault.mono hle))

/-- An action that was stopped has no end to ask about. -/
theorem exhausted : Confined n (Action.exhausted : Action P α) Action.exhausted :=
  fun _ _ _ => .exhausted

/-- What comes second is confined to what is below when the first has come to
its end. What was known to be below before has to be carried over by
`Refers.Below.mono`, and nothing else changes. -/
theorem bind {f f' : α → Action P β} (hx : Confined n x x')
    (hf : ∀ a n', n ≤ n' → Below n' a → Confined n' (f a) (f' a)) :
    Confined n (x >>= f) (x' >>= f') := by
  intro m hm hle
  refine .bind (hx m hm hle) fun a m' hlead => ?_
  have hsecond := hf a m'.realm.size (Nat.le_trans hle hlead.size_le) hlead.below m' hlead.closed
    (Nat.le_refl _)
  exact hsecond.mono (fun _ _ => hlead.trans) fun _ _ => hlead.trans

/-- Attempting puts the answer or the fault into a result. -/
theorem attempt (hx : Confined n x x') : Confined n x.attempt x'.attempt :=
  -- A value and a fault are below exactly if the result that holds them is.
  fun m hm hle => .attempt ((hx m hm hle).mono
    (fun _ _ hend => ⟨hend.size_le, hend.closed, hend.below⟩)
    (fun _ _ hend => ⟨hend.size_le, hend.closed, hend.below⟩))

/-- A result that was handed over and is below is given back. -/
theorem ofExcept {result : Except Fault α} (hresult : Below n result) :
    Confined n (Action.ofExcept result : Action P α) (Action.ofExcept result) := by
  cases result with
  | ok a => exact .pure hresult
  | error fault => exact .fail hresult

/-- What is read of an object is below the realm that it is read in, and that
realm has `n` objects or more. What comes next is confined to all of them. -/
theorem record_bind {h : Handle} {f f' : ObjectRecord P → Action P β}
    (hf : ∀ r : Realm P, r.Closed → n ≤ r.size →
      Confined r.size (f (r.record h)) (f' (r.record h))) :
    Confined n (Action.record h >>= f) (Action.record h >>= f') :=
  fun m hm hle => .record_bind (hf m.realm hm.realm hle m hm (Nat.le_refl _))

/-- A foreign object answers, stores and remembers what is below. This is
where the assumption on the embedder's foreign objects is used. -/
theorem askHost (h : Handle) {f : P.Memory → α × P.Host × P.Memory}
    (hf : ∀ n' memory, n ≤ n' → Intrinsic.Present n' → Below n' memory → Below n' (f memory)) :
    Confined n (Action.askHost h f) (Action.askHost h f) := by
  intro m hm hle
  -- The new storage goes into the object and the new memory beside the realm, so both are
  -- needed below the realm as it is then. It has as many objects as before.
  obtain ⟨hanswer, hhost, hmemory⟩ := hf _ m.memory hle hm.realm.present hm.memory
  have hgrows := hm.realm.setKind h (.foreign (f m.memory).2.1) hhost
  exact ⟨rfl, hgrows.size_le, ⟨hgrows.closed, hmemory.mono hgrows.size_le⟩,
    hanswer.mono hgrows.size_le⟩

end Confined

end Action

/-- Two hooks that run code alike from closed machines, and lead to closed
machines. -/
structure Hooks.Confined (hooks hooks' : Hooks P) : Prop where
  call : ∀ {n : Nat} {f this : Value} {args : List Value}, Below n f → Below n this →
    Below n args → Action.Confined n (hooks.call f this args) (hooks'.call f this args)
  resume : ∀ {n : Nat} {body : P.Body} {frame : Frame} {completion : Completion},
    Below n body → Below n frame → Below n completion →
    Action.Confined n (hooks.resume body frame completion)
      (hooks'.resume body frame completion)
  rounds : hooks.rounds = hooks'.rounds

/-! ### The bond -/

/-- A closed machine and itself, by the number of its objects. -/
def Bond.confined (P : Platform) [P.Traced] : Bond P P where
  likeness := .equal P
  licence := (True : Prop)
  traced := True
  machine n m m' := m = m' ∧ m.Closed ∧ m.realm.size = n

namespace Bond.confined

/-- Changes that are made to a closed realm and to itself are the same, and
they leave it closed. What they write is below, and this is all that matters:
nothing is asked about what was checked before. -/
theorem grows {r r' s' : Realm P} (hr : r.Closed)
    (hchange : (confined P).Change r.size r r r' s') : r' = s' ∧ r.Grows r' := by
  cases hchange with
  | allocate _ hxy hx => exact ⟨by rw [hxy.eq], (hr.allocate (hx trivial)).grows⟩
  | symbol description => exact ⟨rfl, (hr.newSymbol description).grows⟩
  | insert _ hslot _ => exact ⟨rfl, hr.insertSlot _ _ _ (hslot trivial)⟩
  | erase => exact ⟨rfl, hr.eraseSlot _ _⟩
  | prototype hprototype => exact ⟨rfl, (hr.setPrototype _ (hprototype trivial)).grows⟩
  | scope hscope => exact ⟨rfl, hr.setScope _ (hscope trivial)⟩
  | preventExtensions => exact ⟨rfl, hr.preventExtensions _⟩
  | @cursor h c finished hkind _ _ =>
      -- The cursor moves along, and what it moves along is the same list.
      have hcursor : Below r.size (Kind.listIterator (P := P) c) := hkind ▸ (hr.objects h).kind
      refine ⟨rfl, hr.setKind h _ ?_⟩
      cases finished with
      | false => exact hcursor
      | true => exact hcursor

/-- Ends that are bonded are one end, which the machine leads to. The number
in the bond is that of the machine's objects, so it is determined on both
sides. -/
theorem agreeAt_iff_ends {m : Machine P} {x y : Action P α} :
    Action.AgreeAt m x y m.Leads m.Leads ↔
      (confined P).Ends (confined P).Same m.realm.size (x m) (y m) := by
  constructor
  · rintro ⟨hsame, hmeets⟩
    rw [← hsame]
    -- What the action leads to says all that the bond asks: the machine is closed, and its
    -- number is that of its own objects.
    generalize x m = outcome at hmeets
    cases outcome with
    | done a k =>
        exact .done hmeets.size_le ⟨rfl, hmeets.closed, rfl⟩ ⟨rfl, fun _ => hmeets.below⟩
    | failed fault k =>
        exact .failed hmeets.size_le ⟨rfl, hmeets.closed, rfl⟩ fun _ => hmeets.below
    | exhausted => exact .exhausted
  · intro hends
    generalize hx : x m = outcome at hends
    generalize hy : y m = outcome' at hends
    cases hends with
    | done hle hk hab =>
        obtain ⟨rfl, hclosed, rfl⟩ := hk
        obtain ⟨rfl, ha⟩ := hab
        exact ⟨hx.trans hy.symm, by rw [hx]; exact ⟨hle, hclosed, ha trivial⟩⟩
    | failed hle hk hfault =>
        obtain ⟨rfl, hclosed, rfl⟩ := hk
        exact ⟨hx.trans hy.symm, by rw [hx]; exact ⟨hle, hclosed, hfault trivial⟩⟩
    | exhausted => exact ⟨hx.trans hy.symm, by rw [hx]; trivial⟩

/-- It does not matter how a reading was found: whatever any object has to
read is below. -/
theorem below_readingUpTo? {r : Realm P} (hr : r.Closed) (key : PropertyKey) (h : Handle) :
    Below r.size (r.readingUpTo? key r.size h) := by
  cases hfound : r.readingUpTo? key r.size h with
  | none => trivial
  | some reading =>
      obtain ⟨w, hw⟩ := Realm.exists_of_readingUpTo? hfound
      exact (ObjectRecord.below_reading? hr.present (hr.objects w) key).of_eq_some hw

/-- The storage of a foreign object is what the object was found with. It is
one storage, since the machine is bonded to itself, and the object refers to
what the storage does. -/
theorem host_eq {m : Machine P} (hm : m.Closed) {h : Handle} {host host' : P.Host}
    (hkind : (m.realm.record h).kind = .foreign host)
    (hkind' : (m.realm.record h).kind = .foreign host') :
    host' = host ∧ Below m.realm.size host := by
  have hbelow := (hm.realm.objects h).kind
  rw [hkind] at hkind' hbelow
  exact ⟨(Kind.foreign.inj hkind').symm, hbelow⟩

/-- Closed machines stay closed under the changes of the walk, and under what
foreign objects do when they are written to. A reading may come from any
object on the way, so it is below for the reason that all objects are. -/
theorem steady : (confined P).Steady where
  alike := by
    rintro n m _ ⟨rfl, -, -⟩
    exact .refl m.realm
  traces := by
    rintro n m _ ⟨rfl, hm, rfl⟩ -
    exact ⟨rfl, hm.realm.present, hm.realm.objects⟩
  reading := by
    rintro n m _ ⟨rfl, hm, rfl⟩ key h -
    exact below_readingUpTo? hm.realm key h
  change := by
    rintro n m _ r s ⟨rfl, hm, rfl⟩ hchange
    obtain ⟨rfl, hgrows⟩ := grows hm.realm hchange
    exact ⟨r.size, hgrows.size_le, rfl, hm.grow hgrows, rfl⟩
  put := by
    rintro n m _ h host host' value key ⟨rfl, hm, rfl⟩ hkind hkind' hvalue
    obtain ⟨rfl, hhost⟩ := host_eq hm hkind hkind'
    refine agreeAt_iff_ends.mp (Action.Confined.askHost h ?_ m hm (Nat.le_refl _))
    exact fun _ _ hle hpresent hmemory => Platform.Traced.below_put key hpresent (hhost.mono hle)
      (Below.mono (hvalue trivial) hle) hmemory
  delete := by
    rintro n m _ h host host' key ⟨rfl, hm, rfl⟩ hkind hkind'
    obtain ⟨rfl, hhost⟩ := host_eq hm hkind hkind'
    refine agreeAt_iff_ends.mp (Action.Confined.askHost h ?_ m hm (Nat.le_refl _))
    exact fun _ _ hle hpresent hmemory =>
      Platform.Traced.below_delete key hpresent (hhost.mono hle) hmemory

/-- Both sides list the keys of an object in the same order, because they are
one machine. So the integrity levels need no argument of their own. -/
theorem lawful : (confined P).Lawful where
  toSteady := steady
  integrity := by
    rintro n m _ ⟨rfl, hm⟩ h level
    exact steady.setIntegrity ⟨rfl, hm⟩ h level rfl

/-- Hooks that are confined run bonded code, in the sense of the walk. What a
call is given is within reach, and so it is below the machine the call is made
in. -/
theorem runs {hooks hooks' : Hooks P} (hh : hooks.Confined hooks') :
    (confined P).Runs hooks hooks' where
  call := by
    rintro n m _ f this args ⟨rfl, hm, rfl⟩ hf hthis hargs
    exact agreeAt_iff_ends.mp
      (hh.call (hf trivial) (hthis trivial) (hargs trivial) m hm (Nat.le_refl _))
  rounds := hh.rounds

end Bond.confined

/-! ### Operations -/

/-- The walk over the operations, for hooks that are confined. -/
def Bond.Logic.confinement (P : Platform) [P.Traced] : (confined P).Logic :=
  simulation (confined P) confined.lawful Hooks.Confined confined.runs

/-- A generator may be replaced by one that refers to what is below, and
bodies leave behind what is below. The two generators of the walk are one,
since they are alike. -/
theorem Bond.Logic.confinement_resumes : (confinement P).Resumes := by
  refine simulation_resumes ?_ ?_
  · rintro n m _ h g g₁ g' g₁' ⟨rfl, hm, rfl⟩ - - ⟨halike, hbelow⟩
    have hgrows := hm.realm.setKind h (.generator g₁) (hbelow trivial)
    refine ⟨_, hgrows.size_le, ?_, hm.grow hgrows, rfl⟩
    rw [halike.eq]
  · rintro n m _ hooks hooks' frame body _ completion hh ⟨rfl, hm, rfl⟩ rfl hbody hframe hcompletion
    have hresume := hh.resume (hbody trivial) (hframe trivial) (hcompletion trivial) m hm
      (Nat.le_refl _)
    refine (confined.agreeAt_iff_ends.mp hresume).mono ?_
    rintro _ x _ - ⟨rfl, hx⟩
    exact ⟨⟨rfl, rfl, rfl⟩, hx⟩

/-- What the walk relates from `n` on is confined to what is below `n`. -/
theorem Bond.Logic.Relates.confined {returns : Fault → Machine P → Outcome P α → Prop}
    {x y : Hooks P → Action P α}
    (h : (confinement P).Relates (Bond.confined P).Same n returns x y) {hooks hooks' : Hooks P}
    (hh : hooks.Confined hooks') : Action.Confined n (x hooks) (y hooks') :=
  fun _ hm hle => Bond.confined.agreeAt_iff_ends.mpr (h hle ⟨rfl, hm, rfl⟩ hooks hooks' hh)

variable {hooks hooks' : Hooks P}

/-- The functions of a new realm are confined to what they are called with.
All cursors may move, and every generator may be resumed. -/
theorem IntrinsicFunction.run_confined (hh : hooks.Confined hooks') (i : IntrinsicFunction)
    {this : Value} {args : List Value} (hthis : Below n this) (hargs : Below n args) :
    Action.Confined n (i.run hooks this args) (i.run hooks' this args) :=
  (run_resumed Bond.Logic.confinement_resumes i (fun _ => hthis) (fun _ => hargs)
    fun _ _ _ => trivial).confined hh

/-- Under two hooks that are confined, a request is performed alike and is
confined to what it names. Raw requests are no exception: a slot that is
written without a check still refers to what the request names. -/
theorem Request.perform_confined (hh : hooks.Confined hooks') (request : Request P)
    (hrequest : request.Within n) :
    Action.Confined n (request.perform hooks) (request.perform hooks') := by
  have hperform := perform_resumed Bond.Logic.confinement_resumes Translation.id_respects request
    (keysIn_of_forall (fun _ => trivial) request) (fun _ => hrequest) fun _ => trivial
  exact (perform_same rfl request hperform).confined hh

end ScriptRealm
