import ScriptRealm.Proofs.Bond.Generators
import ScriptRealm.Proofs.Integrity

/-!
# `ScriptRealm.Proofs.Likeness.Operations`: every operation keeps the likeness

Two actions are alike if they come to the same end on machines that are
alike: both are done with answers that correspond, both fail with the same
fault, or both run out of their allowance, and the machines are alike
afterwards.

The operations of the library are alike themselves, under hooks that are
alike. This is the walk over the operations for machines that are alike
(`Bond.alike`): nothing is traced, and all changes are allowed, so what is
left to show is that the changes of a realm keep the likeness. For most of
them `ScriptRealm.Proofs.Likeness.Basic` has it. Setting an integrity level
walks over the keys of an object, which two realms that are alike may list
in different orders, so it needs an argument of its own
(`Machine.Alike.setIntegrity`).

Where an operation writes under a key that it was given, the key must be one
that tables may have. Where it writes under a key that it found, the key is
one already.
-/

set_option autoImplicit false

namespace ScriptRealm

variable {P Q : Platform}

/-- The same end, on machines that are alike, with answers that
correspond. -/
inductive Outcome.Alike (c : Likeness P Q) {α β : Type} (R : α → β → Prop) :
    Outcome P α → Outcome Q β → Prop where
  | done {a : α} {b : β} {m : Machine P} {n : Machine Q} (hab : R a b) (hmn : m.Alike c n) :
      Alike c R (.done a m) (.done b n)
  | failed (fault : Fault) {m : Machine P} {n : Machine Q} (hmn : m.Alike c n) :
      Alike c R (.failed fault m) (.failed fault n)
  | exhausted : Alike c R .exhausted .exhausted

/-- Actions that come to the same end on machines that are alike. -/
def Action.Alike (c : Likeness P Q) {α β : Type} (R : α → β → Prop) (x : Action P α)
    (y : Action Q β) : Prop :=
  ∀ (m : Machine P) (n : Machine Q), m.Alike c n → (x m).Alike c R (y n)

/-- Hooks that run corresponding code alike. A body is resumed in the frame
in which it corresponds to the other one. -/
structure Hooks.Alike (c : Likeness P Q) (hooks : Hooks P) (hooks' : Hooks Q) : Prop where
  call : ∀ f this args, Action.Alike c Eq (hooks.call f this args) (hooks'.call f this args)
  resume : ∀ {frame body body'}, c.body frame body body' → ∀ completion,
    Action.Alike c (Resumption.Alike c) (hooks.resume body frame completion)
      (hooks'.resume body' frame completion)
  rounds : hooks.rounds = hooks'.rounds

variable {c : Likeness P Q}

/-! ### Combining actions -/

namespace Action.Alike

variable {α β γ δ : Type} {R : α → β → Prop} {S : γ → δ → Prop}

/-- Answers that correspond, with nothing done before. -/
theorem pure {a : α} {b : β} (h : R a b) :
    Action.Alike c R (pure a : Action P α) (pure b : Action Q β) :=
  fun _ _ hmn => .done h hmn

/-- A fault that is raised on both sides, with the machines as they are. -/
theorem fail (fault : Fault) : Action.Alike c R (Action.fail fault) (Action.fail fault) :=
  fun _ _ hmn => .failed fault hmn

/-- Both sides run out of their allowance, and no machines are left to
compare. -/
theorem exhausted : Action.Alike c R Action.exhausted Action.exhausted :=
  fun _ _ _ => .exhausted

/-- Answers that correspond may be known to correspond more loosely. What is
known of the machines stays. -/
theorem mono {R' : α → β → Prop} (hR : ∀ a b, R a b → R' a b) {x : Action P α} {y : Action Q β}
    (hxy : Action.Alike c R x y) : Action.Alike c R' x y := by
  intro m n hmn
  have hend := hxy m n hmn
  -- Only the two ends matter, and they have one shape.
  generalize x m = first at hend ⊢
  generalize y n = first' at hend ⊢
  cases hend with
  | done hab hmn' => exact .done (hR _ _ hab) hmn'
  | failed fault hmn' => exact .failed fault hmn'
  | exhausted => exact .exhausted

/-- Going on with the same answer. The rest is run on machines that are alike
again. -/
theorem next {x : Action P α} {y : Action Q α} {f : α → Action P γ} {g : α → Action Q δ}
    (hxy : Action.Alike c Eq x y) (hfg : ∀ a, Action.Alike c S (f a) (g a)) :
    Action.Alike c S (x >>= f) (y >>= g) := by
  intro m n hmn
  have hend := hxy m n hmn
  rw [bind_apply, bind_apply]
  generalize x m = first at hend ⊢
  generalize y n = first' at hend ⊢
  cases hend with
  | done hab hmn' =>
      -- The answers are equal, and the rest is alike for each answer.
      cases hab
      exact hfg _ _ _ hmn'
  | failed fault hmn' => exact .failed fault hmn'
  | exhausted => exact .exhausted

/-- A result that was handed over is given back on both sides. -/
theorem ofExcept (result : Except Fault α) :
    Action.Alike c Eq (Action.ofExcept result) (Action.ofExcept result) := by
  cases result with
  | ok a => exact pure rfl
  | error fault => exact fail fault

/-- Reading an object gives objects that are alike. What is done next is done
knowing no more than that, so it holds for all objects that are alike. -/
theorem record (h : Handle) {f : ObjectRecord P → Action P γ} {g : ObjectRecord Q → Action Q δ}
    (hfg : ∀ x y, x.Alike c y → Action.Alike c S (f x) (g y)) :
    Action.Alike c S (Action.record h >>= f) (Action.record h >>= g) :=
  fun _ _ hmn => hfg _ _ (hmn.realm.record h) _ _ hmn

/-- What foreign objects do in answer is alike. Their storages are put back
into the objects, and the memories go beside the realms. -/
theorem askHost (h : Handle) {f : P.Memory → α × P.Host × P.Memory}
    {g : Q.Memory → α × Q.Host × Q.Memory}
    (hfg : ∀ {m n}, c.memory m n → AnswerAlike c.host c.memory (f m) (g n)) :
    Action.Alike c Eq (Action.askHost h f) (Action.askHost h g) := by
  intro m n hmn
  -- The memories correspond, so the foreign objects answer alike.
  have hanswer := hfg hmn.memory
  exact .done hanswer.answer ⟨hmn.realm.setKind h (.foreign hanswer.host), hanswer.memory⟩

end Action.Alike

/-! ### The bond -/

section

open scoped Untraced

/-- Machines that are alike. All changes are allowed, and no handles are
traced. -/
def Bond.alike (c : Likeness P Q) : Bond P Q where
  likeness := c
  licence := (True : Prop)
  traced := False
  machine _ m m' := m.Alike c m'

namespace Bond.alike

variable {α β : Type} {n : Nat} {m : Machine P} {m' : Machine Q}

/-- What is done to both realms keeps them alike. Neither what was checked
before nor what is within reach is needed for this. -/
theorem keeps_change {r r' : Realm P} {s s' : Realm Q} (hrs : r.Alike c s)
    (hchange : (alike c).Change n r s r' s') : r'.Alike c s' := by
  cases hchange with
  | allocate _ hxy _ => exact (hrs.allocate hxy).2
  | symbol description => exact (hrs.newSymbol description).2
  | insert hkey _ _ => exact hrs.insertSlot _ hkey _
  | erase => exact hrs.removeSlot _ _
  | prototype => exact (hrs.setPrototype _ _).2
  | scope => exact hrs.setScope _ _
  | preventExtensions => exact hrs.preventExtensions _
  | cursor => exact hrs.setKind _ (.listIterator _)

/-- Ends that are alike are ends that are bonded. The number in a bond does
not matter here, so the machines stay at the number they were at. -/
theorem ends_of_alike {R : Nat → α → β → Prop} {outcome : Outcome P α} {outcome' : Outcome Q β}
    (h : outcome.Alike c (R n) outcome') : (alike c).Ends R n outcome outcome' := by
  cases h with
  | done hab hmn => exact .done (Nat.le_refl n) hmn hab
  | failed fault hmn => exact .failed (Nat.le_refl n) hmn False.elim
  | exhausted => exact .exhausted

/-- Ends that are bonded are ends that are alike, with answers of which less
may be said. -/
theorem alike_of_ends {R : Nat → α → β → Prop} {S : α → β → Prop} (hRS : ∀ n a b, R n a b → S a b)
    {outcome : Outcome P α} {outcome' : Outcome Q β} (h : (alike c).Ends R n outcome outcome') :
    outcome.Alike c S outcome' := by
  cases h with
  | done _ hmn hab => exact .done (hRS _ _ _ hab) hmn
  | failed _ hmn _ => exact .failed _ hmn
  | exhausted => exact .exhausted

/-- The same answers are the same in the bond, since nothing is traced. -/
theorem ends_of_eq [Refers α] {outcome : Outcome P α} {outcome' : Outcome Q α}
    (h : outcome.Alike c Eq outcome') : (alike c).Ends (alike c).Same n outcome outcome' := by
  refine (ends_of_alike (R := fun _ => Eq) h).mono ?_
  exact fun _ _ _ _ heq => ⟨heq, False.elim⟩

/-- Foreign objects under one handle correspond in machines that are alike.
Both are known to be foreign, and alike kinds are foreign through storages
that correspond. -/
theorem host_alike (hm : m.Alike c m') {h : Handle} {host : P.Host} {host' : Q.Host}
    (hkind : (m.realm.record h).kind = .foreign host)
    (hkind' : (m'.realm.record h).kind = .foreign host') : c.host host host' := by
  have halike := (hm.realm.record h).kind
  rw [hkind, hkind'] at halike
  cases halike with
  | foreign hhost => exact hhost

/-- Machines that are alike stay so under the changes of the walk, and under
what foreign objects do when they are written to. -/
theorem steady (c : Likeness P Q) : (alike c).Steady where
  alike hm := hm.realm
  traces _ := False.elim
  reading _ _ _ := False.elim
  change {n _ _ _ _} hm hchange := ⟨n, Nat.le_refl n, keeps_change hm.realm hchange, hm.memory⟩
  put key hm hkind hkind' _ :=
    ends_of_eq (Action.Alike.askHost _
      (fun hmemory => c.hosts.put (host_alike hm hkind hkind') hmemory key _) _ _ hm)
  delete key hm hkind hkind' :=
    ends_of_eq (Action.Alike.askHost _
      (fun hmemory => c.hosts.delete (host_alike hm hkind hkind') hmemory key) _ _ hm)

/-- Only the keys of an object that is there, and is not foreign, can come in
an order that the realms are set to. A foreign object has one order, and
where there is no object there are no keys. -/
theorem ownKeys_eq {r : Realm P} {s : Realm Q} (hrs : r.Alike c s) {h : Handle}
    (hother : h.index < r.size → (r.record h).kind.host? ≠ none) :
    r.ownKeys h true true = s.ownKeys h true true := by
  obtain ⟨hnone, -⟩ | ⟨host, host', hsome, hsome', hhost⟩ := (hrs.record h).kind.host?
  · have hge : r.size ≤ h.index := Nat.le_of_not_lt fun hlt => hother hlt hnone
    -- A bare object is read there, and its table is empty.
    have hnil : r.ownKeys h true true = [] := by
      rw [Realm.ownKeys, Realm.record_eq_default hge]
      exact (ObjectRecord.orderedKeys_perm default true true _ false).eq_nil
    have hkeys := (hrs.ownKeys h true true).perm
    rw [hnil, List.nil_perm] at hkeys
    rw [hnil, hkeys]
  · simp only [Realm.ownKeys, hsome, hsome', c.hosts.ownKeys hhost]

/-- The bond has all the laws. A level is set by walking over the keys of an
object, and the order of the walk may be different on both sides for an object
that is not foreign. Every slot of it is locked, though, so the table that
comes out is the same. -/
theorem lawful (c : Likeness P Q) : (alike c).Lawful where
  toSteady := steady c
  integrity := by
    intro n m m' hm h level
    have hrecord := hm.realm.record h
    by_cases hnative : h.index < m.realm.size ∧ (m.realm.record h).kind.host? = none
    · -- The order does not show: every slot is locked in its place.
      obtain ⟨hlt, hnone⟩ := hnative
      -- Both sides are native, or neither is.
      have hnone' : (m'.realm.record h).kind.host? = none := by
        obtain ⟨-, hnone'⟩ | ⟨host, host', hsome, -, -⟩ := hrecord.kind.host?
        · exact hnone'
        · rw [hnone] at hsome
          cases hsome
      rw [Integrity.set_eq hlt hnone, Integrity.set_eq (hm.realm.size ▸ hlt) hnone']
      have hlocked :
          ((m.realm.record h).locked level).Alike c ((m'.realm.record h).locked level) := by
        -- Locking keeps all keys and changes equal slots in one way.
        refine ⟨hrecord.kind, ?_, fun key hkey => hrecord.keys key ?_, hrecord.prototype,
          hrecord.scope, rfl⟩
        · simp only [ObjectRecord.locked, hrecord.slots]
        · rw [ObjectRecord.locked, OrderedMap.contains_eq_isSome, OrderedMap.get?_mapValues,
            Option.isSome_map, ← OrderedMap.contains_eq_isSome] at hkey
          exact hkey
      exact ⟨n, Nat.le_refl n, ⟨hm.realm.update h hlocked, hm.memory⟩, rfl, False.elim⟩
    · -- All other keys are walked in one order on both sides.
      refine (steady c).setIntegrity hm h level (ownKeys_eq (hm.realm.preventExtensions h) ?_)
      intro hlt hnone
      rw [Realm.preventExtensions, Realm.size_update] at hlt
      rw [Realm.preventExtensions, Realm.record_update_self hlt] at hnone
      exact hnative ⟨hlt, hnone⟩

/-- Hooks that are alike run code alike, in the sense of the walk. -/
theorem runs {hooks : Hooks P} {hooks' : Hooks Q} (hh : hooks.Alike c hooks') :
    (alike c).Runs hooks hooks' where
  call hm _ _ _ := ends_of_eq (hh.call _ _ _ _ _ hm)
  rounds := hh.rounds

end Bond.alike

/-- The walk over the operations, for hooks that are alike. -/
def Bond.Logic.likeness (c : Likeness P Q) : (Bond.alike c).Logic :=
  simulation (Bond.alike c) (Bond.alike.lawful c) (Hooks.Alike c) Bond.alike.runs

/-- A generator may be replaced by others that are alike, and bodies are
resumed in the frame in which they correspond. The driver hands out a body
with the frame stored beside it, so this is the frame that the hooks get. -/
theorem Bond.Logic.likeness_resumes (c : Likeness P Q) : (likeness c).Resumes := by
  refine simulation_resumes ?_ ?_
  -- Driving sets the kind of one object on both sides.
  · intro n m m' h g g₁ g' g₁' hm _ _ hg₁
    exact ⟨n, Nat.le_refl n, hm.realm.setKind h (.generator hg₁.1), hm.memory⟩
  · intro n m m' hooks hooks' frame body body' completion hh hm hbody _ _ _
    refine (alike.ends_of_alike (R := fun _ => Resumption.Alike c)
      (hh.resume hbody completion m m' hm)).mono ?_
    exact fun _ _ _ _ halike => ⟨halike, False.elim⟩

/-- What the walk relates is alike. The answers are related as the walk has
it, of which `S` may say less. -/
theorem Bond.Logic.Relates.alike {α β : Type} {R : Nat → α → β → Prop} {S : α → β → Prop}
    {returns : Fault → Machine P → Outcome P α → Prop} {x : Hooks P → Action P α}
    {y : Hooks Q → Action Q β} (h : (likeness c).Relates R 0 returns x y)
    (hRS : ∀ n a b, R n a b → S a b) {hooks : Hooks P} {hooks' : Hooks Q}
    (hh : hooks.Alike c hooks') : Action.Alike c S (x hooks) (y hooks') :=
  fun _ _ hm => Bond.alike.alike_of_ends hRS (h (Nat.le_refl 0) hm hooks hooks' hh)

/-- A level is set with the same answer, even where the keys are walked in
different orders, and leaves realms that are alike. -/
theorem Machine.Alike.setIntegrity {m : Machine P} {m' : Machine Q} (hm : m.Alike c m')
    (h : Handle) (level : Integrity) :
    (level.set m.realm h).1 = (level.set m'.realm h).1 ∧
      (level.set m.realm h).2.Alike c (level.set m'.realm h).2 := by
  -- The number that a bond carries does not matter for this one.
  have hbond : (Bond.alike c).machine 0 m m' := hm
  obtain ⟨_, -, hset, hanswer, -⟩ := (Bond.alike.lawful c).integrity hbond h level
  exact ⟨hanswer, hset.realm⟩

/-! ### Every operation -/

variable {hooks : Hooks P} {hooks' : Hooks Q}

/-- The functions of a new realm are alike. They write under no keys that they
were given, so nothing is asked of keys. -/
theorem IntrinsicFunction.run_alike (hh : hooks.Alike c hooks') (f : IntrinsicFunction)
    (this : Value) (args : List Value) :
    Action.Alike c Eq (f.run hooks this args) (f.run hooks' this args) :=
  (run_resumed (Bond.Logic.likeness_resumes c) f False.elim False.elim
    fun _ _ _ => trivial).alike (fun _ _ _ hsame => hsame.1) hh

/-- A request and its translation are performed alike. The keys that the
request writes under are to be such as tables may have. -/
theorem Request.translate_alike {t : Translation P Q} (ht : t.Respects c)
    (hh : hooks.Alike c hooks') (request : Request P) (hkeys : request.KeysIn c.key) :
    Action.Alike c (request.Replies c t) (request.perform hooks)
      ((request.translate t).perform hooks') := by
  have hperform := perform_resumed (n := 0) (Bond.Logic.likeness_resumes c) ht request hkeys
    False.elim fun _ => trivial
  exact hperform.alike (fun _ _ _ hreplies => hreplies.1) hh

end

end ScriptRealm
