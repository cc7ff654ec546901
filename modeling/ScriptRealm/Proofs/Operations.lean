import ScriptRealm.Proofs.Agreement
import ScriptRealm.Proofs.Bond.Generators

/-!
# `ScriptRealm.Proofs.Operations`: every operation keeps to the changes

For an invariant `I` that the changes of `Realm.Change` keep, every
operation of the library keeps `I` as far as the code it runs does, and it
runs code in realms of `I` only. `Request.perform_agree` states both at
once for all requests: under two hooks that agree in the realms of `I`, an
operation comes to the same end, in a realm of `I`.

This is read off the walk over the operations, for a bond between a machine
and itself (`Bond.agreeing`). Nothing is traced, and all that is asked of
the machine is that its realm is in `I`. `Bond.Logic.Relates.agree` turns
what the walk says into agreement.

Resuming a generator is left as a hypothesis: it is the one operation that
changes generators, and what invariants it keeps is a matter of its own.
-/

set_option autoImplicit false

namespace ScriptRealm

variable {P : Platform} {licence : Realm.Licence} {I : Realm P → Prop}

/-! ### Functions on realms -/

namespace Realm.Stable

/-- A new object may be put into a realm of `I`. Its kind has to be one that
an object can be made with: of generators, only those that have not been
entered. -/
theorem allocate (hI : Stable licence I) {r : Realm P} (hr : I r) {record : ObjectRecord P}
    (h : record.kind.IsNew) : I (r.allocate record).2 :=
  hI _ _ (.allocate r record h) hr

end Realm.Stable

/-! ### The bond -/

section Agreeing

open scoped Untraced

/-- A machine and itself, in a realm of `I`. Nothing is traced: that the two
sides are one machine is all that has to be said about what values refer
to. -/
def Bond.agreeing (licence : Realm.Licence) (I : Realm P → Prop) : Bond P P where
  likeness := .equal P
  licence := licence
  traced := False
  machine _ m m' := m = m' ∧ I m.realm

namespace Bond.agreeing

/-- Changes that are made to a machine and to itself are the same, and they
are such as `Realm.Change` lists. The cases are those of the walk; where it
allows a change to a locked object, the licence allows it here as well. -/
theorem keeps_change (hI : Realm.Stable licence I) {n : Nat} {r r' s' : Realm P} (hr : I r)
    (hchange : (agreeing licence I).Change n r r r' s') : r' = s' ∧ I r' := by
  cases hchange with
  | allocate hnew hxy => exact ⟨by rw [hxy.eq], hI _ _ (.allocate r _ hnew) hr⟩
  | symbol description => exact ⟨rfl, hI _ _ (.symbol r description) hr⟩
  | insert _ _ hadmits =>
      -- A write goes past the lock of its object only under a licence for raw changes.
      rcases hadmits with hraw | hadmits
      · exact ⟨rfl, hI _ _ (.rawInsert r _ _ _ hraw) hr⟩
      · exact ⟨rfl, hI _ _ (.insert r _ _ _ hadmits) hr⟩
  | erase _ hopen =>
      rcases hopen with hraw | hopen
      · exact ⟨rfl, hI _ _ (.rawErase r _ _ hraw) hr⟩
      · exact ⟨rfl, hI _ _ (.erase r _ _ hopen) hr⟩
  | prototype => exact ⟨rfl, hI _ _ (.prototype r _ _) hr⟩
  | scope => exact ⟨rfl, hI _ _ (.scope r _ _) hr⟩
  | preventExtensions => exact ⟨rfl, hI _ _ (.preventExtensions r _) hr⟩
  | cursor _ hkind _ hmoves => exact ⟨rfl, hI _ _ (.cursor r _ _ _ hkind hmoves) hr⟩

/-- A foreign object keeps its new storage. The two storages are those of one
object, so they are one, and `Step` is what `I` knows of how storage can
change. -/
theorem askHost {α : Type} [Refers α] (hI : Realm.Stable licence I) {n : Nat} {m : Machine P}
    (hm : I m.realm) {h : Handle} {host host' : P.Host}
    (hkind : (m.realm.record h).kind = .foreign host)
    (hkind' : (m.realm.record h).kind = .foreign host')
    {f : P.Host → P.Memory → α × P.Host × P.Memory}
    (hstep : P.hosts.Step host (f host m.memory).2.1) :
    (agreeing licence I).Ends (agreeing licence I).Same n (Action.askHost h (f host) m)
      (Action.askHost h (f host') m) := by
  have heq : host' = host := by
    rw [hkind] at hkind'
    exact (Kind.foreign.inj hkind').symm
  rw [heq]
  exact .done (Nat.le_refl n) ⟨rfl, hI _ _ (.host m.realm h host _ hkind hstep) hm⟩
    ⟨rfl, False.elim⟩

/-- Realms of `I` are kept by the single changes of the walk. What the walk
asks about references is void here, since nothing is traced. -/
theorem steady (hI : Realm.Stable licence I) : (agreeing licence I).Steady where
  alike := by
    rintro n m _ ⟨rfl, -⟩
    exact .refl m.realm
  traces _ := False.elim
  reading _ _ _ := False.elim
  change := by
    rintro n m _ r s ⟨rfl, hm⟩ hchange
    obtain ⟨rfl, hr⟩ := keeps_change hI hm hchange
    exact ⟨n, Nat.le_refl n, rfl, hr⟩
  put := by
    rintro n m _ h host host' value key ⟨rfl, hm⟩ hkind hkind' -
    exact askHost (f := fun host => P.hosts.put host key value) hI hm hkind hkind'
      (.put host key value m.memory)
  delete := by
    rintro n m _ h host host' key ⟨rfl, hm⟩ hkind hkind'
    exact askHost (f := fun host => P.hosts.delete host key) hI hm hkind hkind'
      (.delete host key m.memory)

/-- The bond has the laws that the walk needs. Locking the keys of an object
is made of single changes, so it needs no argument of its own. -/
theorem lawful (hI : Realm.Stable licence I) : (agreeing licence I).Lawful where
  toSteady := steady hI
  integrity := by
    rintro n m _ ⟨rfl, hm⟩ h level
    exact (steady hI).setIntegrity ⟨rfl, hm⟩ h level rfl

/-- Ends that are bonded are one end, in a realm of `I`. The number of objects
that the bond goes by does not come up, so the statement holds for every
`n`. -/
theorem agreeAt_iff_ends {α : Type} [Refers α] {n : Nat} {m : Machine P} {x y : Action P α} :
    Action.AgreeAt m x y (fun _ m' => I m'.realm) (fun _ m' => I m'.realm) ↔
      (agreeing licence I).Ends (agreeing licence I).Same n (x m) (y m) := by
  constructor
  · rintro ⟨hsame, hmeets⟩
    rw [← hsame]
    -- The two ends are one, so both are known from the one that is met.
    generalize x m = outcome at hmeets
    cases outcome with
    | done a k => exact .done (Nat.le_refl n) ⟨rfl, hmeets⟩ ⟨rfl, False.elim⟩
    | failed fault k => exact .failed (Nat.le_refl n) ⟨rfl, hmeets⟩ False.elim
    | exhausted => exact .exhausted
  · intro hends
    generalize hx : x m = outcome at hends
    generalize hy : y m = outcome' at hends
    cases hends with
    | done _ hk hab =>
        obtain ⟨rfl, hk⟩ := hk
        obtain ⟨rfl, -⟩ := hab
        exact ⟨hx.trans hy.symm, by rw [hx]; exact hk⟩
    | failed _ hk _ =>
        obtain ⟨rfl, hk⟩ := hk
        exact ⟨hx.trans hy.symm, by rw [hx]; exact hk⟩
    | exhausted => exact ⟨hx.trans hy.symm, by rw [hx]; trivial⟩

/-- Hooks that agree in the realms of `I` run bonded code, in the sense of the
walk. -/
theorem runs {hooks hooks' : Hooks P} (hh : hooks.Agree I hooks') :
    (agreeing licence I).Runs hooks hooks' where
  call := by
    rintro n m _ f this args ⟨rfl, hm⟩ - - -
    exact agreeAt_iff_ends.mp (hh.call f this args m hm)
  rounds := hh.rounds

end Bond.agreeing

/-- The walk over the operations, for hooks that agree in the realms of
`I`. -/
def Bond.Logic.agreement (hI : Realm.Stable licence I) : (agreeing licence I).Logic :=
  simulation _ (agreeing.lawful hI) (Hooks.Agree I) agreeing.runs

/-- An action that takes no hooks keeps `I` if the walk carries it from a
machine to itself. -/
theorem Bond.Carries.keeps {α : Type} [Refers α] {x : Action P α}
    (h : (agreeing licence I).Carries (agreeing licence I).Same 0 x x) : Action.Keeps I x :=
  fun _ hm => agreeing.agreeAt_iff_ends.mpr (h (Nat.le_refl 0) ⟨rfl, hm⟩)

/-- What the walk relates, agrees: an operation that is taken with each of two
hooks comes to the same end in a realm of `I`. Every lemma of this module is
this one, applied to what the walk says of an operation. -/
theorem Bond.Logic.Relates.agree {α : Type} [Refers α] {hI : Realm.Stable licence I}
    {returns : Fault → Machine P → Outcome P α → Prop} {x y : Hooks P → Action P α}
    (h : (agreement hI).Relates (agreeing licence I).Same 0 returns x y) {hooks hooks' : Hooks P}
    (hh : hooks.Agree I hooks') : Action.Agree I (x hooks) (y hooks') :=
  fun _ hm => agreeing.agreeAt_iff_ends.mpr (h (Nat.le_refl 0) ⟨rfl, hm⟩ hooks hooks' hh)

/-! ### Operations -/

open ScriptRealm.Action (Agree Keeps)

variable {hooks hooks' : Hooks P} (hI : Realm.Stable licence I)
include hI

/-- Reading a property runs code, a getter, in a realm of `I` only. -/
theorem Object.get_agree (hh : hooks.Agree I hooks') (h : Handle) (key : PropertyKey) :
    Agree I (get hooks h key) (get hooks' h key) :=
  (get_related (.agreement hI) False.elim key).agree hh

/-- Looking up a method is reading a property and a test of what was read. -/
theorem Object.getMethod?_agree (hh : hooks.Agree I hooks') (value : Value) (key : PropertyKey) :
    Agree I (getMethod? hooks value key) (getMethod? hooks' value key) :=
  (getMethod?_related (.agreement hI) False.elim key).agree hh

/-- A fault that becomes a value is an error object at most, and it is a new
one. -/
theorem Object.faultToValue_keeps (fault : Fault) :
    Keeps I (faultToValue fault : Action P Value) :=
  Bond.Carries.keeps (faultToValue_carried (Bond.agreeing.lawful hI) False.elim)

/-- The length of an array-like is read as a property, so a getter may run. -/
theorem ArrayLike.length_agree (hh : hooks.Agree I hooks') (h : Handle) :
    Agree I (length hooks h) (length hooks' h) :=
  (length_related (.agreement hI) False.elim).agree hh

/-- The answer of an iterator is a new object with two properties of its
own. -/
theorem IterResult.toObject_keeps (result : IterResult) :
    Keeps I (result.toObject : Action P Value) :=
  Bond.Carries.keeps (toObject_carried (Bond.agreeing.lawful hI) False.elim)

/-- Asking for an iterator runs the method that gives it and reads its
`next`. -/
theorem Iteration.iterator_agree (hh : hooks.Agree I hooks') (iterable : Value) :
    Agree I (iterator hooks iterable) (iterator hooks' iterable) :=
  (iterator_related (.agreement hI) False.elim).agree hh

/-- Closing an iterator runs its `return`, whatever the completion it is
closed with. -/
theorem Iteration.close_agree (hh : hooks.Agree I hooks') (record : IteratorRecord)
    (completion : Except Fault Value) :
    Agree I (close hooks record completion) (close hooks' record completion) :=
  (close_related (.agreement hI) False.elim False.elim).agree hh

/-- Taking an iterator's answer apart reads two properties of what may be any
object. -/
theorem Generator.unpack_agree (hh : hooks.Agree I hooks') (answer : Value) :
    Agree I (unpack hooks answer) (unpack hooks' answer) :=
  (unpack_related (L := .agreement hI) False.elim).agree hh

/-- Moving the cursor of a list iterator is a change by itself, and the
licence says which objects may have their cursors moved. -/
theorem ListIterator.moveCursor_keeps {h : Handle} (hmoves : licence.moves h) (finished : Bool) :
    Keeps I (moveCursor h finished : Action P Unit) :=
  Bond.Carries.keeps (moveCursor_carried (Bond.agreeing.lawful hI) hmoves finished)

/-! ### Requests -/

/-- Under two hooks that agree in the realms of `I`, a request comes to the
same end, in a realm of `I`. The hypothesis `hraw` says which changes `I`
must put up with, and `hresume` leaves the resumption of a generator
open. -/
theorem Request.perform_agree (hh : hooks.Agree I hooks') (request : Request P)
    (hraw : request.isRaw = true → licence.raw)
    (hresume : ∀ h completion, request.resumed? = some h →
      Agree I (Generator.resume hooks h completion) (Generator.resume hooks' h completion)) :
    Agree I (request.perform hooks) (request.perform hooks') := by
  -- The walk has every request but the resumption of a generator.
  cases hresumed : request.resumed? with
  | none =>
      have hperform := perform_related (n := 0) (.agreement hI) Translation.id_respects request
        (keysIn_of_forall (fun _ => trivial) request) False.elim hraw hresumed
      exact (perform_same rfl request hperform).agree hh
  | some h =>
      obtain ⟨completion, rfl⟩ := exists_of_resumed? hresumed
      exact hresume h completion rfl

/-- The functions that resume their receiver do so in a realm of `I` if
resuming does. They are taken apart by hand, since the walk stops at
resumptions. -/
theorem Generator.resumeReceiver_agree {method : Method}
    {completion : Value → Completion} {this : Value} {args : List Value}
    (hresume : ∀ h completion, this = .object h →
      Agree I (Generator.resume hooks h completion) (Generator.resume hooks' h completion)) :
    Agree I (resumeReceiver hooks method completion this args)
      (resumeReceiver hooks' method completion this args) := by
  unfold resumeReceiver
  split
  · exact .bind (hresume _ _ rfl) fun result => result.toObject_keeps hI
  · exact .fail _

/-- The functions of a new realm agree in the same way. Two of the changes
they can make are left to hypotheses: `hmoves` says whose cursor may be moved,
and `hresume` leaves the resumption of a generator open, as for requests. -/
theorem IntrinsicFunction.run_agree (hh : hooks.Agree I hooks') (f : IntrinsicFunction)
    (this : Value) (args : List Value)
    (hmoves : ∀ h, f = .listIteratorNext → this = .object h → licence.moves h)
    (hresume : ∀ h completion, f.resumed? this = some h →
      Agree I (Generator.resume hooks h completion) (Generator.resume hooks' h completion)) :
    Agree I (f.run hooks this args) (f.run hooks' this args) := by
  cases hresumed : f.resumed? this with
  | none => exact (run_related (.agreement hI) f False.elim hmoves hresumed).agree hh
  | some h =>
      -- Of all the functions, three resume, and they differ in the completion only.
      cases f with
      | generatorNext | generatorReturn | generatorThrow =>
          refine Generator.resumeReceiver_agree hI fun h' completion hthis => ?_
          subst hthis
          exact hresume h' completion rfl
      | _ => cases hresumed

end Agreeing

end ScriptRealm
