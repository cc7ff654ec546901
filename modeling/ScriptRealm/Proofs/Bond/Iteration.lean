import ScriptRealm.Grouping
import ScriptRealm.Proofs.Bond.Objects

/-!
# `ScriptRealm.Proofs.Bond.Iteration`: iteration and grouping, side by side

The walk over the operations goes on with those that use iterators. They are
the ones that attempt a part of themselves, so here it matters what becomes
of a fatal fault. A step gives the fault out as a value (`StepReturns`), and
so do the loops that collect values. Closing an iterator and grouping fail
with it: a fatal fault outlasts every other one, and once there is one,
nothing is closed any more (`close_of_fatal`).

A list iterator is the one object whose inner state an operation moves. The
bond's licence says which may be moved, and `ListIterator.next_related` asks
for the one that it moves.
-/

set_option autoImplicit false

namespace ScriptRealm

open Refers (Below)
open Bond (Logic Carries)
open Bond.Logic (Relates Relays)

variable {P Q : Platform} [P.Told] {B : Bond P Q} {n : Nat} {m : Machine P} {m' : Machine Q}

/-! ### Iterators -/

/-- The answer of an iterator is made an object, which is new on both
sides. -/
theorem IterResult.toObject_carried (hB : B.Lawful) {result : IterResult}
    (hresult : B.Within n result) :
    B.Carries B.Same n (result.toObject : Action P Value) result.toObject := by
  intro n' m m' hle hm
  refine .map (.modifyGet (hB.createIterResult hm (fun ht => ?_) _)) fun _ _ hh => hh
  exact Below.mono (hresult ht) hle

namespace Iteration

section

variable {P : Platform} {α : Type}

/-- A step gives out a fault as a value, beside the record. -/
def StepReturns (fault : Fault) (k : Machine P)
    (outcome : Outcome P (Except Fault α × IteratorRecord)) : Prop :=
  ∃ record, outcome = .done (.error fault, record) k

end

variable (L : B.Logic) {record : IteratorRecord}

/-- An iterator is asked for by calling a method, and its `next` is read once,
when it is there. Both parts of the record are within reach from then on. -/
theorem iterator_related {iterable : Value} (hiterable : B.Within n iterable) :
    L.Relays n (fun hooks => iterator hooks iterable) (fun hooks => iterator hooks iterable) := by
  refine Relays.bind (Object.getMethod?_related L hiterable _) fun method n₁ hle₁ hmethod => ?_
  cases method with
  | none => exact .fail fun _ => trivial
  | some method =>
      refine Relays.bind (.call hmethod (hiterable.mono hle₁) fun _ => Refers.below_nil) ?_
      intro answer n₂ _ hanswer
      cases answer with
      | object h =>
          refine Relays.bind (Object.get_related L hanswer _) fun next n₃ hle₃ hnext => ?_
          exact .pure fun ht => ⟨Below.mono (hanswer ht) hle₃, hnext ht⟩
      | _ => exact .fail fun _ => trivial

/-- What an iterator answers with has to be an object. -/
theorem resultObject_carried {answer : Value} (hanswer : B.Within n answer) :
    B.Carries B.Same n (resultObject answer : Action P Handle) (resultObject answer) := by
  intro n' m m' hle hm
  cases answer with
  | object h => exact .pure hm ⟨rfl, fun ht => Below.mono (hanswer ht) hle⟩
  | _ => exact .fail hm fun _ => trivial

/-- One call of `next`, on the iterator itself, with the value that is passed
in if there is one. -/
theorem next_related (hrecord : B.Within n record) {value : Option Value}
    (hvalue : B.Within n value) :
    L.Relays n (fun hooks => next hooks record value) (fun hooks => next hooks record value) := by
  refine Relays.bind (.call ?_ ?_ ?_) fun answer _ _ hanswer =>
    .const (resultObject_carried hanswer)
  · exact fun ht => (hrecord ht).2
  · exact fun ht => (hrecord ht).1
  · exact fun ht => (hvalue ht).toList

/-- Whether an answer is the last is read off it, as a property. -/
theorem isDone_related {result : Handle} (hresult : B.Within n result) :
    L.Relays n (fun hooks => isDone hooks result) (fun hooks => isDone hooks result) :=
  Relays.bind (Object.get_related L hresult _) fun _ _ _ _ => .pure fun _ => trivial

/-- The value of an answer is read off it, as a property. -/
theorem resultValue_related {result : Handle} (hresult : B.Within n result) :
    L.Relays n (fun hooks => resultValue hooks result) (fun hooks => resultValue hooks result) :=
  Object.get_related L hresult _

/-- One call of `next`, whose answer is given back unless it is the last. The
answer has to be an object, and is asked for `done`. -/
theorem nextUnlessDone_related (hrecord : B.Within n record) :
    L.Relays n (fun hooks => nextUnlessDone hooks record)
      (fun hooks => nextUnlessDone hooks record) := by
  have hnone : B.Within n (none : Option Value) := fun _ => trivial
  refine Relays.bind (next_related L hrecord hnone) ?_
  intro result n₁ _ hresult
  refine Relays.bind (isDone_related L hresult) fun done n₂ hle₂ _ => .pure fun ht => ?_
  split
  · trivial
  · exact Below.mono (hresult ht) hle₂

/-- One call of `next`, with the value of the answer unless it is the last. -/
theorem nextValue_related (hrecord : B.Within n record) :
    L.Relays n (fun hooks => nextValue hooks record) (fun hooks => nextValue hooks record) := by
  refine Relays.bind (nextUnlessDone_related L hrecord) fun result n₁ _ hresult => ?_
  cases result with
  | none => exact .pure fun _ => trivial
  | some result => exact Relays.map (f := some) (resultValue_related L hresult) fun _ _ hv => hv

/-! ### Steps -/

/-- A fault of the iterator becomes part of the answer, a fatal one, too. So
this is the first operation that does not fail with a fatal fault but returns
it; nothing is run after it. -/
theorem stepWith_related {α : Type} [Refers α]
    {advance : Hooks P → IteratorRecord → Action P (Option α)}
    {advance' : Hooks Q → IteratorRecord → Action Q (Option α)}
    (hadvance : L.Relays n (fun hooks => advance hooks record) fun hooks => advance' hooks record)
    (hrecord : B.Within n record) :
    L.Relates B.Same n StepReturns (fun hooks => stepWith (advance hooks) record)
      (fun hooks => stepWith (advance' hooks) record) := by
  refine Relates.attempt_bind hadvance (fun result n' hle hresult => ?_) fun fault k _ => ?_
  · refine .const fun hle' hm => ?_
    have hrecord : B.Within _ record := hrecord.mono (Nat.le_trans hle hle')
    have hresult : B.Within _ result := hresult.mono hle'
    -- The record is marked as done in one of the two, which refers to nothing new.
    split
    · exact .pure hm ⟨rfl, fun ht => ⟨hresult ht, hrecord ht⟩⟩
    · exact .pure hm ⟨rfl, fun ht => ⟨hresult ht, hrecord ht⟩⟩
  · exact ⟨_, ⟨_, rfl⟩, fun _ => rfl⟩

/-- A step that gives out the answer of the iterator. -/
theorem step_related (hrecord : B.Within n record) :
    L.Relates B.Same n StepReturns (fun hooks => step hooks record)
      (fun hooks => step hooks record) :=
  stepWith_related L (nextUnlessDone_related L hrecord) hrecord

/-- A step that gives out the value of that answer. -/
theorem stepValue_related (hrecord : B.Within n record) :
    L.Relates B.Same n StepReturns (fun hooks => stepValue hooks record)
      (fun hooks => stepValue hooks record) :=
  stepWith_related L (nextValue_related L hrecord) hrecord

/-- By induction on the rounds: a fault of one step ends the loop, and what
was collected before is dropped on the way out. A fatal fault is such a fault,
so it is returned by the rest of the loop as it was by the step. -/
theorem collect_related (rounds : Nat) : ∀ {n : Nat} {record : IteratorRecord},
    B.Within n record → L.Relates B.Same n StepReturns (fun hooks => collect hooks rounds record)
      (fun hooks => collect hooks rounds record) := by
  induction rounds with
  | zero => exact fun _ => .exhausted
  | succ rounds ih =>
      intro n record hrecord
      refine .bind_of (stepValue_related L hrecord) (fun step n₁ _ hstep => ?_) ?_
      · obtain ⟨result, record'⟩ := step
        rcases result with fault | _ | value
        · exact .pure hstep
        · exact .pure fun ht => ⟨Refers.below_nil, (hstep ht).2⟩
        · refine .bind_of (ih fun ht => (hstep ht).2) (fun rest n₂ hle hrest => ?_) ?_
          · obtain ⟨values, record''⟩ := rest
            refine .pure fun ht => ⟨?_, (hrest ht).2⟩
            -- If the rest has failed, the value is dropped and the fault is all there is.
            cases values with
            | ok values => exact Below.cons (Below.mono (hstep ht).1 hle) (hrest ht).1
            | error fault => exact (hrest ht).1
          · rintro fault k _ _ ⟨record'', rfl⟩
            exact ⟨_, ⟨record'', rfl⟩, fun _ => rfl⟩
      -- The step has given out the fault as a value, and the loop gives it out again.
      · rintro fault k _ _ ⟨record', rfl⟩
        exact ⟨_, ⟨record', rfl⟩, fun _ => rfl⟩

/-- The loop runs for as many rounds as the hooks allow. -/
theorem toList_related (hrecord : B.Within n record) :
    L.Relates B.Same n StepReturns (fun hooks => toList hooks record)
      (fun hooks => toList hooks record) :=
  .rounds (fun rounds hooks => collect hooks rounds record)
    (fun rounds hooks => collect hooks rounds record) fun rounds => collect_related L rounds hrecord

/-! ### Closing -/

/-- An iterator is closed by calling its `return`, if it has one. What it
answers is given back for the caller to check. -/
theorem callReturn_related {iterator : Handle} (hiterator : B.Within n iterator) :
    L.Relays n (fun hooks => callReturn hooks iterator)
      (fun hooks => callReturn hooks iterator) := by
  have hvalue : B.Within n (Value.object iterator) := hiterator
  refine Relays.bind (Object.getMethod?_related L hvalue _) fun method n₁ hle₁ hmethod => ?_
  cases method with
  | none => exact .pure fun _ => trivial
  | some method =>
      refine Relays.map (f := some) (.call hmethod (hvalue.mono hle₁) ?_) fun _ _ hv => hv
      exact fun _ => Refers.below_nil

/-- A failure of the user outlasts everything that closing does, but not a
fatal fault. The cases are the completions: after a value, closing may fail by
itself; after a fault, that fault is what is failed with, unless closing has
met a fatal one. -/
theorem close_related (hrecord : B.Within n record) {completion : Except Fault Value}
    (hcompletion : B.Within n completion) :
    L.Relays n (fun hooks => close hooks record completion)
      (fun hooks => close hooks record completion) := by
  have hiterator : B.Within n record.iterator := fun ht => (hrecord ht).1
  cases completion with
  | ok value =>
      refine Relays.bind (callReturn_related L hiterator) fun answer n₁ hle₁ _ => ?_
      refine .const fun hle₂ hm => ?_
      have hvalue : B.Within n value := hcompletion
      have hvalue := hvalue.mono (Nat.le_trans hle₁ hle₂)
      split
      · exact .pure hm ⟨rfl, hvalue⟩
      · exact .pure hm ⟨rfl, hvalue⟩
      · exact .fail hm fun _ => trivial
  | error original =>
      have horiginal : B.Within n original := hcompletion
      unfold close
      dsimp only
      -- After a fatal fault nothing is run any more, so nothing is closed.
      cases hfatal : original.isFatal with
      | true => exact .fail horiginal
      | false =>
          refine Relates.attempt_bind (callReturn_related L hiterator)
            (fun result n₁ hle₁ hresult => ?_) fun inner k hinner => ?_
          · have horiginal := horiginal.mono hle₁
            cases result with
            | error inner =>
                have hinner : B.Within n₁ inner := hresult
                refine .fail fun ht => ?_
                split
                · exact hinner ht
                · exact horiginal ht
            | ok value => exact .fail horiginal
          · refine ⟨_, rfl, fun _ => ?_⟩
            show Action.fail (if inner.isFatal then inner else original) k = _
            rw [if_pos hinner]
            rfl

/-- A fatal failure of the user does not even close. The hooks do not come up
in what is left, which is what `Concludes` asks for. -/
theorem close_of_fatal {P : Platform} (hooks : Hooks P) (record : IteratorRecord) {fault : Fault}
    (hfault : fault.isFatal = true) :
    close hooks record (.error fault) = Action.fail fault := by
  simp only [close, hfault, if_true]

end Iteration

/-! ### List iterators -/

namespace ListIterator

/-- The cursor moves on both sides, or there is none to move. Whether there is
one is a matter of the kind of the object, which is the same on both sides. -/
theorem moveCursor_carried (hB : B.Lawful) {h : Handle} (hmoves : B.licence.moves h)
    (finished : Bool) :
    B.Carries B.Same n (moveCursor h finished : Action P Unit) (moveCursor h finished) := by
  intro n' m m' _ hm
  refine .modify ?_
  have hkind := ((hB.alike hm).record h).kind
  generalize hx : (m.realm.record h).kind = kind at hkind
  generalize hy : (m'.realm.record h).kind = kind' at hkind
  cases hkind with
  | listIterator c =>
      obtain ⟨n', hle, hm'⟩ := hB.change hm (.cursor finished hx hy hmoves)
      refine ⟨n', hle, ?_⟩
      rw [Realm.update_congr (r := m.realm) (g := fun record =>
          { record with kind := .listIterator (advance finished c) }) (by simp only [hx]),
        Realm.update_congr (r := m'.realm) (g := fun record =>
          { record with kind := .listIterator (advance finished c) }) (by simp only [hy])]
      exact hm'
  -- All other kinds are left as they are.
  | _ =>
      rw [Realm.update_eq_self (by simp only [hx]), Realm.update_eq_self (by simp only [hy])]
      exact ⟨_, Nat.le_refl _, hm⟩

/-- The target is read off the iterator once, and is used again for the
element. The cursor is moved in between, after the length was read and before
the element is. -/
theorem next_related (L : B.Logic) {this : Value} (hthis : B.Within n this)
    (hmoves : ∀ h, this = .object h → B.licence.moves h) :
    L.Relays n (fun hooks => next hooks this) (fun hooks => next hooks this) := by
  cases this with
  | object h =>
      intro n' m m' hle hm
      refine Logic.record_bind ?_
      have hB := L.lawful
      have hkind := ((hB.alike hm).record h).kind
      have hwithin : B.Within n' (m.realm.record h).kind :=
        fun ht => ((hB.traces hm ht).objects h).kind
      generalize (m.realm.record h).kind = kind at hkind hwithin
      generalize (m'.realm.record h).kind = kind' at hkind
      cases hkind with
      | listIterator c =>
          have htarget : B.Within n' c.target := hwithin
          dsimp only
          cases c.done with
          | true => exact L.const (.pure hm ⟨rfl, fun _ => trivial⟩)
          | false =>
              refine Relays.bind (ArrayLike.length_related L htarget)
                (fun length n₁ hle₁ _ => ?_) (Nat.le_refl n') hm
              refine .step (moveCursor_carried hB (hmoves h rfl) _) fun _ n₂ hle₂ _ => ?_
              by_cases hfinished : length ≤ c.next
              · simp only [hfinished]
                exact .pure fun _ => trivial
              · simp only [hfinished]
                have htarget := htarget.mono (Nat.le_trans hle₁ hle₂)
                exact Relays.bind (Object.get_related L htarget _) fun _ _ _ helement =>
                  .pure helement
      | _ => exact L.const (.fail hm fun _ => trivial)
  | _ => exact .fail fun _ => trivial

/-- A list iterator over the receiver, which has to be an object. Anything
else is a fault on both sides. -/
theorem ofReceiver_carried (hB : B.Lawful) {this : Value} (hthis : B.Within n this) :
    B.Carries B.Same n (ofReceiver this : Action P Value) (ofReceiver this) := by
  intro n' m m' hle hm
  cases this with
  | object target =>
      have htarget : B.Within n target := hthis
      exact .map (.modifyGet (hB.createListIterator hm (htarget.mono hle))) fun _ _ hh => hh
  | _ => exact .fail hm fun _ => trivial

end ListIterator

/-! ### Grouping -/

namespace Grouping

variable (L : B.Logic)

/-- The iterator is closed with a fault, and there is nothing to give back
after that. -/
theorem closeWith_related {record : IteratorRecord} (hrecord : B.Within n record) {fault : Fault}
    (hfault : B.Within n fault) :
    L.Relays n (fun hooks => closeWith hooks record fault)
      (fun hooks => closeWith hooks record fault) := by
  have hcompletion : B.Within n (Except.error fault : Except Fault Value) := hfault
  exact Relays.bind (Iteration.close_related L hrecord hcompletion)
    fun _ _ _ _ => .pure fun _ => Refers.below_nil

/-- By induction on the rounds. A fault of the iterator is passed on as it is.
A fault of the callback closes the iterator, unless it is fatal. The items and
their keys stay within reach while the rest is gone through. -/
theorem keyFrom_related (coercion : KeyCoercion) (limit rounds : Nat) :
    ∀ {n : Nat} {callback : Value} {record : IteratorRecord} (index : Nat),
      B.Within n callback → B.Within n record →
      L.Relays n (fun hooks => keyFrom hooks callback coercion limit rounds record index)
        (fun hooks => keyFrom hooks callback coercion limit rounds record index) := by
  induction rounds with
  | zero => exact fun _ _ _ => .exhausted
  | succ rounds ih =>
      intro n callback record index hcallback hrecord
      refine .bind_of (Iteration.stepValue_related L hrecord) (fun step n₁ hle₁ hstep => ?_) ?_
      · obtain ⟨result, record'⟩ := step
        have hrecord' : B.Within n₁ record' := fun ht => (hstep ht).2
        have hcallback₁ := hcallback.mono hle₁
        rcases result with fault | _ | item
        · exact .fail fun ht => (hstep ht).1
        · exact .pure fun _ => Refers.below_nil
        · have hitem : B.Within n₁ item := fun ht => (hstep ht).1
          -- An item too many and a failed callback both close the iterator.
          by_cases hlimit : limit < index
          · simp only [hlimit, if_true]
            exact closeWith_related L hrecord' fun _ => trivial
          · simp only [hlimit, if_false]
            have hargs : B.Within n₁ [item, .number (.ofNat index)] := fun ht =>
              (hitem ht).cons (Below.singleton trivial)
            refine Relates.attempt_bind (.call hcallback₁ (fun _ => trivial) hargs)
              (fun answer n₂ hle₂ hanswer => ?_) fun fault k hfault => ?_
            · cases answer with
              | error fault => exact closeWith_related L (hrecord'.mono hle₂) hanswer
              | ok answer =>
                  refine Relays.bind (ih (index + 1) (hcallback₁.mono hle₂) (hrecord'.mono hle₂)) ?_
                  intro rest n₃ hle₃ hrest
                  refine .pure fun ht => Below.cons ⟨?_, ?_⟩ (hrest ht)
                  · exact GroupKey.below_ofValue coercion (Below.mono (hanswer ht) hle₃)
                  · exact (hitem ht).mono (Nat.le_trans hle₂ hle₃)
            -- A callback that meets a fatal fault is the end: the iterator is left open.
            · refine ⟨_, rfl, fun hooks => ?_⟩
              show closeWith hooks record' fault k = _
              rw [closeWith, Iteration.close_of_fatal hooks record' hfault]
              rfl
      · rintro fault k _ _ ⟨record', rfl⟩
        exact ⟨_, rfl, fun _ => rfl⟩

/-- Grouping makes its checks first, which come out the same on both sides,
then asks for an iterator and goes through it. -/
theorem groupBy_related {items callback : Value} (hitems : B.Within n items)
    (hcallback : B.Within n callback) (coercion : KeyCoercion) :
    L.Relays n (fun hooks => groupBy hooks items callback coercion)
      (fun hooks => groupBy hooks items callback coercion) := by
  intro n' m m' hle hm
  refine Logic.realm_bind ?_
  have hrs := L.lawful.alike hm
  rw [hrs.isCallable, hrs.typeName, hrs.config.maxIterations]
  cases items.isNullish with
  | true => exact L.const (.fail hm fun _ => trivial)
  | false =>
      cases m'.realm.isCallable callback with
      | false => exact L.const (.fail hm fun _ => trivial)
      | true =>
          refine Relays.bind (Iteration.iterator_related L (hitems.mono hle))
            (fun record n₁ hle₁ hrecord => ?_) (Nat.le_refl n') hm
          have hkeys := Relates.rounds _ _ fun rounds => keyFrom_related L coercion
            m'.realm.config.maxIterations rounds 0 (hcallback.mono (Nat.le_trans hle hle₁)) hrecord
          exact Relays.bind hkeys fun keyed _ _ hkeyed =>
            .pure fun ht => Groups.below_ofList (hkeyed ht)

/-- The groups are written one after the other to an object that stays open.
Making the arrays in between leaves it alone, since an array is a new object
and the target is an old one. By induction on the groups that are left. -/
theorem foldl_groups_bonded (hB : B.Lawful) (target : Handle)
    (groups : List (GroupKey × List Value)) :
    ∀ {n : Nat} {m : Machine P} {m' : Machine Q}, B.machine n m m' →
      target.index < m.realm.size → (m.realm.record target).IsOpen →
      (∀ group ∈ groups, B.likeness.key group.1.toPropertyKey ∧
        ∀ i < group.2.length, B.likeness.key (.index i)) →
      B.Within n groups →
      ∃ n', n ≤ n' ∧ B.machine n'
        { m with realm := groups.foldl (fun realm (key, items) =>
          (realm.createArray items).2.insertSlot target key.toPropertyKey
            (.plain (.object (realm.createArray items).1))) m.realm }
        { m' with realm := groups.foldl (fun realm (key, items) =>
          (realm.createArray items).2.insertSlot target key.toPropertyKey
            (.plain (.object (realm.createArray items).1))) m'.realm } := by
  induction groups with
  | nil => exact fun hm _ _ _ _ => ⟨_, Nat.le_refl _, hm⟩
  | cons group rest ih =>
      intro n m m' hm hlt hopen hkeys hgroups
      obtain ⟨hkey, hindices⟩ := hkeys group List.mem_cons_self
      obtain ⟨n₁, hle₁, hm₁, harray, hin₁⟩ := hB.createArray hm hindices
        fun ht => (hgroups ht group List.mem_cons_self).2
      let r₁ := (m.realm.createArray group.2).2
      have hopen₁ : (r₁.record target).IsOpen := by
        rw [show r₁ = (m.realm.allocate _).2 from rfl, Realm.record_allocate,
          if_neg (Nat.ne_of_lt hlt)]
        exact hopen
      have hlt₁ : target.index < r₁.size := by
        rw [show r₁ = (m.realm.allocate _).2 from rfl, Realm.size_allocate]
        exact Nat.lt_succ_of_lt hlt
      -- The slot refers to the array that was made just before.
      obtain ⟨⟨n₂, hle₂, hm₂⟩, hopen₂⟩ := hB.insertOpen hm₁ hopen₁ hkey
        (.plain (.object (m.realm.createArray group.2).1)) hin₁ rfl
      have hlt₂ : target.index < (r₁.insertSlot target group.1.toPropertyKey
          (.plain (.object (m.realm.createArray group.2).1))).size := by
        rw [Realm.insertSlot, Realm.size_update]
        exact hlt₁
      obtain ⟨n₃, hle₃, hm₃⟩ := ih hm₂ hlt₂ hopen₂
        (fun group' hgroup' => hkeys group' (List.mem_cons_of_mem _ hgroup'))
        fun ht group' hgroup' => (hgroups ht group' (List.mem_cons_of_mem _ hgroup')).mono
          (Nat.le_trans hle₁ hle₂)
      refine ⟨n₃, Nat.le_trans hle₁ (Nat.le_trans hle₂ hle₃), ?_⟩
      simp only [List.foldl_cons, ← harray]
      exact hm₃

/-- The object of groups is a new one without a prototype. It is open, so all
groups can be written to it. -/
theorem toObject_carried (hB : B.Lawful) {groups : Groups}
    (hkeys : ∀ group ∈ groups.entries, B.likeness.key group.1.toPropertyKey ∧
      ∀ i < group.2.length, B.likeness.key (.index i))
    (hgroups : B.Within n groups) :
    B.Carries B.Same n (toObject groups : Action P Handle) (toObject groups) := by
  intro n' m m' hle hm
  obtain ⟨n₁, hle₁, hm₁, htarget, hin₁⟩ := hB.createWith hm none fun _ => trivial
  have hopen : ((m.realm.createWith none).2.record (m.realm.createWith none).1).IsOpen := by
    rw [show m.realm.createWith none = m.realm.allocate _ from rfl, Realm.record_allocate]
    exact if_pos rfl ▸ ObjectRecord.isOpen_create _ _
  have hlt : (m.realm.createWith none).1.index < (m.realm.createWith none).2.size := by
    rw [show m.realm.createWith none = m.realm.allocate _ from rfl, Realm.size_allocate]
    exact Nat.lt_succ_self m.realm.size
  obtain ⟨n₂, hle₂, hm₂⟩ := foldl_groups_bonded hB _ groups.entries hm₁ hlt hopen hkeys
    fun ht => (hgroups ht).mono (Nat.le_trans hle hle₁)
  refine .modifyGet ⟨n₂, Nat.le_trans hle₁ hle₂, ?_, htarget, hin₁.mono hle₂⟩
  simp only [← htarget]
  exact hm₂

end Grouping

end ScriptRealm
