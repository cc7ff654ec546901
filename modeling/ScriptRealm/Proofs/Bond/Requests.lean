import ScriptRealm.Embedder.Script
import ScriptRealm.Proofs.Bond.Iteration

/-!
# `ScriptRealm.Proofs.Bond.Requests`: requests, side by side

The walk over the operations ends here, but for the resumption of
generators. A request on one platform and its translation to the other are
performed side by side, and get replies that correspond
(`Request.perform_related`). So are the functions of a new realm
(`IntrinsicFunction.run_related`).

What is asked for is read off the request: the keys that it writes under
must be among those of the bond, what it names must be within reach, and if
it writes to a table without asking whether it may, then the bond must have
a licence for that.

Requests that resume a generator are left out, because not every bond
survives the changes that are made to a running generator. Those that do are
carried on in `ScriptRealm.Proofs.Bond.Generators`.
-/

set_option autoImplicit false

namespace ScriptRealm

open Refers (Below)
open Bond (Logic Carries)
open Bond.Logic (Relates Relays)

/-! ### What a request asks for -/

section

variable {P : Platform}

namespace Request

/-- The requests that write to an object's table without asking whether it
may be written to. -/
def isRaw : Request P → Bool
  | .defineMethod .. | .defineBuiltin .. | .insertSlot .. | .removeSlot .. | .applyDescriptor .. =>
      true
  | _ => false

/-- The generator that a request resumes, if it is one to resume. -/
def resumed? : Request P → Option Handle
  | .resumeGenerator h _ => some h
  | _ => none

/-- A request that resumes a generator is that one request. -/
theorem exists_of_resumed? {request : Request P} {h : Handle}
    (hrequest : request.resumed? = some h) :
    ∃ completion, request = .resumeGenerator h completion := by
  cases request with
  | resumeGenerator h' completion =>
      cases hrequest
      exact ⟨completion, rfl⟩
  | _ => cases hrequest

/-- How a request gives out a fault. Steps of an iterator give it out as a
value, beside the iterator's record; all other requests fail with it. -/
def Gives (fault : Fault) (m : Machine P) :
    (request : Request P) → Outcome P request.Reply → Prop
  | .iteratorStep _, outcome => Iteration.StepReturns fault m outcome
  | .iteratorStepValue _, outcome => Iteration.StepReturns fault m outcome
  | .iteratorToList _, outcome => Iteration.StepReturns fault m outcome
  | _, outcome => outcome = .failed fault m

end Request

/-- The generator that a function of a new realm resumes when it is called
on a receiver. -/
def IntrinsicFunction.resumed? : IntrinsicFunction → Value → Option Handle
  | .generatorNext, .object h | .generatorReturn, .object h | .generatorThrow, .object h => some h
  | _, _ => none

end

variable {P Q : Platform} [P.Told] {B : Bond P Q} {n : Nat}

namespace Request

instance : (request : Request P) → Refers request.Reply
  | .createObject | .createWith .. | .createArray .. | .createFunction ..
  | .createConstructor .. | .defineMethod .. | .createForeign .. | .createError ..
  | .createIterResult .. | .createListIterator .. | .createGenerator .. =>
      inferInstanceAs (Refers Handle)
  | .defineBuiltin .. => inferInstanceAs (Refers Unit)
  | .newSymbol .. => inferInstanceAs (Refers Symbol)
  | .get .. => inferInstanceAs (Refers Value)
  | .get? .. | .getFor? .. | .getMethod? .. => inferInstanceAs (Refers (Option Value))
  | .has .. | .hasOwn .. | .owns .. | .testIntegrity .. | .isCallable ..
  | .isConstructor .. => inferInstanceAs (Refers Bool)
  | .ownKeys .. => inferInstanceAs (Refers (List PropertyKey))
  | .describe? .. => inferInstanceAs (Refers (Option Descriptor))
  | .inspect .. => inferInstanceAs (Refers (ObjectRecord P))
  | .typeName .. => inferInstanceAs (Refers TypeName)
  | .put .. | .assign .. | .delete .. | .define .. | .createData .. | .setIntegrity ..
  | .setPrototype .. | .preventExtensions .. | .setExtensible .. | .applyDescriptor .. =>
      inferInstanceAs (Refers Bool)
  | .deleteOrFail .. | .defineOrFail .. | .createDataOrFail .. | .setScope ..
  | .insertSlot .. => inferInstanceAs (Refers Unit)
  | .removeSlot .. => inferInstanceAs (Refers (Option Slot))
  | .call .. | .construct .. | .species .. | .faultToValue .. => inferInstanceAs (Refers Value)
  | .arrayLength .. => inferInstanceAs (Refers Nat)
  | .arrayElements .. => inferInstanceAs (Refers (List Value))
  | .descriptorOfObject .. => inferInstanceAs (Refers Descriptor)
  | .descriptorToObject .. => inferInstanceAs (Refers Value)
  | .iterator .. => inferInstanceAs (Refers IteratorRecord)
  | .iteratorNext .. => inferInstanceAs (Refers Handle)
  | .resultIsDone .. => inferInstanceAs (Refers Bool)
  | .resultValue .. => inferInstanceAs (Refers Value)
  | .iteratorStep .. => inferInstanceAs (Refers (Except Fault (Option Handle) × IteratorRecord))
  | .iteratorStepValue .. =>
      inferInstanceAs (Refers (Except Fault (Option Value) × IteratorRecord))
  | .iteratorToList .. => inferInstanceAs (Refers (Except Fault (List Value) × IteratorRecord))
  | .iteratorClose .. => inferInstanceAs (Refers Value)
  | .resumeGenerator .. => inferInstanceAs (Refers IterResult)
  | .generatorState .. => inferInstanceAs (Refers GeneratorState)
  | .groupBy .. => inferInstanceAs (Refers Groups)
  | .groupsToObject .. => inferInstanceAs (Refers Handle)

/-- Everything that a request names is among the first `n` objects. -/
def Within (n : Nat) : Request P → Prop
  | .createObject | .createError .. | .newSymbol .. => True
  | .createWith prototype => Below n prototype
  | .createArray values => Below n values
  | .createFunction _ _ code | .createConstructor _ _ code => Below n code
  | .defineMethod h _ _ _ code => Below n h ∧ Below n code
  | .createForeign host => Below n host
  | .createIterResult value _ => Below n value
  | .createListIterator target => Below n target
  | .createGenerator body frame => Below n body ∧ Below n frame
  | .get h _ | .get? h _ | .has h _ | .hasOwn h _ | .owns h _ | .ownKeys h _ _ | .describe? h _
  | .testIntegrity h _ | .inspect h | .delete h _ | .deleteOrFail h _ | .setIntegrity h _
  | .preventExtensions h | .setExtensible h _ | .removeSlot h _ | .arrayLength h
  | .resultIsDone h | .resultValue h | .generatorState h => Below n h
  | .isCallable value | .isConstructor value | .typeName value | .getMethod? value _
  | .arrayElements value _ | .descriptorOfObject value | .iterator value => Below n value
  | .getFor? h _ value | .defineBuiltin h _ value | .put h _ value | .assign h _ value _
  | .createData h _ value | .createDataOrFail h _ value | .species h value =>
      Below n h ∧ Below n value
  | .define h _ d | .defineOrFail h _ d => Below n h ∧ Below n d
  | .setPrototype h other | .setScope h other => Below n h ∧ Below n other
  | .insertSlot h _ slot => Below n h ∧ Below n slot
  | .applyDescriptor h _ _ d current => Below n h ∧ Below n d ∧ Below n current
  | .call f this args => Below n f ∧ Below n this ∧ Below n args
  | .construct constructor args => Below n constructor ∧ Below n args
  | .faultToValue fault => Below n fault
  | .descriptorToObject d => Below n d
  | .iteratorNext record value => Below n record ∧ Below n value
  | .iteratorStep record | .iteratorStepValue record | .iteratorToList record => Below n record
  | .iteratorClose record completion => Below n record ∧ Below n completion
  | .resumeGenerator h completion => Below n h ∧ Below n completion
  | .groupBy items callback _ => Below n items ∧ Below n callback
  | .groupsToObject groups => Below n groups

end Request

/-! ### Performing a request -/

/-- Replies that correspond, and refer to the first `n` objects. -/
def Bond.Replies (B : Bond P Q) (t : Translation P Q) (request : Request P) (n : Nat)
    (reply : request.Reply) (reply' : (request.translate t).Reply) : Prop :=
  request.Replies B.likeness t reply reply' ∧ B.Within n reply

/-- The state of a generator is read off it, and the generators of both sides
are in one state. -/
theorem Generator.currentState_carried (hB : B.Lawful) (h : Handle) :
    B.Carries B.Same n (currentState h : Action P GeneratorState) (currentState h) := by
  intro n' m m' _ hm
  unfold currentState find
  rw [bind_assoc, bind_assoc]
  refine .record_bind ?_
  -- Either there is a generator under the handle on both sides, or the request fails on both.
  obtain ⟨hnone, hnone'⟩ | ⟨g, g', hsome, hsome', hg⟩ :=
    ((hB.alike hm).record h).kind.generator?
  · simp only [hnone, hnone']
    exact .fail hm fun _ => trivial
  · simp only [hsome, hsome']
    exact .pure hm ⟨hg.state, fun _ => trivial⟩

namespace Request

/-- A request and its translation are performed side by side. There is one
case for each request, which cites the lemma about its operation: a function
on realms, an operation that runs no code or one that does. The hypotheses are
taken apart in the case that needs them. -/
theorem perform_related (L : B.Logic) {t : Translation P Q} (hrespects : t.Respects B.likeness)
    (request : Request P) (hkeys : request.KeysIn B.likeness.key)
    (hwithin : B.traced → request.Within n) (hraw : request.isRaw = true → B.licence.raw)
    (hplain : request.resumed? = none) :
    L.Relates (B.Replies t request) n (fun fault k outcome => request.Gives fault k outcome)
      (fun hooks => request.perform hooks) (fun hooks => (request.translate t).perform hooks) := by
  have hB := L.lawful
  -- Functions of the embedder correspond by the translation of their code.
  have hnative : ∀ name length code isConstructor,
      (native name length code isConstructor).Alike B.likeness
        (native name length (t.code code) isConstructor) :=
    fun name length code isConstructor => ⟨rfl, rfl, rfl, .native (hrespects.code code)⟩
  unfold perform
  cases request with
  | createObject =>
      exact .modifyGet fun _ hm => hB.createObject hm
  | createWith prototype =>
      exact .modifyGet fun hle hm => hB.createWith hm _ fun ht => (hwithin ht).mono hle
  | createArray values =>
      exact .modifyGet fun hle hm => hB.createArray hm hkeys fun ht => (hwithin ht).mono hle
  | createFunction name length code =>
      exact .modifyGet fun hle hm => hB.createFunction hm (hnative ..) fun ht =>
        (hwithin ht).mono hle
  | createConstructor name length code =>
      exact .modifyGet fun hle hm => hB.createConstructor hm (hnative ..) fun ht =>
        (hwithin ht).mono hle
  | defineMethod h key name length code =>
      exact .modifyGet fun hle hm => hB.defineMethod hm hkeys (hnative ..)
        (fun ht => (hwithin ht).2.mono hle) (hraw rfl)
  | defineBuiltin h key value =>
      exact .modify fun hle hm => hB.insertSlot hm hkeys _
        (fun ht => (hwithin ht).2.mono hle) (.inl (hraw rfl))
  | createForeign host =>
      exact .modifyGet fun hle hm => hB.createForeign hm (hrespects.host host) fun ht =>
        (hwithin ht).mono hle
  | createError name message =>
      exact .modifyGet fun _ hm => hB.createError hm name message
  | createIterResult value done =>
      exact .modifyGet fun hle hm => hB.createIterResult hm
        (fun ht => (hwithin ht).mono hle) done
  | createListIterator target =>
      exact .modifyGet fun hle hm => hB.createListIterator hm fun ht =>
        (hwithin ht).mono hle
  | createGenerator body frame =>
      exact .modifyGet fun hle hm => hB.createGenerator hm (hrespects.body frame body)
        (fun ht => (hwithin ht).1.mono hle) fun ht => (hwithin ht).2.mono hle
  | newSymbol description =>
      refine .modifyGet fun _ hm => ?_
      exact hB.newSymbol hm description
  -- From here on the operations run code, and the logic relates them.
  | get h key => exact Object.get_related L hwithin key
  | get? h key => exact Object.get?_related L hwithin key
  | getFor? h key receiver => exact Object.getFor?_related L h key fun ht => (hwithin ht).2
  | getMethod? value key => exact Object.getMethod?_related L hwithin key
  | has h key =>
      exact .read fun _ hm => ⟨(hB.alike hm).has h key, fun _ => trivial⟩
  | hasOwn h key =>
      exact .read fun _ hm => ⟨congrFun ((hB.alike hm).hasOwn h) key, fun _ => trivial⟩
  | owns h key =>
      exact .read fun _ hm => ⟨congrFun ((hB.alike hm).hasOwn h) key.canonical, fun _ => trivial⟩
  | ownKeys h hidden symbols =>
      exact .read fun _ hm => ⟨(hB.alike hm).ownKeys h hidden symbols, fun _ _ _ => trivial⟩
  -- What is read of an object leaves it within reach.
  | describe? h key =>
      refine .read fun _ hm => ⟨?_, fun ht => ?_⟩
      · exact congrArg (Option.map _) (((hB.alike hm).record h).slot? _)
      · exact (hB.slot? hm h key.canonical ht).map fun _ hslot => Slot.below_toDescriptor hslot
  | testIntegrity h level =>
      exact .read fun _ hm => ⟨(hB.alike hm).test h level, fun _ => trivial⟩
  | inspect h =>
      exact .const fun _ hm => .done (Nat.le_refl _) hm
        ⟨(hB.alike hm).record h, fun ht => (hB.traces hm ht).objects h⟩
  | isCallable value =>
      exact .read fun _ hm => ⟨(hB.alike hm).isCallable value, fun _ => trivial⟩
  | isConstructor value =>
      exact .read fun _ hm => ⟨(hB.alike hm).isConstructor value, fun _ => trivial⟩
  | typeName value =>
      exact .read fun _ hm => ⟨(hB.alike hm).typeName value, fun _ => trivial⟩
  | put h key value =>
      exact Object.put_related L hkeys (fun ht => (hwithin ht).1) fun ht => (hwithin ht).2
  | assign h key value strict =>
      exact Object.assign_related L hkeys (fun ht => (hwithin ht).1) (fun ht => (hwithin ht).2)
        strict
  -- These run no code. They are related as actions, whatever the hooks are.
  | delete h key => exact .const (Object.delete_carried hB h key)
  | deleteOrFail h key => exact .const (Object.deleteOrFail_carried hB h key)
  | define h key d => exact .const (Object.define_carried hB h hkeys fun ht => (hwithin ht).2)
  | defineOrFail h key d =>
      exact .const (Object.defineOrFail_carried hB h hkeys fun ht => (hwithin ht).2)
  | createData h key value =>
      exact .const (Object.createData_carried hB h hkeys fun ht => (hwithin ht).2)
  | createDataOrFail h key value =>
      exact .const (Object.createDataOrFail_carried hB h hkeys fun ht => (hwithin ht).2)
  | setIntegrity h level => exact .modifyGet fun _ hm => hB.integrity hm h level
  | setPrototype h prototype =>
      refine .modifyGet fun hle hm => ?_
      -- That the link was set is an answer, which depends on the chain and not on the kinds.
      obtain ⟨n', hle', hm'⟩ := hB.change hm (.prototype (h := h) fun ht => (hwithin ht).2.mono hle)
      exact ⟨n', hle', hm', ((hB.alike hm).setPrototype h prototype).1, fun _ => trivial⟩
  | setScope h scope =>
      exact .modify fun hle hm => hB.change hm (.scope fun ht => (hwithin ht).2.mono hle)
  | preventExtensions h =>
      exact .modifyGet fun _ hm => hB.setExtensible hm h false
  | setExtensible h extensible =>
      exact .modifyGet fun _ hm => hB.setExtensible hm h extensible
  | insertSlot h key slot =>
      exact .modify fun hle hm => hB.insertSlot hm hkeys _
        (fun ht => (hwithin ht).2.mono hle) (.inl (hraw rfl))
  | removeSlot h key =>
      refine .modifyGet fun _ hm => ?_
      -- What was removed is handed out, so it has to be within reach as well.
      obtain ⟨n', hle, hm'⟩ := hB.change hm (.erase (h := h) key (.inl (hraw rfl)))
      exact ⟨n', hle, hm', ((hB.alike hm).record h).slot? key, (hB.slot? hm h key).mono hle⟩
  | applyDescriptor h key extensible d current =>
      exact .modifyGet fun hle hm => hB.applyDescriptor hm hkeys
        (fun ht => (hwithin ht).2.1.mono hle) (fun ht => (hwithin ht).2.2.mono hle)
        (.inl (hraw rfl))
  | call f this args =>
      exact .call (fun ht => (hwithin ht).1) (fun ht => (hwithin ht).2.1) fun ht =>
        (hwithin ht).2.2
  | construct constructor args =>
      exact Object.construct_related L (fun ht => (hwithin ht).1) fun ht => (hwithin ht).2
  | species h default =>
      exact Object.species_related L (fun ht => (hwithin ht).1) fun ht => (hwithin ht).2
  | faultToValue fault => exact .const (Object.faultToValue_carried hB hwithin)
  | arrayLength h => exact ArrayLike.length_related L hwithin
  | arrayElements value admits => exact ArrayLike.toList_related L hwithin admits
  | descriptorOfObject value => exact Descriptor.ofObject_related L hwithin
  | descriptorToObject d => exact .const (Descriptor.toObject_carried hB hwithin)
  | iterator iterable => exact Iteration.iterator_related L hwithin
  | iteratorNext record value =>
      exact Iteration.next_related L (fun ht => (hwithin ht).1) fun ht => (hwithin ht).2
  | resultIsDone result => exact Iteration.isDone_related L hwithin
  | resultValue result => exact Iteration.resultValue_related L hwithin
  | iteratorStep record => exact Iteration.step_related L hwithin
  | iteratorStepValue record => exact Iteration.stepValue_related L hwithin
  | iteratorToList record => exact Iteration.toList_related L hwithin
  | iteratorClose record completion =>
      exact Iteration.close_related L (fun ht => (hwithin ht).1) fun ht => (hwithin ht).2
  | resumeGenerator h completion => cases hplain
  | generatorState h => exact .const (Generator.currentState_carried hB h)
  | groupBy items callback coercion =>
      exact Grouping.groupBy_related L (fun ht => (hwithin ht).1) (fun ht => (hwithin ht).2)
        coercion
  | groupsToObject groups => exact .const (Grouping.toObject_carried hB hkeys hwithin)

/-- On one platform a request is its own translation, and where everything is
the same its replies are. Two replies are related by more than equality in
general, a whole object and a list of keys, and these are taken up one by
one. -/
theorem perform_same {B : Bond P P} (hlikeness : B.likeness = .equal P) {L : B.Logic}
    (request : Request P) {returns : Fault → Machine P → Outcome P request.Reply → Prop}
    (h : L.Relates (B.Replies (.id P) request) n returns (fun hooks => request.perform hooks)
      (fun hooks => (request.translate (.id P)).perform hooks)) :
    L.Relates B.Same n returns (fun hooks => request.perform hooks)
      (fun hooks => request.perform hooks) := by
  cases request with
  | inspect handle =>
      refine h.mono fun _ x y hxy => ⟨?_, hxy.2⟩
      -- Alike in every respect is equal, also for the kinds.
      have halike : x.Alike (.equal P) y := hlikeness ▸ hxy.1
      exact halike.eq
  | ownKeys handle hidden symbols =>
      refine h.mono fun _ keys keys' hkeys => ⟨?_, hkeys.2⟩
      have hkeys : (Likeness.equal P).Keys keys keys' := hlikeness ▸ hkeys.1
      exact hkeys.eq fun _ _ horder => horder
  | _ => exact h

end Request

/-- The functions of a new realm that resume no generator. The three that
would resume their receiver are among them if the receiver is no object, and
then they fail. -/
theorem IntrinsicFunction.run_related (L : B.Logic) (f : IntrinsicFunction) {this : Value}
    {args : List Value} (hthis : B.Within n this)
    (hmoves : ∀ h, f = .listIteratorNext → this = .object h → B.licence.moves h)
    (hplain : f.resumed? this = none) :
    L.Relays n (fun hooks => f.run hooks this args) (fun hooks => f.run hooks this args) := by
  cases f with
  | iteratorSelf => exact .pure hthis
  | listIteratorNext =>
      -- The step is related, and its result is put into an object of its own.
      refine Relays.bind (ListIterator.next_related L hthis fun h => hmoves h rfl) ?_
      exact fun _ _ _ hresult => .const (IterResult.toObject_carried L.lawful hresult)
  | arrayValues => exact .const (ListIterator.ofReceiver_carried L.lawful hthis)
  | generatorNext | generatorReturn | generatorThrow =>
      cases this with
      | object h => cases hplain
      | _ => exact .fail fun _ => trivial

end ScriptRealm
