import ScriptRealm.Proofs.Handles.Embedding

/-!
# `ScriptRealm.Proofs.Handles.Validity`: handles stay good

The arena is read and written by index, so a handle is good if its index is
below the number of objects. In a closed machine all that refers to objects
does so by good handles (`ScriptRealm.Proofs.Handles.Closure`), and an honest
embedder never comes to a machine that is not closed. `ObjectRecord.Points`
spells out, place by place, which handles an object holds.

A handle that is good stays so. `Realm.Endures` says that the arena has not
shrunk and that each object in it is still the one it was: a function is the
same function, a generator is a generator, a list iterator is one over the
same target, a foreign object has been put to its own uses and nothing else,
and what has lost its extensibility has not got it back.

`Endures` is kept by everything the library does and does not look into
generators, which makes it a `Realm.Blind` relation. For these there is a
general fact: they hold between any moment and any later one, also if the
later moment lies in the middle of an operation that the earlier one began
(`Moment.Later.blind`).

`handles_valid` is the result.
-/

set_option autoImplicit false

namespace ScriptRealm

variable {P : Platform} {α : Type}

/-! ### From any moment to a later one -/

section Moments

variable {R : Realm P → Realm P → Prop}

/-- The code that an operation starts finds a realm to which the relation has
been kept. The operation has only made calls by then, or it has begun to drive
a generator, which the relation does not look into. -/
theorem Hooks.Enters.blind {hooks : Hooks P} {op : Hooks P → Action P α}
    {resumed? : Option Handle} {m k : Machine P} {entry : Entry P}
    (henters : hooks.Enters op m entry k) (hR : Realm.Blind True R)
    (hh : hooks.Keeps fun r s => r.Passes s ∧ R r s) (hop : Resumes op resumed?) :
    R m.realm k.realm := by
  cases resumed? with
  | none =>
      -- Nothing but calls has happened, and each of them keeps the relation.
      have hwithin := henters.within (I := fun s => m.realm.Passes s ∧ R m.realm s)
        ⟨hh.call m.realm, rfl⟩ fun hooks' hagree =>
          (hop _ (hR.law.stable m.realm) hooks hooks' hagree m ⟨.refl _, hR.refl _⟩).same
      exact hwithin.2.2
  | some h =>
      -- The generator executes by then. Beside it the relation is kept.
      obtain ⟨completion, hresume⟩ := henters.of_resumes hop
      obtain ⟨g, hm, hrest⟩ := hresume.rest
      obtain ⟨g', hdriven, -, -⟩ := hresume.driven_beside (hR.beside h m.realm)
        (hR.driveAlike hh g.Sound m.realm h) ⟨hm, .refl h m.realm, hR.refl m.realm⟩ hrest
      exact hdriven.beside.2

namespace Moment

variable {embedder : Embedder P} {rounds : Nat} {moment moment' : Moment P}

/-- What one step keeps. Requests that are replied to keep the relation by
`Realm.Blind.law`, and for those that start other code it holds when that code
is started. -/
theorem Next.blind (hnext : Next embedder rounds moment moment') (hR : Realm.Blind True R) :
    R moment.machine.realm moment'.machine.realm := by
  have hh : ∀ depth, (embedder.hooks rounds depth).Keeps fun r s => r.Passes s ∧ R r s :=
    embedder.hooks_keeps hR.law (embedder.uses_of_forall fun _ _ => trivial) rounds
  cases hnext with
  | @reply depth stack _ request next m m' reply hreply =>
      -- A reply was given, so the request was performed to its end.
      have hperform := (hR.law.perform_keeps (hh depth) m.realm request fun _ => trivial).attempt
        m ⟨.refl m.realm, hR.refl m.realm⟩
      have hmeets := hperform.meets
      rw [hreply] at hmeets
      exact hmeets.2
  | consult => exact hR.refl _
  | remember => exact hR.refl _
  | request henters => exact henters.blind hR (hh _) (Request.resumes _)
  | native => exact hR.refl _
  | intrinsic hkind hcode henters =>
      exact henters.blind hR (hh _) (IntrinsicFunction.resumes _ _ _)
  | body => exact hR.refl _

/-- What every run keeps, by induction on the steps. The later moment may lie
in the middle of an operation, so this says more than that whole operations
keep the relation. -/
theorem Later.blind (hlater : Later embedder rounds moment moment') (hR : Realm.Blind True R) :
    R moment.machine.realm moment'.machine.realm := by
  induction hlater with
  | refl => exact hR.refl _
  | next _ hnext ih => exact hR.trans _ _ _ ih (hnext.blind hR)

end Moment

end Moments

/-! ### Objects that stay the same -/

/-- What any number of uses of a foreign object may make of its storage. -/
inductive HostBehaviour.Steps {Host Memory : Type} (hosts : HostBehaviour Host Memory) :
    Host → Host → Prop where
  | refl (host : Host) : Steps hosts host host
  | step {host host' host'' : Host} (hsteps : Steps hosts host host')
      (hstep : hosts.Step host' host'') : Steps hosts host host''

/-- Uses of a foreign object, some after the others. -/
theorem HostBehaviour.Steps.trans {Host Memory : Type} {hosts : HostBehaviour Host Memory}
    {host host' host'' : Host} (hfirst : hosts.Steps host host')
    (hsecond : hosts.Steps host' host'') : hosts.Steps host host'' := by
  induction hsecond with
  | refl => exact hfirst
  | step _ hstep ih => exact .step ih hstep

/-- What may become of the kind of an object in the course of its life. -/
inductive Kind.Remains : Kind P → Kind P → Prop where
  | same (kind : Kind P) : Remains kind kind
  | generator (g g' : Generator P) : Remains (.generator g) (.generator g')
  | listIterator {c c' : ListCursor} (htarget : c'.target = c.target) :
      Remains (.listIterator c) (.listIterator c')
  | foreign {host host' : P.Host} (hsteps : P.hosts.Steps host host') :
      Remains (.foreign host) (.foreign host')

/-- What an object has remained twice it has remained. The cases agree on what
sort of object it is. -/
theorem Kind.Remains.trans {a b c : Kind P} (hab : a.Remains b) (hbc : b.Remains c) :
    a.Remains c := by
  -- The second step starts from the sort of object at which the first one arrived.
  cases hab with
  | same => exact hbc
  | generator g g' =>
      cases hbc with
      | same => exact .generator g g'
      | generator _ g'' => exact .generator g g''
  | listIterator htarget =>
      cases hbc with
      | same => exact .listIterator htarget
      | listIterator htarget' => exact .listIterator (htarget'.trans htarget)
  | foreign hsteps =>
      cases hbc with
      | same => exact .foreign hsteps
      | foreign hsteps' => exact .foreign (hsteps.trans hsteps')

/-- An object is still the one it was. -/
structure ObjectRecord.Endures (old new : ObjectRecord P) : Prop where
  kind : old.kind.Remains new.kind
  extensible : new.extensible = true → old.extensible = true

namespace ObjectRecord.Endures

variable {a b c : ObjectRecord P}

/-- A change that leaves these two fields as they are is endured. -/
theorem of_eq (hkind : b.kind = a.kind) (hextensible : b.extensible = a.extensible) :
    a.Endures b where
  kind := by
    rw [hkind]
    exact .same _
  extensible h := hextensible ▸ h

/-- An object that has endured twice has endured. -/
theorem trans (hab : a.Endures b) (hbc : b.Endures c) : a.Endures c where
  kind := hab.kind.trans hbc.kind
  extensible h := hab.extensible (hbc.extensible h)

end ObjectRecord.Endures

namespace Realm

/-- The arena has not shrunk, and every object is still the one it was. -/
structure Endures (r s : Realm P) : Prop where
  size_le : r.size ≤ s.size
  objects : ∀ h : Handle, h.index < r.size → (r.record h).Endures (s.record h)

variable {r s t : Realm P} {h : Handle}

/-- A realm is still itself. -/
theorem Endures.refl (r : Realm P) : r.Endures r :=
  ⟨Nat.le_refl _, fun _ _ => .of_eq rfl rfl⟩

/-- What was there in the first realm is there in the second, so the second
step is about it as well. -/
theorem Endures.trans (hrs : r.Endures s) (hst : s.Endures t) : r.Endures t where
  size_le := Nat.le_trans hrs.size_le hst.size_le
  objects h hlt := (hrs.objects h hlt).trans (hst.objects h (Nat.lt_of_lt_of_le hlt hrs.size_le))

/-- A realm endures a change to an object that the object endures. The other
objects are not touched. -/
theorem Endures.update {f : ObjectRecord P → ObjectRecord P}
    (hf : (r.record h).Endures (f (r.record h))) : r.Endures (r.update h f) where
  size_le := Nat.le_of_eq (size_update r h f).symm
  objects h' _ := forall_record_update (p := fun h' record => (r.record h').Endures record)
    (fun _ => .of_eq rfl rfl) (fun _ => hf) h'

/-- Every change of a realm is endured. Most of them change a field that does
not count here; of a cursor the target stays, and the storage of a foreign
object takes a step. -/
theorem Change.endures {raw : Prop} (hchange : Change raw r s) : r.Endures s := by
  cases hchange with
  | allocate record hnew =>
      constructor
      · rw [size_allocate]
        omega
      · intro h hlt
        rw [record_allocate, if_neg (by omega)]
        exact .of_eq rfl rfl
  | symbol description => exact ⟨Nat.le_refl _, fun _ _ => .of_eq rfl rfl⟩
  | insert h key slot hadmits => exact .update (.of_eq rfl rfl)
  | erase h key hopen => exact .update (.of_eq rfl rfl)
  | prototype h prototype =>
      obtain heq | heq := r.setPrototype_cases h prototype
      · rw [heq]
        exact .refl r
      · rw [heq]
        exact .update (.of_eq rfl rfl)
  | scope h scope => exact .update (.of_eq rfl rfl)
  -- Extensibility may be lost, and it does not come back.
  | preventExtensions h => exact .update ⟨.same _, nofun⟩
  | cursor h c finished hkind =>
      refine .update ⟨?_, id⟩
      rw [hkind]
      exact .listIterator (ListIterator.target_advance finished c)
  | host h old new hkind hstep =>
      -- The storage has taken one step, which is a way of any number of steps.
      refine .update ⟨?_, id⟩
      rw [hkind]
      exact .foreign (.step (.refl old) hstep)
  | rawInsert h key slot hraw => exact .update (.of_eq rfl rfl)
  | rawErase h key hraw => exact .update (.of_eq rfl rfl)

/-- That objects endure does not depend on what is in a generator, so it is
kept by whatever only runs code. -/
theorem endures_blind : Blind True (Endures (P := P)) where
  refl := .refl
  trans _ _ _ := Endures.trans
  change _ _ hchange := hchange.endures
  drive r h g g' hkind := by
    refine .update ⟨?_, id⟩
    rw [hkind]
    exact .generator g g'

end Realm

/-! ### Where handles are stored -/

/-- The handles that an object holds are below `n`, wherever it holds them. -/
structure ObjectRecord.Points (n : Nat) (record : ObjectRecord P) : Prop where
  prototype : ∀ p, record.prototype = some p → p.index < n
  scope : ∀ s, record.scope = some s → s.index < n
  data : ∀ key slot h writable, record.slot? key = some slot →
    slot.content = .data (.object h) writable → h.index < n
  getter : ∀ key slot h set, record.slot? key = some slot →
    slot.content = .accessor (.object h) set → h.index < n
  setter : ∀ key slot h get, record.slot? key = some slot →
    slot.content = .accessor get (.object h) → h.index < n
  /-- The locals of a generator's frame. -/
  locals : ∀ g h, record.kind = .generator g → .object h ∈ g.frame.locals → h.index < n
  /-- The iterator to which a generator delegates. -/
  delegate : ∀ g iterator, record.kind = .generator g → g.delegate = some iterator →
    iterator.iterator.index < n
  /-- The delegate's `next`, which was read when the delegation began. -/
  delegateNext : ∀ g iterator h, record.kind = .generator g → g.delegate = some iterator →
    iterator.next = .object h → h.index < n
  target : ∀ c, record.kind = .listIterator c → c.target.index < n
  /-- What a foreign object has in its storage. -/
  host : ∀ host key h, record.kind = .foreign host →
    P.hosts.get? host key = some (.object h) → h.index < n

open Refers (Below)

/-- An object that refers to the first `n` objects holds handles below `n`.
The first is said by one recursive predicate for all kinds of data, the second
lists the places. -/
theorem ObjectRecord.RefersBelow.points [P.Traced] {n : Nat} {record : ObjectRecord P}
    (hn : Intrinsic.Present n) (h : record.RefersBelow n) : record.Points n := by
  -- All that a slot holds is below, and what it holds is its content.
  have hslot : ∀ {key : PropertyKey} {slot : Slot}, record.slot? key = some slot →
      Below n slot.content := fun heq => (ObjectRecord.below_slot? h _).of_eq_some heq
  have hkind := h.kind
  refine ⟨?prototype, ?scope, ?data, ?getter, ?setter, ?locals, ?delegate, ?delegateNext, ?target,
    ?host⟩
  case prototype => exact fun p heq => h.prototype.of_eq_some heq
  case scope => exact fun s heq => h.scope.of_eq_some heq
  case data =>
    intro key slot o writable heq hcontent
    have hbelow := hslot heq
    rw [hcontent] at hbelow
    exact hbelow
  case getter =>
    intro key slot o set heq hcontent
    have hbelow := hslot heq
    rw [hcontent] at hbelow
    exact hbelow.1
  case setter =>
    intro key slot o get heq hcontent
    have hbelow := hslot heq
    rw [hcontent] at hbelow
    exact hbelow.2
  case locals =>
    intro g o heq hlocal
    rw [heq] at hkind
    exact hkind.1 _ hlocal
  case delegate =>
    intro g iterator heq hdelegate
    rw [heq] at hkind
    exact (hkind.2.2.of_eq_some hdelegate).1
  case delegateNext =>
    intro g iterator o heq hdelegate hnext
    rw [heq] at hkind
    have hbelow := (hkind.2.2.of_eq_some hdelegate).2
    rw [hnext] at hbelow
    exact hbelow
  case target =>
    intro c heq
    rw [heq] at hkind
    exact hkind
  case host =>
    intro host key o heq hget
    rw [heq] at hkind
    -- A storage is opaque, and the platform vouches for what it gives out.
    exact (Platform.Traced.below_get? key hn hkind).of_eq_some hget

namespace Realm

variable {r : Realm P} {h : Handle}

/-- A good handle is read from the arena. -/
theorem getElem?_objects (hlt : h.index < r.size) : r.objects[h.index]? = some (r.record h) := by
  have hlt : h.index < r.objects.size := hlt
  simp [record, Array.getD_eq_getD_getElem?, hlt]

/-- A good handle is written to the arena. -/
theorem getElem?_objects_update (hlt : h.index < r.size) (f : ObjectRecord P → ObjectRecord P) :
    (r.update h f).objects[h.index]? = some (f (r.record h)) := by
  rw [getElem?_objects (by rw [size_update]; exact hlt), record_update_self hlt]

end Realm

/-- No handle dangles. At every moment at which code runs, in every realm
that an honest embedder reaches from a new one:

- every handle that an object holds is below the number of objects, and so
  is every handle in the embedder's memory and in the code that is going on;
- so is every handle in what a request is replied with, be it a value, a list
  of keys, groups, the record of an iterator or a fault, if those in the
  request are;
- the arena never shrinks, and under every handle there is the same object
  at every later moment and when a request was performed;
- the handle of a new object is none of those there were;
- reading and writing the arena under such a handle is never out of range. -/
theorem handles_valid [P.Traced] (embedder : Embedder P) (hembedder : embedder.Honest)
    (rounds depth : Nat) (config : Config) (memory : P.Memory)
    (hmemory : Below (Realm.initial config : Realm P).size memory) (script : Script P α)
    (hscript : script.Honest (fun _ _ => True) (Realm.initial config : Realm P).size)
    (moment : Moment P)
    (hlater : Moment.Later embedder rounds
      ⟨depth, [], .script script, ⟨.initial config, memory⟩⟩ moment) :
    let r := moment.machine.realm
    (∀ h, (r.record h).Points r.size) ∧
    (Below r.size moment.machine.memory ∧ moment.activity.Honest r.size) ∧
    (∀ (depth : Nat) (request : Request P), request.Within r.size →
      (request.perform (embedder.hooks rounds depth) moment.machine).Meets
        (fun reply m' => r.Endures m'.realm ∧ Below m'.realm.size reply)
        (fun fault m' => r.Endures m'.realm ∧ Below m'.realm.size fault)) ∧
    (∀ moment', Moment.Later embedder rounds moment moment' →
      r.Endures moment'.machine.realm) ∧
    (∀ record h, h.index < r.size → (r.allocate record).1 ≠ h) ∧
    (∀ h, h.index < r.size → r.objects[h.index]? = some (r.record h) ∧
      ∀ f, (r.update h f).objects[h.index]? = some (f (r.record h))) := by
  have hstart : Moment.Honest (P := P) ⟨depth, [], .script script, ⟨.initial config, memory⟩⟩ :=
    ⟨⟨Realm.initial_closed config, hmemory⟩, hscript⟩
  -- From here on there is one moment, which is honest because the first one was.
  obtain ⟨hclosed, hactivity⟩ := hlater.honest hembedder hstart
  intro r
  refine ⟨?stored, ⟨hclosed.memory, hactivity⟩, ?replies, ?later, ?fresh, ?arena⟩
  case stored =>
    intro h
    exact (hclosed.realm.objects h).points hclosed.realm.present
  -- Two facts about the request: it keeps what endures, and what it hands out is below.
  case replies =>
    intro depth request hwithin
    have hleads := (request.perform_confined (hembedder.hooks_confined rounds depth) hwithin
      moment.machine hclosed (Nat.le_refl _)).meets
    have hh := embedder.hooks_keeps Realm.endures_blind.law
      (embedder.uses_of_forall fun _ _ => trivial) rounds depth
    have hkeeps := (Realm.endures_blind.law.perform_keeps hh r request (fun _ => trivial)
      moment.machine ⟨.refl r, .refl r⟩).meets
    refine (hkeeps.and hleads).mono ?_ ?_
    · intro reply m' hend
      exact ⟨hend.1.2, hend.2.below⟩
    · intro fault m' hend
      exact ⟨hend.1.2, hend.2.below⟩
  case later =>
    intro moment' hlater'
    exact hlater'.blind Realm.endures_blind
  case fresh =>
    -- The new handle is the number of objects there were.
    rintro record h hlt rfl
    exact absurd hlt (Nat.lt_irrefl _)
  case arena =>
    intro h hlt
    exact ⟨Realm.getElem?_objects hlt, fun f => Realm.getElem?_objects_update hlt f⟩

/-- A script that makes an object and a generator with the object among its
locals. -/
def Script.keepObjectInGenerator : Script Platform.fixed Unit :=
  .ask .createObject fun object =>
  .ask (.createGenerator [] { locals := [.object (object.toOption.getD ⟨0⟩)] }) fun _ =>
  .done ()

/-- The script makes up no handles: the one it uses it was given, or is that
of an object that every realm has. -/
theorem Script.keepObjectInGenerator_honest {n : Nat} (hn : Intrinsic.Present n) :
    Script.keepObjectInGenerator.Honest (fun _ _ => True) n := by
  refine ⟨trivial, fun n' object hle hobject => ⟨⟨Refers.below_nil, ?_⟩, fun _ _ _ _ => trivial⟩⟩
  -- Should making the object fail, the script takes the first object of the realm.
  cases object with
  | ok h => exact Below.singleton hobject
  | error fault => exact Below.singleton ((hn.mono hle).below (Nat.zero_le _))

/-- The generator holds the object's handle, which is good and stays so. The
two objects are the first that come after those of a new realm. -/
theorem handles_valid_keeping :
    ∃ m, Moment.Later Embedder.fixed 0
        ⟨0, [], .script Script.keepObjectInGenerator, ⟨.initial {}, ()⟩⟩
        ⟨0, [], .script (Script.done ()), m⟩ ∧
      (∃ g, (m.realm.record ⟨13⟩).kind = .generator g ∧ .object ⟨12⟩ ∈ g.frame.locals) ∧
      (m.realm.record ⟨13⟩).Points 14 ∧
      ∀ moment', Moment.Later Embedder.fixed 0 ⟨0, [], .script (Script.done ()), m⟩ moment' →
        m.realm.Endures moment'.machine.realm := by
  have hend : Moment.Later Embedder.fixed 0
      ⟨0, [], .script Script.keepObjectInGenerator, ⟨.initial {}, ()⟩⟩
      ⟨0, [], .script (Script.done ()), _⟩ :=
    .next (.next .refl (.reply rfl)) (.reply rfl)
  have h := handles_valid Embedder.fixed Embedder.fixed_honest 0 0 {} () trivial
    Script.keepObjectInGenerator
    (Script.keepObjectInGenerator_honest (Realm.initial_closed {}).present) _ hend
  exact ⟨_, hend, ⟨_, rfl, List.mem_singleton.mpr rfl⟩, h.1 ⟨13⟩, h.2.2.2.1⟩

end ScriptRealm
