import ScriptRealm.Proofs.Refusal

/-!
# `ScriptRealm.Proofs.Strictness`: strictness is about reports

A realm that is strict reports refusals by faults. It should refuse the same
things as a lenient one and leave the same realm, so that being strict changes
nothing but what a refusal looks like.

`Machine.Twins` relates two machines that differ in that switch alone, and
`Outcome.Corresponds` the outcomes that they may come to: the answer no of the
lenient machine stands against a type error of the strict one, all else is the
same, and the machines are twins again. What an assignment has to do does not
depend on the switch (`Object.assignment_harden`), and of what may be done only
the report of a refusal reads it.

Deletions keep to that as long as the object is not foreign. The answer of a
host goes out as it is, so a strict realm can answer no to the deletion of a
property of a foreign object, and in no other case
(`strictness_reports`, `delete_not_strict`).
-/

set_option autoImplicit false

namespace ScriptRealm

variable {P : Platform}

/-! ### Twins -/

/-- Two machines that differ in nothing but whether their realm is strict. -/
structure Machine.Twins (m n : Machine P) : Prop where
  lenient : m.realm.config.strict = false
  strict : n.realm.config.strict = true
  objects : n.realm.objects = m.realm.objects
  maxIterations : n.realm.config.maxIterations = m.realm.config.maxIterations
  enumerateIndicesFirst :
    n.realm.config.enumerateIndicesFirst = m.realm.config.enumerateIndicesFirst
  nextSymbol : n.realm.nextSymbol = m.realm.nextSymbol
  memory : n.memory = m.memory

/-- What a lenient and a strict machine may come to. -/
inductive Outcome.Corresponds : Outcome P Bool → Outcome P Bool → Prop where
  | done {m n : Machine P} (htwins : m.Twins n) : Corresponds (.done true m) (.done true n)
  | refused {m n : Machine P} (cause : TypeCause) (htwins : m.Twins n) :
      Corresponds (.done false m) (.failed (.type cause) n)
  | failed {m n : Machine P} (fault : Fault) (htwins : m.Twins n) :
      Corresponds (.failed fault m) (.failed fault n)
  | exhausted : Corresponds .exhausted .exhausted

/-- A strict machine does not answer no. Where a lenient one does, it
fails. -/
theorem Outcome.Corresponds.ne_denied {outcome outcome' : Outcome P Bool}
    (hcorresponds : outcome.Corresponds outcome') (n : Machine P) : outcome' ≠ .done false n := by
  intro hdenied
  subst hdenied
  cases hcorresponds

def Realm.harden (r : Realm P) : Realm P := { r with config := { r.config with strict := true } }

def Machine.harden (m : Machine P) : Machine P := { m with realm := m.realm.harden }

/-- A lenient machine and the same machine made strict are twins. They have
their objects and their memory in common. -/
theorem Machine.twins_harden {m : Machine P} (hm : m.realm.config.strict = false) :
    m.Twins m.harden where
  lenient := hm
  strict := rfl
  objects := rfl
  maxIterations := rfl
  enumerateIndicesFirst := rfl
  nextSymbol := rfl
  memory := rfl

/-- A lenient machine has one twin. So what is to be shown of twins is shown
of the machine that was made strict. -/
theorem Machine.Twins.eq_harden {m n : Machine P} (htwins : m.Twins n) : n = m.harden := by
  obtain ⟨⟨objects, ⟨strict, rounds, first⟩, next⟩, memory⟩ := n
  obtain ⟨-, hstrict, hobjects, hrounds, hfirst, hnext, hmemory⟩ := htwins
  simp only at hstrict hobjects hrounds hfirst hnext hmemory
  -- Each field of the twin is known now, and all of them make up the machine.
  subst hstrict hobjects hrounds hfirst hnext hmemory
  rfl

namespace Realm

/-- The chain of prototypes is the same in a strict realm. By induction on its
length. -/
theorem chainUpTo_harden (r : Realm P) (n : Nat) (h : Handle) :
    r.harden.chainUpTo n h = r.chainUpTo n h := by
  induction n generalizing h with
  | zero => rfl
  | succ n ih =>
      -- The objects are not touched.
      have hrecord : r.harden.record h = r.record h := rfl
      rw [chainUpTo, chainUpTo, hrecord]
      cases (r.record h).prototype with
      | none => rfl
      | some p => simp only [ih p]

/-- The owner of a key is the same in a strict realm, since strictness is no
part of the objects. -/
theorem owner?_harden (r : Realm P) (o : Handle) (key : PropertyKey) :
    r.harden.owner? o key = r.owner? o key := by
  rw [owner?, owner?, ownerUpTo?_eq_find?, ownerUpTo?_eq_find?, chainUpTo_harden]
  rfl

end Realm

namespace Object

variable {m : Machine P} {o : Handle} {key : PropertyKey} {value : Value}

/-- What an assignment has to do is the same for a strict realm. It is read
off the objects, and the setting is looked at only when something has been
refused. -/
theorem assignment_harden (r : Realm P) (o : Handle) (key : PropertyKey) (value : Value) :
    assignment r.harden o key value = assignment r o key value := by
  simp only [assignment, Realm.owner?_harden]
  rfl

/-- A refusal is where strictness shows. The lenient machine answers no and
the strict one fails, and neither changes. -/
theorem refuse_corresponds (hm : m.realm.config.strict = false) (key : PropertyKey)
    (reason : WriteRefusal) :
    (refuse key reason false m).Corresponds (refuse key reason false m.harden) := by
  rw [refuse_apply, refuse_apply, refusal_of_lenient hm]
  exact .refused (.cannotAssign reason key) (Machine.twins_harden hm)

/-- Whatever an assignment has to do corresponds, if it is not to call
something that can be called. Code that runs could look at the setting. -/
theorem Assignment.run_corresponds {hooks : Hooks P} (hhooks : hooks.Discerning)
    (hm : m.realm.config.strict = false) (assignment : Assignment P)
    (hsetter : ∀ f, assignment = .setter f → m.realm.isCallable f = false) :
    (assignment.run hooks o key value false m).Corresponds
      (assignment.run hooks o key value false m.harden) := by
  cases assignment with
  | refused reason => exact refuse_corresponds hm key reason
  | stored slot =>
      have hm' : (m.realm.insertSlot o key slot).config.strict = false := hm
      exact .done (Machine.twins_harden
        (m := { m with realm := m.realm.insertSlot o key slot }) hm')
  | setter f =>
      have hf := hsetter f rfl
      -- What cannot be called fails in any machine, or the depth was used up before.
      simp only [Assignment.run, Action.bind_apply]
      rcases hhooks with hexhausted | hfails
      · rw [hexhausted, hexhausted]
        exact .exhausted
      · rw [hfails f (.object o) [value] m hf, hfails f (.object o) [value] m.harden hf]
        exact .failed _ (Machine.twins_harden hm)
  | handed owner host reason =>
      -- Both machines ask the host the same question about the same memory.
      obtain ⟨taken, k, hput, hput', hk⟩ : ∃ taken k,
          hostPut owner host key value m = .done taken k ∧
            hostPut owner host key value m.harden = .done taken k.harden ∧
            k.realm.config.strict = m.realm.config.strict := ⟨_, _, rfl, rfl, rfl⟩
      rw [hm] at hk
      simp only [Assignment.run, Action.bind_apply, hput, hput']
      cases taken with
      | true => exact .done (Machine.twins_harden hk)
      | false => exact refuse_corresponds hk key reason

/-- So an assignment corresponds, if it runs nothing: both machines have the
same thing to do. -/
theorem assign_corresponds {hooks : Hooks P} (hhooks : hooks.Discerning)
    (hm : m.realm.config.strict = false)
    (hruns : hooks.RunsNothing (assign · o key value false) m) :
    (assign hooks o key value false m).Corresponds
      (assign hooks o key value false m.harden) := by
  have hsame : assignment m.harden.realm o key.canonical value
      = assignment m.realm o key.canonical value := assignment_harden m.realm o _ value
  -- So one thing is done in two machines.
  rw [assign_apply, assign_apply, hsame]
  exact Assignment.run_corresponds hhooks hm _ fun f => isCallable_of_runsNothing hruns

/-- A deletion corresponds, if the object is not foreign. It is refused for
the same slots, and each machine reports this in its own way. -/
theorem delete_corresponds (hm : m.realm.config.strict = false)
    (ho : (m.realm.record o).kind.host? = none) (key : PropertyKey) :
    (delete o key m).Corresponds (delete o key m.harden) := by
  have ho' : (m.harden.realm.record o).kind.host? = none := ho
  have hslot' : (m.harden.realm.record o).slot? key = (m.realm.record o).slot? key := rfl
  rw [delete_of_native ho, delete_of_native ho', hslot']
  cases (m.realm.record o).slot? key with
  | none => exact .done (Machine.twins_harden hm)
  | some slot =>
      -- A slot that is there goes, or it stays and the refusal is reported.
      cases hconfigurable : slot.configurable with
      | true =>
          have hm' : (m.realm.update o (·.erase key)).config.strict = false := hm
          simp only [hconfigurable, if_true]
          exact .done (Machine.twins_harden
            (m := { m with realm := m.realm.update o (·.erase key) }) hm')
      | false =>
          have hstrict : m.harden.realm.config.strict = true := rfl
          simp only [hconfigurable, hm, hstrict]
          exact .refused (.cannotDelete key) (Machine.twins_harden hm)

/-- A host is asked to delete a property without regard to strictness, and
gives the same answer. -/
theorem delete_foreign_twins (hm : m.realm.config.strict = false) {host : P.Host}
    (ho : (m.realm.record o).kind.host? = some host) (key : PropertyKey) :
    ∃ m' n', m'.Twins n' ∧ delete o key m = .done (P.hosts.delete host key m.memory).1 m' ∧
      delete o key m.harden = .done (P.hosts.delete host key m.memory).1 n' := by
  have ho' : (m.harden.realm.record o).kind.host? = some host := ho
  -- The host sees its storage and the memory, and both are the same.
  obtain ⟨k, hask, hask', hk⟩ : ∃ k,
      Action.askHost o (P.hosts.delete host key) m
        = .done (P.hosts.delete host key m.memory).1 k ∧
      Action.askHost o (P.hosts.delete host key) m.harden
        = .done (P.hosts.delete host key m.memory).1 k.harden ∧
      k.realm.config.strict = m.realm.config.strict := ⟨_, rfl, rfl, rfl⟩
  rw [hm] at hk
  refine ⟨k, k.harden, Machine.twins_harden hk, ?_, ?_⟩
  · rw [delete_of_foreign ho, hask]
  · rw [delete_of_foreign ho', hask']

end Object

open Object

/-- What two twins have in common, for a property of an object. -/
structure Strictness (hooks : Hooks P) (m n : Machine P) (o : Handle) (key : PropertyKey)
    (value : Value) : Prop where
  /-- An assignment that runs no setter corresponds, whatever objects are
  foreign. -/
  assign : hooks.RunsNothing (Object.assign · o key value false) m →
    (Object.assign hooks o key value false m).Corresponds (Object.assign hooks o key value false n)
  /-- So does a deletion, unless the object is foreign. -/
  delete : (m.realm.record o).kind.host? = none →
    (Object.delete o key m).Corresponds (Object.delete o key n)
  /-- The answer of a host to a deletion is the answer of both. -/
  foreign : ∀ host, (m.realm.record o).kind.host? = some host → ∃ m' n', m'.Twins n' ∧
    Object.delete o key m = .done (P.hosts.delete host key m.memory).1 m' ∧
    Object.delete o key n = .done (P.hosts.delete host key m.memory).1 n'
  /-- A strict realm says no where the host of a foreign object does. -/
  denied : (∃ n', Object.delete o key n = .done false n') ↔
    ∃ host, (m.realm.record o).kind.host? = some host ∧
      (P.hosts.delete host key m.memory).1 = false

/-- Strictness changes how refusals are reported, and nothing else, but for
what hosts refuse to delete. -/
theorem strictness_reports (embedder : Embedder P) (rounds depth : Nat) {m n : Machine P}
    (htwins : m.Twins n) (o : Handle) (key : PropertyKey) (value : Value) :
    Strictness (embedder.hooks rounds depth) m n o key value := by
  have hm := htwins.lenient
  -- The twin is the machine made strict, and everything below is about that one.
  obtain rfl := htwins.eq_harden
  constructor
  case assign => exact assign_corresponds (embedder.discerning_hooks rounds depth) hm
  case delete => exact fun ho => delete_corresponds hm ho key
  case foreign => exact fun host ho => delete_foreign_twins hm ho key
  case denied =>
    constructor
    · rintro ⟨n', hdenied⟩
      -- Only a foreign object can answer no, since a refusal by the library is a fault here.
      cases ho : (m.realm.record o).kind.host? with
      | none => exact absurd hdenied ((delete_corresponds hm ho key).ne_denied n')
      | some host =>
          obtain ⟨m', n'', -, -, hdelete⟩ := delete_foreign_twins hm ho key
          rw [hdelete] at hdenied
          exact ⟨host, rfl, (Outcome.done.inj hdenied).1⟩
    · rintro ⟨host, ho, hrefuses⟩
      obtain ⟨m', n', -, -, hdelete⟩ := delete_foreign_twins hm ho key
      rw [hrefuses] at hdelete
      exact ⟨n', hdelete⟩

/-- A realm with a foreign object that lets nothing be written or removed, and
an heir of it with a value that cannot be written or deleted. -/
def guardedRealm : Realm Platform.bags where
  objects := #[.create (.foreign
      { entries := [(.index 1, some .null)], refusesPut := true, allowsDelete := false }) none,
    (.create .ordinary (some ⟨0⟩) : ObjectRecord Platform.bags).insert (.index 2)
      ⟨.data .null false, true, false⟩]
  config := {}
  nextSymbol := Symbol.firstFree

/-- The heir cannot assign to its own value, nor to that of the foreign object.
Either is denied in the lenient realm and a fault in the strict one. -/
theorem strictness_reports_guarded :
    (⟨guardedRealm, ()⟩ : Machine Platform.bags).Twins ⟨guardedRealm.harden, ()⟩ ∧
      ∀ key ∈ [PropertyKey.index 1, .index 2],
        ((Embedder.idle Platform.bags).hooks 1 1).RunsNothing
          (assign · ⟨1⟩ key .undefined false) ⟨guardedRealm, ()⟩ ∧
        ∃ m' n' cause, m'.Twins n' ∧
          assign ((Embedder.idle Platform.bags).hooks 1 1) ⟨1⟩ key .undefined false
            ⟨guardedRealm, ()⟩ = .done false m' ∧
          assign ((Embedder.idle Platform.bags).hooks 1 1) ⟨1⟩ key .undefined false
            ⟨guardedRealm.harden, ()⟩ = .failed (.type cause) n' := by
  have htwins : (⟨guardedRealm, ()⟩ : Machine Platform.bags).Twins ⟨guardedRealm.harden, ()⟩ :=
    Machine.twins_harden (m := ⟨guardedRealm, ()⟩) rfl
  refine ⟨htwins, fun key hkey => ?_⟩
  have hruns : ((Embedder.idle Platform.bags).hooks 1 1).RunsNothing
      (assign · ⟨1⟩ key .undefined false) ⟨guardedRealm, ()⟩ := by
    apply runsNothing_of_assignment
    intro f hsetter
    simp only [List.mem_cons, List.not_mem_nil, or_false] at hkey
    rcases hkey with rfl | rfl <;> cases hsetter
  have hdenied : ∃ m', assign ((Embedder.idle Platform.bags).hooks 1 1) ⟨1⟩ key .undefined false
      ⟨guardedRealm, ()⟩ = .done false m' := by
    simp only [List.mem_cons, List.not_mem_nil, or_false] at hkey
    rcases hkey with rfl | rfl <;> exact ⟨_, rfl⟩
  obtain ⟨m', hdenied⟩ := hdenied
  have hcorresponds := (strictness_reports (Embedder.idle Platform.bags) 1 1 htwins ⟨1⟩ key
    .undefined).assign hruns
  rw [hdenied] at hcorresponds
  -- What the strict machine comes to is read off the correspondence.
  generalize hend : assign ((Embedder.idle Platform.bags).hooks 1 1) ⟨1⟩ key .undefined false
    ⟨guardedRealm.harden, ()⟩ = outcome at hcorresponds
  cases hcorresponds with
  | refused cause htwins' => exact ⟨hruns, m', _, cause, htwins', hdenied, rfl⟩

/-- A strict realm answers no where a host lets nothing be removed. So
deletions do not correspond as long as foreign objects are among them. -/
theorem delete_not_strict :
    ¬ ∀ (m n : Machine Platform.bags), m.Twins n → ∀ o key,
      (delete o key m).Corresponds (delete o key n) := by
  intro hcorresponds
  have htwins : (⟨guardedRealm, ()⟩ : Machine Platform.bags).Twins ⟨guardedRealm.harden, ()⟩ :=
    Machine.twins_harden (m := ⟨guardedRealm, ()⟩) rfl
  -- The foreign object keeps its entry and says so, also in the strict realm.
  have hdenied : delete ⟨0⟩ (.index 1) (⟨guardedRealm.harden, ()⟩ : Machine Platform.bags)
      = .done false ⟨guardedRealm.harden, ()⟩ := rfl
  exact (hcorresponds _ _ htwins ⟨0⟩ (.index 1)).ne_denied _ hdenied

end ScriptRealm
