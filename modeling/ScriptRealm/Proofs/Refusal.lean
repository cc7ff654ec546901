import ScriptRealm.Proofs.Handles.Walk
import ScriptRealm.Proofs.Redefinition
import ScriptRealm.Proofs.Writing

/-!
# `ScriptRealm.Proofs.Refusal`: what is refused is not begun

Nine requests change the properties or the prototype of an object, and every
one of them can be refused. Some say so in their answer and some by a fault.
`Request.Alone` is for those of them that no foreign object has a say in.

An assignment has the most ways to be refused. `Object.assignment` works out
what it has to do from the realm alone, before anything is done, and
`Object.assign_apply` says that this is then done. It does not read whether the
realm is strict. So a refusal is decided before the first change
(`refusals_unchanged`), unless a setter has run.

To run a setter is to call something that can be called. What cannot be called
is called in vain: hooks that run an embedder's code fail at once
(`Embedder.discerning_hooks`).

Each of the definitions and deletions has a form that fails where the plain
form answers no. Definitions take their keys to normal form in both forms.
Deletions do so in the failing form only, so the two forms can be about
different properties (`deleteOrFail_not_delete`).
-/

set_option autoImplicit false

namespace ScriptRealm

variable {P : Platform} {α : Type}

/-! ### Refusals -/

/-- An operation was refused, and left a machine: it failed, or its answer
denies that it was done. -/
inductive Outcome.Refused (denies : α → Prop) : Outcome P α → Machine P → Prop where
  | failed (fault : Fault) (k : Machine P) : Refused denies (.failed fault k) k
  | denied {a : α} (ha : denies a) (k : Machine P) : Refused denies (.done a k) k

/-- What was done was not refused. -/
theorem Outcome.not_refused_true {m k : Machine P} :
    ¬ (Outcome.done true m).Refused (· = false) k := by
  intro hrefused
  cases hrefused with
  | denied hfalse => cases hfalse

/-- The answers by which a request to change an object is denied. Those that
answer nothing fail instead. -/
def Request.Denies : (request : Request P) → request.Reply → Prop
  | .put .., reply => reply = false
  | .assign .., reply => reply = false
  | .delete .., reply => reply = false
  | .define .., reply => reply = false
  | .createData .., reply => reply = false
  | .setPrototype .., reply => reply = false
  | _, _ => False

/-- The requests to change a property or the prototype of an object that no
foreign object has a say in. An assignment asks the owner of the key too. -/
inductive Request.Alone (r : Realm P) : Request P → Prop where
  | put {o : Handle} (ho : (r.record o).kind.host? = none) (key : PropertyKey) (value : Value) :
      Alone r (.put o key value)
  | assign {o : Handle} {key : PropertyKey} (ho : (r.record o).kind.host? = none)
      (howner : ∀ w, r.owner? o key.canonical = some w → (r.record w).kind.host? = none)
      (value : Value) (strict : Bool) : Alone r (.assign o key value strict)
  | delete {o : Handle} (ho : (r.record o).kind.host? = none) (key : PropertyKey) :
      Alone r (.delete o key)
  | deleteOrFail {o : Handle} (ho : (r.record o).kind.host? = none) (key : PropertyKey) :
      Alone r (.deleteOrFail o key)
  | define {o : Handle} (ho : (r.record o).kind.host? = none) (key : PropertyKey)
      (d : Descriptor) : Alone r (.define o key d)
  | defineOrFail {o : Handle} (ho : (r.record o).kind.host? = none) (key : PropertyKey)
      (d : Descriptor) : Alone r (.defineOrFail o key d)
  | createData {o : Handle} (ho : (r.record o).kind.host? = none) (key : PropertyKey)
      (value : Value) : Alone r (.createData o key value)
  | createDataOrFail {o : Handle} (ho : (r.record o).kind.host? = none) (key : PropertyKey)
      (value : Value) : Alone r (.createDataOrFail o key value)
  | setPrototype {o : Handle} (ho : (r.record o).kind.host? = none)
      (prototype : Option Handle) : Alone r (.setPrototype o prototype)

/-! ### Calling what cannot be called -/

/-- What is wrong with calling a value that cannot be called. -/
def TypeCause.uncallable : Value → TypeCause
  | .object _ => .objectNotCallable
  | f => .notCallable f

/-- An operation runs no code of scripts: whatever it calls cannot be called. -/
def Hooks.RunsNothing (hooks : Hooks P) (op : Hooks P → Action P α) (m : Machine P) : Prop :=
  ∀ f this args k, hooks.Enters op m (.call f this args) k → k.realm.isCallable f = false

/-- Hooks that have no depth left for any call, or fail at once if what they
are to call cannot be called. -/
def Hooks.Discerning (hooks : Hooks P) : Prop :=
  (∀ f this args m, hooks.call f this args m = .exhausted) ∨
    ∀ f this args m, m.realm.isCallable f = false →
      hooks.call f this args m = .failed (.type (.uncallable f)) m

/-- To call what cannot be called fails at once, before any code has run. The
fault depends on whether the value is an object. -/
theorem Embedder.call_of_uncallable (embedder : Embedder P) (hooks : Hooks P) {m : Machine P}
    {f : Value} (hf : m.realm.isCallable f = false) (this : Value) (args : List Value) :
    embedder.call hooks f this args m = .failed (.type (.uncallable f)) m := by
  cases f with
  | object h =>
      have hkind : (m.realm.record h).kind.isCallable = false := hf
      -- A function can be called, and of the foreign objects some can.
      rw [Embedder.call, Action.bind_apply]
      simp only [Action.record]
      generalize (m.realm.record h).kind = kind at hkind
      cases kind with
      | function data => cases hkind
      | foreign host =>
          have hhost : P.hosts.isCallable host = false := hkind
          simp only [hhost]
          rfl
      | _ => rfl
  | _ => rfl

/-- The hooks that run an embedder's code are discerning, at every depth.
Without depth there is no call at all, and otherwise the embedder looks at the
value before it calls. -/
theorem Embedder.discerning_hooks (embedder : Embedder P) (rounds depth : Nat) :
    (embedder.hooks rounds depth).Discerning := by
  cases depth with
  | zero => exact .inl fun _ _ _ _ => rfl
  | succ depth =>
      exact .inr fun _ this args _ hf =>
        embedder.call_of_uncallable (embedder.hooks rounds depth) hf this args

/-! ### What an assignment has to do -/

namespace Object

/-- What is done to assign to a property. -/
inductive Assignment (P : Platform) where
  | refused (reason : WriteRefusal)
  | stored (slot : Slot)
  | setter (f : Value)
  /-- The host of an object is asked to take the value, and the reason is what
  its refusal is reported with. -/
  | handed (owner : Handle) (host : P.Host) (reason : WriteRefusal)

def Assignment.run (hooks : Hooks P) (o : Handle) (key : PropertyKey) (value : Value)
    (strict : Bool) : Assignment P → Action P Bool
  | .refused reason => refuse key reason strict
  | .stored slot => do
      Action.modify (·.insertSlot o key slot)
      return true
  | .setter f => do
      let _ ← hooks.call f (.object o) [value]
      return true
  | .handed owner host reason => do
      if ← hostPut owner host key value then
        return true
      else
        refuse key reason strict

/-- What is done to give an object a property that it has not got. -/
def addition (r : Realm P) (o : Handle) (value : Value) : Assignment P :=
  match (r.record o).kind.host? with
  | some host => .handed o host .nonExtensible
  | none =>
      if (r.record o).extensible then .stored (.plain value) else .refused .nonExtensible

/-- What is done to assign to a property of an object. The owner of the key
decides; where there is none, the object itself does. -/
def assignment (r : Realm P) (o : Handle) (key : PropertyKey) (value : Value) : Assignment P :=
  let owner := (r.owner? o key).getD o
  match (r.record owner).kind.host? with
  | some host => .handed owner host .hostManaged
  | none =>
      match (r.record owner).slot? key with
      | none => addition r o value
      | some slot =>
          match slot.content with
          | .data _ false => .refused .readOnly
          | .data _ true =>
              if owner = o then .stored { slot with content := .data value true }
              else addition r o value
          | .accessor _ .undefined => .refused .getterOnly
          | .accessor _ f => .setter f

variable {m k : Machine P} {r : Realm P} {o : Handle} {key : PropertyKey} {value : Value}

/-- An object that is not the owner has no slot for the key. If it had one,
the search for the owner would have ended with it. -/
theorem slot?_of_not_owner (hne : (r.owner? o key).getD o ≠ o)
    (hnative : (r.record o).kind.host? = none) : (r.record o).slot? key = none := by
  have hlacks : ¬ r.hasOwn o key = true := by
    intro hown
    apply hne
    rw [Realm.owner?_of_hasOwn hown, Option.getD_some]
  rw [Realm.hasOwn_of_native hnative] at hlacks
  simpa using hlacks

/-- An owner has a slot for the key. Where a slot is missing, there is no
owner. -/
theorem owner_of_slot?_none {w : Handle} (hw : (r.owner? o key).getD o = w)
    (hnative : (r.record w).kind.host? = none) (hslot : (r.record w).slot? key = none) :
    w = o := by
  cases howner : r.owner? o key with
  | none =>
      rw [howner, Option.getD_none] at hw
      exact hw.symm
  | some w' =>
      rw [howner, Option.getD_some] at hw
      subst hw
      have hown := Realm.hasOwn_of_owner? howner
      rw [Realm.hasOwn_of_native hnative, hslot] at hown
      cases hown

/-- Putting a property that an object has not got, and reporting a refusal as
an assignment does, is the addition of it. -/
theorem put_addition (hooks : Hooks P) (strict : Bool)
    (hnew : (m.realm.record o).kind.host? = none → (m.realm.record o).slot? key = none) :
    (do
      if ← put hooks o key value then return true
      else refuse key .nonExtensible strict : Action P Bool) m
      = (addition m.realm o value).run hooks o key value strict m := by
  rw [Action.bind_apply, addition]
  cases hhost : (m.realm.record o).kind.host? with
  | some host =>
      rw [put_of_foreign hooks (Kind.foreign_of_host? hhost) key value]
      rfl
  | none =>
      cases hextensible : (m.realm.record o).extensible with
      | true =>
          rw [put_of_new hooks hhost (hnew hhost) hextensible]
          rfl
      | false =>
          rw [put_of_nonExtensible hooks hhost (hnew hhost) hextensible]
          rfl

/-- What there is to be done to assign to a property is done. The program
finds this out while it goes along, and `assignment` says it beforehand, from
the realm alone. -/
theorem assign_apply (hooks : Hooks P) (m : Machine P) (o : Handle) (key : PropertyKey)
    (value : Value) (strict : Bool) :
    assign hooks o key value strict m
      = (assignment m.realm o key.canonical value).run hooks o key.canonical value strict m := by
  unfold assign assignment
  rw [Action.bind_apply]
  simp only [Action.realm]
  -- The owner is looked for once, and may be the object itself for want of another.
  have hself {w : Handle} (hw : (m.realm.owner? o key.canonical).getD o = w) :=
    owner_of_slot?_none hw
  have hlacks (hne : (m.realm.owner? o key.canonical).getD o ≠ o) := slot?_of_not_owner hne
  generalize (m.realm.owner? o key.canonical).getD o = w at hself hlacks
  cases hhost : (m.realm.record w).kind.host? with
  | some host => rfl
  | none =>
      cases hslot : (m.realm.record w).slot? key.canonical with
      | none =>
          -- An owner would have a slot, so the object itself is asked.
          obtain rfl := hself rfl hhost hslot
          simp only [addition, hhost]
          split <;> rfl
      | some slot =>
          obtain ⟨content, enumerable, configurable⟩ := slot
          cases content with
          | data old writable =>
              cases writable with
              | false => rfl
              | true =>
                  by_cases hw : w = o
                  · simp only [hw, if_true]
                    rfl
                  · -- The value is inherited, and the object has to shadow it.
                    simp only [hw, if_false]
                    exact put_addition hooks strict (hlacks hw)
          | accessor get set => cases set <;> rfl

/-- A host is handed the value only if the object or the owner is foreign.
Nobody else is asked to take it. -/
theorem assignment_ne_handed (ho : (r.record o).kind.host? = none)
    (howner : ∀ w, r.owner? o key = some w → (r.record w).kind.host? = none)
    (w : Handle) (host : P.Host) (reason : WriteRefusal) :
    assignment r o key value ≠ .handed w host reason := by
  -- Whoever decides is not foreign, and the object that may have to add the
  -- property is not either.
  have hnative : (r.record ((r.owner? o key).getD o)).kind.host? = none := by
    cases hfound : r.owner? o key with
    | none => exact ho
    | some w => exact howner w hfound
  have haddition : addition r o value ≠ .handed w host reason := by
    simp only [addition, ho]
    split <;> simp
  simp only [assignment, hnative]
  split
  · exact haddition
  · split
    · simp
    · split
      · simp
      · exact haddition
    · simp
    · simp

/-! ### Each of the requests -/

/-- What an operation fails with after a call of something that cannot be
called is the fault of that call. -/
theorem setter_refused {hooks : Hooks P} (hhooks : hooks.Discerning) {f this : Value}
    {args : List Value} (hf : m.realm.isCallable f = false)
    (hrefused : Outcome.Refused (· = false)
      ((do
        let _ ← hooks.call f this args
        return true : Action P Bool) m) k) : k = m := by
  rw [Action.bind_apply] at hrefused
  rcases hhooks with hexhausted | hfails
  · rw [hexhausted] at hrefused
    cases hrefused
  · rw [hfails f this args m hf] at hrefused
    cases hrefused
    rfl

/-- A refused `put` on an object that is not foreign changes nothing, if it
runs nothing. The setter that it may have to call cannot be called, so the
call fails before it starts. -/
theorem put_refused {hooks : Hooks P} (hhooks : hooks.Discerning)
    (ho : (m.realm.record o).kind.host? = none)
    (hruns : hooks.RunsNothing (put · o key value) m)
    (hrefused : (put hooks o key value m).Refused (· = false) k) : k = m := by
  obtain ⟨writing, hwrites⟩ := exists_writes m.realm o key value
  rw [hwrites.put_eq] at hrefused
  cases writing with
  | refused =>
      cases hrefused
      rfl
  | stored slot => exact absurd hrefused Outcome.not_refused_true
  | setter f =>
      apply setter_refused hhooks _ hrefused
      apply hruns f (.object o) [value]
      rw [Hooks.enters_congr hwrites.put_eq, Writing.enters_run_iff]
      exact ⟨f, rfl, rfl, rfl⟩
  | handed host =>
      -- Only a foreign object is handed a value.
      cases hwrites with
      | foreign hhost =>
          rw [ho] at hhost
          cases hhost

/-- An assignment that finds a setter calls it, with the object and the value,
in the machine as it was. -/
theorem Assignment.enters_setter (hooks : Hooks P) (m : Machine P) (o : Handle)
    (key : PropertyKey) (value : Value) (strict : Bool) (f : Value) :
    hooks.Enters ((Assignment.setter f).run · o key value strict) m
      (.call f (.object o) [value]) m := by
  have hcall : hooks.Enters
      (fun hooks => hooks.call f (.object o) [value] >>= fun _ => pure true) m
        (.call f (.object o) [value]) m := by
    rw [Hooks.enters_bind_const_iff _ (Action.Relays.call f (.object o) [value]),
      Hooks.enters_call_iff]
    exact ⟨rfl, rfl⟩
  exact hcall

/-- The setter of an assignment that runs nothing cannot be called. The call
is what the assignment comes to, so it is among what is said to run
nothing. -/
theorem isCallable_of_runsNothing {hooks : Hooks P} {strict : Bool} {f : Value}
    (hruns : hooks.RunsNothing (assign · o key value strict) m)
    (hsetter : assignment m.realm o key.canonical value = .setter f) :
    m.realm.isCallable f = false := by
  apply hruns f (.object o) [value]
  rw [Hooks.enters_congr fun hooks => assign_apply hooks m o key value strict, hsetter]
  exact Assignment.enters_setter hooks m o key.canonical value strict f

/-- An assignment that has no setter to call runs nothing. All else that it
may have to do is done without the hooks. -/
theorem runsNothing_of_assignment {hooks : Hooks P} {strict : Bool}
    (hother : ∀ f, assignment m.realm o key.canonical value ≠ .setter f) :
    hooks.RunsNothing (assign · o key value strict) m := by
  intro f this args k henters
  rw [Hooks.enters_congr fun hooks => assign_apply hooks m o key value strict] at henters
  cases hdoes : assignment m.realm o key.canonical value with
  | setter f => exact absurd hdoes (hother f)
  | _ =>
      rw [hdoes] at henters
      exact absurd henters (Hooks.not_enters_const _)

/-- A refused assignment changes nothing, if no foreign object is involved and
nothing is run. The cases are those of what there is to be done; to store a
value is never refused. -/
theorem assign_refused {hooks : Hooks P} (hhooks : hooks.Discerning) {strict : Bool}
    (ho : (m.realm.record o).kind.host? = none)
    (howner : ∀ w, m.realm.owner? o key.canonical = some w →
      (m.realm.record w).kind.host? = none)
    (hruns : hooks.RunsNothing (assign · o key value strict) m)
    (hrefused : (assign hooks o key value strict m).Refused (· = false) k) : k = m := by
  rw [assign_apply] at hrefused
  cases hdoes : assignment m.realm o key.canonical value with
  | refused reason =>
      rw [hdoes, Assignment.run, refuse_apply, refusal] at hrefused
      split at hrefused <;>
      · cases hrefused
        rfl
  | stored slot =>
      rw [hdoes] at hrefused
      exact absurd hrefused Outcome.not_refused_true
  | setter f =>
      rw [hdoes] at hrefused
      exact setter_refused hhooks (isCallable_of_runsNothing hruns hdoes) hrefused
  | handed w host reason => exact absurd hdoes (assignment_ne_handed ho howner w host reason)

/-- A slot that is not configurable is all that keeps an object that is not
foreign from a deletion. -/
theorem delete_of_native (ho : (m.realm.record o).kind.host? = none) (key : PropertyKey) :
    delete o key m = match (m.realm.record o).slot? key with
      | none => .done true m
      | some slot =>
          if slot.configurable then
            .done true { m with realm := m.realm.update o (·.erase key) }
          else if m.realm.config.strict then .failed (.type (.cannotDelete key)) m
          else .done false m := by
  unfold delete
  rw [Action.bind_apply]
  simp only [Action.realm, ho]
  cases (m.realm.record o).slot? key with
  | none => rfl
  | some slot =>
      simp only
      split
      · rfl
      · split <;> rfl

/-- The host of a foreign object is asked, and its answer is the answer. -/
theorem delete_of_foreign {host : P.Host} (ho : (m.realm.record o).kind.host? = some host)
    (key : PropertyKey) : delete o key m = Action.askHost o (P.hosts.delete host key) m := by
  unfold delete
  rw [Action.bind_apply]
  simp only [Action.realm, ho]

/-- A refused deletion leaves the machine as it was, if the object is not
foreign. Whether it fails or answers no depends on the realm, and in neither
case is a slot erased. -/
theorem delete_refused (ho : (m.realm.record o).kind.host? = none)
    (hrefused : (delete o key m).Refused (· = false) k) : k = m := by
  rw [delete_of_native ho] at hrefused
  cases hslot : (m.realm.record o).slot? key with
  | none =>
      rw [hslot] at hrefused
      exact absurd hrefused Outcome.not_refused_true
  | some slot =>
      simp only [hslot] at hrefused
      split at hrefused
      · exact absurd hrefused Outcome.not_refused_true
      · split at hrefused <;>
        · cases hrefused
          rfl

/-- A refused definition leaves the machine as it was, if the object is not
foreign. Either the descriptor is mixed, and fails before the object is looked
at, or it is rejected. -/
theorem define_refused {d : Descriptor} (ho : (m.realm.record o).kind.host? = none)
    (hrefused : (define o key d m).Refused (· = false) k) : k = m := by
  cases hmixed : d.isMixed with
  | true =>
      rw [define, if_pos hmixed] at hrefused
      cases hrefused
      rfl
  | false =>
      rw [define_of_native hmixed ho] at hrefused
      simp only [Action.modifyGet, Realm.applyDescriptor] at hrefused
      -- What is rejected leaves the realm, and the other verdicts are no refusals.
      split at hrefused
      · cases hrefused
        rfl
      · exact absurd hrefused Outcome.not_refused_true
      · exact absurd hrefused Outcome.not_refused_true

/-- Creating a data property is a definition, so a refusal changes nothing
here either. -/
theorem createData_refused (ho : (m.realm.record o).kind.host? = none)
    (hrefused : (createData o key value m).Refused (· = false) k) : k = m :=
  define_refused ho hrefused

/-- Where the prototype cannot be set, the old one stays, and all else with
it. -/
theorem setPrototype_refused {prototype : Option Handle}
    (hrefused : Outcome.Refused (· = false)
      (Action.modifyGet (·.setPrototype o prototype) m) k) : k = m := by
  simp only [Action.modifyGet] at hrefused
  rcases m.realm.setPrototype_cases o prototype with hend | hend
  · rw [hend] at hrefused
    cases hrefused
    rfl
  · rw [hend] at hrefused
    exact absurd hrefused Outcome.not_refused_true

/-! ### The forms that fail -/

section OrFail

variable {x : Action P Bool} {fault fault' : Fault}

/-- A form that fails relays the faults of the plain form and has its own for
the answer no. There are no others, since it does nothing after the plain form
has answered. -/
theorem orFail_eq_failed_iff :
    (do unless ← x do Action.fail fault : Action P Unit) m = .failed fault' k ↔
      x m = .failed fault' k ∨ x m = .done false k ∧ fault' = fault := by
  rw [Action.bind_apply]
  cases x m with
  | done taken m' =>
      cases taken with
      | true => simp [pure, Action.pure]
      | false => simp [Action.fail, and_comm, eq_comm]
  | failed => simp
  | exhausted => simp

/-- What refuses a form that fails refuses the plain form. Either the plain
form has failed itself, or it has answered no and this was made a fault. -/
theorem refused_of_orFail (hrefused : Outcome.Refused (fun _ => False)
    ((do unless ← x do Action.fail fault : Action P Unit) m) k) :
    (x m).Refused (· = false) k := by
  generalize hend : (do unless ← x do Action.fail fault : Action P Unit) m = outcome at hrefused
  cases hrefused with
  | denied hfalse => exact hfalse.elim
  | failed fault' =>
      rcases orFail_eq_failed_iff.mp hend with hfailed | ⟨hdone, -⟩
      · rw [hfailed]
        exact .failed fault' k
      · rw [hdone]
        refine .denied ?_ k
        rfl

/-- A form fails with a type error exactly where the plain form is refused, if
the plain form has no other faults. -/
theorem orFail_fails_iff {cause : TypeCause}
    (htype : ∀ {fault k}, x m = .failed fault k → ∃ cause, fault = .type cause) :
    (∃ cause' k, (do unless ← x do Action.fail (.type cause) : Action P Unit) m
        = .failed (.type cause') k) ↔ ∃ k, (x m).Refused (· = false) k := by
  constructor
  · rintro ⟨cause', k, hfailed⟩
    have hrefused : Outcome.Refused (fun _ => False)
        ((do unless ← x do Action.fail (.type cause) : Action P Unit) m) k := by
      rw [hfailed]
      exact .failed _ k
    exact ⟨k, refused_of_orFail hrefused⟩
  · rintro ⟨k, hrefused⟩
    generalize hend : x m = outcome at hrefused
    cases hrefused with
    | failed fault =>
        obtain ⟨cause', rfl⟩ := htype hend
        exact ⟨cause', k, orFail_eq_failed_iff.mpr (.inl hend)⟩
    | denied hfalse =>
        subst hfalse
        exact ⟨cause, k, orFail_eq_failed_iff.mpr (.inr ⟨hend, rfl⟩)⟩

end OrFail

/-- A deletion has no faults but type errors. The host of a foreign object
answers and does not fail. -/
theorem delete_fault {fault : Fault} (hfailed : delete o key m = .failed fault k) :
    ∃ cause, fault = .type cause := by
  cases hhost : (m.realm.record o).kind.host? with
  | some host =>
      rw [delete_of_foreign hhost] at hfailed
      cases hfailed
  | none =>
      rw [delete_of_native hhost] at hfailed
      cases hslot : (m.realm.record o).slot? key with
      | none =>
          rw [hslot] at hfailed
          cases hfailed
      | some slot =>
          simp only [hslot] at hfailed
          split at hfailed
          · cases hfailed
          · split at hfailed
            · cases hfailed
              exact ⟨_, rfl⟩
            · cases hfailed

/-- A definition has no faults but type errors: there is one for mixed
descriptors, and all else is answered. -/
theorem define_fault {d : Descriptor} {fault : Fault}
    (hfailed : define o key d m = .failed fault k) : ∃ cause, fault = .type cause := by
  cases hmixed : d.isMixed with
  | true =>
      rw [define, if_pos hmixed] at hfailed
      cases hfailed
      exact ⟨_, rfl⟩
  | false =>
      cases hhost : (m.realm.record o).kind.host? with
      | none =>
          rw [define_of_native hmixed hhost] at hfailed
          cases hfailed
      | some host =>
          rw [define, if_neg (by simp [hmixed]), Action.bind_apply] at hfailed
          simp only [Action.record, hhost] at hfailed
          -- Whether there is a value to hand over or not, there is an answer.
          rcases hvalue : d.value with _ | value <;>
          rcases hfamily : d.family? with _ | _ | _ <;>
          · simp only [hvalue, hfamily] at hfailed
            cases hfailed

end Object

open Object

/-- What holds of refused requests in a machine. -/
structure Refusals (hooks : Hooks P) (m : Machine P) : Prop where
  /-- A request that was refused has changed nothing, unless a setter has
  run. -/
  unchanged : ∀ request : Request P, request.Alone m.realm →
    hooks.RunsNothing (Request.perform · request) m →
    ∀ k, (request.perform hooks m).Refused request.Denies k → k = m
  /-- The forms that fail do so exactly where the plain forms are refused. -/
  define : ∀ o key d, (∃ cause k, defineOrFail o key d m = .failed (.type cause) k) ↔
    ∃ k, (define o key d m).Refused (· = false) k
  createData : ∀ o key value,
    (∃ cause k, createDataOrFail o key value m = .failed (.type cause) k) ↔
      ∃ k, (createData o key value m).Refused (· = false) k
  /-- A deletion that fails is about the normal form of its key. -/
  delete : ∀ o key, (∃ cause k, deleteOrFail o key m = .failed (.type cause) k) ↔
    ∃ k, (delete o key.canonical m).Refused (· = false) k

/-- In every machine, a refused request changes nothing and the forms that
fail agree with the plain ones. -/
theorem refusals_unchanged (embedder : Embedder P) (rounds depth : Nat) (m : Machine P) :
    Refusals (embedder.hooks rounds depth) m := by
  have hhooks := embedder.discerning_hooks rounds depth
  constructor
  case unchanged =>
    intro request halone hruns k hrefused
    cases halone with
    | put ho key value => exact put_refused hhooks ho hruns hrefused
    | assign ho howner value strict => exact assign_refused hhooks ho howner hruns hrefused
    | delete ho key => exact delete_refused ho hrefused
    | deleteOrFail ho key => exact delete_refused ho (refused_of_orFail hrefused)
    | define ho key d => exact define_refused ho hrefused
    | defineOrFail ho key d => exact define_refused ho (refused_of_orFail hrefused)
    | createData ho key value => exact createData_refused ho hrefused
    | createDataOrFail ho key value => exact createData_refused ho (refused_of_orFail hrefused)
    | setPrototype ho prototype => exact setPrototype_refused hrefused
  case define => exact fun o key d => orFail_fails_iff define_fault
  case createData => exact fun o key value => orFail_fails_iff define_fault
  case delete => exact fun o key => orFail_fails_iff delete_fault

/-- A realm with one object. It has a value under an index, which cannot be
deleted, and a setter that cannot be called. -/
def lockedRealm : Realm Platform.fixed where
  objects := #[((.create .ordinary none : ObjectRecord Platform.fixed).insert (.index 1)
      ⟨.data .null false, false, false⟩).insert (.index 2)
        ⟨.accessor .undefined (.boolean true), true, true⟩]
  config := {}
  nextSymbol := Symbol.firstFree

/-- Calling the setter is refused, and leaves no trace. The setter is a value
that cannot be called, which shows only when it is called. -/
theorem refusals_unchanged_uncallable :
    (Request.put ⟨0⟩ (.index 2) .null).Alone lockedRealm ∧
      (Embedder.fixed.hooks 1 1).RunsNothing (put · ⟨0⟩ (.index 2) .null) ⟨lockedRealm, ()⟩ ∧
      ∃ k, (put (Embedder.fixed.hooks 1 1) ⟨0⟩ (.index 2) .null ⟨lockedRealm, ()⟩).Refused
        (· = false) k ∧ k = ⟨lockedRealm, ()⟩ := by
  have halone : (Request.put ⟨0⟩ (.index 2) .null).Alone lockedRealm := .put rfl _ _
  have hwrites : Writes lockedRealm ⟨0⟩ (.index 2) .null (.setter (.boolean true)) :=
    .setter rfl rfl (by decide)
  have hruns : (Embedder.fixed.hooks 1 1).RunsNothing (put · ⟨0⟩ (.index 2) .null)
      ⟨lockedRealm, ()⟩ := by
    intro f this args k henters
    rw [Hooks.enters_congr fun hooks => hwrites.put_eq (m := ⟨lockedRealm, ()⟩) hooks,
      Writing.enters_run_iff] at henters
    obtain ⟨f', hsetter, hentry, -⟩ := henters
    cases hsetter
    cases hentry
    rfl
  have hrefused : (put (Embedder.fixed.hooks 1 1) ⟨0⟩ (.index 2) .null
      ⟨lockedRealm, ()⟩).Refused (· = false) ⟨lockedRealm, ()⟩ := .failed _ _
  exact ⟨halone, hruns, _, hrefused,
    (refusals_unchanged Embedder.fixed 1 1 ⟨lockedRealm, ()⟩).unchanged _ halone hruns _ hrefused⟩

/-- Where the index is spelt as a text, the deletion that fails is about the
value, and the plain one is about nothing and not refused. -/
theorem deleteOrFail_not_delete :
    ¬ ∀ (m : Machine Platform.fixed) (o : Handle) (key : PropertyKey),
      (∃ cause k, deleteOrFail o key m = .failed (.type cause) k) ↔
        ∃ k, (delete o key m).Refused (· = false) k := by
  intro hagree
  have hfails : deleteOrFail ⟨0⟩ (.string "1") ⟨lockedRealm, ()⟩
      = .failed (.type (.cannotDelete (.string "1"))) ⟨lockedRealm, ()⟩ := rfl
  have hdone : delete ⟨0⟩ (.string "1") ⟨lockedRealm, ()⟩ = .done true ⟨lockedRealm, ()⟩ := rfl
  obtain ⟨k, hrefused⟩ := (hagree _ _ _).mp ⟨_, _, hfails⟩
  rw [hdone] at hrefused
  exact absurd hrefused Outcome.not_refused_true

end ScriptRealm
