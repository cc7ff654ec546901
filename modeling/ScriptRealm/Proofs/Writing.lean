import ScriptRealm.Proofs.Assignment
import ScriptRealm.Proofs.HostIntegrity

/-!
# `ScriptRealm.Proofs.Writing`: two ways to write a property

`Object.put` writes to one object and asks no other. `Object.assign` first
finds the owner of the key, and a refusal is a fault there if the caller or the
realm is strict. Where nothing is inherited under a key and nobody is strict,
there should be no difference between the two.

`Object.Writes` says what writing to an object alone comes to, from what the
object has under the key. It is a refusal, a slot that is stored, the call of a
setter or a question to the host. Both ways are shown to come to that
(`Object.Writes.put_eq` and `Object.Writes.assign_eq`), so they give the same
answer, leave the same machine and start the same code (`assign_coincides`).
-/

set_option autoImplicit false

namespace ScriptRealm

variable {P : Platform}

namespace Realm

variable {r : Realm P} {o : Handle} {key : PropertyKey}

/-- The object has the key itself, or nothing on its chain has. -/
def Uninherited (r : Realm P) (o : Handle) (key : PropertyKey) : Prop :=
  r.hasOwn o key = true ∨ ∀ w ∈ r.chain o, r.hasOwn w key = false

/-- The owner of what is not inherited can only be the object. -/
theorem Uninherited.owner?_getD (hown : r.Uninherited o key) : (r.owner? o key).getD o = o := by
  rcases hown with hown | hlacks
  · rw [owner?_of_hasOwn hown, Option.getD_some]
  · rw [owner?_of_lacks hlacks, Option.getD_none]

/-- There is no owner of what is not inherited and not there. -/
theorem Uninherited.owner?_eq_none (hown : r.Uninherited o key)
    (hlacks : r.hasOwn o key = false) : r.owner? o key = none := by
  rcases hown with hown | hlacks
  · rw [hown] at hlacks
    cases hlacks
  · exact owner?_of_lacks hlacks

end Realm

namespace Object

/-- What is done to write a property. -/
inductive Writing (P : Platform) where
  | refused
  | stored (slot : Slot)
  | setter (f : Value)
  | handed (host : P.Host)

/-- A setter is called once on the object with the value, and a host is asked
once to take it. -/
def Writing.run (hooks : Hooks P) (o : Handle) (key : PropertyKey) (value : Value) :
    Writing P → Action P Bool
  | .refused => return false
  | .stored slot => do
      Action.modify (·.insertSlot o key slot)
      return true
  | .setter f => do
      let _ ← hooks.call f (.object o) [value]
      return true
  | .handed host => Action.askHost o (P.hosts.put host key value)

/-- What is done to write a value under a key of an object, inheriting
nothing. -/
inductive Writes (r : Realm P) (o : Handle) (key : PropertyKey) (value : Value) :
    Writing P → Prop where
  | foreign {host : P.Host} (hhost : (r.record o).kind.host? = some host) :
      Writes r o key value (.handed host)
  | readOnly {old : Value} (hnative : (r.record o).kind.host? = none)
      (hcontent : r.content? o key = some (.data old false)) : Writes r o key value .refused
  | overwritten {slot : Slot} {old : Value} (hnative : (r.record o).kind.host? = none)
      (hslot : (r.record o).slot? key = some slot) (hcontent : slot.content = .data old true) :
      Writes r o key value (.stored { slot with content := .data value true })
  | setterless {get : Value} (hnative : (r.record o).kind.host? = none)
      (hcontent : r.content? o key = some (.accessor get .undefined)) :
      Writes r o key value .refused
  | setter {get set : Value} (hnative : (r.record o).kind.host? = none)
      (hcontent : r.content? o key = some (.accessor get set)) (hset : set ≠ .undefined) :
      Writes r o key value (.setter set)
  | nonExtensible (hnative : (r.record o).kind.host? = none)
      (hnew : (r.record o).slot? key = none) (hextensible : (r.record o).extensible = false) :
      Writes r o key value .refused
  | added (hnative : (r.record o).kind.host? = none) (hnew : (r.record o).slot? key = none)
      (hextensible : (r.record o).extensible = true) :
      Writes r o key value (.stored (.plain value))

/-- Assigning to a property and putting it come to the same. -/
structure Coincide (hooks : Hooks P) (m : Machine P) (o : Handle) (key : PropertyKey)
    (value : Value) : Prop where
  same : assign hooks o key value false m = put hooks o key value m
  /-- There is something to be done, and that is done. -/
  written : (∃ writing, Writes m.realm o key value writing) ∧
    ∀ writing, Writes m.realm o key value writing →
      put hooks o key value m = writing.run hooks o key value m
  sameStarts : ∀ entry k, hooks.Enters (assign · o key value false) m entry k ↔
    hooks.Enters (put · o key value) m entry k
  /-- The setter of the object is the only code that is started. -/
  starts : ∀ entry k, hooks.Enters (put · o key value) m entry k ↔
    ∃ f, Writes m.realm o key value (.setter f) ∧ entry = .call f (.object o) [value] ∧ k = m

variable {m : Machine P} {r : Realm P} {o : Handle} {key : PropertyKey} {value : Value}
  {writing : Writing P}

/-- There is always something to be done. The kind of the object is asked
first, then its slot, and the content of the slot or the extensibility
decides. -/
theorem exists_writes (r : Realm P) (o : Handle) (key : PropertyKey) (value : Value) :
    ∃ writing, Writes r o key value writing := by
  cases hhost : (r.record o).kind.host? with
  | some host => exact ⟨_, .foreign hhost⟩
  | none =>
      cases hslot : (r.record o).slot? key with
      | none =>
          cases hextensible : (r.record o).extensible with
          | false => exact ⟨_, .nonExtensible hhost hslot hextensible⟩
          | true => exact ⟨_, .added hhost hslot hextensible⟩
      | some slot =>
          -- Most rules are about the content under the key, one is about the whole slot.
          have hcontent : r.content? o key = some slot.content :=
            congrArg (Option.map Slot.content) hslot
          cases hslotContent : slot.content with
          | data old writable =>
              cases writable with
              | false => exact ⟨_, .readOnly hhost (hcontent.trans (congrArg some hslotContent))⟩
              | true => exact ⟨_, .overwritten hhost hslot hslotContent⟩
          | accessor get set =>
              rw [hslotContent] at hcontent
              by_cases hset : set = .undefined
              · subst hset
                exact ⟨_, .setterless hhost hcontent⟩
              · exact ⟨_, .setter hhost hcontent hset⟩

/-- A slot decides what putting its property does. Only the object's own slots
count, and no prototype is asked. -/
theorem put_of_slot (hooks : Hooks P) {slot : Slot}
    (hnative : (m.realm.record o).kind.host? = none)
    (hslot : (m.realm.record o).slot? key = some slot) :
    put hooks o key value m = (match slot.content with
      | .data _ false => pure false
      | .data _ true => do
          overwrite o key slot value
          return true
      | .accessor _ .undefined => pure false
      | .accessor _ setter => do
          let _ ← hooks.call setter (.object o) [value]
          return true : Action P Bool) m := by
  unfold put
  rw [Action.bind_apply]
  simp only [Action.record, hnative, hslot]
  obtain ⟨content, enumerable, configurable⟩ := slot
  cases content with
  | data old writable => cases writable <;> rfl
  | accessor get set => cases set <;> rfl

/-- Putting a property does what there is to be done, one rule after the
other. -/
theorem Writes.put_eq (hwrites : Writes m.realm o key value writing) (hooks : Hooks P) :
    put hooks o key value m = writing.run hooks o key value m := by
  cases hwrites with
  | foreign hhost => exact put_of_foreign hooks (Kind.foreign_of_host? hhost) key value
  | added hnative hnew hextensible => exact put_of_new hooks hnative hnew hextensible value
  | nonExtensible hnative hnew hextensible =>
      exact put_of_nonExtensible hooks hnative hnew hextensible value
  | readOnly hnative hcontent =>
      obtain ⟨slot, hslot, hcontent⟩ := Option.map_eq_some_iff.mp hcontent
      rw [put_of_slot hooks hnative hslot, hcontent]
      rfl
  | overwritten hnative hslot hcontent =>
      rw [put_of_slot hooks hnative hslot, hcontent]
      rfl
  | setterless hnative hcontent =>
      obtain ⟨slot, hslot, hcontent⟩ := Option.map_eq_some_iff.mp hcontent
      rw [put_of_slot hooks hnative hslot, hcontent]
      rfl
  | @setter get set hnative hcontent hset =>
      obtain ⟨slot, hslot, hcontent⟩ := Option.map_eq_some_iff.mp hcontent
      rw [put_of_slot hooks hnative hslot, hcontent]
      cases set with
      -- The program asks for the missing setter before it takes any other value for one.
      | undefined => exact absurd rfl hset
      | _ => rfl

/-- Where nobody is strict a refusal is an answer. -/
theorem refusal_of_lenient (hstrict : m.realm.config.strict = false) (key : PropertyKey)
    (reason : WriteRefusal) : refusal m key reason false = .done false m := by
  rw [refusal, hstrict]
  rfl

/-- A foreign object that is the owner, or would be, is handed the value. If
it does not take it the assignment is refused, which is an answer where nobody
is strict, so that putting the value is all there is. -/
theorem assign_of_foreign (hooks : Hooks P) {host : P.Host}
    (howner : (m.realm.owner? o key.canonical).getD o = o)
    (hhost : (m.realm.record o).kind.host? = some host)
    (hstrict : m.realm.config.strict = false) :
    assign hooks o key value false m = hostPut o host key.canonical value m := by
  unfold assign
  rw [Action.bind_apply]
  simp only [Action.realm, howner, hhost]
  -- A host changes its storage and the memory, and nobody becomes strict.
  obtain ⟨taken, k, hput, hconfig⟩ : ∃ taken k,
      hostPut o host key.canonical value m = .done taken k ∧
        k.realm.config = m.realm.config := ⟨_, _, rfl, rfl⟩
  rw [Action.bind_apply, hput]
  cases taken with
  | true => rfl
  | false =>
      rw [← hconfig] at hstrict
      exact (refuse_apply k _ _ _).trans (refusal_of_lenient hstrict _ _)

/-- Assigning to a property does what there is to be done, if nothing is
inherited and nobody is strict. -/
theorem Writes.assign_eq (hwrites : Writes m.realm o key.canonical value writing)
    (hown : m.realm.Uninherited o key.canonical) (hstrict : m.realm.config.strict = false)
    (hooks : Hooks P) :
    assign hooks o key value false m = writing.run hooks o key.canonical value m := by
  have hrefuse (reason : WriteRefusal) : refuse key.canonical reason false m = .done false m := by
    rw [refuse_apply, refusal_of_lenient hstrict]
  -- A slot makes the object the owner.
  have howner {slot : Slot} (hnative : (m.realm.record o).kind.host? = none)
      (hslot : (m.realm.record o).slot? key.canonical = some slot) :
      m.realm.owner? o key.canonical = some o := by
    apply Realm.owner?_of_hasOwn
    rw [Realm.hasOwn_of_native hnative, hslot]
    rfl
  -- Without one there is no owner, and the object is left to decide.
  have hnew (hnative : (m.realm.record o).kind.host? = none)
      (hslot : (m.realm.record o).slot? key.canonical = none) :
      assign hooks o key value false m = if (m.realm.record o).extensible
        then .done true { m with realm := m.realm.insertSlot o key.canonical (.plain value) }
        else refusal m key.canonical .nonExtensible false := by
    have hnone : m.realm.owner? o key.canonical = none := by
      apply hown.owner?_eq_none
      rw [Realm.hasOwn_of_native hnative, hslot]
      rfl
    exact assign_of_needsNew hooks false (.inl hnone) (by simp [hnone]) hnative hslot
  -- Now it is rule by rule as for putting, with a refusal for the answer `false`.
  cases hwrites with
  | foreign hhost => exact assign_of_foreign hooks hown.owner?_getD hhost hstrict
  | added hnative hslot hextensible =>
      rw [hnew hnative hslot, hextensible]
      rfl
  | nonExtensible hnative hslot hextensible =>
      rw [hnew hnative hslot, hextensible]
      exact refusal_of_lenient hstrict _ _
  | readOnly hnative hcontent =>
      obtain ⟨slot, hslot, hcontent⟩ := Option.map_eq_some_iff.mp hcontent
      rw [assign_of_slot hooks false (howner hnative hslot) hnative hslot, hcontent]
      exact hrefuse .readOnly
  | overwritten hnative hslot hcontent =>
      rw [assign_of_slot hooks false (howner hnative hslot) hnative hslot, hcontent]
      simp only [if_true]
      rfl
  | setterless hnative hcontent =>
      obtain ⟨slot, hslot, hcontent⟩ := Option.map_eq_some_iff.mp hcontent
      rw [assign_of_slot hooks false (howner hnative hslot) hnative hslot, hcontent]
      exact hrefuse .getterOnly
  | @setter get set hnative hcontent hset =>
      obtain ⟨slot, hslot, hcontent⟩ := Option.map_eq_some_iff.mp hcontent
      rw [assign_of_slot hooks false (howner hnative hslot) hnative hslot, hcontent]
      cases set with
      | undefined => exact absurd rfl hset
      | _ => rfl

/-- A setter is the only code that writing starts. Whatever else is done does
not mention the hooks at all, and a host is asked without them. -/
theorem Writing.enters_run_iff {hooks : Hooks P} {entry : Entry P} {k : Machine P} :
    hooks.Enters (writing.run · o key value) m entry k ↔
      ∃ f, writing = .setter f ∧ entry = .call f (.object o) [value] ∧ k = m := by
  cases writing with
  | setter f =>
      have hcall : hooks.Enters
          (fun hooks => hooks.call f (.object o) [value] >>= fun _ => pure true) m entry k ↔
            entry = .call f (.object o) [value] ∧ k = m := by
        rw [Hooks.enters_bind_const_iff _ (Action.Relays.call f (.object o) [value]),
          Hooks.enters_call_iff]
      refine hcall.trans ?_
      simp
  | _ =>
      constructor
      · exact fun henters => absurd henters (Hooks.not_enters_const _)
      · rintro ⟨f, hsetter, -⟩
        cases hsetter

end Object

open Object

/-- Assigning to a property and putting it come to the same where nothing is
inherited under the key and nobody is strict. -/
theorem assign_coincides (hooks : Hooks P) (m : Machine P) (o : Handle) (key : PropertyKey)
    (value : Value) (hstrict : m.realm.config.strict = false) (hkey : key.canonical = key)
    (hown : m.realm.Uninherited o key) : Coincide hooks m o key value := by
  obtain ⟨writing, hwrites⟩ := exists_writes m.realm o key value
  -- The program assigns under the canonical key, and the key is canonical.
  have hassign (hooks : Hooks P) :
      assign hooks o key value false m = writing.run hooks o key value m := by
    rw [← hkey] at hwrites hown
    have hcanonical := hwrites.assign_eq hown hstrict hooks
    rwa [hkey] at hcanonical
  have hsame (hooks : Hooks P) : assign hooks o key value false m = put hooks o key value m :=
    (hassign hooks).trans (hwrites.put_eq hooks).symm
  constructor
  case same => exact hsame hooks
  case written => exact ⟨⟨writing, hwrites⟩, fun _ hwrites => hwrites.put_eq hooks⟩
  case sameStarts => exact fun entry k => Hooks.enters_congr hsame
  case starts =>
    intro entry k
    constructor
    · intro henters
      -- Whatever is done is done for all hooks, so the same code is started.
      rw [Hooks.enters_congr hwrites.put_eq, Writing.enters_run_iff] at henters
      obtain ⟨f, rfl, hentry, hk⟩ := henters
      exact ⟨f, hwrites, hentry, hk⟩
    · rintro ⟨f, hsetter, hentry, hk⟩
      rw [Hooks.enters_congr hsetter.put_eq, Writing.enters_run_iff]
      exact ⟨f, rfl, hentry, hk⟩

/-- A realm with a foreign object and an heir of it that has a setter. -/
def settingRealm : Realm Platform.fixed where
  objects := #[.create (.foreign ()) none,
    (.create .ordinary (some ⟨0⟩) : ObjectRecord Platform.fixed).insert (.index 1)
      ⟨.accessor .undefined (.boolean true), true, true⟩]
  config := {}
  nextSymbol := Symbol.firstFree

/-- The heir's setter is called, the heir gets a key that nothing has, and the
foreign object refuses it. -/
theorem assign_coincides_setting :
    (settingRealm.config.strict = false ∧ settingRealm.Uninherited ⟨1⟩ (.index 1) ∧
      Coincide echoingHooks ⟨settingRealm, ()⟩ ⟨1⟩ (.index 1) .null ∧
      echoingHooks.Enters (put · ⟨1⟩ (.index 1) .null) ⟨settingRealm, ()⟩
        (.call (.boolean true) (.object ⟨1⟩) [.null]) ⟨settingRealm, ()⟩) ∧
    (settingRealm.Uninherited ⟨1⟩ (.index 2) ∧
      assign echoingHooks ⟨1⟩ (.index 2) .null false ⟨settingRealm, ()⟩
        = .done true ⟨settingRealm.insertSlot ⟨1⟩ (.index 2) (.plain .null), ()⟩) ∧
    settingRealm.Uninherited ⟨0⟩ (.index 2) ∧
      assign echoingHooks ⟨0⟩ (.index 2) .null false ⟨settingRealm, ()⟩
        = .done false ⟨settingRealm.setKind ⟨0⟩ (.foreign ()), ()⟩ := by
  have hheir : settingRealm.Uninherited ⟨1⟩ (.index 1) := .inl rfl
  have hnew : settingRealm.Uninherited ⟨1⟩ (.index 2) := .inr (by decide)
  have hforeign : settingRealm.Uninherited ⟨0⟩ (.index 2) := .inr (by decide)
  have hcoincide {o : Handle} {key : PropertyKey} (hkey : key.canonical = key)
      (hown : settingRealm.Uninherited o key) :
      Coincide echoingHooks ⟨settingRealm, ()⟩ o key .null :=
    assign_coincides echoingHooks ⟨settingRealm, ()⟩ o key .null rfl hkey hown
  refine ⟨⟨rfl, hheir, hcoincide rfl hheir, ?_⟩, ⟨hnew, ?_⟩, hforeign, ?_⟩
  · exact ((hcoincide rfl hheir).starts _ _).mpr ⟨_, .setter rfl rfl (by decide), rfl, rfl⟩
  · exact (hcoincide rfl hnew).same.trans ((hcoincide rfl hnew).written.2 _ (.added rfl rfl rfl))
  · exact (hcoincide rfl hforeign).same.trans
      ((hcoincide rfl hforeign).written.2 _ (.foreign rfl))

end ScriptRealm
