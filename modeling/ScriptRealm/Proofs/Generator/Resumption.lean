import ScriptRealm.Proofs.Generator.Turns

/-!
# `ScriptRealm.Proofs.Generator.Resumption`: what a resumption comes to

A resumption leaves the generators it is not about as other code may leave
them, and brings its own one to rest: suspended at a yield, or completed.
So resuming passes every object (`Realm.passes_law`), which ties the knot
with `Embedder.hooks_keeps`, and an embedder's code passes every object
whatever it does (`Embedder.hooks_passes`).

The same turns also keep every relation that does not look into
generators. `Realm.Blind` lists what such a relation has to satisfy, and
`Realm.Blind.law` makes a law of it.

The main result is `resume_result`: the result of a resumption and the
state in which it leaves the generator determine each other.
-/

set_option autoImplicit false

namespace ScriptRealm

variable {P : Platform}

namespace Realm

/-- Every object but the one under `h` has passed. -/
def PassesBeside (h : Handle) (r s : Realm P) : Prop :=
  ∀ h', h' ≠ h → (r.record h').kind.Passes (s.record h').kind

namespace PassesBeside

variable {r s t : Realm P} {h : Handle}

/-- Where nothing has happened, every object has passed. -/
theorem refl (h : Handle) (r : Realm P) : r.PassesBeside h r :=
  fun h' _ => .refl (r.record h').kind

/-- What passes every object may follow. -/
theorem trans_passes (hrs : r.PassesBeside h s) (hst : s.Passes t) : r.PassesBeside h t :=
  fun h' hne => (hrs h' hne).trans (hst h')

/-- The object under `h` may be changed at will. -/
theorem setKind (hrs : r.PassesBeside h s) (kind : Kind P) :
    r.PassesBeside h (s.setKind h kind) := by
  intro h' hne
  show (r.record h').kind.Passes ((s.update h _).record h').kind
  rw [record_update_of_ne hne]
  exact hrs h' hne

/-- All objects have passed if the one under `h` has. -/
theorem passes (hrs : r.PassesBeside h s) (hpasses : (r.record h).kind.Passes (s.record h).kind) :
    r.Passes s := by
  intro h'
  by_cases hh : h' = h
  · subst hh
    exact hpasses
  · exact hrs h' hh

end PassesBeside

/-- That the objects beside `h` have passed is known throughout the driving of
the generator under `h`. Other changes pass every object, and a change of that
generator does not matter. -/
theorem Beside.passes (h : Handle) (r : Realm P) : Beside True h (r.PassesBeside h) where
  change _ _ hchange hr := hr.trans_passes hchange.passes
  drive _ _ g' _ hr := hr.setKind (.generator g')

end Realm

namespace Hooks.Keeps

variable {hooks : Hooks P} {R : Realm P → Realm P → Prop} {I : Realm P → Prop}
  {place : Option Location} {h : Handle}

/-- Hooks that pass every object drive like themselves, beside whatever
else they keep. What they keep may depend on the driven generator, which is
known to execute, and with it on the place that it remembers. -/
theorem driveAlike (hh : hooks.Keeps R) (hrefl : ∀ r, R r r)
    (hpasses : ∀ r s, R r s → r.Passes s)
    (hI : ∀ g r s, g.Executing place → Generator.Driven I h g r → R r s → I s) (sound : Prop) :
    hooks.DriveAlike sound place I h hooks := by
  -- While the driven generator executes, what runs does not touch it.
  have hdriven : ∀ {g : Generator P} {r s : Realm P}, g.Executing place →
      Generator.Driven I h g r → R r s → Generator.Driven I h g s := by
    intro g r s hexecuting hr hrs
    exact ⟨(hpasses r s hrs h).executing g hr.kind hexecuting.1, hI g r s hexecuting hr hrs⟩
  refine ⟨?_, ?_, rfl⟩
  · intro g hexecuting _ f this args m hm
    exact (hh.call m.realm f this args m (hrefl m.realm)).mono
      (fun _ _ => hdriven hexecuting hm) (fun _ _ => hdriven hexecuting hm)
  · intro g hexecuting _ _ body frame completion m hm
    exact (hh.resume m.realm body frame completion m (hrefl m.realm)).mono
      (fun _ _ => hdriven hexecuting hm) (fun _ _ => hdriven hexecuting hm)

/-- In particular, hooks that pass every object drive like themselves while
the objects beside the generator pass. -/
theorem driveBeside (hh : hooks.Keeps Realm.Passes) (sound : Prop) (r : Realm P) (h : Handle) :
    hooks.DriveAlike sound place (r.PassesBeside h) h hooks :=
  hh.driveAlike Realm.Passes.refl (fun _ _ => id)
    (fun _ _ _ _ hdriven hst => hdriven.beside.trans_passes hst) sound

end Hooks.Keeps

/-- Whatever the result, the generator does not execute after it. -/
theorem IterResult.stateAfter_ne_executing (result : IterResult) :
    result.stateAfter ≠ .executing := by
  unfold stateAfter
  split <;> decide

/-- A generator that came to rest has passed. It may have executed on the way,
but it did not before and does not now, and about what lies between nothing is
asked. -/
theorem Generator.CameTo.passes {I : Realm P → Prop} {h : Handle} {g : Generator P}
    {state : GeneratorState} {place : Option Location} {m m' : Machine P}
    (hcame : CameTo I h g state place m') (hI : ∀ r, I r → m.realm.PassesBeside h r)
    (hkind : (m.realm.record h).kind = .generator g)
    (hrest : g.state ≠ .executing) (hstate : state ≠ .executing) :
    m.realm.Passes m'.realm ∧ I m'.realm := by
  obtain ⟨g', hdriven, hcame⟩ := hcame
  refine ⟨(hI _ hdriven.beside).passes ?_, hdriven.beside⟩
  rw [hkind, hdriven.kind]
  refine .of_rest hrest ?_ hcame.sound hcame.completed
  rw [hcame.state]
  exact hstate

namespace Realm

/-- The relation `R` between an earlier and a later realm does not look
into generators, and is kept by the changes of a realm. -/
structure Blind (licence : Licence) (R : Realm P → Realm P → Prop) : Prop where
  refl : ∀ r, R r r
  trans : ∀ r s t, R r s → R s t → R r t
  change : ∀ r s, Change licence r s → R r s
  drive : ∀ r h g g', (r.record h).kind = .generator g → R r (r.setKind h (.generator g'))

namespace Blind

variable {licence : Licence} {R : Realm P → Realm P → Prop}

/-- A blind relation to an earlier realm is known throughout the driving of a
generator, along with the passing of the objects beside it. -/
theorem beside (hR : Blind licence R) (h : Handle) (r : Realm P) :
    Beside licence h (fun s => r.PassesBeside h s ∧ R r s) where
  change s t hchange hs :=
    ⟨hs.1.trans_passes hchange.passes, hR.trans r s t hs.2 (hR.change s t hchange)⟩
  drive s g g' hkind hs := ⟨hs.1.setKind _, hR.trans r s _ hs.2 (hR.drive s h g g' hkind)⟩

/-- Hooks that keep the relation drive like themselves beside it. A call that
is made meanwhile is one step more in the relation to the realm where the
driving began. -/
theorem driveAlike (hR : Blind licence R) {hooks : Hooks P}
    (hh : hooks.Keeps fun r s => r.Passes s ∧ R r s) (sound : Prop) {place : Option Location}
    (r : Realm P) (h : Handle) :
    hooks.DriveAlike sound place (fun s => r.PassesBeside h s ∧ R r s) h hooks :=
  hh.driveAlike (fun s => ⟨.refl s, hR.refl s⟩) (fun _ _ => And.left)
    (fun _ s t _ hs hst =>
      ⟨hs.beside.1.trans_passes hst.1, hR.trans _ s t hs.beside.2 hst.2⟩) sound

/-- The resumption of a generator at rest brings it to rest again, so every
object has passed by then: the others by what is known beside it, and this one
because it came to rest. -/
theorem resume_rest (hR : Blind licence R) {hooks : Hooks P}
    (hh : hooks.Keeps fun r s => r.Passes s ∧ R r s) {m : Machine P} {h : Handle}
    {g : Generator P} (hkind : (m.realm.record h).kind = .generator g)
    (hrest : g.state ≠ .executing) (completion : Completion) :
    (Generator.resume hooks h completion m).Meets
      (fun _ m' => m.realm.Passes m'.realm ∧ R m.realm m'.realm)
      (fun _ m' => m.realm.Passes m'.realm ∧ R m.realm m'.realm) := by
  have hresume := Generator.resume_agree (hR.beside h m.realm) (hR.driveAlike hh g.Sound m.realm h)
    ⟨hkind, .refl h m.realm, hR.refl m.realm⟩ hrest completion
  refine hresume.meets.mono (fun result m' hcame => ?_) fun _ m' hcame => ?_
  · have hpasses := hcame.passes (fun _ => And.left) hkind hrest result.stateAfter_ne_executing
    exact ⟨hpasses.1, hpasses.2.2⟩
  · have hpasses := hcame.passes (fun _ => And.left) hkind hrest (by decide)
    exact ⟨hpasses.1, hpasses.2.2⟩

/-- Code that runs in a realm passes every object, resuming included, and
keeps on the way what does not look into generators. A resumption finds no
generator, or one that executes, or one at rest; only the last changes the
machine. -/
theorem law (hR : Blind licence R) : Law licence (fun r s => r.Passes s ∧ R r s) where
  refl r := ⟨.refl r, hR.refl r⟩
  trans r s t hrs hst := ⟨hrs.1.trans hst.1, hR.trans r s t hrs.2 hst.2⟩
  change r s hchange := ⟨hchange.passes, hR.change r s hchange⟩
  resume hooks hh r h completion m hm := by
    refine ⟨rfl, ?_⟩
    cases hgenerator : (m.realm.record h).kind.generator? with
    | none =>
        rw [Generator.resume_of_none hooks hgenerator completion]
        exact hm
    | some g =>
        have hkind := Kind.eq_generator hgenerator
        by_cases hexecuting : g.state = .executing
        · -- A generator that executes refuses to be resumed.
          rw [Generator.resume_of_executing hooks hkind hexecuting completion]
          exact hm
        · refine (hR.resume_rest hh hkind hexecuting completion).mono ?_ ?_
          · intro _ m' hm'
            exact ⟨hm.1.trans hm'.1, hR.trans r _ _ hm.2 hm'.2⟩
          · intro _ m' hm'
            exact ⟨hm.1.trans hm'.1, hR.trans r _ _ hm.2 hm'.2⟩

end Blind

/-- Code that runs in a realm passes every object. The relation that always
holds is blind, and adds nothing. -/
theorem passes_law : Law True (Passes (P := P)) := by
  have hblind : Blind (P := P) True (fun _ _ => True) :=
    ⟨fun _ => trivial, fun _ _ _ _ _ => trivial, fun _ _ _ => trivial, fun _ _ _ _ _ => trivial⟩
  simpa only [and_true] using hblind.law

end Realm

/-- The hooks that run an embedder's code pass every object, whatever the
code does. -/
theorem Embedder.hooks_passes (embedder : Embedder P) (rounds depth : Nat) :
    (embedder.hooks rounds depth).Keeps Realm.Passes :=
  embedder.hooks_keeps Realm.passes_law (embedder.uses_of_forall fun _ _ => trivial) rounds depth

/-! ### States -/

namespace Realm

/-- The state of the generator under a handle, if there is one. -/
def generatorState? (r : Realm P) (h : Handle) : Option GeneratorState :=
  (r.record h).kind.generator?.map (·.state)

/-- Every generator but the one under `h` is still there, and executes just
in case it did. -/
def KeepsExecuting (h : Handle) (r s : Realm P) : Prop :=
  ∀ h', h' ≠ h →
    (s.generatorState? h' = some .executing ↔ r.generatorState? h' = some .executing) ∧
    ((r.generatorState? h').isSome = true → (s.generatorState? h').isSome = true)

/-- The state of a generator that is known. -/
theorem generatorState?_of_kind {r : Realm P} {h : Handle} {g : Generator P}
    (hkind : (r.record h).kind = .generator g) : r.generatorState? h = some g.state := by
  rw [generatorState?, hkind]
  rfl

/-- A generator that has passed executes just in case it did. One that
executes stays as it is while others pass, and one at rest is at rest in the
end. A new one does not execute. -/
theorem generatorState?_passes {r s : Realm P} {h : Handle}
    (hpasses : (r.record h).kind.Passes (s.record h).kind) :
    (s.generatorState? h = some .executing ↔ r.generatorState? h = some .executing) ∧
      ((r.generatorState? h).isSome = true → (s.generatorState? h).isSome = true) := by
  cases hgenerator : (r.record h).kind.generator? with
  | none =>
      have hr : r.generatorState? h = none := by rw [generatorState?, hgenerator]; rfl
      rw [hr]
      refine ⟨⟨fun hs => ?_, nofun⟩, nofun⟩
      cases hgenerator' : (s.record h).kind.generator? with
      | none =>
          rw [generatorState?, hgenerator'] at hs
          cases hs
      | some g' =>
          have hrest := (hpasses.fresh hgenerator g' (Kind.eq_generator hgenerator')).1
          rw [generatorState?_of_kind (Kind.eq_generator hgenerator')] at hs
          exact absurd (Option.some.inj hs) hrest
  | some g =>
      have hkind := Kind.eq_generator hgenerator
      rw [generatorState?_of_kind hkind]
      by_cases hexecuting : g.state = .executing
      · rw [generatorState?_of_kind (hpasses.executing g hkind hexecuting)]
        exact ⟨Iff.rfl, id⟩
      · obtain ⟨g', hkind', hrest', -, -⟩ := hpasses.resting g hkind hexecuting
        rw [generatorState?_of_kind hkind']
        exact ⟨⟨fun h => absurd (Option.some.inj h) hrest',
          fun h => absurd (Option.some.inj h) hexecuting⟩, fun _ => rfl⟩

end Realm

/-- A generator that came to a state is in this state, and the others execute
just in case they did. -/
theorem Generator.CameTo.generatorState? {m m' : Machine P} {h : Handle} {g : Generator P}
    {state : GeneratorState} {place : Option Location}
    (hcame : CameTo (m.realm.PassesBeside h) h g state place m') :
    m'.realm.generatorState? h = some state ∧ Realm.KeepsExecuting h m.realm m'.realm := by
  -- What is known beside the generator says that all the others have passed.
  obtain ⟨g', hdriven, hcame⟩ := hcame
  refine ⟨?_, fun h' hne => Realm.generatorState?_passes (hdriven.beside h' hne)⟩
  rw [Realm.generatorState?_of_kind hdriven.kind, hcame.state]

/-- The result of a resumption and the state of the generator afterwards
determine each other. Whatever the embedder's code does, a generator that
did not execute is suspended at a yield if a result came that is not the
last, and is completed if the last one or a fault came. The other
generators execute just in case they did before. -/
theorem resume_result (embedder : Embedder P) (rounds depth : Nat) (m : Machine P) (h : Handle)
    (state : GeneratorState) (hstate : m.realm.generatorState? h = some state)
    (hrest : state ≠ .executing) (completion : Completion) :
    (Generator.resume (embedder.hooks rounds depth) h completion m).Meets
      (fun result m' =>
        (m'.realm.generatorState? h = some .suspendedYield ↔ result.done = false) ∧
        (m'.realm.generatorState? h = some .completed ↔ result.done = true) ∧
        Realm.KeepsExecuting h m.realm m'.realm)
      (fun _ m' =>
        m'.realm.generatorState? h = some .completed ∧
        Realm.KeepsExecuting h m.realm m'.realm) := by
  obtain ⟨g, hgenerator, rfl⟩ := Option.map_eq_some_iff.mp hstate
  have hkind := Kind.eq_generator hgenerator
  -- The hooks drive like themselves, so the resumption agrees with itself. What it agrees on at
  -- its end is what the generator came to.
  have hagree := Generator.resume_agree (.passes h m.realm)
    ((embedder.hooks_passes rounds depth).driveBeside g.Sound m.realm h)
    ⟨hkind, .refl h m.realm⟩ hrest completion
  refine (hagree.mono (fun result m' hcame => ?_) fun _ m' hcame => hcame.generatorState?).meets
  obtain ⟨hafter, hothers⟩ := hcame.generatorState?
  rw [hafter]
  refine ⟨?_, ?_, hothers⟩
  · cases hdone : result.done <;> simp [IterResult.stateAfter, hdone]
  · cases hdone : result.done <;> simp [IterResult.stateAfter, hdone]

/-- A realm with a generator that yields once, and another one that
executes. -/
def yieldingRealm : Realm Platform.fixed where
  objects := #[.create (.generator (.create [.yielded .null] {})) none,
    .create (.generator ⟨.executing, {}, none, none, none⟩) none]
  config := {}
  nextSymbol := Symbol.firstFree

/-- The first result of the generator is not the last, so it is suspended
at its yield, while the other one executes on. -/
theorem resume_result_yielding :
    ∃ m', Generator.resume (Embedder.fixed.hooks 1 1) ⟨0⟩ (.next .undefined) ⟨yieldingRealm, ()⟩
        = .done ⟨.null, false⟩ m' ∧
      m'.realm.generatorState? ⟨0⟩ = some .suspendedYield ∧
      m'.realm.generatorState? ⟨1⟩ = some .executing := by
  have h := resume_result Embedder.fixed 1 1 ⟨yieldingRealm, ()⟩ ⟨0⟩ .suspendedStart rfl
    (by decide) (.next .undefined)
  obtain ⟨hyield, -, hothers⟩ := h
  exact ⟨_, rfl, hyield.mpr rfl, (hothers ⟨1⟩ (by decide)).1.mpr rfl⟩

end ScriptRealm
