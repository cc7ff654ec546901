import ScriptRealm.Proofs.Embedding

/-!
# `ScriptRealm.Proofs.Generator.Passing`: generators while other code runs

While a generator executes, only the call that resumed it may touch it:
every other resumption is refused. `Kind.Passes` states what that means
for an object, from the moment some code is run to the moment it is back.
A generator that was executing is exactly as it was. A generator that was
not may have been resumed, but is at rest again; if it had completed, it
is untouched. A generator that was not there has come to rest as well.
`Realm.Passes` says so of every object.

The changes of `Realm.Change` keep this relation, since none of them
touches a generator. That resuming keeps it as well is the subject of
`ScriptRealm.Proofs.Generator.Resumption`.
-/

set_option autoImplicit false

namespace ScriptRealm

variable {P : Platform}

namespace Generator

/-- What a generator at rest holds: a body as long as it can be resumed,
and no delegate before the body was entered or after it was left. -/
structure Sound (g : Generator P) : Prop where
  start : g.state = .suspendedStart → g.body.isSome = true ∧ g.delegate = none
  suspended : g.state = .suspendedYield → g.body.isSome = true
  completed : g.state = .completed → g.body = none ∧ g.delegate = none

/-- A generator that was just made holds its body and no delegate. -/
theorem sound_create (body : P.Body) (frame : Frame) : (create body frame).Sound where
  start _ := ⟨rfl, rfl⟩
  suspended h := nomatch h
  completed h := nomatch h

end Generator

/-- An object in which a generator is found is that generator. -/
theorem Kind.eq_generator {kind : Kind P} {g : Generator P} (h : kind.generator? = some g) :
    kind = .generator g := by
  cases kind with
  | generator g' => exact congrArg Kind.generator (Option.some.inj h)
  | ordinary | function | listIterator | error | foreign => cases h

/-- What may become of an object's kind while code runs that is not the
call that drives it. -/
structure Kind.Passes (old new : Kind P) : Prop where
  /-- A generator that executes is untouched. -/
  executing : ∀ g, old = .generator g → g.state = .executing → new = .generator g
  /-- A generator at rest comes to rest again. -/
  resting : ∀ g, old = .generator g → g.state ≠ .executing →
    ∃ g', new = .generator g' ∧ g'.state ≠ .executing ∧ (g.Sound → g'.Sound) ∧
      (g.state = .completed → g' = g)
  /-- A generator that was not there is at rest. -/
  fresh : old.generator? = none → ∀ g', new = .generator g' →
    g'.state ≠ .executing ∧ g'.Sound

namespace Kind.Passes

/-- A generator at rest may be replaced by another one at rest, as long as
it is none that had completed. -/
theorem of_rest {g g' : Generator P} (hrest : g.state ≠ .executing)
    (hrest' : g'.state ≠ .executing) (hsound : g.Sound → g'.Sound)
    (hcompleted : g.state = .completed → g' = g) :
    Passes (.generator g) (.generator g') where
  executing g₀ heq hexecuting := by
    cases heq
    exact absurd hexecuting hrest
  resting g₀ heq _ := by
    cases heq
    exact ⟨g', rfl, hrest', hsound, hcompleted⟩
  fresh hnone := by cases hnone

/-- What is no generator may stay so. Nothing else is asked of objects that
are none. -/
theorem of_none {old new : Kind P} (hold : old.generator? = none) (hnew : new.generator? = none) :
    Passes old new where
  executing g heq := by
    rw [heq] at hold
    cases hold
  resting g heq := by
    rw [heq] at hold
    cases hold
  fresh _ g' heq := by
    rw [heq] at hnew
    cases hnew

/-- An object that is as it was has passed. -/
theorem refl (kind : Kind P) : Passes kind kind where
  executing g heq _ := heq
  resting g heq hrest := ⟨g, heq, hrest, id, fun _ => rfl⟩
  fresh hnone g' heq := by
    rw [heq] at hnone
    cases hnone

/-- An object that has passed twice has passed. A generator that came up in
between is at rest there, so the second passing finds it at rest. -/
theorem trans {a b c : Kind P} (hab : Passes a b) (hbc : Passes b c) : Passes a c where
  executing g heq hexecuting := hbc.executing g (hab.executing g heq hexecuting) hexecuting
  resting g heq hrest := by
    obtain ⟨g', heq', hrest', hsound', hcompleted'⟩ := hab.resting g heq hrest
    obtain ⟨g'', heq'', hrest'', hsound'', hcompleted''⟩ := hbc.resting g' heq' hrest'
    refine ⟨g'', heq'', hrest'', fun h => hsound'' (hsound' h), fun hdone => ?_⟩
    -- A generator that had completed is the same one in between.
    have hsame := hcompleted' hdone
    subst hsame
    exact hcompleted'' hdone
  fresh hnone g'' heq'' := by
    cases hb : b.generator? with
    | none => exact hbc.fresh hb g'' heq''
    | some g' =>
        -- It came up in the first step, so the second step is one from rest to rest.
        have hb := Kind.eq_generator hb
        obtain ⟨hrest', hsound'⟩ := hab.fresh hnone g' hb
        obtain ⟨g₀, heq₀, hrest₀, hsound₀, _⟩ := hbc.resting g' hb hrest'
        rw [heq''] at heq₀
        cases heq₀
        exact ⟨hrest₀, hsound₀ hsound'⟩

end Kind.Passes

namespace Realm

/-- Every object has passed from one realm to a later one. -/
def Passes (r s : Realm P) : Prop := ∀ h, (r.record h).kind.Passes (s.record h).kind

/-- Where nothing has happened, every object has passed. -/
theorem Passes.refl (r : Realm P) : r.Passes r := fun h => .refl (r.record h).kind

/-- Every object that has passed twice has passed. -/
theorem Passes.trans {r s t : Realm P} (hrs : r.Passes s) (hst : s.Passes t) : r.Passes t :=
  fun h => (hrs h).trans (hst h)

/-- What a change may do to the kind of an object: nothing, unless the object
is new, or it is a list iterator whose cursor may move on or a foreign object
whose storage takes a step. Most changes are about slots and other fields of
one record. -/
theorem Change.kind_cases {licence : Licence} {r s : Realm P} (hchange : Change licence r s)
    (h : Handle) :
    (s.record h).kind = (r.record h).kind ∨
      (h.index = r.size ∧ (s.record h).kind.IsNew) ∨
      (∃ c finished, (r.record h).kind = .listIterator c ∧
        (s.record h).kind = .listIterator (ListIterator.advance finished c) ∧
        licence.moves h) ∨
      ∃ old new, (r.record h).kind = .foreign old ∧ (s.record h).kind = .foreign new ∧
        P.hosts.Step old new := by
  have hupdate : ∀ (h₀ : Handle) (f : ObjectRecord P → ObjectRecord P),
      (f (r.record h₀)).kind = (r.record h₀).kind →
      ((r.update h₀ f).record h).kind = (r.record h).kind := by
    intro h₀ f hf
    exact forall_record_update (p := fun h record => record.kind = (r.record h).kind)
      (fun _ => rfl) (fun _ => hf) h
  -- One case for each kind of change. Those that update a record keep its kind.
  cases hchange with
  | allocate record hnew =>
      rw [record_allocate]
      split
      · rename_i hsize
        exact .inr (.inl ⟨hsize, hnew⟩)
      · exact .inl rfl
  | symbol description => exact .inl rfl
  | insert h₀ key slot hadmits => exact .inl (hupdate h₀ _ rfl)
  | erase h₀ key hopen => exact .inl (hupdate h₀ _ rfl)
  | prototype h₀ prototype =>
      left
      -- Three checks may turn the request down, and only what passes them writes a record.
      unfold setPrototype
      split
      · rfl
      · split
        · rfl
        · split
          · rfl
          · exact hupdate h₀ _ rfl
  | scope h₀ scope => exact .inl (hupdate h₀ _ rfl)
  | preventExtensions h₀ => exact .inl (hupdate h₀ _ rfl)
  | cursor h₀ c finished hkind hmoves =>
      -- Only the kind of the one object is set, and what was there is known.
      rw [setKind, record_update]
      split
      · rename_i hand
        rw [hand.1]
        exact .inr (.inr (.inl ⟨c, finished, hkind, rfl, hmoves⟩))
      · exact .inl rfl
  | host h₀ old new hkind hstep =>
      rw [setKind, record_update]
      split
      · rename_i hand
        rw [hand.1]
        exact .inr (.inr (.inr ⟨old, new, hkind, rfl, hstep⟩))
      · exact .inl rfl
  | rawInsert h₀ key slot hraw => exact .inl (hupdate h₀ _ rfl)
  | rawErase h₀ key hraw => exact .inl (hupdate h₀ _ rfl)

/-- A change makes no generator of another object and leaves generators as
they are. A new one has not been entered. This is all that lemmas about
generators need to know of changes. -/
theorem Change.kind_eq {licence : Licence} {r s : Realm P} (hchange : Change licence r s)
    (h : Handle) :
    (s.record h).kind = (r.record h).kind ∨
      ((r.record h).kind.generator? = none ∧
        ((s.record h).kind.generator? = none ∨
          ∃ body frame, (s.record h).kind = .generator (.create body frame))) := by
  obtain hsame | ⟨hsize, hnew⟩ | ⟨c, finished, hold, hkind, _⟩ | ⟨old, new, hold, hkind, _⟩ :=
    hchange.kind_cases h
  · exact .inl hsame
  · right
    rw [record_eq_default (Nat.le_of_eq hsize.symm)]
    refine ⟨rfl, ?_⟩
    cases hkind : (s.record h).kind with
    | generator g =>
        rw [hkind] at hnew
        obtain ⟨body, frame, rfl⟩ := hnew
        exact .inr ⟨body, frame, rfl⟩
    | _ => exact .inl rfl
  · rw [hold, hkind]
    exact .inr ⟨rfl, .inl rfl⟩
  · rw [hold, hkind]
    exact .inr ⟨rfl, .inl rfl⟩

/-- A change of a realm leaves every generator alone, and adds generators at
rest only. So it makes every object pass. -/
theorem Change.passes {licence : Licence} {r s : Realm P} (hchange : Change licence r s) :
    r.Passes s := by
  intro h
  rcases hchange.kind_eq h with heq | ⟨hnone, hnone' | ⟨body, frame, heq⟩⟩
  · rw [heq]
    exact .refl _
  · exact .of_none hnone hnone'
  · refine ⟨fun g hg => ?_, fun g hg => ?_, fun _ g' hg' => ?_⟩
    · rw [hg] at hnone
      cases hnone
    · rw [hg] at hnone
      cases hnone
    · rw [heq] at hg'
      cases hg'
      exact ⟨fun hexecuting => (by cases hexecuting), Generator.sound_create body frame⟩

end Realm

end ScriptRealm
