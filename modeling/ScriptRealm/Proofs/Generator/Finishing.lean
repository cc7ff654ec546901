import ScriptRealm.Proofs.Generator.Driver

/-!
# `ScriptRealm.Proofs.Generator.Finishing`: generators that a fault has passed

A fatal fault ends the resumption that it passes through. The driver of the
generator still writes to it in several places between the fault and the
end. It puts the body back, it lets go of a delegate, and it completes the
generator last of all. `Machine.Touches` collects these writes, and the last
one makes them a finish.

`Machine.Finishes` describes the machine that is left: it is the one the
fault was raised in, but for the generators that the fault has passed
through, and these are at the end of their lives (`Generator.Finished`).
`Generator.TurnReturns` and `Generator.ResumptionReturns` say this of the
outcomes of a turn and of a resumption.
-/

set_option autoImplicit false

namespace ScriptRealm

variable {P : Platform}

/-- A generator at the end of its life. -/
structure Generator.Finished (g : Generator P) : Prop where
  state : g.state = .completed
  body : g.body = none
  delegate : g.delegate = none

namespace Generator

/-- Completing a generator ends its life, whatever it was doing. -/
theorem finished_complete (g : Generator P) : g.complete.Finished := ⟨rfl, rfl, rfl⟩

/-- So does a failure, which leaves a location behind as well. -/
theorem finished_failedWith (fault : Fault) (g : Generator P) : (g.failedWith fault).Finished :=
  ⟨rfl, rfl, rfl⟩

end Generator

/-! ### Finishing generators -/

namespace Machine

/-- The machine `m` is `k` with the given generators finished. -/
structure Finishes (generators : List Handle) (k m : Machine P) : Prop where
  memory : m.memory = k.memory
  config : m.realm.config = k.realm.config
  nextSymbol : m.realm.nextSymbol = k.realm.nextSymbol
  size : m.realm.size = k.realm.size
  /-- Nothing else has changed. -/
  others : ∀ h, (h ∈ generators → ∀ g, ¬ k.Holds h g) → m.realm.record h = k.realm.record h
  /-- Of a generator, nothing but the generator has changed. -/
  finished : ∀ h ∈ generators, ∀ g, k.Holds h g → ∃ g', g'.Finished ∧
    m.realm.record h = { k.realm.record h with kind := .generator g' }

/-- The machine `m` is `k` with the generator under `h` changed somehow. -/
def Touches (h : Handle) (k m : Machine P) : Prop :=
  ∃ f : Generator P → Generator P, Generator.modify h f k = .done () m

namespace Finishes

/-- A machine in which nothing was done has finished no generators, and all
the rest of it is as it was. -/
theorem refl (k : Machine P) : k.Finishes [] k where
  memory := rfl
  config := rfl
  nextSymbol := rfl
  size := rfl
  others _ _ := rfl
  finished _ hmem := nomatch hmem

/-- A generator that is finished twice is finished, so the handles of both
parts may be put together. They may have handles in common, and some of them
may be those of other objects. -/
theorem trans {first second : List Handle} {k m n : Machine P} (hkm : k.Finishes first m)
    (hmn : m.Finishes second n) : k.Finishes (first ++ second) n where
  memory := hmn.memory.trans hkm.memory
  config := hmn.config.trans hkm.config
  nextSymbol := hmn.nextSymbol.trans hkm.nextSymbol
  size := hmn.size.trans hkm.size
  others h hnot := by
    have hm : m.realm.record h = k.realm.record h :=
      hkm.others h fun hmem => hnot (List.mem_append_left second hmem)
    have hn : n.realm.record h = m.realm.record h := by
      refine hmn.others h fun hmem g hg => hnot (List.mem_append_right first hmem) g ?_
      rw [Holds, ← hm]
      exact hg
    exact hn.trans hm
  finished h hmem g hg := by
    -- After the first part there is a generator still, finished if it was its turn.
    have hmiddle : ∃ g₁, m.realm.record h = { k.realm.record h with kind := .generator g₁ } ∧
        (h ∈ first → g₁.Finished) := by
      by_cases hfirst : h ∈ first
      · obtain ⟨g₁, hfinished, hrecord⟩ := hkm.finished h hfirst g hg
        exact ⟨g₁, hrecord, fun _ => hfinished⟩
      · refine ⟨g, ?_, fun hfirst' => absurd hfirst' hfirst⟩
        rw [hkm.others h fun hfirst' => absurd hfirst' hfirst, ← show _ = Kind.generator g from hg]
    obtain ⟨g₁, hrecord, hfinished⟩ := hmiddle
    have hg₁ : m.Holds h g₁ := by rw [Holds, hrecord]
    by_cases hsecond : h ∈ second
    · obtain ⟨g₂, hfinished₂, hrecord₂⟩ := hmn.finished h hsecond g₁ hg₁
      exact ⟨g₂, hfinished₂, by rw [hrecord₂, hrecord]⟩
    · have hfirst : h ∈ first := (List.mem_append.mp hmem).resolve_right hsecond
      refine ⟨g₁, hfinished hfirst, ?_⟩
      rw [hmn.others h fun hsecond' => absurd hsecond' hsecond, hrecord]

/-- Changing a generator for a finished one. Under a handle that is no
generator's nothing changes, so it may be listed as well. -/
theorem of_modify {h : Handle} {f : Generator P → Generator P} (hf : ∀ g, (f g).Finished)
    {k m : Machine P} (hmodify : Generator.modify h f k = .done () m) : k.Finishes [h] m := by
  cases hmodify
  refine ⟨rfl, rfl, rfl, Realm.size_update _ _ _, fun h' hnot => ?_, fun h' hmem g hg => ?_⟩
  -- Every object that is no generator to finish: another one, or the one under `h` if it is of
  -- another kind.
  · show (k.realm.update h _).record h' = _
    rw [Realm.record_update]
    split
    · rename_i hand
      obtain ⟨rfl, -⟩ := hand
      split
      · rename_i g hg
        exact absurd hg (hnot List.mem_cons_self g)
      · rfl
    · rfl
  · cases List.mem_singleton.mp hmem
    refine ⟨f g, hf g, ?_⟩
    show (k.realm.update h _).record h = _
    rw [Realm.record_update_self (Realm.lt_size_of_generator hg)]
    simp only [show (k.realm.record h).kind = .generator g from hg]

end Finishes

namespace Touches

variable {h : Handle} {k m n : Machine P}

/-- Changing a generator twice is changing it once. What lies under the handle
is a generator both times or neither time. -/
theorem modify_modify {f f' : Generator P → Generator P}
    (hf : Generator.modify h f k = .done () m) (hf' : Generator.modify h f' m = .done () n) :
    Generator.modify h (fun g => f' (f g)) k = .done () n := by
  cases hf
  cases hf'
  refine congrArg (fun realm => Outcome.done () (Machine.mk realm k.memory)) ?_
  dsimp only
  rw [Realm.update_update]
  refine Realm.update_congr ?_
  cases hkind : (k.realm.record h).kind with
  | generator g => simp only
  | _ => simp only [hkind]

/-- A generator that was left alone has been changed to itself. Where there is
no generator, nothing is written. -/
theorem refl (h : Handle) (k : Machine P) : k.Touches h k := by
  refine ⟨id, ?_⟩
  refine congrArg (fun realm => Outcome.done () (Machine.mk realm k.memory)) ?_
  refine Realm.update_eq_self ?_
  split
  · rename_i g hg
    rw [id, ← hg]
  · rfl

end Touches

end Machine

/-! ### Turns -/

namespace Generator

/-- A turn that a fatal fault ends: it fails with that fault, and of the
machine that the fault was raised in it has changed the generator only. -/
def TurnReturns (h : Handle) (fault : Fault) (k : Machine P) (outcome : Outcome P Flow) : Prop :=
  ∃ m, k.Touches h m ∧ outcome = .failed fault m

/-- A resumption that a fatal fault ends: it fails with that fault, and the
generators that the fault has passed through are finished. -/
def ResumptionReturns {α : Type} (generators : List Handle) (fault : Fault) (k : Machine P)
    (outcome : Outcome P α) : Prop :=
  ∃ m, k.Finishes generators m ∧ outcome = .failed fault m

/-- A turn that fails with the fault at once has changed nothing. -/
theorem turnReturns_failed (h : Handle) (fault : Fault) (k : Machine P) :
    TurnReturns h fault k (.failed fault k) :=
  ⟨k, .refl h k, rfl⟩

/-- A fatal fault is not thrown into a body. It is none of the three kinds of
faults that become values. -/
theorem recover_of_fatal {fault : Fault} (hfault : fault.isFatal = true) :
    (recover fault : Action P Flow) = Action.fail fault := by
  cases fault with
  | type cause => cases hfault
  | range cause => cases hfault
  | thrown value location => cases hfault
  | reentrancy => rfl
  | opcode cause => rfl
  | internal cause => rfl

/-- A fatal fault of a delegate ends the turn, once the delegate is let go of.
That is one more write to the generator between the fault and the end. -/
theorem clearDelegate_recover (h : Handle) {fault : Fault} (hfault : fault.isFatal = true)
    (k : Machine P) :
    TurnReturns h fault k ((clearDelegate h >>= fun _ => recover fault) k) := by
  rw [recover_of_fatal hfault]
  exact ⟨_, ⟨_, rfl⟩, rfl⟩

/-- Settling a failure to find the delegate's method. The failure takes the
place of the answer, so the delegate is let go of here, too. -/
theorem settle_fail (h : Handle) (onDone : Value → Completion) {fault : Fault}
    (hfault : fault.isFatal = true) (k : Machine P) :
    TurnReturns h fault k (settle h onDone (Action.fail fault) k) :=
  clearDelegate_recover h hfault k

end Generator

end ScriptRealm
