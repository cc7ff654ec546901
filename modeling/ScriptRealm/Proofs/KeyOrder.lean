import Mathlib.Data.List.Forall2
import ScriptRealm.Proofs.Embedding
import ScriptRealm.Proofs.Likeness.Embedding

/-!
# `ScriptRealm.Proofs.KeyOrder`: what the order of keys shows in

A realm can be set to list indices before all other keys. Locking an object
and testing whether one is locked walk the keys in that order, the first
changing the object on the way and both stopping early. So the setting might
show in what they answer or in what they leave behind.

It does not. `run_upToOrder` runs a script twice, in two realms that differ
in the setting alone. After each request the realms differ in the setting
alone, and the replies are the same, unless the request was for the keys of
an object that is not foreign, where they are the same keys. The script and
the code it sets going may not depend on the order of the keys they are told;
`Script.OrderBlind` says what that means.
-/

set_option autoImplicit false

namespace ScriptRealm

variable {P : Platform} {α : Type} {first : Bool}

/-! ### Realms that differ in the setting -/

/-- The realm with the setting for the order of keys replaced. -/
def Realm.reordered (first : Bool) (r : Realm P) : Realm P :=
  { r with config := { r.config with enumerateIndicesFirst := first } }

/-- The machine with the setting for the order of keys replaced. -/
def Machine.reordered (first : Bool) (m : Machine P) : Machine P :=
  { m with realm := m.realm.reordered first }

/-- The same end, in the machine with the setting replaced. -/
def Outcome.reordered (first : Bool) : Outcome P α → Outcome P α
  | .done value m => .done value (m.reordered first)
  | .failed fault m => .failed fault (m.reordered first)
  | .exhausted => .exhausted

/-- Everything is the same, except that the second realm has the given
setting. -/
def Likeness.reordered (P : Platform) (first : Bool) : Likeness P P :=
  .same P (fun _ => True) (fun _ first' => first' = first) (fun _ _ => trivial) fun _ => trivial

/-- A realm is like itself with the setting replaced. All it holds corresponds
to itself. -/
theorem Realm.alike_reordered (first : Bool) (r : Realm P) :
    r.Alike (.reordered P first) (r.reordered first) :=
  ⟨rfl, fun _ => .refl fun _ _ => trivial, ⟨rfl, rfl, rfl⟩, rfl⟩

/-- There is no other realm like it. So a statement about realms that are
alike becomes an equation. -/
theorem Realm.Alike.eq_reordered {r s : Realm P} (h : r.Alike (.reordered P first) s) :
    s = r.reordered first := by
  have hobjects := Realm.Alike.same_objects h
  obtain ⟨objects, ⟨strict, maxIterations, order⟩, nextSymbol⟩ := r
  obtain ⟨objects', ⟨strict', maxIterations', order'⟩, nextSymbol'⟩ := s
  obtain ⟨_, _, ⟨hstrict, hmax, horder⟩, hsymbol⟩ := h
  cases hobjects
  cases hstrict
  cases hmax
  cases horder
  cases hsymbol
  rfl

/-- A machine is like itself with the setting replaced, too. -/
theorem Machine.alike_reordered (first : Bool) (m : Machine P) :
    m.Alike (.reordered P first) (m.reordered first) :=
  ⟨m.realm.alike_reordered first, rfl⟩

/-- And there is no other machine like it. What is left open by the likeness
is the one setting. -/
theorem Machine.Alike.eq_reordered {m n : Machine P} (h : m.Alike (.reordered P first) n) :
    n = m.reordered first := by
  obtain ⟨r, memory⟩ := m
  obtain ⟨s, memory'⟩ := n
  obtain ⟨hrealm, hmemory⟩ := h
  cases hrealm.eq_reordered
  cases hmemory
  rfl

/-- Ends that are alike, with equal results, are the same but for the
setting. -/
theorem Outcome.Alike.eq_reordered {outcome outcome' : Outcome P α}
    (h : outcome.Alike (.reordered P first) Eq outcome') : outcome' = outcome.reordered first := by
  cases h with
  | done hab hmn => rw [hab, hmn.eq_reordered, reordered]
  | failed fault hmn => rw [hmn.eq_reordered, reordered]
  | exhausted => rfl

/-- A request is replied to alike whatever the setting is. The reply is the
same, but for the keys of an object, which are listed by the setting. -/
theorem Request.perform_reordered {hooks hooks' : Hooks P}
    (hh : hooks.Alike (.reordered P first) hooks') (request : Request P) :
    Action.Alike (.reordered P first) request.SameUpToOrder (request.perform hooks)
      (request.perform hooks') := by
  refine .mono (fun reply reply' hsame => ?_)
    (perform_alike hh request (keysIn_of_forall (fun _ => trivial) request))
  -- Of all replies only a list of keys can tell the settings apart.
  cases request with
  | ownKeys h hidden symbols => exact hsame.perm
  | _ => exact hsame

/-- A script that does not depend on the order of the keys it is told is like
itself: it asks the same on replies that are the same up to order. -/
theorem Script.OrderBlind.alike {R : α → α → Prop} (hR : ∀ a, R a a) {script : Script P α}
    (hblind : script.OrderBlind) : script.Alike (.reordered P first) R script :=
  alike_self hR (uses_of_forall (Request.keysIn_of_forall fun _ => trivial) script) (.inr hblind)

/-- So is an embedder all of whose code is of that kind. -/
theorem Embedder.OrderBlind.alike {embedder : Embedder P} (hblind : embedder.OrderBlind) :
    embedder.Alike (.reordered P first) embedder :=
  alike_self (uses_of_forall (Request.keysIn_of_forall fun _ => trivial) embedder) (.inr hblind)

/-! ### Request by request -/

/-- A request with what came of it: the reply or the fault, and the machine
afterwards. -/
structure Exchange (P : Platform) where
  request : Request P
  reply : Except Fault request.Reply
  after : Machine P

/-- The exchanges of a script, up to its end or to the request that runs out
of its allowance. -/
def Script.exchanges (hooks : Hooks P) : Script P α → Machine P → List (Exchange P)
  | .done _, _ => []
  | .ask request next, m =>
      match request.perform hooks m with
      | .done reply m' => ⟨request, .ok reply, m'⟩ :: (next (.ok reply)).exchanges hooks m'
      | .failed fault m' => ⟨request, .error fault, m'⟩ :: (next (.error fault)).exchanges hooks m'
      | .exhausted => []
  | .recall next, m => (next m.memory).exchanges hooks m
  | .remember memory next, m => next.exchanges hooks { m with memory }

/-- The same exchange in the machine with the setting replaced. The keys of
an object that is not foreign may come in another order. -/
inductive Exchange.UpToOrder (first : Bool) : Exchange P → Exchange P → Prop where
  | same (request : Request P) (reply : Except Fault request.Reply) (m : Machine P) :
      UpToOrder first ⟨request, reply, m⟩ ⟨request, reply, m.reordered first⟩
  | keys {h : Handle} {hidden symbols : Bool} {keys keys' : List PropertyKey} {m : Machine P}
      (hnative : (m.realm.record h).kind.host? = none) (hperm : keys.Perm keys') :
      UpToOrder first ⟨.ownKeys h hidden symbols, .ok keys, m⟩
        ⟨.ownKeys h hidden symbols, .ok keys', m.reordered first⟩

/-- What comes of one request. Where it is for the keys of an object, it
depends on the object whether the setting counts. -/
theorem Exchange.upToOrder_of_done {hooks hooks' : Hooks P} {request : Request P}
    {reply reply' : request.Reply} {m m' : Machine P}
    (hdone : request.perform hooks m = .done reply m')
    (hdone' : request.perform hooks' (m.reordered first) = .done reply' (m'.reordered first))
    (hreply : request.SameUpToOrder reply reply') :
    Exchange.UpToOrder first ⟨request, .ok reply, m'⟩
      ⟨request, .ok reply', m'.reordered first⟩ := by
  cases request with
  | ownKeys h hidden symbols =>
      cases hdone
      cases hhost : (m.realm.record h).kind.host? with
      | none => exact .keys hhost hreply
      | some host =>
          -- A foreign object has one order, which the setting does not touch.
          have hsame : (m.realm.reordered first).ownKeys h hidden symbols
              = m.realm.ownKeys h hidden symbols := by
            have hrecord : (m.realm.reordered first).record h = m.realm.record h := rfl
            rw [Realm.ownKeys, Realm.ownKeys, hrecord, hhost]
          have hreply' : reply' = m.realm.ownKeys h hidden symbols := by
            rw [← hsame]
            cases hdone'
            rfl
          rw [hreply']
          exact .same _ _ _
  | _ =>
      cases hreply
      exact .same _ _ _

/-- The exchanges of a script are the same up to order, one by one. By
induction on the script: after each request the machines differ in the setting
alone, and the script goes on alike since it does not depend on the order. -/
theorem Script.exchanges_upToOrder {hooks hooks' : Hooks P}
    (hh : hooks.Alike (.reordered P first) hooks') {script : Script P α}
    (hblind : script.OrderBlind) (m : Machine P) :
    List.Forall₂ (Exchange.UpToOrder first) (script.exchanges hooks m)
      (script.exchanges hooks' (m.reordered first)) := by
  induction script generalizing m with
  | done value => exact .nil
  | ask request next ih =>
      obtain ⟨hsame, hnext⟩ := hblind
      have hend := request.perform_reordered hh m (m.reordered first) (m.alike_reordered first)
      rw [exchanges, exchanges]
      -- A request ends in the same way in both realms, so three of the pairs of ends are left.
      cases hperform : request.perform hooks m with
      | done reply m' =>
          rw [hperform] at hend
          cases hperform' : request.perform hooks' (m.reordered first) with
          | done reply' n' =>
              rw [hperform'] at hend
              cases hend with
              | done hreply hmn =>
                  cases hmn.eq_reordered
                  refine .cons (Exchange.upToOrder_of_done hperform hperform' hreply) ?_
                  rw [← hsame reply reply' hreply]
                  exact ih _ (hnext _) m'
          | failed fault n' =>
              rw [hperform'] at hend
              cases hend
          | exhausted =>
              rw [hperform'] at hend
              cases hend
      | failed fault m' =>
          rw [hperform] at hend
          generalize request.perform hooks' (m.reordered first) = outcome' at hend
          cases hend with
          | failed _ hmn =>
              cases hmn.eq_reordered
              exact .cons (.same request (.error fault) m') (ih _ (hnext _) m')
      | exhausted =>
          rw [hperform] at hend
          generalize request.perform hooks' (m.reordered first) = outcome' at hend
          cases hend
          exact .nil
  | «recall» next ih => exact ih m.memory (hblind m.memory) m
  | remember memory next ih => exact ih hblind { m with memory }

/-! ### Whole runs -/

/-- The setting for the order of keys shows in nothing but the keys that are
listed. A script that does not depend on the order, run in a realm and in
the one that differs in the setting, comes to the same end and leaves realms
that differ in the setting. So it is after every request, with the same
reply or the same fault, but that the keys of an object that is not foreign
come in another order. In particular an object is locked and tested with the
same answer and the same table. -/
theorem run_upToOrder {embedder : Embedder P} (hembedder : embedder.OrderBlind)
    (rounds depth : Nat) {script : Script P α} (hscript : script.OrderBlind) (m : Machine P)
    (first : Bool) :
    embedder.run rounds depth script (m.reordered first)
        = (embedder.run rounds depth script m).reordered first ∧
      List.Forall₂ (Exchange.UpToOrder first)
        (script.exchanges (embedder.hooks rounds depth) m)
        (script.exchanges (embedder.hooks rounds depth) (m.reordered first)) ∧
      ∀ h (level : Integrity),
        level.test (m.realm.reordered first) h = level.test m.realm h ∧
          level.set (m.realm.reordered first) h
            = ((level.set m.realm h).1, (level.set m.realm h).2.reordered first) := by
  have hrealm := m.realm.alike_reordered first
  have hrun := Embedder.run_alike hembedder.alike rounds depth (hscript.alike fun _ => rfl)
    m (m.reordered first) (m.alike_reordered first)
  refine ⟨hrun.eq_reordered, ?_, fun h level => ⟨(hrealm.test h level).symm, ?_⟩⟩
  · exact Script.exchanges_upToOrder (Embedder.hooks_alike hembedder.alike rounds depth) hscript m
  -- Locking changes the realm on its way through the keys, so it needs a likeness of its own.
  · obtain ⟨hanswer, hlocked⟩ := (m.alike_reordered first).setIntegrity h level
    exact Prod.ext hanswer.symm hlocked.eq_reordered

/-- A script that gives an object a text and then an index for keys, lists
them, and freezes the object. -/
def Script.listAndFreeze : Script Platform.fixed Bool :=
  .ask .createObject fun reply =>
  .ask (.put (reply.toOption.getD ⟨0⟩) (.string "b") .null) fun _ =>
  .ask (.put (reply.toOption.getD ⟨0⟩) (.index 1) .null) fun _ =>
  .ask (.ownKeys (reply.toOption.getD ⟨0⟩) true true) fun _ =>
  .ask (.setIntegrity (reply.toOption.getD ⟨0⟩) .frozen) fun _ =>
  .ask (.testIntegrity (reply.toOption.getD ⟨0⟩) .frozen) fun answer =>
    .done (answer.toOption.getD false)

/-- The object is frozen in both realms. The second lists its index first
and the first one does not, which leaves no trace. -/
theorem run_upToOrder_freezing :
    ∃ m', Embedder.fixed.run 1 1 Script.listAndFreeze
          ⟨.initial { enumerateIndicesFirst := false }, ()⟩
        = .done true m' ∧
      Embedder.fixed.run 1 1 Script.listAndFreeze ⟨.initial { enumerateIndicesFirst := true }, ()⟩
        = .done true (m'.reordered true) := by
  have hfixed : Embedder.fixed.OrderBlind :=
    ⟨fun _ _ _ => ⟨fun _ _ hreply => by cases hreply; rfl, fun _ => trivial⟩, fun _ _ _ => trivial⟩
  have hfreezing : Script.listAndFreeze.OrderBlind := by
    refine ⟨fun _ _ hreply => by cases hreply; rfl, fun _ => ?_⟩
    refine ⟨fun _ _ _ => rfl, fun _ => ⟨fun _ _ _ => rfl, fun _ => ⟨fun _ _ _ => rfl, fun _ => ?_⟩⟩⟩
    exact ⟨fun _ _ _ => rfl, fun _ => ⟨fun _ _ hreply => by cases hreply; rfl, fun _ => trivial⟩⟩
  have h := (run_upToOrder hfixed 1 1 hfreezing
    ⟨.initial { enumerateIndicesFirst := false }, ()⟩ true).1
  exact ⟨_, rfl, h⟩

end ScriptRealm
