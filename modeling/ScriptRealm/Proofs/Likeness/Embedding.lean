import ScriptRealm.Proofs.Embedding
import ScriptRealm.Proofs.Likeness.Operations

/-!
# `ScriptRealm.Proofs.Likeness.Embedding`: runs that are alike

Every request is alike the request that corresponds to it
(`Request.translate_alike`), so scripts that ask corresponding requests,
whatever they are answered, run alike (`Script.run_alike`).
`Embedder.run_alike` is the whole: embedders whose code corresponds are run
alike to any depth. A body is run in the frame in which it corresponds to
the other one, and in no other, because a generator hands its body out
together with the stored frame.

To begin with, new realms are alike (`Realm.initial_alike`). On one platform
a script is alike itself, if it does not depend on the order of keys where
the likeness does not fix it (`Script.alike_self`).
-/

set_option autoImplicit false

namespace ScriptRealm

variable {P Q : Platform} {c : Likeness P Q} {hooks : Hooks P} {hooks' : Hooks Q}

open ScriptRealm.Action (Alike)

/-! ### Scripts and embedders -/

/-- Scripts that make requests which are performed alike, and that go on
alike after corresponding replies. -/
inductive Script.Alike (c : Likeness P Q) {α β : Type} (R : α → β → Prop) :
    Script P α → Script Q β → Prop where
  | done {a : α} {b : β} (hab : R a b) : Alike c R (.done a) (.done b)
  | ask {request : Request P} {request' : Request Q}
      {next : Except Fault request.Reply → Script P α}
      {next' : Except Fault request'.Reply → Script Q β}
      (S : request.Reply → request'.Reply → Prop)
      (hperform : ∀ hooks hooks', hooks.Alike c hooks' →
        Action.Alike c S (request.perform hooks) (request'.perform hooks'))
      (hfault : ∀ fault, Alike c R (next (.error fault)) (next' (.error fault)))
      (hreply : ∀ reply reply', S reply reply' →
        Alike c R (next (.ok reply)) (next' (.ok reply'))) :
      Alike c R (.ask request next) (.ask request' next')
  | recall {next : P.Memory → Script P α} {next' : Q.Memory → Script Q β}
      (hnext : ∀ memory memory', c.memory memory memory' →
        Alike c R (next memory) (next' memory')) :
      Alike c R (.recall next) (.recall next')
  | remember {memory : P.Memory} {memory' : Q.Memory} {next : Script P α} {next' : Script Q β}
      (hmemory : c.memory memory memory') (hnext : Alike c R next next') :
      Alike c R (.remember memory next) (.remember memory' next')

/-- Embedders that have alike scripts for corresponding codes and bodies. A
body counts only in the frame in which it corresponds to the other one. -/
structure Embedder.Alike (c : Likeness P Q) (embedder : Embedder P) (embedder' : Embedder Q) :
    Prop where
  function : ∀ {code code'}, c.code code code' → ∀ this args,
    (embedder.function code this args).Alike c Eq (embedder'.function code' this args)
  body : ∀ {frame body body'}, c.body frame body body' → ∀ completion,
    (embedder.body body frame completion).Alike c (Resumption.Alike c)
      (embedder'.body body' frame completion)

/-- Scripts that are alike are run alike. The induction is on the scripts: a
request ends in the same way on both sides, and what the scripts go on with
after that end is alike. -/
theorem Script.run_alike {α β : Type} {R : α → β → Prop} (hh : hooks.Alike c hooks')
    {script : Script P α} {script' : Script Q β} (hscript : script.Alike c R script') :
    Action.Alike c R (script.run hooks) (script'.run hooks') := by
  induction hscript with
  | done hab => exact .pure hab
  | ask S hperform _ _ ihfault ihreply =>
      intro m n hmn
      have hend := hperform hooks hooks' hh m n hmn
      rw [run, run, Action.bind_apply, Action.bind_apply, Action.attempt, Action.attempt]
      -- The scripts go on after a fault as after a reply, and stop only if they are exhausted.
      generalize Request.perform hooks _ m = performed at hend ⊢
      generalize Request.perform hooks' _ n = performed' at hend ⊢
      cases hend with
      | done hab hmn' => exact ihreply _ _ hab _ _ hmn'
      | failed fault hmn' => exact ihfault fault _ _ hmn'
      | exhausted => exact .exhausted
  | «recall» _ ih => exact fun m n hmn => ih _ _ hmn.memory m n hmn
  | remember hmemory _ ih => exact fun m n hmn => ih _ _ ⟨hmn.realm, hmemory⟩

namespace Embedder

variable {embedder : Embedder P} {embedder' : Embedder Q}

/-- A call does the same on both sides. The two callees are objects that are
alike, so both are intrinsic functions, functions of the embedder, foreign
objects or not callable. -/
theorem call_alike (he : embedder.Alike c embedder') (hh : hooks.Alike c hooks') (f this : Value)
    (args : List Value) :
    Action.Alike c Eq (embedder.call hooks f this args) (embedder'.call hooks' f this args) := by
  unfold call
  split
  · refine .record _ fun x y hxy => ?_
    have hkind := hxy.kind
    generalize x.kind = kind at hkind ⊢
    generalize y.kind = kind' at hkind ⊢
    cases hkind with
    | function hf =>
        have hcode := hf.code
        dsimp only
        generalize FunctionData.code _ = code at hcode ⊢
        generalize FunctionData.code _ = code' at hcode ⊢
        cases hcode with
        | intrinsic i => exact i.run_alike hh this args
        | native hcode =>
            exact .next (Script.run_alike hh (he.function hcode this args)) fun _ => .ofExcept _
    | foreign hhost =>
        simp only [c.hosts.isCallable hhost]
        split
        · refine .next (.askHost _ fun hmemory => ?_) fun _ => .ofExcept _
          exact c.hosts.call hhost hmemory this args
        · exact .fail _
    | _ => exact .fail _
  · exact .fail _

/-- The hooks that run corresponding code are alike, by induction on the depth
of nested calls. At depth zero no code is run, and one level more runs scripts
with the hooks of the level below. -/
theorem hooks_alike (he : embedder.Alike c embedder') (rounds depth : Nat) :
    (embedder.hooks rounds depth).Alike c (embedder'.hooks rounds depth) := by
  induction depth with
  | zero => exact ⟨fun _ _ _ => .exhausted, fun _ _ => .exhausted, rfl⟩
  | succ depth ih =>
      exact ⟨fun f this args => call_alike he ih f this args,
        fun hbody completion => Script.run_alike ih (he.body hbody completion), rfl⟩

/-- Embedders whose code corresponds are run alike to any depth. This is what
the theorems about two runs start from. -/
theorem run_alike {α β : Type} {R : α → β → Prop} (he : embedder.Alike c embedder')
    (rounds depth : Nat) {script : Script P α} {script' : Script Q β}
    (hscript : script.Alike c R script') :
    Action.Alike c R (embedder.run rounds depth script) (embedder'.run rounds depth script') :=
  Script.run_alike (hooks_alike he rounds depth) hscript

end Embedder

/-! ### New realms -/

namespace Realm

section

variable {r : Realm P} {s : Realm Q}

/-- A new function is added to both realms, with the same handle. Its two
properties are under names that tables may have. -/
theorem Alike.createFunction (h : r.Alike c s) {f : FunctionData P} {f' : FunctionData Q}
    (hf : f.Alike c f') :
    (r.createFunction f).1 = (s.createFunction f').1 ∧
      (r.createFunction f).2.Alike c (s.createFunction f').2 := by
  unfold Realm.createFunction
  rw [hf.name, hf.length]
  exact h.allocate
    (((ObjectRecord.Alike.create (.function hf) _).insert (c.key_text _ rfl) _).insert
      (c.key_text _ rfl) _)

/-- A method is made and written to an object of both realms. -/
theorem Alike.defineMethod (h : r.Alike c s) (handle : Handle) {key : PropertyKey}
    (hkey : c.key key) {f : FunctionData P} {f' : FunctionData Q} (hf : f.Alike c f') :
    (r.defineMethod handle key f).2.Alike c (s.defineMethod handle key f').2 := by
  obtain ⟨hmethod, hmade⟩ := h.createFunction hf
  simp only [Realm.defineMethod, Realm.defineBuiltin, hmethod]
  exact hmade.insertSlot handle hkey _

end

/-- The prototypes of new realms are alike as far as the configurations are.
They are ordinary objects, added one after the other to realms without any. -/
theorem prototypes_alike {config config' : Config} (hconfig : config.Alike c config') :
    (prototypes config : Realm P).Alike c (prototypes config' : Realm Q) := by
  have hnone : (⟨#[], config, Symbol.firstFree⟩ : Realm P).Alike c
      ⟨#[], config', Symbol.firstFree⟩ :=
    ⟨rfl, fun _ => .create .ordinary none, hconfig, rfl⟩
  have hadd : ∀ {r : Realm P} {s : Realm Q}, r.Alike c s → ∀ prototype,
      (r.createWith prototype).2.Alike c (s.createWith prototype).2 :=
    fun hrs prototype => (hrs.allocate (.create .ordinary prototype)).2
  exact hadd (hadd (hadd (hadd (hadd (hadd hnone none) _) _) _) _) _

/-- New realms are alike as far as their configurations are. Beyond the
prototypes they have methods and tags, which are written one by one. -/
theorem initial_alike {config config' : Config} (hconfig : config.Alike c config') :
    (initial config : Realm P).Alike c (initial config' : Realm Q) := by
  refine initial_induction config config' (prototypes_alike hconfig) ?_ ?_
  · intro r s h key f name length hkey hrs
    -- The keys are symbols or names, and a likeness admits both.
    have hkey : c.key key := by
      rcases hkey with rfl | ⟨text, rfl, htext⟩
      · exact c.key_symbol .iterator
      · exact c.key_text text htext
    exact hrs.defineMethod h hkey ⟨rfl, rfl, rfl, .intrinsic f⟩
  · exact fun r s h text hrs => hrs.insertSlot h (c.key_symbol .toStringTag) _

end Realm

/-! ### One platform

On one platform everything an embedder brings can be asked to be the same.
Then all that is left of the likeness is what it says about keys and their
order. -/

section Same

variable {key : PropertyKey → Prop} {order : Bool → Bool → Prop}
  {hkey_text : ∀ text, PropertyKey.index? text = none → key (.string text)}
  {hkey_symbol : ∀ symbol, key (.symbol symbol)}

/-- A request is alike itself. An object that it looks into is the same on
both sides, and only the order in which keys are listed is left to differ. -/
theorem Request.perform_alike {hooks hooks' : Hooks P}
    (hh : hooks.Alike (.same P key order hkey_text hkey_symbol) hooks') (request : Request P)
    (hkeys : request.KeysIn key) :
    Alike (.same P key order hkey_text hkey_symbol)
      (request.SameReplies (.same P key order hkey_text hkey_symbol))
      (request.perform hooks) (request.perform hooks') := by
  cases request with
  | inspect h =>
      exact .mono (fun _ _ hrecord => hrecord.eq)
        (translate_alike Translation.id_respects hh _ hkeys)
  | _ => exact translate_alike Translation.id_respects hh _ hkeys

/-- Replies that are the same up to the order of the keys they list. -/
def Request.SameUpToOrder : (request : Request P) → request.Reply → request.Reply → Prop
  | .ownKeys _ _ _, keys, keys' => keys.Perm keys'
  | _, reply, reply' => reply = reply'

/-- The script goes on in the same way whatever the order of the keys it is
told, and so on after every request. -/
def Script.OrderBlind {α : Type} : Script P α → Prop
  | .done _ => True
  | .ask request next =>
      (∀ reply reply', request.SameUpToOrder reply reply' →
        next (.ok reply) = next (.ok reply')) ∧ ∀ reply, (next reply).OrderBlind
  | .recall next => ∀ memory, (next memory).OrderBlind
  | .remember _ next => next.OrderBlind

/-- No code of the embedder depends on the order of the keys it is told. -/
structure Embedder.OrderBlind (embedder : Embedder P) : Prop where
  function : ∀ code this args, (embedder.function code this args).OrderBlind
  body : ∀ body frame completion, (embedder.body body frame completion).OrderBlind

/-- A script is alike itself if it writes under the keys that tables may have,
and if either only equal settings go together or the script does not depend on
the order of keys. By induction on the script. -/
theorem Script.alike_self {α : Type} {R : α → α → Prop} (hR : ∀ a, R a a) {script : Script P α}
    (huses : script.Uses (·.KeysIn key))
    (horder : (∀ first first', order first first' → first = first') ∨ script.OrderBlind) :
    script.Alike (.same P key order hkey_text hkey_symbol) R script := by
  induction script with
  | done value => exact .done (hR value)
  | ask request next ih =>
      obtain ⟨hkeys, hnext⟩ := huses
      have hgo : ∀ reply,
          (next reply).Alike (.same P key order hkey_text hkey_symbol) R (next reply) :=
        fun reply => ih reply (hnext reply) (horder.imp_right fun hblind => hblind.2 reply)
      refine .ask _ (fun hooks hooks' hh => request.perform_alike hh hkeys)
        (fun fault => hgo _) fun reply reply' hreply => ?_
      -- The same keys in the same order, or in one that does not matter.
      have hsame : next (.ok reply) = next (.ok reply') := by
        cases request with
        | ownKeys h hidden symbols =>
            rcases horder with horder | hblind
            · rw [hreply.eq horder]
            · exact hblind.1 reply reply' hreply.perm
        | _ => exact congrArg (fun reply => next (.ok reply)) hreply
      rw [← hsame]
      exact hgo _
  | «recall» next ih =>
      refine .recall fun memory memory' hmemory => ?_
      cases hmemory
      exact ih memory (huses memory) (horder.imp_right fun hblind => hblind memory)
  | remember memory next ih => exact .remember rfl (ih huses horder)

/-- An embedder is alike itself under the same conditions on all of its
code. -/
theorem Embedder.alike_self {embedder : Embedder P} (huses : embedder.Uses (·.KeysIn key))
    (horder : (∀ first first', order first first' → first = first') ∨ embedder.OrderBlind) :
    embedder.Alike (.same P key order hkey_text hkey_symbol) embedder where
  function hcode this args := by
    cases hcode
    exact Script.alike_self (fun _ => rfl) (huses.function _ this args)
      (horder.imp_right fun hblind => hblind.function _ this args)
  body hbody completion := by
    cases hbody
    exact Script.alike_self (fun _ => ⟨rfl, rfl, rfl⟩) (huses.body _ _ completion)
      (horder.imp_right fun hblind => hblind.body _ _ completion)

end Same

end ScriptRealm
