import ScriptRealm.Proofs.Generator.Completion
import ScriptRealm.Proofs.Handles.Confinement

/-!
# `ScriptRealm.Proofs.Handles.Embedding`: prototypes lead to an end

A handle is given out when an object is made, and nothing else makes one.
An embedder that is `Honest` keeps to this: the handles in its requests,
in what it answers and in what it remembers come from what it was given.
`Script.Honest` says so of a script without running it, for every reply
that refers to objects there are; how many there are may have grown from
one reply to the next.

Running an honest script is confined (`Script.run_leads`), and so are the
hooks that run an honest embedder's code to any depth
(`Embedder.Honest.hooks_confined`). With the two hooks of the lemmas about
operations the same is known in the middle of an operation: the code that
it starts finds a closed machine and is given what is below
(`Hooks.Enters.closed`). So at every moment that follows on a new realm
the machine is closed (`Moment.Later.honest`).

`walks_end` is the result for prototypes. Following them ends, lookups
follow them to that end, and a prototype is refused exactly if it is not
the one the object has already and the object is not extensible or would
come to lie on its own walk.
-/

set_option autoImplicit false

namespace ScriptRealm

open Refers (Below)
open ScriptRealm.Action (AgreeAt Confined)

variable {P : Platform} [P.Traced] {α : Type} {n : Nat}

/-! ### Scripts that make up no handles -/

/-- With `n` objects in the arena, a script names no others, whatever it is
replied. When it is done, `ends` holds of what it ends with. -/
def Script.Honest (ends : Nat → α → Prop) : Script P α → Nat → Prop
  | .done value, n => ends n value
  | .ask request next, n =>
      request.Within n ∧ ∀ n' reply, n ≤ n' → Below n' reply → (next reply).Honest ends n'
  | .recall next, n => ∀ memory, Below n memory → (next memory).Honest ends n
  | .remember memory next, n => Below n memory ∧ next.Honest ends n

/-- An embedder whose functions and bodies name the objects they are given,
and those that every realm has. -/
structure Embedder.Honest (embedder : Embedder P) : Prop where
  function : ∀ {n : Nat} {code : P.Code} {this : Value} {args : List Value},
    Intrinsic.Present n → Below n code → Below n this → Below n args →
    (embedder.function code this args).Honest Below n
  body : ∀ {n : Nat} {body : P.Body} {frame : Frame} {completion : Completion},
    Intrinsic.Present n → Below n body → Below n frame → Below n completion →
    (embedder.body body frame completion).Honest Below n

/-- What a script ends with may be described more loosely. By induction on the
script, which is honest in its requests all the same. -/
theorem Script.Honest.mono {ends ends' : Nat → α → Prop} (hends : ∀ n a, ends n a → ends' n a)
    {script : Script P α} (h : script.Honest ends n) : script.Honest ends' n := by
  induction script generalizing n with
  | done value => exact hends n value h
  | ask request next ih =>
      exact ⟨h.1, fun n' reply hle hreply => ih reply (h.2 n' reply hle hreply)⟩
  | «recall» next ih => exact fun memory hmemory => ih memory (h memory hmemory)
  | remember memory next ih => exact ⟨h.1, ih h.2⟩

variable {hooks hooks' : Hooks P}

/-- Running an honest script leads to a closed machine. The number of objects
that the script is honest about is always that of the machine. By induction on
the script, which goes on in the machine that a request has left, with a reply
that names objects of it. -/
theorem Script.run_leads [Refers α] (hh : hooks.Confined hooks') (script : Script P α) :
    ∀ m : Machine P, m.Closed → script.Honest Below m.realm.size →
      AgreeAt m (script.run hooks) (script.run hooks') m.Leads m.Leads := by
  induction script with
  | done value => exact fun m hm hvalue => .pure (hm.leads hvalue)
  | ask request next ih =>
      intro m hm hscript
      obtain ⟨hrequest, hnext⟩ := hscript
      have hperform := request.perform_confined hh hrequest
      refine .bind (hperform.attempt m hm (Nat.le_refl _)) fun reply m' hlead => ?_
      have hrest := ih reply m' hlead.closed (hnext _ reply hlead.size_le hlead.below)
      exact hrest.mono (fun _ _ => hlead.trans) fun _ _ => hlead.trans
  | «recall» next ih =>
      intro m hm hscript
      have hrest := ih m.memory m hm (hscript m.memory hm.memory)
      exact ⟨hrest.same, hrest.meets⟩
  | remember memory next ih =>
      intro m hm hscript
      -- The memory is another one, the realm is the same.
      have hrest := ih { m with memory } ⟨hm.realm, hscript.1⟩ hscript.2
      exact ⟨hrest.same, hrest.meets.mono (fun _ _ hend => { hend with })
        fun _ _ hend => { hend with }⟩

/-- A script that is honest about any number of objects from `n` on is
confined. -/
theorem Script.run_confined [Refers α] (hh : hooks.Confined hooks') {script : Script P α}
    (hscript : ∀ n', n ≤ n' → Intrinsic.Present n' → script.Honest Below n') :
    Confined n (script.run hooks) (script.run hooks') :=
  fun m hm hle => script.run_leads hh m hm (hscript _ hle hm.realm.present)

/-! ### Honest embedders -/

namespace Embedder.Honest

variable {embedder : Embedder P}

/-- A call of an honest embedder is confined. Functions of a new realm are,
native ones run honest scripts, and hosts are known not to make up handles. -/
theorem call_confined (hembedder : embedder.Honest) (hh : hooks.Confined hooks')
    {f this : Value} {args : List Value} (hthis : Below n this) (hargs : Below n args) :
    Confined n (embedder.call hooks f this args) (embedder.call hooks' f this args) := by
  unfold Embedder.call
  split
  · rename_i h
    refine .record_bind fun r hr hle => ?_
    have hkind := (hr.objects h).kind
    split
    · rename_i data heq
      rw [heq] at hkind
      split
      · rename_i i _
        exact i.run_confined hh (hthis.mono hle) (hargs.mono hle)
      · rename_i code hcode
        have hcode : Below r.size code := FunctionData.below_code hkind hcode
        -- A script runs in the arena as it is when it starts, so it must be honest about that.
        refine .bind (Script.run_confined hh fun n' hle' hpresent => ?_) fun _ _ _ hresult =>
          .ofExcept hresult
        have hle'' := Nat.le_trans hle hle'
        exact hembedder.function hpresent (hcode.mono hle') (hthis.mono hle'')
          (hargs.mono hle'')
    · rename_i host heq
      rw [heq] at hkind
      split
      · refine .bind (.askHost h fun n' memory hle' hpresent hmemory => ?_) fun _ _ _ hresult =>
          .ofExcept hresult
        have hle'' := Nat.le_trans hle hle'
        exact Platform.Traced.below_call hpresent (Below.mono hkind hle') (hthis.mono hle'')
          (hargs.mono hle'') hmemory
      · exact .fail trivial
    · exact .fail trivial
  · exact .fail trivial

/-- The hooks that run an honest embedder's code are confined, by induction
on the depth of nested calls. -/
theorem hooks_confined (hembedder : embedder.Honest) (rounds depth : Nat) :
    (embedder.hooks rounds depth).Confined (embedder.hooks rounds depth) := by
  induction depth with
  | zero => exact ⟨fun _ _ _ => .exhausted, fun _ _ _ => .exhausted, rfl⟩
  | succ depth ih =>
      refine ⟨fun _ hthis hargs => call_confined hembedder ih hthis hargs,
        fun hbody hframe hcompletion => ?_, rfl⟩
      exact Script.run_confined ih fun n' hle hpresent =>
        hembedder.body hpresent (hbody.mono hle) (hframe.mono hle) (hcompletion.mono hle)

end Embedder.Honest

/-! ### Moments -/

/-- What is started is given objects among the first `n`. -/
def Entry.Within (n : Nat) : Entry P → Prop
  | .call f this args => Below n f ∧ Below n this ∧ Below n args
  | .body code frame completion => Below n code ∧ Below n frame ∧ Below n completion

/-- The code that an operation starts finds a closed machine, and what it is
given is in the arena by then. Hooks that differ elsewhere cannot be told
apart by an operation that is confined. -/
theorem Hooks.Enters.closed {op : Hooks P → Action P α} {m k : Machine P} {entry : Entry P}
    (henters : hooks.Enters op m entry k) (hh : hooks.Confined hooks)
    (hop : ∀ hooks', hooks.Confined hooks' → op hooks m = op hooks' m) :
    k.Closed ∧ entry.Within k.realm.size := by
  obtain ⟨hooks', houtside, hne⟩ := henters
  by_cases hclosed : k.Closed ∧ entry.Within k.realm.size
  · exact hclosed
  · -- Otherwise the hooks differ where no code is started.
    refine absurd (hop hooks' ⟨?_, ?_, houtside.rounds⟩) hne
    · intro n f this args hf hthis hargs m₀ hm₀ hle
      refine ⟨houtside.call f this args m₀ ?_, (hh.call hf hthis hargs m₀ hm₀ hle).meets⟩
      rintro ⟨rfl, rfl⟩
      exact hclosed ⟨hm₀, hf.mono hle, hthis.mono hle, hargs.mono hle⟩
    · intro n body frame completion hbody hframe hcompletion m₀ hm₀ hle
      refine ⟨houtside.resume body frame completion m₀ ?_,
        (hh.resume hbody hframe hcompletion m₀ hm₀ hle).meets⟩
      rintro ⟨rfl, rfl⟩
      exact hclosed ⟨hm₀, hbody.mono hle, hframe.mono hle, hcompletion.mono hle⟩

/-- What is going on names objects among the first `n`. -/
def Activity.Honest (n : Nat) : Activity P → Prop
  | .script code => code.Honest (fun _ _ => True) n
  | .entry started => started.Within n

namespace Moment

variable {embedder : Embedder P} {rounds : Nat} {moment moment' : Moment P}

/-- The machine is closed, and what is going on names objects of it. -/
structure Honest (moment : Moment P) : Prop where
  closed : moment.machine.Closed
  activity : moment.activity.Honest moment.machine.realm.size

/-- What one step preserves. A reply leaves the machine closed, and so is the
machine in which code is started; what the code is given was stored in a
function or was handed on. -/
theorem Next.honest (hembedder : embedder.Honest)
    (hnext : Moment.Next embedder rounds moment moment') (hmoment : moment.Honest) :
    moment'.Honest := by
  obtain ⟨hm, hactivity⟩ := hmoment
  cases hnext with
  | @reply depth stack _ request next m m' reply hreply =>
      have hperform := request.perform_confined (hembedder.hooks_confined rounds depth)
        hactivity.1
      -- The script goes on with the arena as the reply has left it.
      have hlead := (hperform.attempt m hm (Nat.le_refl _)).meets
      rw [hreply] at hlead
      exact ⟨hlead.closed, hactivity.2 _ reply hlead.size_le hlead.below⟩
  | consult => exact ⟨hm, hactivity _ hm.memory⟩
  | remember => exact ⟨⟨hm.realm, hactivity.1⟩, hactivity.2⟩
  | request henters =>
      have hentry := henters.closed (hembedder.hooks_confined rounds _) fun hooks' hh =>
        (Request.perform_confined hh _ hactivity.1 _ hm (Nat.le_refl _)).same
      exact ⟨hentry.1, hentry.2⟩
  | @native depth stack f this args m data code hkind hcode =>
      obtain ⟨-, hthis, hargs⟩ := hactivity
      -- What the code refers to was stored in the function.
      have hfunction : Below m.realm.size (Kind.function data) := hkind ▸ (hm.realm.objects f).kind
      have hcode : Below m.realm.size code := FunctionData.below_code hfunction hcode
      exact ⟨hm, (hembedder.function hm.realm.present hcode hthis hargs).mono fun _ _ _ => trivial⟩
  | @intrinsic depth stack f this args m k data i entry hkind hcode henters =>
      obtain ⟨-, hthis, hargs⟩ := hactivity
      have hentry := henters.closed (hembedder.hooks_confined rounds _) fun hooks' hh =>
        (i.run_confined hh hthis hargs m hm (Nat.le_refl _)).same
      exact ⟨hentry.1, hentry.2⟩
  | body =>
      obtain ⟨hbody, hframe, hcompletion⟩ := hactivity
      exact ⟨hm, (hembedder.body hm.realm.present hbody hframe hcompletion).mono
        fun _ _ _ => trivial⟩

/-- Along a whole run of an honest embedder every moment stays honest. The
induction is on the steps, and each step hands code only what the machine
already refers to. -/
theorem Later.honest (hembedder : embedder.Honest) (hlater : Later embedder rounds moment moment')
    (hmoment : moment.Honest) : moment'.Honest := by
  induction hlater with
  | refl => exact hmoment
  | next _ hnext ih => exact hnext.honest hembedder ih

end Moment

/-- At every moment at which code runs, in every realm that an honest
embedder reaches from a new one:

- following prototypes ends, wherever it begins, and lookups go along the
  whole of that walk;
- an object is refused a prototype exactly if that is not the one it has
  and either the object is not extensible or it lies on the walk from that
  prototype;
- what is refused changes nothing, and what is accepted changes the
  object's prototype and no other field of any object. -/
theorem walks_end (embedder : Embedder P) (hembedder : embedder.Honest) (rounds depth : Nat)
    (config : Config) (memory : P.Memory)
    (hmemory : Below (Realm.initial config : Realm P).size memory) (script : Script P α)
    (hscript : script.Honest (fun _ _ => True) (Realm.initial config : Realm P).size)
    (moment : Moment P)
    (hlater : Moment.Later embedder rounds
      ⟨depth, [], .script script, ⟨.initial config, memory⟩⟩ moment) :
    let r := moment.machine.realm
    (∀ h, ∃ l, r.Walk h l ∧ r.chain h = l ∧
      ∀ key, r.owner? h key = l.find? (r.hasOwn · key) ∧ r.has h key = l.any (r.hasOwn · key)) ∧
    (∀ h prototype, h.index < r.size →
      ((r.setPrototype h prototype).1 = false ↔
        (r.record h).prototype ≠ prototype ∧
          ((r.record h).extensible = false ∨ ∃ p l, prototype = some p ∧ r.Walk p l ∧ h ∈ l)) ∧
      ((r.setPrototype h prototype).1 = false → (r.setPrototype h prototype).2 = r) ∧
      ((r.setPrototype h prototype).1 = true →
        (r.setPrototype h prototype).2.record h = { r.record h with prototype } ∧
        (∀ h', h' ≠ h → (r.setPrototype h prototype).2.record h' = r.record h') ∧
        (r.setPrototype h prototype).2.size = r.size)) := by
  -- The start is honest, so the realm is closed; all else is about closed realms.
  have hstart : Moment.Honest (P := P) ⟨depth, [], .script script, ⟨.initial config, memory⟩⟩ :=
    ⟨⟨Realm.initial_closed config, hmemory⟩, hscript⟩
  have hclosed := (hlater.honest hembedder hstart).closed.realm
  intro r
  refine ⟨fun h => ⟨r.chain h, hclosed.walk_chain h, rfl, fun key => ?_⟩, ?_⟩
  · exact ⟨Realm.ownerUpTo?_eq_find? r key r.size h, Realm.hasUpTo_eq_any r key r.size h⟩
  · intro h prototype hlt
    refine ⟨Realm.setPrototype_eq_false_iff fun p _ => hclosed.walk_chain p,
      Realm.setPrototype_of_false, fun haccepted => ?_⟩
    rw [Realm.setPrototype_of_true haccepted]
    exact ⟨Realm.record_update_self hlt _, fun h' hne => Realm.record_update_of_ne hne _,
      Realm.size_update _ _ _⟩

/-! ### An honest embedder -/

instance : Platform.fixed.Traced where
  code := inferInstanceAs (Refers IterResult)
  body := inferInstanceAs (Refers (List Step))
  host := inferInstanceAs (Refers Unit)
  memory := inferInstanceAs (Refers Unit)
  below_get? _ _ _ := trivial
  below_put _ _ _ _ _ _ _ := ⟨trivial, trivial, trivial⟩
  below_delete _ _ _ _ _ := ⟨trivial, trivial, trivial⟩
  below_call _ _ _ _ _ := ⟨trivial, trivial, trivial⟩

/-- Fixed answers and fixed steps are given with the code. So they refer to
what the code and the body refer to. -/
theorem Embedder.fixed_honest : Embedder.fixed.Honest where
  function _ hcode _ _ := by
    refine ⟨hcode, fun n' reply _ hreply => ?_⟩
    cases reply with
    | ok h => exact hreply
    | error fault => exact hreply
  body {n} steps _ _ _ hbody hframe _ := by
    have hsteps : Below n (show List Step from steps) := hbody
    refine ⟨fun step hstep => hsteps step (List.mem_of_mem_tail hstep), hframe, ?_⟩
    exact hsteps.headD trivial

/-- A script that makes two objects and has each inherit from the other. -/
def Script.inheritFromEachOther : Script Platform.fixed Unit :=
  .ask .createObject fun first =>
  .ask .createObject fun second =>
  .ask (.setPrototype (first.toOption.getD ⟨0⟩) (some (second.toOption.getD ⟨0⟩))) fun _ =>
  .ask (.setPrototype (second.toOption.getD ⟨0⟩) (some (first.toOption.getD ⟨0⟩))) fun _ =>
  .done ()

/-- The script names the objects that it was given, and the first object of
all if it was given none. -/
theorem Script.inheritFromEachOther_honest (hn : Intrinsic.Present n) :
    Script.inheritFromEachOther.Honest (fun _ _ => True) n := by
  have hgiven : ∀ {n' : Nat} {reply : Except Fault Handle}, n ≤ n' → Below n' reply →
      Below n' (reply.toOption.getD ⟨0⟩) := by
    intro n' reply hle hreply
    cases reply with
    | ok h => exact hreply
    | error fault => exact (hn.mono hle).below (Nat.zero_le _)
  refine ⟨trivial, fun n₁ first hle₁ hfirst => ⟨trivial, fun n₂ second hle₂ hsecond => ?_⟩⟩
  have hfirst := (hgiven hle₁ hfirst).mono hle₂
  have hsecond := hgiven (Nat.le_trans hle₁ hle₂) hsecond
  exact ⟨⟨hfirst, hsecond⟩, fun n₃ _ hle₃ _ =>
    ⟨⟨hsecond.mono hle₃, hfirst.mono hle₃⟩, fun _ _ _ _ => trivial⟩⟩

/-- The first object inherits from the second, and the second is refused
the first. -/
theorem walks_end_relinking :
    ∃ m, Moment.Later Embedder.fixed 0
        ⟨0, [], .script Script.inheritFromEachOther, ⟨.initial {}, ()⟩⟩
        ⟨0, [], .script (Script.done ()), m⟩ ∧
      m.realm.Walk ⟨12⟩ [⟨12⟩, ⟨13⟩, ⟨0⟩] ∧
      (m.realm.setPrototype ⟨13⟩ (some ⟨12⟩)).1 = false := by
  have hend : Moment.Later Embedder.fixed 0
      ⟨0, [], .script Script.inheritFromEachOther, ⟨.initial {}, ()⟩⟩
      ⟨0, [], .script (Script.done ()), _⟩ :=
    .next (.next (.next (.next .refl (.reply rfl)) (.reply rfl)) (.reply rfl)) (.reply rfl)
  have h := walks_end Embedder.fixed Embedder.fixed_honest 0 0 {} () trivial
    Script.inheritFromEachOther
    (Script.inheritFromEachOther_honest (Realm.initial_closed {}).present) _ hend
  have hrefused := (h.2 ⟨13⟩ (some ⟨12⟩) (by decide)).1.mpr
    ⟨by decide, .inr ⟨⟨12⟩, _, rfl, .step rfl (.step rfl (.last rfl)), by decide⟩⟩
  exact ⟨_, hend, .step rfl (.step rfl (.last rfl)), hrefused⟩

end ScriptRealm
