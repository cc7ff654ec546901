import ScriptRealm.Proofs.Operations

/-!
# `ScriptRealm.Proofs.Embedding`: what all scripts keep

An embedder works on a realm by requests, and the code it calls does the
same one level deeper. So a relation between the realm before and the
realm after that every request keeps is kept by every run of every
script, whatever the embedder's functions and generator bodies are.

`Realm.Rule p R` says this of the requests of `p` and of what calls do
besides. `Realm.Rule.hooks_keeps` is the induction on the depth of nested
calls, and `Realm.Rule.run_keeps` the result for whole runs.

Most rules come from a law. `Realm.Law licence R` lists what has to be known
of the relation `R`: it is a preorder, the changes of `Realm.Change` keep
it, and resuming a generator keeps it if the code run on the way does.

`Script.Uses p` and `Embedder.Uses p` restrict the requests. They speak
of every request a script could make, whatever replies it gets.
-/

set_option autoImplicit false

namespace ScriptRealm

open ScriptRealm.Action (Agree AgreeAt Keeps)

variable {P : Platform} {α : Type}

/-- Every request that a script can make is one of `p`. -/
def Script.Uses (p : Request P → Prop) : Script P α → Prop
  | .done _ => True
  | .ask request next => p request ∧ ∀ reply, (next reply).Uses p
  | .recall next => ∀ memory, (next memory).Uses p
  | .remember _ next => next.Uses p

/-- Every request that an embedder's code can make is one of `p`. -/
structure Embedder.Uses (p : Request P → Prop) (embedder : Embedder P) : Prop where
  function : ∀ code this args, (embedder.function code this args).Uses p
  body : ∀ body frame completion, (embedder.body body frame completion).Uses p

/-- A script makes no requests but requests, so it uses what all of them
are. -/
theorem Script.uses_of_forall {p : Request P → Prop} (hp : ∀ request, p request)
    (script : Script P α) : script.Uses p := by
  induction script with
  | done value => trivial
  | ask request next ih => exact ⟨hp request, ih⟩
  | «recall» next ih => exact ih
  | remember memory next ih => exact ih

/-- An embedder whose requests are all admitted is one that uses only admitted
requests, its functions and generator bodies alike. -/
theorem Embedder.uses_of_forall {p : Request P → Prop} (hp : ∀ request, p request)
    (embedder : Embedder P) : embedder.Uses p :=
  ⟨fun _ _ _ => Script.uses_of_forall hp _, fun _ _ _ => Script.uses_of_forall hp _⟩

/-- A script that keeps to fewer requests keeps to more. -/
theorem Script.Uses.mono {p q : Request P → Prop} (hpq : ∀ request, p request → q request)
    {script : Script P α} (h : script.Uses p) : script.Uses q := by
  induction script with
  | done value => trivial
  | ask request next ih => exact ⟨hpq request h.1, fun reply => ih reply (h.2 reply)⟩
  | «recall» next ih => exact fun memory => ih memory (h memory)
  | remember memory next ih => exact ih h

/-- An embedder that uses only requests of a kind uses only requests of any
wider kind. -/
theorem Embedder.Uses.mono {p q : Request P → Prop} (hpq : ∀ request, p request → q request)
    {embedder : Embedder P} (h : embedder.Uses p) : embedder.Uses q :=
  ⟨fun code this args => (h.function code this args).mono hpq,
    fun body frame completion => (h.body body frame completion).mono hpq⟩

/-- Code that is run keeps the relation `R` between the realm before and
the realm after. -/
structure Hooks.Keeps (R : Realm P → Realm P → Prop) (hooks : Hooks P) : Prop where
  call : ∀ r f this args, Action.Keeps (R r) (hooks.call f this args)
  resume : ∀ r body frame completion, Action.Keeps (R r) (hooks.resume body frame completion)

/-- The relation `R` between the realm before and the realm after is kept
by everything the library does. -/
structure Realm.Law (licence : Realm.Licence) (R : Realm P → Realm P → Prop) : Prop where
  refl : ∀ r, R r r
  trans : ∀ r s t, R r s → R s t → R r t
  change : ∀ r s, Realm.Change licence r s → R r s
  resume : ∀ hooks : Hooks P, hooks.Keeps R → ∀ r h completion,
    Action.Keeps (R r) (Generator.resume hooks h completion)

/-- The relation `R` is kept by the requests of `p`, as far as it is kept by
the code they run, and by what a call does without a request. -/
structure Realm.Rule (p : Request P → Prop) (R : Realm P → Realm P → Prop) : Prop where
  refl : ∀ r, R r r
  request : ∀ hooks : Hooks P, hooks.Keeps R → ∀ (r : Realm P) (request : Request P),
    p request → Action.Keeps (R r) (request.perform hooks)
  intrinsic : ∀ hooks : Hooks P, hooks.Keeps R → ∀ (r : Realm P) (i : IntrinsicFunction) this args,
    Action.Keeps (R r) (i.run hooks this args)
  host : ∀ (r s : Realm P) (h : Handle) (old new : P.Host), (s.record h).kind = .foreign old →
    P.hosts.Step old new → R r s → R r (s.setKind h (.foreign new))

namespace Realm.Law

variable {licence : Licence} {R : Realm P → Realm P → Prop} {hooks : Hooks P}

/-- What is related to a fixed realm is an invariant. So a law about two
realms can be used where an invariant of one realm is asked for, with the
first realm held fixed. -/
theorem stable (law : Law licence R) (r : Realm P) : Stable licence (R r) :=
  fun s t hchange hs => law.trans r s t hs (law.change s t hchange)

/-- Hooks that keep the relation agree with themselves within it. -/
theorem agree (hh : hooks.Keeps R) (r : Realm P) : hooks.Agree (R r) hooks :=
  ⟨hh.call r, rfl⟩

/-- A request keeps `R` if the code it runs does. The law says so of
resumptions, and of the other requests it is known that they make changes and
run code, and nothing else. -/
theorem perform_keeps (law : Law licence R) (hh : hooks.Keeps R) (r : Realm P)
    (request : Request P) (hraw : request.isRaw = true → licence.raw) :
    Keeps (R r) (request.perform hooks) :=
  request.perform_agree (law.stable r) (agree hh r) hraw fun h completion _ =>
    law.resume hooks hh r h completion

/-- So does a function of a new realm, if the law puts up with the moves of
the cursor that it may make. -/
theorem intrinsic_keeps (law : Law licence R) (hh : hooks.Keeps R) (r : Realm P)
    (i : IntrinsicFunction) (this : Value) (args : List Value)
    (hmoves : ∀ h, i = .listIteratorNext → this = .object h → licence.moves h) :
    Keeps (R r) (i.run hooks this args) :=
  i.run_agree (law.stable r) (agree hh r) this args hmoves fun h completion _ =>
    law.resume hooks hh r h completion

/-- The requests that a law allows keep the relation. -/
theorem rule {raw : Prop} (law : Law raw R) :
    Rule (fun request => request.isRaw = true → raw) R where
  refl := law.refl
  request _ hh r request hraw := law.perform_keeps hh r request hraw
  intrinsic _ hh r i this args := law.intrinsic_keeps hh r i this args fun _ _ _ => trivial
  host r s h old new hkind hstep hs :=
    law.trans r s _ hs (law.change s _ (.host s h old new hkind hstep))

end Realm.Law

/-! ### Runs -/

namespace Realm.Rule

variable {p : Request P → Prop} {R : Realm P → Realm P → Prop} {hooks : Hooks P}
  {embedder : Embedder P}

/-- A script keeps `R`: it does by each of its requests. By induction on the
script. Consulting and changing the embedder's memory does not touch the
realm. -/
theorem script_keeps (rule : Rule p R) (hh : hooks.Keeps R) (r : Realm P) (script : Script P α)
    (huses : script.Uses p) : Keeps (R r) (script.run hooks) := by
  induction script with
  | done value => exact .pure _
  | ask request next ih =>
      obtain ⟨hrequest, hnext⟩ := huses
      -- A request may fail, and the script goes on with the fault as it does with an answer.
      exact .bind (.attempt (rule.request hooks hh r request hrequest)) fun reply =>
        ih reply (hnext reply)
  | «recall» next ih =>
      -- What follows depends on the memory that is found, so the machine is fixed first.
      intro m hm
      obtain ⟨_, hmeets⟩ := ih m.memory (huses m.memory) m hm
      exact ⟨rfl, hmeets⟩
  | remember memory next ih =>
      intro m hm
      obtain ⟨_, hmeets⟩ := ih huses { m with memory } hm
      exact ⟨rfl, hmeets⟩

/-- Calling a value keeps `R`, be it the embedder's function, one of the
library's or a foreign object. -/
theorem call_keeps (rule : Rule p R) (hh : hooks.Keeps R) (huses : embedder.Uses p)
    (r : Realm P) (f this : Value) (args : List Value) :
    Keeps (R r) (embedder.call hooks f this args) := by
  unfold Embedder.call
  -- The value may be a handle, whose object is a function or foreign or can not be called.
  split
  · rename_i h
    intro m hm
    refine .record_bind ?_
    split
    · split
      · rename_i i _
        exact rule.intrinsic hooks hh r i this args m hm
      -- The embedder's own code is a script, whose last word is handed on as it is.
      · rename_i code _
        exact .bind (rule.script_keeps hh r _ (huses.function code this args) m hm)
          fun result m' hm' => .ofExcept (fun _ _ => hm') fun _ _ => hm'
    · rename_i host hkind
      split
      -- A host that is called may change its own storage, and the rule has a clause for that.
      · have hask : AgreeAt m (Action.askHost h (P.hosts.call host this args))
            (Action.askHost h (P.hosts.call host this args)) (fun _ m' => R r m'.realm)
            (fun _ m' => R r m'.realm) :=
          ⟨rfl, rule.host r m.realm h host _ hkind (.call host this args m.memory) hm⟩
        exact .bind hask fun result m' hm' => .ofExcept (fun _ _ => hm') fun _ _ => hm'
      · exact .fail hm
    · exact .fail hm
  · exact .fail _

/-- The hooks that run an embedder's code keep `R`, by induction on the depth
of nested calls. At depth zero they run nothing. -/
theorem hooks_keeps (rule : Rule p R) (huses : embedder.Uses p) (rounds depth : Nat) :
    (embedder.hooks rounds depth).Keeps R := by
  induction depth with
  | zero => exact ⟨fun _ _ _ _ => .exhausted, fun _ _ _ _ => .exhausted⟩
  | succ depth ih =>
      exact ⟨fun r f this args => rule.call_keeps ih huses r f this args,
        fun r body frame completion =>
          rule.script_keeps ih r _ (huses.body body frame completion)⟩

/-- A run of a script leads to a realm that `R` relates to the first
one. -/
theorem run_keeps (rule : Rule p R) (huses : embedder.Uses p) (rounds depth : Nat)
    {script : Script P α} (hscript : script.Uses p) (m : Machine P) :
    (embedder.run rounds depth script m).Meets (fun _ m' => R m.realm m'.realm)
      (fun _ m' => R m.realm m'.realm) :=
  (rule.script_keeps (rule.hooks_keeps huses rounds depth) m.realm script hscript m
    (rule.refl m.realm)).meets

end Realm.Rule

/-- The hooks that run an embedder's code keep what is law. -/
theorem Embedder.hooks_keeps {raw : Prop} {R : Realm P → Realm P → Prop}
    (law : Realm.Law raw R) (embedder : Embedder P)
    (huses : embedder.Uses fun request => request.isRaw = true → raw) (rounds depth : Nat) :
    (embedder.hooks rounds depth).Keeps R :=
  law.rule.hooks_keeps huses rounds depth

/-- Every run keeps what is law, be its end an answer or a failure. A run that
was stopped has no end to say anything about. -/
theorem Embedder.run_keeps {raw : Prop} {R : Realm P → Realm P → Prop}
    (law : Realm.Law raw R) (embedder : Embedder P)
    (huses : embedder.Uses fun request => request.isRaw = true → raw) (rounds depth : Nat)
    (script : Script P α) (hscript : script.Uses fun request => request.isRaw = true → raw)
    (m : Machine P) :
    (embedder.run rounds depth script m).Meets (fun _ m' => R m.realm m'.realm)
      (fun _ m' => R m.realm m'.realm) :=
  law.rule.run_keeps huses rounds depth hscript m

/-- A request that is answered hands its reply on. -/
theorem Script.run_ask (hooks : Hooks P) {request : Request P}
    {next : Except Fault request.Reply → Script P α} {m m' : Machine P} {reply : request.Reply}
    (hdone : request.perform hooks m = .done reply m') :
    (Script.ask request next).run hooks m = (next (.ok reply)).run hooks m' := by
  rw [run, Action.bind_apply, Action.attempt, hdone]

/-! ### Small embedders

The least that code can do is nothing. The next is that a function answers
with a fixed result object, and that a generator's body takes the steps of
a fixed list, which is enough to set every operation of the library
going. -/

/-- Code that does nothing. -/
def Embedder.idle (P : Platform) : Embedder P where
  function _ _ _ := .done (.ok .undefined)
  body body frame _ := .done { body, frame, step := .ok (.returned .undefined) }

/-- The platform of fixed answers and fixed steps. Its foreign objects are
empty and refuse everything. -/
def Platform.fixed : Platform where
  Code := IterResult
  Body := List Step
  Host := Unit
  Memory := Unit
  hosts :=
    { label := fun _ => "empty"
      has := fun _ _ => false
      get? := fun _ _ => none
      ownKeys := fun _ => []
      put := fun host _ _ memory => (false, host, memory)
      delete := fun host _ memory => (false, host, memory) }

/-- The embedder of fixed answers and fixed steps. A body that has no steps
left returns. -/
def Embedder.fixed : Embedder Platform.fixed where
  function result _ _ := .ask (.createIterResult result.value result.done) fun reply =>
    .done (reply.map Value.object)
  body steps frame _ := .done
    { body := steps.tail
      frame := { frame with resumePoint := frame.resumePoint + 1 }
      step := .ok (steps.headD (.returned .undefined)) }

/-- The storage of a host that keeps entries in order. It may refuse every
write, and it may refuse every removal. -/
structure Bag where
  entries : List (PropertyKey × Option Value)
  refusesPut : Bool
  allowsDelete : Bool

namespace Bag

def keys (bag : Bag) : List PropertyKey := bag.entries.map Prod.fst

/-- Writes a value in the key's place or, if the key is new, at the end. -/
def put (bag : Bag) (key : PropertyKey) (value : Value) : Bool × Bag :=
  if bag.refusesPut then (false, bag)
  else if key ∈ bag.keys then
    (true, { bag with entries := bag.entries.map fun entry =>
      if entry.1 = key then (key, some value) else entry })
  else (true, { bag with entries := bag.entries ++ [(key, some value)] })

/-- Removes a key, be it there or not. -/
def delete (bag : Bag) (key : PropertyKey) : Bool × Bag :=
  if bag.allowsDelete then
    (true, { bag with entries := bag.entries.filter fun entry => entry.1 ≠ key })
  else (false, bag)

end Bag

/-- A platform whose foreign objects are bags and nothing more. -/
def Platform.bags : Platform where
  Code := Unit
  Body := Unit
  Host := Bag
  Memory := Unit
  hosts :=
    { label := fun _ => "bag"
      has := fun bag key => key ∈ bag.keys
      get? := fun bag key => (bag.entries.lookup key).join
      ownKeys := Bag.keys
      put := fun bag key value memory => ((bag.put key value).1, (bag.put key value).2, memory)
      delete := fun bag key memory => ((bag.delete key).1, (bag.delete key).2, memory) }

end ScriptRealm
