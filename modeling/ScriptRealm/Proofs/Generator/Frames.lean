import ScriptRealm.Proofs.Generator.Moments
import ScriptRealm.Proofs.Likeness.Embedding

/-!
# `ScriptRealm.Proofs.Generator.Frames`: bodies find their frames again

A body and its frame are taken out of a generator while the body runs, and
are put back on every way on which the run can end. In between the library
is entered again, the same generator can be resumed several times within one
operation, and delegates can take turns. The frame must come through all of
this: a body that is resumed has to be handed the frame that it left the last
time, or the one that the generator was made with.

To say so for whole runs, bodies are made to watch. On the platform
`Platform.watched P` a body carries a frame along. It starts with the frame
that its generator is made with, and whenever a resumption of it is over it
takes the frame that was left. `Embedder.watched` runs an embedder's code
under this watch. A body that is handed the frame it carries does what it
always does, and a body that is handed any other frame runs the `alarm`.
Whatever the alarm would do, runs come to the same as without the watch, so
it is never raised. The proof is that watched and unwatched runs are alike
(`ScriptRealm.Proofs.Likeness.Basic`), where a body corresponds to itself together
with the frame that is stored beside it.

The two other parts of `frames_continue` are about single moments. The
generators whose runs are under way are different from each other, so that
no body is resumed while it runs. And where a body leaves the generator
completed, by a fault or by throwing, its last frame is still stored.
-/

set_option autoImplicit false

namespace ScriptRealm

variable {P : Platform} {α β : Type}

/-! ### Watching bodies -/

/-- The platform on which bodies carry a frame along. -/
abbrev Platform.watched (P : Platform) : Platform := { P with Body := P.Body × Frame }

/-- A body starts out with the frame that its generator is made with. -/
def Translation.watched (P : Platform) : Translation P P.watched where
  code code := code
  body frame body := (body, frame)
  host host := host

/-- Bodies without the watch. -/
def Translation.unwatched (P : Platform) : Translation P.watched P where
  code code := code
  body _ body := body.1
  host host := host

/-- A machine without the watch. -/
def Machine.unwatched (m : Machine P.watched) : Machine P where
  realm :=
    { objects := m.realm.objects.map (·.translate (.unwatched P))
      config := m.realm.config
      nextSymbol := m.realm.nextSymbol }
  memory := m.memory

/-- An end without the watch. -/
def Outcome.unwatched : Outcome P.watched α → Outcome P α
  | .done value m => .done value m.unwatched
  | .failed fault m => .failed fault m.unwatched
  | .exhausted => .exhausted

/-- The script that asks the same of watching bodies, and is shown what it
would be shown without the watch. -/
def Script.watched (value : α → β) : Script P α → Script P.watched β
  | .done a => .done (value a)
  | .ask request next =>
      .ask (request.translate (.watched P)) fun reply =>
        (next (reply.map (request.untranslate (.watched P) (.unwatched P)))).watched value
  | .recall next => .recall fun memory => (next memory).watched value
  | .remember memory next => .remember memory (next.watched value)

/-- What a watching body leaves behind. It carries the frame that it
leaves. -/
def Resumption.watched (resumption : Resumption P) : Resumption P.watched where
  body := (resumption.body, resumption.frame)
  frame := resumption.frame
  step := resumption.step

/-- The embedder whose bodies watch. One that is handed another frame than
it carries raises the alarm. -/
def Embedder.watched (embedder : Embedder P)
    (alarm : P.Body × Frame → Frame → Completion → Script P.watched (Resumption P.watched)) :
    Embedder P.watched where
  function code this args := (embedder.function code this args).watched id
  body body frame completion :=
    if frame = body.2 then (embedder.body body.1 frame completion).watched Resumption.watched
    else alarm body frame completion

/-- Every body that is stored carries the frame that is stored beside it. -/
def Realm.Remembers (r : Realm P.watched) : Prop :=
  ∀ h g body, (r.record h).kind = .generator g → g.body = some body → body.2 = g.frame

/-! ### Watched runs are alike -/

/-- A body corresponds to itself with the frame beside it. -/
def Likeness.watched (P : Platform) : Likeness P P.watched where
  code := Eq
  body frame body body' := body' = (body, frame)
  host := Eq
  memory := Eq
  key _ := True
  order := Eq
  key_text _ _ := trivial
  key_symbol _ := trivial
  hosts := (Likeness.same P (fun _ => True) Eq (fun _ _ => trivial) fun _ => trivial).hosts

/-- Putting the watch on bodies makes corresponding ones of them. -/
theorem Translation.watched_respects : (Translation.watched P).Respects (.watched P) :=
  ⟨fun _ => rfl, fun _ _ => rfl, fun _ => rfl⟩

/-- Taking the watch off leads from what corresponds back to what it
corresponds to. There is only one such thing, so this is an equation. -/
theorem Translation.unwatched_undoes : (Translation.unwatched P).Undoes (.watched P) :=
  ⟨Eq.symm, fun hbody => congrArg Prod.fst hbody, Eq.symm⟩

/-- In a realm that is like one without the watch, every body carries the
frame beside it. The likeness of bodies says which frame a body carries, and
the likeness of generators that the frames are the same. -/
theorem Realm.Alike.remembers {r : Realm P} {s : Realm P.watched} (h : r.Alike (.watched P) s) :
    s.Remembers := by
  intro handle g' body' hkind hbody'
  have halike := (h.record handle).kind
  rw [hkind] at halike
  generalize (r.record handle).kind = kind at halike
  cases halike with
  | @generator g _ hg =>
      have hrel := hg.body
      rw [hbody'] at hrel
      generalize g.body = body at hrel
      cases hrel with
      | some hbody =>
          rw [hbody]
          exact hg.frame

/-- A machine that is like another one is that one, the watch taken off. Field
by field, likeness is equality here, but for the objects. -/
theorem Machine.Alike.unwatched {m : Machine P} {n : Machine P.watched}
    (h : m.Alike (.watched P) n) : n.unwatched = m := by
  have hobjects := h.realm.objects_eq Translation.unwatched_undoes
  obtain ⟨⟨objects, ⟨strict, maxIterations, order⟩, nextSymbol⟩, memory⟩ := m
  obtain ⟨⟨objects', ⟨strict', maxIterations', order'⟩, nextSymbol'⟩, memory'⟩ := n
  obtain ⟨⟨_, _, ⟨hstrict, hmax, horder⟩, hsymbol⟩, hmemory⟩ := h
  cases hstrict
  cases hmax
  cases horder
  cases hsymbol
  cases hmemory
  rw [Machine.unwatched, hobjects]

/-- An end that is like another one is that one, the watch taken off, and in
its realm every body carries its frame. -/
theorem Outcome.Alike.unwatched {outcome : Outcome P α} {outcome' : Outcome P.watched α}
    (h : outcome.Alike (.watched P) Eq outcome') :
    outcome'.unwatched = outcome ∧
      outcome'.Meets (fun _ m => m.realm.Remembers) (fun _ m => m.realm.Remembers) := by
  cases h with
  | done hab hmn =>
      rw [Outcome.unwatched, hmn.unwatched, hab]
      exact ⟨rfl, hmn.realm.remembers⟩
  | failed fault hmn =>
      rw [Outcome.unwatched, hmn.unwatched]
      exact ⟨rfl, hmn.realm.remembers⟩
  | exhausted => exact ⟨rfl, trivial⟩

/-- A request to the watched realm is replied to alike, the watch apart. Only
an object that is looked into shows the watch, and translated back it does
not. -/
theorem Request.perform_watched {hooks : Hooks P} {hooks' : Hooks P.watched}
    (hh : hooks.Alike (.watched P) hooks') (request : Request P) :
    Action.Alike (.watched P)
      (fun reply reply' => reply = request.untranslate (.watched P) (.unwatched P) reply')
      (request.perform hooks) ((request.translate (.watched P)).perform hooks') := by
  refine .mono (fun reply reply' hreply => ?_) (translate_alike Translation.watched_respects hh
    request (keysIn_of_forall (fun _ => trivial) request))
  cases request with
  | inspect h => exact (hreply.translate_eq Translation.unwatched_undoes).symm
  | ownKeys h hidden symbols => exact hreply.eq fun _ _ horder => horder
  | _ => exact hreply

/-- A script and the one under the watch are alike, if what they end with
corresponds. By induction on the script: the replies that it is shown are the
same, so it goes on alike. -/
theorem Script.watched_alike {R : α → β → Prop} {value : α → β} (hR : ∀ a, R a (value a))
    (script : Script P α) : script.Alike (.watched P) R (script.watched value) := by
  induction script with
  | done a => exact .done (hR a)
  | ask request next ih =>
      refine .ask _ (fun hooks hooks' hh => request.perform_watched hh) (fun fault => ih _)
        fun reply reply' hreply => ?_
      rw [hreply]
      exact ih _
  | «recall» next ih =>
      refine .recall fun memory memory' hmemory => ?_
      cases hmemory
      exact ih memory
  | remember memory next ih => exact .remember rfl ih

/-- The bodies that are resumed carry the frame they are handed, whatever the
alarm is. For a body that corresponds carries the frame that is stored beside
it, and it is that frame that it is handed. -/
theorem Embedder.watched_alike (embedder : Embedder P)
    (alarm : P.Body × Frame → Frame → Completion → Script P.watched (Resumption P.watched)) :
    embedder.Alike (.watched P) (embedder.watched alarm) where
  function hcode this args := by
    cases hcode
    exact Script.watched_alike (fun _ => rfl) _
  body {frame body _} hbody completion := by
    cases hbody
    have hcarried : (embedder.watched alarm).body (body, frame) frame completion
        = (embedder.body body frame completion).watched Resumption.watched := if_pos rfl
    rw [hcarried]
    exact Script.watched_alike (fun _ => ⟨rfl, rfl, rfl⟩) _

/-! ### Runs under way -/

/-- What one step preserves: a run is begun for a generator at rest, and those
of the runs under way execute. So the new run is none of theirs. -/
theorem Moment.Next.nodup {embedder : Embedder P} {rounds : Nat} {moment moment' : Moment P}
    (hnext : Moment.Next embedder rounds moment moment')
    (haccounts : moment.machine.realm.Accounts moment.stack)
    (hnodup : (moment.stack.map Run.generator).Nodup) :
    (moment'.stack.map Run.generator).Nodup := by
  -- Whatever resumes a generator finds it at rest, or starts no code.
  have hpush : ∀ {α : Type} {op : Hooks P → Action P α} {hooks : Hooks P}
      {resumed? : Option Handle} {k : Machine P} {entry : Entry P}, Resumes op resumed? →
      hooks.Enters op moment.machine entry k →
      ((entry.stack resumed? moment.stack).map Run.generator).Nodup := by
    intro α op hooks resumed? k entry hop henters
    cases resumed? with
    | none => exact hnodup
    | some h =>
        obtain ⟨completion, hresume⟩ := henters.of_resumes hop
        obtain ⟨g, hg, hrest⟩ := hresume.rest
        refine List.nodup_cons.mpr ⟨fun hmem => ?_, hnodup⟩
        -- A run of the same generator would mean that it executes, but it was found at rest.
        obtain ⟨run, hrun, hgenerator⟩ := List.mem_map.mp hmem
        obtain ⟨g', hg', hexecuting, -⟩ := haccounts.onStack run hrun
        rw [hgenerator, hg] at hg'
        cases hg'
        exact hrest hexecuting
  cases hnext with
  | reply | consult | remember | native | body => exact hnodup
  | request henters => exact hpush (Request.resumes _) henters
  | intrinsic hkind hcode henters => exact hpush (IntrinsicFunction.resumes _ _ _) henters

/-- No generator is under way twice at a moment of a run. The induction is on
the steps; a step that resumes a generator finds it at rest, since those under
way are accounted for as executing. -/
theorem Moment.Reachable.nodup {embedder : Embedder P} {rounds : Nat} {config : Config}
    {moment : Moment P} (hreachable : Moment.Reachable embedder rounds config moment) :
    (moment.stack.map Run.generator).Nodup := by
  induction hreachable with
  | start depth memory script => exact List.nodup_nil
  | next hreachable hnext ih => exact hnext.nodup hreachable.accounts ih

/-! ### The last frame -/

/-- A step that leaves the generator completed with a fault: the body has
failed, or it throws. -/
def Resumption.Raises (resumption : Resumption P) (fault : Fault) : Prop :=
  resumption.step = .error fault ∨
    ∃ value location, resumption.step = .ok (.threw value location) ∧
      fault = .thrown value location

namespace Generator

/-- A turn in which the body raises a fault stores what the body left, and
fails. If the body throws, the generator is completed before the turn fails;
in either case the frame is kept. -/
theorem bodyTurn_of_raises {hooks : Hooks P} {h : Handle} {completion : Completion}
    {m k : Machine P} {g g₀ : Generator P} {body : P.Body} {resumption : Resumption P}
    {fault : Fault} (hm : m.Holds h g) (hbody : g.body = some body)
    (hresume : hooks.resume body g.frame completion
      (m.setGenerator h { g with body := none, frame := {} }) = .done resumption k)
    (hk : k.Holds h g₀) (hraises : resumption.Raises fault) :
    ∃ m' g', bodyTurn hooks h completion m = .failed fault m' ∧ m'.Holds h g' ∧
      g'.frame = resumption.frame := by
  let g₁ : Generator P := { g₀ with body := some resumption.body, frame := resumption.frame }
  have hstored : bodyTurn hooks h completion m
      = (Action.ofExcept resumption.step >>= follow hooks h) (k.setGenerator h g₁) := by
    rw [bodyTurn_apply hooks hm hbody, Action.bind_apply, hresume]
    show (modify h _ >>= _) k = _
    rw [Action.bind_apply, modify_apply hk]
  have hk₁ : (k.setGenerator h g₁).Holds h g₁ := hk.setGenerator g₁
  rcases hraises with hfault | ⟨value, location, hthrew, rfl⟩
  · refine ⟨_, g₁, ?_, hk₁, rfl⟩
    rw [hstored, hfault]
    rfl
  · -- Throwing completes the generator, which leaves the frame in its place.
    let g₂ : Generator P := { g₁.complete with lastLocation := location }
    refine ⟨_, g₂, ?_, hk₁.setGenerator g₂, rfl⟩
    rw [hstored, hthrew]
    show (modify h _ >>= fun _ => Action.fail (.thrown value location)) _ = _
    rw [Action.bind_apply, modify_apply hk₁]
    rfl

/-- A resumption whose body raises a fault fails with it, and the generator it
leaves completed has the frame that the body left. This is so in whichever
turn the body does, since the resumption goes on from that turn. -/
theorem Turns.resume_of_raises {hooks : Hooks P} {h : Handle} {completion c : Completion}
    {m₀ m k : Machine P} {rounds : Nat} {g : Generator P} {body : P.Body}
    {resumption : Resumption P} {fault : Fault} (hpasses : hooks.Keeps Realm.Passes)
    (hsound : ∀ g, m₀.Holds h g → g.Sound)
    (hturns : Turns hooks h completion m₀ (rounds + 1) (.body c) m) (hm : m.Holds h g)
    (hbody : g.body = some body)
    (hresume : hooks.resume body g.frame c
      (m.setGenerator h { g with body := none, frame := {} }) = .done resumption k)
    (hraises : resumption.Raises fault) :
    ∃ m' g', resume hooks h completion m₀ = .failed fault m' ∧ m'.Holds h g' ∧
      g'.state = .completed ∧ g'.frame = resumption.frame := by
  obtain ⟨g₀, hdriven, hexecuting, -⟩ := hturns.ready hpasses hsound
  have hsame : g₀ = g := by
    have hkind := hdriven.kind
    rw [show (m.realm.record h).kind = .generator g from hm] at hkind
    cases hkind
    rfl
  rw [hsame] at hexecuting
  -- The generator executes while the body runs, so nothing touches it.
  let taken : Generator P := { g with body := none, frame := {} }
  have htaken : (m.setGenerator h taken).Holds h taken := hm.setGenerator taken
  have hk : k.Holds h taken := by
    have hmeets := (hpasses.resume _ body g.frame c (m.setGenerator h taken) (.refl _)).meets
    rw [hresume] at hmeets
    exact (hmeets h).executing taken htaken hexecuting
  obtain ⟨m', g', hfailed, hm', hframe⟩ := bodyTurn_of_raises hm hbody hresume hk hraises
  have hturn : takeTurn hooks h (.body c) m = .failed fault m' := hfailed
  refine ⟨_, g'.failedWith fault, ?_, hm'.setGenerator _, rfl, hframe⟩
  rw [hturns.resume_eq, run_of_failed hturn hm']

end Generator

/-- A body finds its frame again. Whatever the embedder's code does:

- a run under the watch comes to the same as the run without it, whatever
  the alarm is. So a body is handed the frame that its generator was made
  with when it is first resumed, and later the frame that its last
  resumption left; and the frame that is stored beside a body is that one;
- at every moment the generators whose runs are under way are different, so
  that no body is resumed while it runs;
- where a body fails or throws, the resumption fails, and the generator it
  leaves completed still has the frame that the body left. -/
theorem frames_continue (embedder : Embedder P) (rounds : Nat) (config : Config) :
    (∀ (α : Type) (script : Script P α) (depth : Nat) (memory : P.Memory)
      (alarm : P.Body × Frame → Frame → Completion → Script P.watched (Resumption P.watched)),
      ((embedder.watched alarm).run rounds depth (script.watched id)
          ⟨.initial config, memory⟩).unwatched
        = embedder.run rounds depth script ⟨.initial config, memory⟩ ∧
      ((embedder.watched alarm).run rounds depth (script.watched id)
          ⟨.initial config, memory⟩).Meets
        (fun _ m => m.realm.Remembers) (fun _ m => m.realm.Remembers)) ∧
    ∀ moment, Moment.Reachable embedder rounds config moment →
      (moment.stack.map Run.generator).Nodup ∧
      ∀ depth h completion left c m g body resumption k fault,
        Generator.Turns (embedder.hooks rounds depth) h completion moment.machine
          (left + 1) (.body c) m →
        m.Holds h g → g.body = some body →
        (embedder.hooks rounds depth).resume body g.frame c
          (m.setGenerator h { g with body := none, frame := {} }) = .done resumption k →
        resumption.Raises fault →
        ∃ m' g', Generator.resume (embedder.hooks rounds depth) h completion moment.machine
            = .failed fault m' ∧
          m'.Holds h g' ∧ g'.state = .completed ∧ g'.frame = resumption.frame := by
  refine ⟨fun α script depth memory alarm => ?_, fun moment hreachable => ⟨hreachable.nodup, ?_⟩⟩
  · have hstart : (⟨.initial config, memory⟩ : Machine P).Alike (.watched P)
        ⟨.initial config, memory⟩ :=
      ⟨Realm.initial_alike ⟨rfl, rfl, rfl⟩, rfl⟩
    have hscript : script.Alike (.watched P) Eq (script.watched id) :=
      Script.watched_alike (fun _ => rfl) script
    have hrun := Embedder.run_alike (embedder.watched_alike alarm) rounds depth hscript _ _ hstart
    exact hrun.unwatched
  · intro depth h completion left c m g body resumption k fault hturns hm hbody hresume hraises
    exact hturns.resume_of_raises (embedder.hooks_passes rounds depth)
      (hreachable.accounts.sound h) hm hbody hresume hraises

/-- A script that resumes a new generator, whose body throws. -/
def Script.resumeThrowingGenerator : Script Platform.fixed Unit :=
  .resumeNewGenerator [.threw .null none] { resumePoint := 5 }

/-- The body is handed the frame with resume point five and leaves six,
which is what the completed generator has. -/
theorem frames_continue_throwing :
    (∃ m, Moment.Reachable Embedder.fixed 1 {} ⟨1, [],
        .script (.ask (.resumeGenerator ⟨12⟩ (.next .undefined)) fun _ => .done ()), m⟩ ∧
      ∃ m' g', Generator.resume (Embedder.fixed.hooks 1 1) ⟨12⟩ (.next .undefined) m
          = .failed (.thrown .null none) m' ∧
        m'.Holds ⟨12⟩ g' ∧ g'.state = .completed ∧ g'.frame = { resumePoint := 6 }) ∧
    ∀ alarm, ((Embedder.fixed.watched alarm).run 1 1 (Script.resumeThrowingGenerator.watched id)
        ⟨.initial {}, ()⟩).unwatched
      = Embedder.fixed.run 1 1 .resumeThrowingGenerator ⟨.initial {}, ()⟩ := by
  have hcontinue := frames_continue Embedder.fixed 1 {}
  have hstart : Moment.Reachable Embedder.fixed 1 {}
      ⟨1, [], .script .resumeThrowingGenerator, ⟨.initial {}, ()⟩⟩ :=
    .start 1 () .resumeThrowingGenerator
  let g : Generator Platform.fixed := .create [.threw .null none] { resumePoint := 5 }
  let m : Machine Platform.fixed :=
    ⟨((Realm.initial {}).createGenerator [.threw .null none] { resumePoint := 5 }).2, ()⟩
  have hm : m.Holds ⟨12⟩ g := by
    have hsize : (Realm.initial {} : Realm Platform.fixed).size = 12 := rfl
    show (((Realm.initial {}).allocate _).2.record ⟨12⟩).kind = _
    rw [Realm.record_allocate, if_pos hsize.symm]
    rfl
  have hmade : Moment.Reachable Embedder.fixed 1 {} ⟨1, [],
      .script (.ask (.resumeGenerator ⟨12⟩ (.next .undefined)) fun _ => .done ()), m⟩ := by
    have hreply := hstart.next (.reply rfl)
    exact hreply
  have hturns : Generator.Turns (Embedder.fixed.hooks 1 1) ⟨12⟩ (.next .undefined) m 1
      (.body (.next .undefined)) (m.setGenerator ⟨12⟩ { g with state := .executing }) :=
    .first g hm (.inr ⟨rfl, .undefined, rfl⟩)
  refine ⟨⟨m, hmade, ?_⟩, fun alarm => (hcontinue.1 Unit .resumeThrowingGenerator 1 () alarm).1⟩
  exact (hcontinue.2 _ hmade).2 1 ⟨12⟩ (.next .undefined) 0 (.next .undefined) _ _ _ _ _ _ hturns
    (hm.setGenerator _) rfl rfl (.inr ⟨.null, none, rfl, rfl⟩)

end ScriptRealm
