import ScriptRealm.Proofs.Generator.Completion
import ScriptRealm.Proofs.Generator.Delegation
import ScriptRealm.Proofs.Iteration.Generators
import ScriptRealm.Proofs.Iteration.ReadingBack

/-!
# `ScriptRealm.Proofs.Generator.Tower`: delegation is transparent

A generator can delegate to another generator, and this one again, down to one
that delegates to an array. Whoever resumes the topmost generator should see
the array. The bodies have to be of the plainest kind: `Embedder.Relays` says
of a body that its first step delegates, and that it returns what it is sent
when the delegate has come to its end.

A tower is the list of its generators, the topmost first. `Tower.Fresh` is a
tower that was not entered yet. Once the topmost generator has been resumed,
all of them are suspended on the way down to one list iterator, or all are
completed, and `Tower.Left` says both. To `pull` at a tower is to resume its
topmost generator, or to ask the list iterator if there is none. A pull at a
generator is a pull at the tower below it between two turns of the driver
(`Tower.run_layer`), so `Tower.exists_pull` and `Tower.exists_resume_of_fresh`
are by induction on the tower. What has to be carried through the induction is
that a pull changes nothing but the tower and its list iterator
(`Realm.KeepsBut`).

`Tower.Stands` counts the pulls. From one count to the next a pull answers with
the next element (`Tower.Stands.exists_resume`), and `tower_transparent` follows
for any number of them.
-/

set_option autoImplicit false

namespace ScriptRealm

open ScriptRealm.Iteration (Answers Gives)

variable {P : Platform}

/-! ### Relaying bodies -/

/-- The body returns what it is sent. It leaves the realm alone. -/
def Embedder.HandsOn (embedder : Embedder P) (body : P.Body) (frame : Frame) : Prop :=
  ∀ value hooks (m : Machine P), ∃ resumption memory,
    (embedder.body body frame (.next value)).run hooks m = .done resumption { m with memory } ∧
      resumption.step = .ok (.returned value)

/-- The body delegates to an iterable, and then returns what it is sent. It
leaves the realm alone. -/
def Embedder.Relays (embedder : Embedder P) (iterable : Value) (body : P.Body) (frame : Frame) :
    Prop :=
  ∀ value hooks (m : Machine P), ∃ resumption memory,
    (embedder.body body frame (.next value)).run hooks m = .done resumption { m with memory } ∧
      resumption.step = .ok (.delegated iterable) ∧
      embedder.HandsOn resumption.body resumption.frame

/-! ### Changes to a few objects -/

namespace Realm

/-- Objects were added, and some of those that are in the list have changed. -/
structure KeepsBut (changed : List Handle) (r s : Realm P) : Prop where
  size_le : r.size ≤ s.size
  record_eq : ∀ h, h.index < r.size → h ∉ changed → s.record h = r.record h

namespace KeepsBut

variable {changed changed' : List Handle} {r s t : Realm P} {h : Handle}

/-- Two stretches of a run that change the same few objects. -/
theorem trans (hrs : KeepsBut changed r s) (hst : KeepsBut changed s t) :
    KeepsBut changed r t where
  size_le := Nat.le_trans hrs.size_le hst.size_le
  record_eq h hlt hmem := by
    rw [hst.record_eq h (Nat.lt_of_lt_of_le hlt hrs.size_le) hmem, hrs.record_eq h hlt hmem]

/-- What was added need not be in the list: an object that was not there
before cannot have changed. -/
theorem of_new (hkeeps : KeepsBut changed r s)
    (hnew : ∀ h ∈ changed, h.index < r.size → h ∈ changed') : KeepsBut changed' r s where
  size_le := hkeeps.size_le
  record_eq h hlt hmem := hkeeps.record_eq h hlt fun hchanged => hmem (hnew h hchanged hlt)

/-- The list may be longer than what has changed. -/
theorem mono (hkeeps : KeepsBut changed r s) (hsubset : ∀ h ∈ changed, h ∈ changed') :
    KeepsBut changed' r s :=
  hkeeps.of_new fun h hmem _ => hsubset h hmem

/-- Replacing a kind changes one object. -/
theorem setKind (r : Realm P) (h : Handle) (kind : Kind P) :
    KeepsBut [h] r (r.setKind h kind) where
  size_le := Nat.le_of_eq (size_update _ _ _).symm
  record_eq _ _ hmem := record_update_of_ne (by simpa using hmem) _

/-- Adding an object changes none of those that are there. -/
theorem allocate (r : Realm P) (record : ObjectRecord P) :
    KeepsBut [] r (r.allocate record).2 where
  size_le := by
    rw [size_allocate]
    exact Nat.le_succ _
  record_eq h hlt _ := by rw [record_allocate, if_neg (Nat.ne_of_lt hlt)]

end KeepsBut

/-- A generator or a list iterator. -/
def Iterates (r : Realm P) (h : Handle) : Prop :=
  (∃ g, (r.record h).kind = .generator g) ∨ ∃ c, (r.record h).kind = .listIterator c

/-- The intrinsics are those of a new realm, and an array is as it was made. -/
structure Supplies (array : Handle) (values : List Value) (r : Realm P) : Prop where
  untouched : r.Untouched
  elements : r.record array = .array values

/-- Intrinsics and arrays are no generators and no list iterators, so changing
these leaves them alone. A run over a tower changes nothing else, so the array
can be read from beginning to end. -/
theorem Supplies.keeps {array : Handle} {values : List Value} {r s : Realm P}
    {changed : List Handle} (hr : r.Supplies array values) (hkeeps : KeepsBut changed r s)
    (hchanged : ∀ h ∈ changed, r.Iterates h) : s.Supplies array values where
  untouched := by
    apply hr.untouched.congr
    intro h hlt
    refine hkeeps.record_eq h (Nat.lt_of_lt_of_le hlt hr.untouched.size_le) fun hmem => ?_
    -- No intrinsic object is of these two kinds.
    refine Nat.not_le.mpr hlt (hr.untouched.size_le_index ?_ ?_)
    · rcases hchanged h hmem with ⟨g, hkind⟩ | ⟨c, hkind⟩ <;> simp [hkind]
    · rcases hchanged h hmem with ⟨g, hkind⟩ | ⟨c, hkind⟩ <;> simp [hkind]
  elements := by
    rw [hkeeps.record_eq array (lt_size_of_array hr.elements), hr.elements]
    intro hmem
    rcases hchanged array hmem with ⟨g, hkind⟩ | ⟨c, hkind⟩
    · rw [hr.elements] at hkind
      cases hkind
    · rw [hr.elements] at hkind
      cases hkind

end Realm

namespace Machine

variable {m m' : Machine P} {h iterator : Handle} {g : Generator P}

/-- Putting a generator in the place of another changes that object only. -/
theorem keepsBut_setGenerator (m : Machine P) (h : Handle) (g : Generator P) :
    Realm.KeepsBut [h] m.realm (m.setGenerator h g).realm :=
  .setKind m.realm h _

/-- Showing a result adds an object and leaves all others alone. -/
theorem keepsBut_showing (m : Machine P) (result : IterResult) :
    Realm.KeepsBut [] m.realm (m.showing result).realm :=
  .allocate m.realm _

/-- A generator that is not among what changes stays in its place. -/
theorem Holds.keeps {changed : List Handle} (hm : m.Holds h g)
    (hkeeps : Realm.KeepsBut changed m.realm m'.realm) (hbeside : h ∉ changed) :
    m'.Holds h g := by
  show (m'.realm.record h).kind = _
  rw [hkeeps.record_eq h (Realm.lt_size_of_generator hm) hbeside]
  exact hm

/-- A generator is no list iterator, so the two have different handles. -/
theorem Holds.ne_of_listIterator {c : ListCursor} (hm : m.Holds h g)
    (hcursor : (m.realm.record iterator).kind = .listIterator c) : iterator ≠ h := by
  rintro rfl
  have hkind : (m.realm.record iterator).kind = .generator g := hm
  rw [hcursor] at hkind
  cases hkind

end Machine

/-! ### One generator -/

namespace Generator

variable {embedder : Embedder P} {rounds depth : Nat} {h : Handle} {g : Generator P}
  {m m' : Machine P}

/-- How a relaying generator is left. After its delegate's last answer it is
completed, and after any other it is suspended with the delegate. -/
def Left (embedder : Embedder P) (delegate : IteratorRecord) : Bool → Generator P → Prop
  | true, g => g.state = .completed ∧ g.delegate = none
  | false, g => g.state = .suspendedYield ∧ g.delegate = some delegate ∧
      ∃ body, g.body = some body ∧ embedder.HandsOn body g.frame

/-- A relaying generator executes, and its delegate has the turn. -/
structure Delegating (embedder : Embedder P) (delegate : IteratorRecord) (g : Generator P) :
    Prop where
  executing : g.state = .executing
  delegate : g.delegate = some delegate
  body : ∃ body, g.body = some body ∧ embedder.HandsOn body g.frame

/-- The delegate's answer to a value that is sent. The answer is an object,
and unpacking it gives back the result that it shows. -/
theorem delegateTurn_of_answers {hooks : Hooks P} {delegate : IteratorRecord} {sent : Value}
    {result : IterResult} (hm : m.Holds h g) (hdelegate : g.delegate = some delegate)
    (hanswers : Answers hooks delegate [sent] result m m') :
    delegateTurn hooks h (.next sent) m = settle h .next (pure result) (m'.showing result) := by
  obtain ⟨hvalue, hdone⟩ := m'.get_showing result hooks
  -- The flag and then the value are read off the object, and make up the result again.
  have hunpack : (do unpack hooks (← hooks.call delegate.next (.object delegate.iterator) [sent]))
      m = .done result (m'.showing result) := by
    rw [Action.bind_apply, hanswers]
    show (do
      let done ← Iteration.isDone hooks ⟨m'.realm.size⟩
      return (⟨← Iteration.resultValue hooks ⟨m'.realm.size⟩, done⟩ : IterResult)) _ = _
    rw [Action.bind_apply, Iteration.isDone, Action.bind_apply, hdone]
    show (do return (⟨← Iteration.resultValue hooks ⟨m'.realm.size⟩, result.done⟩ : IterResult)) _
      = _
    rw [Action.bind_apply, Iteration.resultValue, hvalue]
    rfl
  rw [delegateTurn, Action.bind_apply, find_apply hm]
  simp only [hdelegate]
  rw [delegateNext, settle, Action.bind_apply, Action.attempt, hunpack]
  rfl

/-- A body that returns what it is sent completes the generator. This takes
one turn, in which the realm is changed at that generator only. -/
theorem exists_run_of_handsOn {n : Nat} {body : P.Body} (hm : m.Holds h g)
    (hbody : g.body = some body) (hhandsOn : embedder.HandsOn body g.frame) (sent : Value) :
    ∃ g' memory, (g'.state = .completed ∧ g'.delegate = none) ∧
      run (embedder.hooks rounds (depth + 1)) h (n + 1) (.body (.next sent)) m
        = .done ⟨sent, true⟩ ({ m with memory }.setGenerator h g') := by
  obtain ⟨resumption, memory, hresume, hstep⟩ := hhandsOn sent (embedder.hooks rounds depth)
    (m.setGenerator h { g with body := none, frame := {} })
  let k : Machine P := { m with memory }
  let g₁ : Generator P := { g with body := some resumption.body, frame := resumption.frame }
  have hk : ∀ g', (k.setGenerator h g').Holds h g' := hm.setGenerator (m := k)
  -- The body is out of the generator while it runs, and comes back with its new frame.
  have hturn : takeTurn (embedder.hooks rounds (depth + 1)) h (.body (.next sent)) m
      = .done (.leave ⟨sent, true⟩) (k.setGenerator h g₁.complete) := by
    rw [takeTurn, bodyTurn_of_quiet hm hbody hresume hstep, follow_returned _ (hk g₁),
      Machine.setGenerator_setGenerator]
  refine ⟨g₁.complete.leftWith ⟨sent, true⟩, memory, ⟨rfl, rfl⟩, ?_⟩
  rw [run_of_leave hturn (hk _), Machine.setGenerator_setGenerator]

/-- A turn of the delegate of a relaying generator leads out, or the body has
the last word and returns what it is sent. In both cases the run ends with the
delegate's own answer: the delegate's last value is sent to the body, which
returns it. -/
theorem exists_run_of_answers {n : Nat} {delegate : IteratorRecord} {sent : Value}
    {result : IterResult} (hm : m.Holds h g) (hg : g.Delegating embedder delegate)
    (hanswers : Answers (embedder.hooks rounds (depth + 1)) delegate [sent] result m m')
    (hm' : m'.Holds h g) :
    ∃ g' memory, g'.Left embedder delegate result.done ∧
      run (embedder.hooks rounds (depth + 1)) h (n + 2) (.delegate (.next sent)) m
        = .done result ({ m'.showing result with memory }.setGenerator h g') := by
  have hshown : (m'.showing result).Holds h g :=
    hm'.keeps (m'.keepsBut_showing result) List.not_mem_nil
  obtain ⟨body, hbody, hhandsOn⟩ := hg.body
  have hturn : takeTurn _ h (.delegate (.next sent)) m = _ :=
    delegateTurn_of_answers hm hg.delegate hanswers
  obtain ⟨value, done⟩ := result
  -- An answer that is not the last is handed out as it is, and takes one turn less.
  cases done with
  | false =>
      refine ⟨g.leftWith ⟨value, false⟩, m'.memory, ?_, ?_⟩
      · rw [leftWith, if_pos hg.executing]
        exact ⟨rfl, hg.delegate, hg.body⟩
      · exact run_of_leave hturn hshown
  | true =>
      -- The body gets the value in a machine in which the delegate is gone.
      have hself : { g with state := .executing } = g := by rw [← hg.executing]
      have hlast := settle_last (hself.symm ▸ hshown) .next value
      obtain ⟨g', memory, hg', hrun⟩ :=
        exists_run_of_handsOn (n := n) (hshown.setGenerator g.released) hbody hhandsOn value
      refine ⟨g', memory, hg', ?_⟩
      rw [run_of_turn (hturn.trans hlast), hrun]
      exact congrArg (Outcome.done _) (Machine.setGenerator_setGenerator
        { m'.showing ⟨value, true⟩ with memory } h g.released g')

/-- A relaying generator that is entered opens its iterable, and then asks the
delegate. The value that it was entered with is dropped, so the delegate is
sent `undefined`. Whatever the opening does to the machine, it has to leave
the generator in its place. -/
theorem exists_resume_of_relays (n depth : Nat) {body : P.Body} {frame : Frame} {iterable : Value}
    (hm : m.Holds h (.create body frame)) (hrelays : embedder.Relays iterable body frame)
    (sent : Value) :
    ∃ g memory, g.state = .executing ∧
      (∃ body, g.body = some body ∧ embedder.HandsOn body g.frame) ∧
      ∀ delegate m₁, Iteration.iterator (embedder.hooks (n + 1) (depth + 1)) iterable
          ({ m with memory }.setGenerator h g) = .done delegate m₁ → m₁.Holds h g →
        resume (embedder.hooks (n + 1) (depth + 1)) h (.next sent) m
          = run (embedder.hooks (n + 1) (depth + 1)) h n (.delegate (.next .undefined))
              (m₁.setGenerator h { g with delegate := some delegate }) := by
  let g₁ : Generator P := { Generator.create body frame with state := .executing }
  obtain ⟨resumption, memory, hresume, hstep, hhandsOn⟩ := hrelays sent
    (embedder.hooks (n + 1) depth)
    ((m.setGenerator h g₁).setGenerator h { g₁ with body := none, frame := {} })
  let g₂ : Generator P := { g₁ with body := some resumption.body, frame := resumption.frame }
  refine ⟨g₂, memory, rfl, ⟨_, rfl, hhandsOn⟩, ?_⟩
  intro delegate m₁ hopens hm₁
  -- Marking the generator and putting the body back are one change in the end.
  have hback : ({ m.setGenerator h g₁ with memory } : Machine P).setGenerator h g₂
      = { m with memory }.setGenerator h g₂ :=
    Machine.setGenerator_setGenerator { m with memory } h g₁ g₂
  have hturn : takeTurn (embedder.hooks (n + 1) (depth + 1)) h (.body (.next sent))
      (m.setGenerator h g₁)
        = .done (.turn (.delegate (.next .undefined)))
            (m₁.setGenerator h { g₂ with delegate := some delegate }) := by
    rw [takeTurn, bodyTurn_of_quiet (hm.setGenerator g₁) rfl hresume hstep, hback, follow,
      Action.bind_apply, Action.attempt, hopens]
    show (modify h _ >>= fun _ => pure (Flow.turn (.delegate (.next .undefined)))) m₁ = _
    rw [Action.bind_apply, modify_apply hm₁]
    rfl
  -- A generator that was not entered has no delegate, so that its body has the first turn.
  rw [resume_of_body _ hm (.inr ⟨rfl, sent, rfl⟩) rfl]
  exact run_of_turn hturn

end Generator

/-! ### Towers -/

namespace Tower

/-- Each generator of a tower stands in a relation to those below it. -/
def Each (p : Handle → List Handle → Prop) : List Handle → Prop
  | [] => True
  | h :: below => p h below ∧ Each p below

/-- What follows for each generator of a tower from what is known of it. -/
theorem Each.imp {p q : Handle → List Handle → Prop} {tower : List Handle}
    (htower : Each p tower) (hpq : ∀ h ∈ tower, ∀ below, p h below → q h below) :
    Each q tower := by
  induction tower with
  | nil => trivial
  | cons h below ih =>
      exact ⟨hpq h (.head _) below htower.1, ih htower.2 fun h' hmem => hpq h' (.tail _ hmem)⟩

/-- What is known of a generator and those below it may be known of the
generator alone. -/
theorem Each.forall_mem {p : Handle → List Handle → Prop} {q : Handle → Prop}
    {tower : List Handle} (htower : Each p tower) (hpq : ∀ h below, p h below → q h) :
    ∀ h ∈ tower, q h := by
  induction tower with
  | nil => intro h hmem; cases hmem
  | cons h below ih =>
      intro h' hmem
      cases hmem with
      | head => exact hpq h below htower.1
      | tail _ hmem => exact ih htower.2 h' hmem

/-- The tower as it is built. Each generator relays the one below it and the
lowest relays the array, and none was entered. -/
def Fresh (embedder : Embedder P) (array : Handle) (r : Realm P) : List Handle → Prop :=
  Each fun h below => ∃ body frame,
    r.record h = .create (.generator (.create body frame)) (some Intrinsic.generatorPrototype) ∧
      embedder.Relays (.object (below.headD array)) body frame

/-- The delegate of a generator that stands on a tower, which is the topmost
generator or else the list iterator. -/
def delegateOf (iterator : Handle) : List Handle → IteratorRecord
  | [] => ⟨iterator, .object ⟨7⟩, false⟩
  | h :: _ => ⟨h, .object ⟨9⟩, false⟩

/-- The tower after an answer. -/
def Left (embedder : Embedder P) (iterator : Handle) (done : Bool) (r : Realm P) :
    List Handle → Prop :=
  Each fun h below => ∃ g, (r.record h).kind = .generator g ∧
    g.Left embedder (delegateOf iterator below) done

variable {embedder : Embedder P} {rounds depth : Nat} {array iterator : Handle}
  {values : List Value} {tower below changed : List Handle} {m m' : Machine P} {r s : Realm P}
  {done : Bool}

/-- The generators of a tower that was not entered are generators. -/
theorem Fresh.iterates (hfresh : Fresh embedder array r tower) : ∀ h ∈ tower, r.Iterates h :=
  Each.forall_mem hfresh fun _ _ ⟨_, _, hrecord, _⟩ =>
    .inl ⟨_, congrArg ObjectRecord.kind hrecord⟩

/-- What a tower consists of is generators and list iterators after an answer
as well. -/
theorem Left.iterates (hleft : Left embedder iterator done r tower) : ∀ h ∈ tower, r.Iterates h :=
  Each.forall_mem hleft fun _ _ ⟨g, hkind, _⟩ => .inl ⟨g, hkind⟩

/-- Generators and list iterators are in the arena. -/
theorem lt_size_of_iterates {h : Handle} (hh : r.Iterates h) : h.index < r.size := by
  rcases hh with ⟨g, hkind⟩ | ⟨c, hkind⟩
  · exact Realm.lt_size_of_generator hkind
  · exact Realm.lt_size_of_listIterator hkind

/-- What changes beside a tower leaves it as it is. -/
theorem Fresh.keeps (hfresh : Fresh embedder array r tower) (hkeeps : r.KeepsBut changed s)
    (hbeside : ∀ h ∈ tower, h ∉ changed) : Fresh embedder array s tower :=
  Each.imp hfresh fun h hmem _ ⟨body, frame, hrecord, hrelays⟩ => ⟨body, frame,
    (hkeeps.record_eq h (lt_size_of_iterates (hfresh.iterates h hmem)) (hbeside h hmem)).trans
      hrecord, hrelays⟩

/-- So it is with a tower that has given an answer. -/
theorem Left.keeps (hleft : Left embedder iterator done r tower) (hkeeps : r.KeepsBut changed s)
    (hbeside : ∀ h ∈ tower, h ∉ changed) : Left embedder iterator done s tower :=
  Each.imp hleft fun h hmem _ ⟨g, hkind, hg⟩ => ⟨g, by
    rw [hkeeps.record_eq h (lt_size_of_iterates (hleft.iterates h hmem)) (hbeside h hmem)]
    exact hkind, hg⟩

/-- Asks a tower for its next result, which is to resume the topmost generator
or, if there is none, to step the list iterator. -/
def pull (hooks : Hooks P) (iterator : Handle) : List Handle → Value → Action P IterResult
  | [], _ => ListIterator.next hooks (.object iterator)
  | h :: _, sent => Generator.resume hooks h (.next sent)

/-- The delegate on a tower answers what a pull one level deeper gives. The
delegate's `next` is a function of the realm in both cases, that of generators
or that of list iterators. -/
theorem answers_of_pull (hr : m.realm.Untouched) (args : List Value) {result : IterResult}
    (hpull : pull (embedder.hooks rounds depth) iterator tower (args.headD .undefined) m
      = .done result m') :
    Answers (embedder.hooks rounds (depth + 1)) (delegateOf iterator tower) args result m m' := by
  cases tower with
  | nil =>
      have hpull' : ListIterator.next (embedder.hooks rounds depth) (.object iterator) m
        = .done result m' := hpull
      rw [Answers, delegateOf,
        Iteration.call_of_runsIntrinsic embedder rounds depth hr.provides_next.runs,
        IntrinsicFunction.run, Action.bind_apply, hpull']
      rfl
  | cons h below =>
      exact Iteration.answers_generator embedder rounds depth hr.provides_generatorNext.runs
        args hpull

/-- What a pull has done: the cursor of the list iterator has moved, and the
tower was left. -/
structure Pulled (embedder : Embedder P) (iterator : Handle) (c : ListCursor) (done : Bool)
    (changed tower : List Handle) (r s : Realm P) : Prop where
  keeps : r.KeepsBut changed s
  cursor : (s.record iterator).kind = .listIterator c
  left : Left embedder iterator done s tower

/-- A pull at the tower below a generator, as part of a pull at the generator.
The generator has given the turn to its delegate; what the pull answers is
what the run answers, and the generator is left as the tower below it was. -/
theorem run_layer {n : Nat} {h : Handle} {g : Generator P} {sent : Value} {result : IterResult}
    {c : ListCursor} (hr : m.realm.Untouched) (hm : m.Holds h g)
    (hg : g.Delegating embedder (delegateOf iterator below))
    (hpull : pull (embedder.hooks rounds depth) iterator below sent m = .done result m')
    (hpulled : Pulled embedder iterator c result.done changed below m.realm m'.realm)
    (hnew : h ∉ below) (hbeside : h ∉ changed) :
    ∃ k, Generator.run (embedder.hooks rounds (depth + 1)) h (n + 2) (.delegate (.next sent)) m
        = .done result k ∧
      Pulled embedder iterator c result.done (h :: changed) (h :: below) m.realm k.realm := by
  have hm' : m'.Holds h g := hm.keeps hpulled.keeps hbeside
  obtain ⟨g', memory, hg', hrun⟩ := Generator.exists_run_of_answers (n := n) hm hg
    (answers_of_pull hr [sent] hpull) hm'
  refine ⟨_, hrun, ?_⟩
  let k : Machine P := { m'.showing result with memory }
  have hshown : Realm.KeepsBut [] m'.realm k.realm := m'.keepsBut_showing result
  have hset : Realm.KeepsBut [h] k.realm (k.setGenerator h g').realm :=
    k.keepsBut_setGenerator h g'
  have hkeeps : Realm.KeepsBut [h] m'.realm (k.setGenerator h g').realm :=
    (hshown.mono (by simp)).trans hset
  -- The list iterator is no generator, so the cursor is where the pull has left it.
  have hne : iterator ≠ h := hm'.ne_of_listIterator hpulled.cursor
  have hlt : h.index < k.realm.size :=
    Nat.lt_of_lt_of_le (Realm.lt_size_of_generator hm') hshown.size_le
  -- After the pull an object was added that shows the answer, and the generator was changed.
  refine ⟨?keeps, ?cursor, ?top, ?rest⟩
  case keeps => exact (hpulled.keeps.mono fun _ hmem => .tail _ hmem).trans (hkeeps.mono (by simp))
  case cursor =>
    rw [hkeeps.record_eq iterator (Realm.lt_size_of_listIterator hpulled.cursor)
      (by simpa using hne)]
    exact hpulled.cursor
  case top =>
    refine ⟨g', ?_, hg'⟩
    show ((k.realm.update h _).record h).kind = _
    rw [Realm.record_update_self hlt]
  case rest =>
    refine hpulled.left.keeps hkeeps fun h' hmem hh => hnew ?_
    rw [List.mem_singleton] at hh
    exact hh ▸ hmem

/-! ### Pulling -/

/-- The answer to the pull number `i`. -/
def answerAt (values : List Value) (i : Nat) : IterResult :=
  ⟨values[i]?.getD .undefined, values[i]?.isNone⟩

/-- The cursor after the pull number `i`. -/
def cursorAfter (array : Handle) (values : List Value) (i : Nat) : ListCursor :=
  ListIterator.advance values[i]?.isNone ⟨array, i, false⟩

/-- A pull at a tower that is under way. By induction on the tower: the list
iterator gives the element at its cursor, and each generator hands it on. A
level of the tower costs a level of depth, since each generator calls the next
one. -/
theorem exists_pull (rounds depth : Nat) (hshort : values.length < Nat.pow 2 32) {i : Nat}
    (hsupplies : m.realm.Supplies array values)
    (hcursor : (m.realm.record iterator).kind = .listIterator ⟨array, i, false⟩)
    (hleft : Left embedder iterator false m.realm tower) (hnodup : tower.Nodup)
    (hdepth : tower.length ≤ depth) (sent : Value) :
    ∃ m', pull (embedder.hooks (rounds + 3) depth) iterator tower sent m
        = .done (answerAt values i) m' ∧
      Pulled embedder iterator (cursorAfter array values i) (answerAt values i).done
        (tower ++ [iterator]) tower m.realm m'.realm := by
  induction tower generalizing m depth with
  | nil =>
      -- There is no generator left, and the list iterator itself is asked.
      refine ⟨_, ListIterator.next_array _ hcursor hsupplies.elements hshort,
        .setKind m.realm iterator _, ?_, trivial⟩
      show ((m.realm.update iterator _).record iterator).kind = _
      rw [Realm.record_update_self (Realm.lt_size_of_listIterator hcursor)]
      rfl
  | cons h below ih =>
      obtain ⟨depth, rfl⟩ := Nat.exists_eq_succ_of_ne_zero (Nat.ne_zero_of_lt hdepth)
      obtain ⟨⟨g, hm, hstate, hdelegate, hbody⟩, hrest⟩ := hleft
      obtain ⟨hnew, hnodup⟩ := List.nodup_cons.mp hnodup
      have hne : iterator ≠ h := Machine.Holds.ne_of_listIterator hm hcursor
      -- The generator executes while the tower below it is pulled.
      let k : Machine P := m.setGenerator h { g with state := .executing }
      have hkeeps : Realm.KeepsBut [h] m.realm k.realm := m.keepsBut_setGenerator h _
      have hk : k.realm.Supplies array values := by
        refine hsupplies.keeps hkeeps fun h' hmem => ?_
        rw [List.mem_singleton.mp hmem]
        exact .inl ⟨g, hm⟩
      obtain ⟨m₁, hpull, hpulled⟩ := by
        apply ih (m := k) depth hk
        · rw [hkeeps.record_eq iterator (Realm.lt_size_of_listIterator hcursor)
            (by simpa using hne)]
          exact hcursor
        · exact Left.keeps hrest hkeeps fun h' hmem hh => hnew (List.mem_singleton.mp hh ▸ hmem)
        · exact hnodup
        · exact Nat.le_of_succ_le_succ hdepth
      -- What comes from below is handed on by this generator.
      obtain ⟨m', hrun, hpulled'⟩ := run_layer (n := rounds + 1) hk.untouched
        (Machine.Holds.setGenerator hm _) ⟨rfl, hdelegate, hbody⟩ hpull hpulled hnew
        (by simp [hnew, hne.symm])
      refine ⟨m', ?_, (hkeeps.mono (by simp)).trans hpulled'.keeps, hpulled'.cursor, hpulled'.left⟩
      exact (Generator.resume_of_delegate _ hm hstate hdelegate (.next sent)).trans hrun

/-- What a relaying generator delegates to can be opened. For an array there
is a new list iterator, and for a generator nothing changes: it is its own
iterator. -/
theorem exists_iterator (rounds depth : Nat) (hsupplies : m.realm.Supplies array values)
    (hfresh : Fresh embedder array m.realm below) :
    ∃ iterator m', Iteration.iterator (embedder.hooks rounds (depth + 1))
        (.object (below.headD array)) m = .done (delegateOf iterator below) m' ∧
      m.realm.KeepsBut [] m'.realm ∧
      (below = [] → m.realm.size ≤ iterator.index ∧
        (m'.realm.record iterator).kind = .listIterator ⟨array, 0, false⟩) := by
  cases below with
  | nil =>
      refine ⟨⟨m.realm.size⟩, _, Iteration.iterator_array embedder rounds depth
        hsupplies.untouched.provides_values hsupplies.untouched.provides_next hsupplies.elements,
        .allocate _ _, fun _ => ⟨Nat.le_refl _, ?_⟩⟩
      rw [Realm.createListIterator, Realm.record_allocate, if_pos rfl]
      rfl
  | cons h rest =>
      obtain ⟨⟨body, frame, hrecord, -⟩, -⟩ := hfresh
      -- Any handle will do for the list iterator, as there is none yet.
      exact ⟨array, m, Iteration.iterator_generator embedder rounds depth hsupplies.untouched
        hrecord, ⟨Nat.le_refl _, fun _ _ _ => rfl⟩, fun hempty =>
          absurd hempty (List.cons_ne_nil h rest)⟩

/-- A generator on top of a fresh tower is entered. It opens the tower below
it and gives the turn to its delegate. The tower below stays fresh, because
opening a generator does not enter it. -/
theorem exists_entered (n depth : Nat) {h : Handle} (hsupplies : m.realm.Supplies array values)
    (hfresh : Fresh embedder array m.realm (h :: below)) (hnew : h ∉ below) (sent : Value) :
    ∃ iterator g k, k.Holds h g ∧ g.Delegating embedder (delegateOf iterator below) ∧
      k.realm.Supplies array values ∧ m.realm.KeepsBut [h] k.realm ∧
      (below = [] → m.realm.size ≤ iterator.index ∧
        (k.realm.record iterator).kind = .listIterator ⟨array, 0, false⟩) ∧
      Generator.resume (embedder.hooks (n + 1) (depth + 1)) h (.next sent) m
        = Generator.run (embedder.hooks (n + 1) (depth + 1)) h n (.delegate (.next .undefined))
            k := by
  have hself : ∀ h' ∈ [h], m.realm.Iterates h' := fun h' hmem =>
    hfresh.iterates h' (List.mem_singleton.mp hmem ▸ .head _)
  obtain ⟨⟨body, frame, hrecord, hrelays⟩, hrest⟩ := hfresh
  have hm : m.Holds h (.create body frame) := congrArg ObjectRecord.kind hrecord
  obtain ⟨g, memory, hexecuting, hbody, hresume⟩ :=
    Generator.exists_resume_of_relays n depth hm hrelays sent
  let m₁ : Machine P := { m with memory }.setGenerator h g
  have hm₁ : m₁.Holds h g := Machine.Holds.setGenerator (m := { m with memory }) hm g
  have hkeeps₁ : m.realm.KeepsBut [h] m₁.realm := .setKind m.realm h _
  have hrest₁ : Fresh embedder array m₁.realm below :=
    Fresh.keeps hrest hkeeps₁ fun h' hmem hh => hnew (List.mem_singleton.mp hh ▸ hmem)
  -- Between the step of the body and the first turn of the delegate the tower below is opened.
  obtain ⟨iterator, m₂, hopens, hkeeps₂, hiterator⟩ :=
    exists_iterator (n + 1) depth (hsupplies.keeps hkeeps₁ hself) hrest₁
  have hm₂ : m₂.Holds h g := hm₁.keeps hkeeps₂ List.not_mem_nil
  let g₂ : Generator P := { g with delegate := some (delegateOf iterator below) }
  have hkeeps : m.realm.KeepsBut [h] (m₂.setGenerator h g₂).realm :=
    (hkeeps₁.trans (hkeeps₂.mono (by simp))).trans (m₂.keepsBut_setGenerator h g₂)
  refine ⟨iterator, g₂, _, hm₂.setGenerator _, ⟨hexecuting, rfl, hbody⟩,
    hsupplies.keeps hkeeps hself, hkeeps, ?_, hresume _ m₂ hopens hm₂⟩
  intro hempty
  obtain ⟨hle, hcursor⟩ := hiterator hempty
  refine ⟨Nat.le_trans hkeeps₁.size_le hle, ?_⟩
  rw [Machine.record_setGenerator_of_ne (hm₂.ne_of_listIterator hcursor)]
  exact hcursor

/-- The first pull at a tower. By induction on the tower: each generator opens
what it relays and asks it, and the lowest opens the array. So the list
iterator comes to be only when the lowest generator is reached, and it is not
known before. -/
theorem exists_resume_of_fresh (rounds depth : Nat) (hshort : values.length < Nat.pow 2 32)
    {h : Handle} (hsupplies : m.realm.Supplies array values)
    (hfresh : Fresh embedder array m.realm (h :: below)) (hnodup : (h :: below).Nodup)
    (hdepth : (h :: below).length ≤ depth) (sent : Value) :
    ∃ iterator m', Generator.resume (embedder.hooks (rounds + 3) depth) h (.next sent) m
        = .done (answerAt values 0) m' ∧
      Pulled embedder iterator (cursorAfter array values 0) (answerAt values 0).done
        (h :: below) (h :: below) m.realm m'.realm := by
  induction below generalizing h m depth sent with
  | nil =>
      obtain ⟨depth, rfl⟩ := Nat.exists_eq_succ_of_ne_zero (Nat.ne_zero_of_lt hdepth)
      obtain ⟨iterator, g, k, hk, hg, hsupplies', hkeeps, hiterator, hresume⟩ :=
        exists_entered (rounds + 2) depth hsupplies hfresh (by simp) sent
      obtain ⟨hle, hcursor⟩ := hiterator rfl
      -- Below the lowest generator there is the list iterator alone.
      have hnone : Left embedder iterator false k.realm [] := trivial
      obtain ⟨m₁, hpull, hpulled⟩ := exists_pull rounds depth hshort hsupplies' hcursor hnone .nil
        (Nat.zero_le _) .undefined
      have hne : h ≠ iterator := (hk.ne_of_listIterator hcursor).symm
      obtain ⟨m', hrun, hpulled'⟩ := run_layer (n := rounds) hsupplies'.untouched hk hg hpull
        hpulled (by simp) (by simpa using hne)
      refine ⟨iterator, m', hresume.trans hrun, ?_, hpulled'.cursor, hpulled'.left⟩
      -- The list iterator is new, so it is none of the objects that were there.
      refine ((hkeeps.mono (by simp)).trans hpulled'.keeps).of_new fun h' hmem hlt => ?_
      rcases List.mem_cons.mp hmem with rfl | hmem
      · exact .head _
      · rw [List.nil_append, List.mem_singleton] at hmem
        subst hmem
        exact absurd hlt (Nat.not_lt.mpr hle)
  | cons h' rest ih =>
      obtain ⟨depth, rfl⟩ := Nat.exists_eq_succ_of_ne_zero (Nat.ne_zero_of_lt hdepth)
      obtain ⟨hnew, hnodup⟩ := List.nodup_cons.mp hnodup
      obtain ⟨_, g, k, hk, hg, hsupplies', hkeeps, -, hresume⟩ :=
        exists_entered (rounds + 2) depth hsupplies hfresh hnew sent
      have hbelow : Fresh embedder array k.realm (h' :: rest) :=
        Fresh.keeps hfresh.2 hkeeps fun x hmem hh => hnew (List.mem_singleton.mp hh ▸ hmem)
      obtain ⟨iterator, m₁, hpull, hpulled⟩ :=
        ih depth hsupplies' hbelow hnodup (Nat.le_of_succ_le_succ hdepth) .undefined
      -- The delegate is the generator below, whichever list iterator there is.
      have hg' : g.Delegating embedder (delegateOf iterator (h' :: rest)) := hg
      obtain ⟨m', hrun, hpulled'⟩ := run_layer (n := rounds) hsupplies'.untouched hk hg' hpull
        hpulled hnew hnew
      exact ⟨iterator, m', hresume.trans hrun, (hkeeps.mono (by simp)).trans hpulled'.keeps,
        hpulled'.cursor, hpulled'.left⟩

/-! ### Counting pulls -/

/-- A tower over an array that was pulled `n` times. -/
inductive Stands (embedder : Embedder P) (array : Handle) (values : List Value)
    (tower : List Handle) : Nat → Realm P → Prop where
  | fresh {r : Realm P} (hfresh : Fresh embedder array r tower) :
      Stands embedder array values tower 0 r
  | midway {r : Realm P} {n : Nat} {iterator : Handle}
      (hcursor : (r.record iterator).kind = .listIterator ⟨array, n, false⟩)
      (hleft : Left embedder iterator false r tower) (hle : n ≤ values.length) (hpos : 0 < n) :
      Stands embedder array values tower n r
  | ended {r : Realm P} {n : Nat} {iterator : Handle}
      (hleft : Left embedder iterator true r tower) (hlt : values.length < n) :
      Stands embedder array values tower n r

namespace Stands

variable {n : Nat}

/-- After one more pull the count is one higher. If there was an element the
tower is under way, and otherwise it has come to its end. -/
theorem of_pulled
    (hpulled : Pulled embedder iterator (cursorAfter array values n) (answerAt values n).done
      changed tower r s) : Stands embedder array values tower (n + 1) s := by
  obtain ⟨-, hcursor, hleft⟩ := hpulled
  unfold cursorAfter at hcursor
  unfold answerAt at hleft
  -- The answer and the cursor depend on whether there is an element at this place.
  cases hvalue : values[n]? with
  | none =>
      rw [hvalue] at hleft
      exact .ended hleft (Nat.lt_succ_of_le (List.getElem?_eq_none_iff.mp hvalue))
  | some value =>
      rw [hvalue] at hleft hcursor
      exact .midway hcursor hleft (List.getElem?_eq_some_iff.mp hvalue).1 (Nat.succ_pos n)

/-- One more pull answers with the next element, or that there is none. The
cases are where the tower stands: not entered, under way, or at its end. -/
theorem exists_resume {top : Handle} (rounds : Nat) (hshort : values.length < Nat.pow 2 32)
    (hstands : Stands embedder array values (top :: below) n m.realm)
    (hsupplies : m.realm.Supplies array values) (hnodup : (top :: below).Nodup)
    (hdepth : (top :: below).length ≤ depth) (sent : Value) :
    ∃ m', Generator.resume (embedder.hooks (rounds + 3) depth) top (.next sent) m
        = .done (answerAt values n) m' ∧
      m'.realm.Supplies array values ∧
      Stands embedder array values (top :: below) (n + 1) m'.realm := by
  cases hstands with
  | fresh hfresh =>
      obtain ⟨iterator, m', hresume, hpulled⟩ :=
        exists_resume_of_fresh rounds depth hshort hsupplies hfresh hnodup hdepth sent
      exact ⟨m', hresume, hsupplies.keeps hpulled.keeps hfresh.iterates, of_pulled hpulled⟩
  | midway hcursor hleft hle hpos =>
      obtain ⟨m', hpull, hpulled⟩ :=
        exists_pull rounds depth hshort hsupplies hcursor hleft hnodup hdepth sent
      refine ⟨m', hpull, hsupplies.keeps hpulled.keeps ?_, of_pulled hpulled⟩
      intro h hmem
      -- A pull changes the tower and the list iterator, and neither is what it is supplied
      -- from.
      rcases List.mem_append.mp hmem with hmem | hmem
      · exact hleft.iterates h hmem
      · rw [List.mem_singleton.mp hmem]
        exact .inr ⟨_, hcursor⟩
  -- Nothing is left to be pulled: a completed generator answers by itself.
  | ended hleft hlt =>
      obtain ⟨⟨g, hm, hstate, -⟩, -⟩ := id hleft
      refine ⟨m, ?_, hsupplies, .ended hleft (Nat.lt_succ_of_lt hlt)⟩
      rw [Generator.resume_next_of_completed _ hm hstate, answerAt,
        List.getElem?_eq_none (Nat.le_of_lt hlt)]
      rfl

/-- What the tower does not contain may change. New objects do not count as
changes, so the answers that are shown in between do not disturb it. -/
theorem keeps (hstands : Stands embedder array values tower n r) (hkeeps : r.KeepsBut [] s) :
    Stands embedder array values tower n s := by
  cases hstands with
  | fresh hfresh => exact .fresh (hfresh.keeps hkeeps (by simp))
  | midway hcursor hleft hle hpos =>
      refine .midway ?_ (hleft.keeps hkeeps (by simp)) hle hpos
      rw [hkeeps.record_eq _ (Realm.lt_size_of_listIterator hcursor) (by simp)]
      exact hcursor
  | ended hleft hlt => exact .ended (hleft.keeps hkeeps (by simp)) hlt

/-- A tower that has been pulled, but not to the end, is suspended. This is so
for all of its generators, and each has its delegate. -/
theorem suspended (hstands : Stands embedder array values tower n r) (hpos : 0 < n)
    (hle : n ≤ values.length) :
    ∀ h ∈ tower, ∃ g, (r.record h).kind = .generator g ∧ g.state = .suspendedYield ∧
      g.delegate.isSome = true := by
  cases hstands with
  | fresh => exact absurd hpos (Nat.lt_irrefl 0)
  | midway _ hleft =>
      exact Each.forall_mem hleft fun h below ⟨g, hkind, hstate, hdelegate, _⟩ =>
        ⟨g, hkind, hstate, by rw [hdelegate]; rfl⟩
  | ended _ hlt => exact absurd hle (Nat.not_le.mpr hlt)

/-- A tower that has been pulled to the end is completed, again all of it. No
generator of it has a delegate any more. -/
theorem completed (hstands : Stands embedder array values tower n r) (hlt : values.length < n) :
    ∀ h ∈ tower, ∃ g, (r.record h).kind = .generator g ∧ g.state = .completed ∧
      g.delegate = none := by
  cases hstands with
  | fresh => exact absurd hlt (Nat.not_lt_zero _)
  | midway _ _ hle => exact absurd hle (Nat.not_le.mpr hlt)
  | ended hleft =>
      exact Each.forall_mem hleft fun h below ⟨g, hkind, hstate, hdelegate⟩ =>
        ⟨g, hkind, hstate, hdelegate⟩

/-- So any number of pulls answers with the elements, and then that there are
no more. By induction on the values that are sent, of which none has a part in
the answers. -/
theorem exists_mapM {top : Handle} (rounds : Nat) (hshort : values.length < Nat.pow 2 32)
    (hstands : Stands embedder array values (top :: below) n m.realm)
    (hsupplies : m.realm.Supplies array values) (hnodup : (top :: below).Nodup)
    (hdepth : (top :: below).length ≤ depth) (sent : List Value) :
    ∃ k, sent.mapM (fun value =>
          Generator.resume (embedder.hooks (rounds + 3) depth) top (.next value)) m
        = .done (((values.drop n).take sent.length).map (fun value => ⟨value, false⟩) ++
            List.replicate (sent.length - (values.drop n).length) ⟨.undefined, true⟩) k ∧
      Stands embedder array values (top :: below) (n + sent.length) k.realm := by
  induction sent generalizing n m with
  | nil => exact ⟨m, by simp; rfl, hstands⟩
  | cons value sent ih =>
      obtain ⟨m₁, hresume, hsupplies₁, hstands₁⟩ :=
        hstands.exists_resume rounds hshort hsupplies hnodup hdepth value
      obtain ⟨k, hrest, hk⟩ := ih hstands₁ hsupplies₁
      refine ⟨k, ?_, ?_⟩
      · rw [List.mapM_cons, Action.bind_apply, hresume]
        simp only
        rw [Action.bind_apply, hrest]
        refine congrArg (Outcome.done · k) ?_
        -- The next answer is an element, or it is one of those that say there is none.
        by_cases hlt : n < values.length
        · rw [List.drop_eq_getElem_cons hlt, List.length_cons, List.length_cons,
            List.take_succ_cons, List.map_cons, List.cons_append, Nat.add_sub_add_right, answerAt,
            List.getElem?_eq_getElem hlt]
          rfl
        · have hle : values.length ≤ n := Nat.le_of_not_lt hlt
          simp [answerAt, List.drop_of_length_le hle,
            List.drop_of_length_le (Nat.le_succ_of_le hle), List.getElem?_eq_none hle,
            List.replicate_succ]
      · rw [List.length_cons, Nat.add_comm sent.length, ← Nat.add_assoc]
        exact hk

/-- As an iterator, the topmost generator gives the elements that remain. By
induction on how many these are. Each round pulls once and leaves an object
that shows the answer. -/
theorem exists_gives {top : Handle} (rounds : Nat) (hshort : values.length < Nat.pow 2 32)
    (hstands : Stands embedder array values (top :: below) n m.realm)
    (hsupplies : m.realm.Supplies array values) (hnodup : (top :: below).Nodup)
    (hdepth : (top :: below).length ≤ depth) :
    ∃ m', Gives (embedder.hooks (rounds + 3) (depth + 1)) ⟨top, .object ⟨9⟩, false⟩ m
      (values.drop n) m' := by
  obtain ⟨remaining, hremaining⟩ : ∃ remaining, remaining = values.length - n := ⟨_, rfl⟩
  induction remaining generalizing n m with
  | zero =>
      -- Past the last element there is one more answer, which says so.
      have hend : values.length ≤ n := Nat.sub_eq_zero_iff_le.mp hremaining.symm
      obtain ⟨m₁, hresume, -⟩ :=
        hstands.exists_resume rounds hshort hsupplies hnodup hdepth .undefined
      have hnext := Iteration.nextValue_of_answers (Iteration.answers_generator embedder
        (rounds + 3) depth hsupplies.untouched.provides_generatorNext.runs [] hresume)
      rw [answerAt, List.getElem?_eq_none hend] at hnext
      rw [List.drop_of_length_le hend]
      exact ⟨_, .ends hnext⟩
  | succ remaining ih =>
      have hlt : n < values.length := by omega
      obtain ⟨m₁, hresume, hsupplies₁, hstands₁⟩ :=
        hstands.exists_resume rounds hshort hsupplies hnodup hdepth .undefined
      have hnext := Iteration.nextValue_of_answers (Iteration.answers_generator embedder
        (rounds + 3) depth hsupplies.untouched.provides_generatorNext.runs [] hresume)
      -- The answer is shown by a new object, which the tower does not contain.
      have hshown := m₁.keepsBut_showing (answerAt values n)
      obtain ⟨m', hgives⟩ := ih (hstands₁.keeps hshown) (hsupplies₁.keeps hshown (by simp))
        (by omega)
      rw [answerAt, List.getElem?_eq_getElem hlt] at hnext
      rw [List.drop_eq_getElem_cons hlt]
      rw [answerAt, List.getElem?_eq_getElem hlt] at hgives
      exact ⟨m', .step hnext hgives⟩

end Stands

end Tower

/-- Delegation is transparent at any depth. In a realm whose intrinsics are
untouched let there be an array of fewer than `2 ^ 32` values and a tower of
generators over it, none of which was entered. Whatever values the topmost
generator is sent one after the other, it yields the values of the array in
their order, and after that it is done with undefined. While it yields, all
generators of the tower are suspended with a delegate, and in the end all are
completed and have none. And iterating over the topmost generator, instead of
sending it values, gives the values of the array. -/
theorem tower_transparent (embedder : Embedder P) (rounds : Nat) {depth : Nat} {m : Machine P}
    {array top : Handle} {below : List Handle} {values : List Value}
    (huntouched : m.realm.Untouched) (harray : m.realm.record array = .array values)
    (hshort : values.length < Nat.pow 2 32)
    (hfresh : Tower.Fresh embedder array m.realm (top :: below)) (hnodup : (top :: below).Nodup)
    (hdepth : (top :: below).length ≤ depth) (hrounds : values.length < rounds + 3) :
    (∀ sent : List Value, ∃ k,
      sent.mapM (fun value =>
          Generator.resume (embedder.hooks (rounds + 3) depth) top (.next value)) m
        = .done ((values.take sent.length).map (fun value => ⟨value, false⟩) ++
            List.replicate (sent.length - values.length) ⟨.undefined, true⟩) k ∧
      (0 < sent.length → sent.length ≤ values.length → ∀ h ∈ top :: below, ∃ g, k.Holds h g ∧
        g.state = .suspendedYield ∧ g.delegate.isSome = true) ∧
      (values.length < sent.length → ∀ h ∈ top :: below, ∃ g, k.Holds h g ∧
        g.state = .completed ∧ g.delegate = none)) ∧
    ∃ record k, (do
        Iteration.toList (embedder.hooks (rounds + 3) (depth + 1))
          (← Iteration.iterator (embedder.hooks (rounds + 3) (depth + 1)) (.object top))) m
            = .done (.ok values, record) k ∧ record.done = true := by
  have hstands : Tower.Stands embedder array values (top :: below) 0 m.realm := .fresh hfresh
  have hsupplies : m.realm.Supplies array values := ⟨huntouched, harray⟩
  constructor
  · intro sent
    obtain ⟨k, hrun, hk⟩ := hstands.exists_mapM rounds hshort hsupplies hnodup hdepth sent
    rw [List.drop_zero] at hrun
    rw [Nat.zero_add] at hk
    exact ⟨k, hrun, hk.suspended, hk.completed⟩
  · obtain ⟨⟨body, frame, hrecord, -⟩, -⟩ := hfresh
    -- The topmost generator is its own iterator, and opening it changes nothing.
    have hopens := Iteration.iterator_generator embedder (rounds + 3) depth huntouched hrecord
    obtain ⟨k, hgives⟩ := hstands.exists_gives rounds hshort hsupplies hnodup hdepth
    rw [List.drop_zero] at hgives
    refine ⟨⟨top, .object ⟨9⟩, true⟩, k, ?_, rfl⟩
    rw [Action.bind_apply, hopens]
    exact Iteration.toList_of_gives hgives hrounds

/-- Bodies that take fixed steps, and then return what they are sent. -/
def Embedder.relaying : Embedder Platform.fixed where
  function := Embedder.fixed.function
  body steps frame completion := .done
    { body := steps.tail
      frame
      step := .ok (steps.headD (.returned completion.value)) }

/-- A body that has one step left, to delegate, relays. -/
theorem Embedder.relaying_relays (iterable : Value) (frame : Frame) :
    Embedder.relaying.Relays iterable [.delegated iterable] frame :=
  fun _ _ m => ⟨_, m.memory, rfl, rfl, fun _ _ m => ⟨_, m.memory, rfl, rfl⟩⟩

/-- Two generators over an array of one value. -/
def towerMachine : Machine Platform.fixed where
  realm :=
    let r := ((Realm.initial {}).createArray [.null]).2
    let r := (r.createGenerator [.delegated (.object ⟨12⟩)] {}).2
    (r.createGenerator [.delegated (.object ⟨13⟩)] {}).2
  memory := ()

/-- The upper generator yields the one value, and then both are completed.
Read as a list, it gives that value, too. -/
theorem tower_transparent_two :
    (∃ k, [Value.null, .undefined].mapM (fun value =>
          Generator.resume (Embedder.relaying.hooks 3 2) ⟨14⟩ (.next value)) towerMachine
        = .done [⟨.null, false⟩, ⟨.undefined, true⟩] k ∧
      ∀ h ∈ [(⟨14⟩ : Handle), ⟨13⟩], ∃ g, k.Holds h g ∧ g.state = .completed ∧
        g.delegate = none) ∧
    ∃ record k, (do
        Iteration.toList (Embedder.relaying.hooks 3 3)
          (← Iteration.iterator (Embedder.relaying.hooks 3 3) (.object ⟨14⟩))) towerMachine
            = .done (.ok [.null], record) k ∧ record.done = true := by
  have huntouched : towerMachine.realm.Untouched :=
    (((Realm.untouched_initial {}).allocate _).allocate _).allocate _
  -- The three objects come behind those of a new realm.
  have hrecords : towerMachine.realm.record ⟨12⟩ = .array [.null] ∧
      towerMachine.realm.record ⟨13⟩ = .create (.generator (.create [.delegated (.object ⟨12⟩)] {}))
        (some Intrinsic.generatorPrototype) ∧
      towerMachine.realm.record ⟨14⟩ = .create (.generator (.create [.delegated (.object ⟨13⟩)] {}))
        (some Intrinsic.generatorPrototype) := by
    simp only [towerMachine, Realm.createGenerator, Realm.createArray, Realm.record_allocate,
      Realm.size_allocate, Realm.size_initial]
    exact ⟨rfl, rfl, rfl⟩
  obtain ⟨harray, hlower, hupper⟩ := hrecords
  have hfresh : Tower.Fresh Embedder.relaying ⟨12⟩ towerMachine.realm [⟨14⟩, ⟨13⟩] :=
    ⟨⟨_, _, hupper, Embedder.relaying_relays _ _⟩, ⟨_, _, hlower, Embedder.relaying_relays _ _⟩,
      trivial⟩
  obtain ⟨hsent, hlist⟩ := tower_transparent Embedder.relaying 0 huntouched harray (by decide)
    hfresh (by decide) (Nat.le_refl 2) (by decide)
  obtain ⟨k, hrun, -, hcompleted⟩ := hsent [.null, .undefined]
  exact ⟨⟨k, hrun, hcompleted (by decide)⟩, hlist⟩

end ScriptRealm
