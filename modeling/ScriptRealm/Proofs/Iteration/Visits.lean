import ScriptRealm.Proofs.Handles.Validity
import ScriptRealm.Proofs.Iteration.Arrays
import ScriptRealm.Proofs.Tracing

/-!
# `ScriptRealm.Proofs.Iteration.Visits`: the order of a list iterator's readings

A call of `next` on a list iterator takes the index from the cursor, reads the
length of the target, moves the cursor and reads the element. Both readings may
run code, and the code may call `next` on the same iterator. `Course` is what a
call comes to.

`Visits Called h r log s` is a run of such calls, one after the other or one
within the other, and `log` has its readings of elements in the order in which
they start. The calls are taken from those that there are (`Called`). A reading
is an index together with the number of readings that were made while its own
call was reading the length. The index is taken before these and the cursor
moves after them, so they count: the readings of a run are at consecutive
indices if each index is raised by that number (`Spans.order`, by induction on
the run). The indices themselves are in order just in case the number is nought
throughout. In `listIterator_rereads` it is not, and the first element is read
twice.

Nothing else moves a cursor. All changes that the library makes leave it where
it is, unless they are moves of this cursor (`Realm.still_blind`), and these are
made by calls of `next` only (`Realm.Blind.ruleBut`). So for the iterator a run of
a script is a run of the calls that were made at its moments (`run_visits`).

Two more things hold no matter how calls are nested. A call that starts when
another has come to its end reads at a larger index, and once a call was at the
end, all that follow are and change nothing. This is about whatever an
embedder's code does in between, and it rests on `Realm.Proceeds`: the cursor
does not go back, and what is done stays so. `listIterator_reads_in_order` is
the result.
-/

set_option autoImplicit false

namespace ScriptRealm

variable {P : Platform} {α : Type}

/-- A list iterator has kept its cursor. -/
def Realm.Still (h : Handle) (r s : Realm P) : Prop :=
  ∀ c, (r.record h).kind = .listIterator c → (s.record h).kind = .listIterator c

namespace ListIterator

/-! ### One call -/

/-- A call of `next` moves the cursor. It starts in `m`, where the cursor is
`c`, it has read the length in `m₁`, and it has moved the cursor in `k`. -/
structure Moves (hooks : Hooks P) (h : Handle) (c : ListCursor) (finished : Bool)
    (m m₁ k : Machine P) : Prop where
  kind : (m.realm.record h).kind = .listIterator c
  undone : c.done = false
  length : ∃ length, ArrayLike.length hooks c.target m = .done length m₁ ∧
    decide (length ≤ c.next) = finished
  move : moveCursor h finished m₁ = .done () k

/-- What a call of `next` comes to. -/
inductive Course (hooks : Hooks P) (h : Handle) (c : ListCursor) (m : Machine P) :
    Outcome P IterResult → Prop where
  | past (hdone : c.done = true) : Course hooks h c m (.done ⟨.undefined, true⟩ m)
  | broken {fault : Fault} {m₁ : Machine P} (hopen : c.done = false)
      (hlength : ArrayLike.length hooks c.target m = .failed fault m₁) :
      Course hooks h c m (.failed fault m₁)
  | stopped (hopen : c.done = false) (hlength : ArrayLike.length hooks c.target m = .exhausted) :
      Course hooks h c m .exhausted
  | ends {m₁ k : Machine P} (hmoves : Moves hooks h c true m m₁ k) :
      Course hooks h c m (.done ⟨.undefined, true⟩ k)
  | reads {m₁ k : Machine P} (hmoves : Moves hooks h c false m m₁ k) :
      Course hooks h c m
        (((IterResult.mk · false) <$> Object.get hooks c.target (.ofPosition c.next)) k)

variable {hooks : Hooks P} {h : Handle} {c : ListCursor} {finished : Bool} {m m₁ m' k : Machine P}

/-- A call on a cursor that is done changes nothing, and does not depend on
the code. The target is not even asked for its length. -/
theorem next_of_done (hooks : Hooks P) (hkind : (m.realm.record h).kind = .listIterator c)
    (hdone : c.done = true) : next hooks (.object h) m = .done ⟨.undefined, true⟩ m := by
  rw [next, Action.bind_apply, Action.record]
  simp only [hkind]
  rw [if_pos hdone]
  rfl

/-- What is left of a call of `next` when the length is read. -/
def afterLength (hooks : Hooks P) (h : Handle) (c : ListCursor) (length : Nat) :
    Action P IterResult := do
  moveCursor h (length ≤ c.next)
  if length ≤ c.next then
    return ⟨.undefined, true⟩
  else
    return ⟨← Object.get hooks c.target (.ofPosition c.next), false⟩

/-- A call on a cursor that is not done begins by reading the length, and the
cursor that the rest goes by is the one from before. -/
theorem next_of_undone (hooks : Hooks P) (hkind : (m.realm.record h).kind = .listIterator c)
    (hundone : c.done = false) :
    next hooks (.object h) m
      = (ArrayLike.length hooks c.target >>= afterLength hooks h c) m := by
  rw [next, Action.bind_apply, Action.record]
  simp only [hkind]
  rw [if_neg (by simp [hundone])]
  rfl

/-- Every call of `next` on a list iterator takes one of the five courses.
Which one is decided by the cursor and by how the reading of the length
ends. -/
theorem next_course (hooks : Hooks P) (hkind : (m.realm.record h).kind = .listIterator c) :
    Course hooks h c m (next hooks (.object h) m) := by
  cases hdone : c.done with
  | true =>
      rw [next_of_done hooks hkind hdone]
      exact .past hdone
  | false =>
      rw [next_of_undone hooks hkind hdone, Action.bind_apply]
      cases hlength : ArrayLike.length hooks c.target m with
      | failed fault m₁ => exact .broken hdone hlength
      | exhausted => exact .stopped hdone hlength
      | done length m₁ =>
          -- The cursor moves in either case, on by one or to the end.
          have hmoves : Moves hooks h c (decide (length ≤ c.next)) m m₁ _ :=
            ⟨hkind, hdone, ⟨length, hlength, rfl⟩, rfl⟩
          by_cases hend : length ≤ c.next
          · simp only [afterLength, hend, decide_true] at hmoves ⊢
            exact .ends hmoves
          · simp only [afterLength, hend, decide_false] at hmoves ⊢
            exact .reads hmoves

/-- The cursor moves on from where it is when the length was read. That may be
further than where it was when the call began. -/
theorem Moves.kind_moved {c₁ : ListCursor} (hmoves : Moves hooks h c finished m m₁ k)
    (hkind : (m₁.realm.record h).kind = .listIterator c₁) :
    (k.realm.record h).kind = .listIterator (advance finished c₁) := by
  have hmove := hmoves.move
  rw [moveCursor_apply hkind] at hmove
  cases hmove
  show ((m₁.realm.update h _).record h).kind = _
  -- A list iterator is in the arena, so that the write takes effect.
  rw [Realm.record_update_self (Realm.lt_size_of_listIterator hkind)]

/-! ### Runs of calls -/

/-- The reading of an element: its index, and how many readings were made
while the call that makes it was reading the length. -/
structure Reading where
  index : Nat
  during : Nat

/-- A run of calls of `next` on one list iterator, with the readings of
elements in the order in which they start. `Called` has the calls that there
are, each by the hooks it is made with and the machine it starts in. -/
inductive Visits (Called : Hooks P → Machine P → Prop) (h : Handle) :
    Realm P → List Reading → Realm P → Prop where
  /-- Anything that leaves the cursor alone. -/
  | apart {r s : Realm P} (hstill : r.Still h s) : Visits Called h r [] s
  | trans {r s t : Realm P} {log log' : List Reading} (hfirst : Visits Called h r log s)
      (hrest : Visits Called h s log' t) : Visits Called h r (log ++ log') t
  /-- A call that is at the end. -/
  | ends {hooks : Hooks P} {c : ListCursor} {m m₁ k : Machine P} {log : List Reading}
      (hcalled : Called hooks m) (hmoves : Moves hooks h c true m m₁ k)
      (hlength : Visits Called h m.realm log m₁.realm) : Visits Called h m.realm log k.realm
  /-- A call that reads an element. -/
  | reads {hooks : Hooks P} {c : ListCursor} {m m₁ k m' : Machine P} {log log' : List Reading}
      (hcalled : Called hooks m) (hmoves : Moves hooks h c false m m₁ k)
      (hlength : Visits Called h m.realm log m₁.realm)
      (hget : (Object.get hooks c.target (.ofPosition c.next) k).EndsIn m')
      (helement : Visits Called h k.realm log' m'.realm) :
      Visits Called h m.realm (log ++ ⟨c.next, log.length⟩ :: log') m'.realm

/-- What the readings of a run have to do with the cursor before and after. -/
structure Spans (c : ListCursor) (log : List Reading) (c' : ListCursor) : Prop where
  target : c'.target = c.target
  next : c'.next = c.next + log.length
  order : log.map (fun reading => reading.index + reading.during)
    = List.range' c.next log.length
  ahead : ∀ reading ∈ log, c.next ≤ reading.index
  final : c.done = true → log = [] ∧ c' = c

namespace Spans

variable {c c₁ c' : ListCursor} {log log' : List Reading}

/-- A run without readings leaves the cursor where it is. -/
theorem refl (c : ListCursor) : Spans c [] c :=
  ⟨rfl, rfl, rfl, nofun, fun _ => ⟨rfl, rfl⟩⟩

/-- One run after another: the second starts where the first has left the
cursor, so the two rows of indices join. -/
theorem trans (hfirst : Spans c log c₁) (hrest : Spans c₁ log' c') : Spans c (log ++ log') c' where
  target := hrest.target.trans hfirst.target
  next := by
    rw [hrest.next, hfirst.next, List.length_append, Nat.add_assoc]
  order := by
    rw [List.map_append, hfirst.order, hrest.order, hfirst.next, List.length_append,
      List.range'_append_1]
  ahead reading hmem := by
    rcases List.mem_append.mp hmem with hmem | hmem
    · exact hfirst.ahead reading hmem
    -- The second run starts where the cursor is by then, which is further on.
    · have hnext := hfirst.next
      have hahead := hrest.ahead reading hmem
      omega
  final hdone := by
    obtain ⟨rfl, rfl⟩ := hfirst.final hdone
    exact hrest.final hdone

/-- A call that is at the end. It reads nothing itself, and what was read in
the meantime stays. -/
theorem ends (hlength : Spans c log c₁) (hundone : c.done = false) :
    Spans c log (advance true c₁) where
  target := hlength.target
  next := hlength.next
  order := hlength.order
  ahead := hlength.ahead
  final hdone := by
    rw [hundone] at hdone
    cases hdone

/-- A call that reads. Its index is the cursor before the length was read, so
the readings made in the meantime make up for the difference. -/
theorem reads (hlength : Spans c log c₁) (hundone : c.done = false)
    (helement : Spans (advance false c₁) log' c') :
    Spans c (log ++ ⟨c.next, log.length⟩ :: log') c' where
  target := helement.target.trans hlength.target
  next := by
    -- The call itself moves the cursor by one, and both readings may move it further.
    have hnext : c'.next = c₁.next + 1 + log'.length := helement.next
    rw [hnext, hlength.next, List.length_append, List.length_cons]
    omega
  order := by
    have horder : log'.map (fun reading => reading.index + reading.during)
        = List.range' (c₁.next + 1) log'.length := helement.order
    -- The own place of the call lies between the two rows.
    rw [List.map_append, List.map_cons, hlength.order, horder, hlength.next, List.length_append,
      List.length_cons, ← List.range'_append_1, List.range'_succ]
  ahead reading hmem := by
    have hnext := hlength.next
    rcases List.mem_append.mp hmem with hmem | hmem
    · exact hlength.ahead reading hmem
    · rcases List.mem_cons.mp hmem with rfl | hmem
      · exact Nat.le_refl _
      · have hahead : c₁.next + 1 ≤ reading.index := helement.ahead reading hmem
        omega
  final hdone := by
    rw [hundone] at hdone
    cases hdone

/-- The indices are in order if no element is read while a length is, and only
then. Raised by the numbers they are in order anyway, so the numbers must all
be nought. -/
theorem index_order_iff (hspans : Spans c log c') :
    log.map Reading.index = List.range' c.next log.length ↔
      ∀ reading ∈ log, reading.during = 0 := by
  rw [← hspans.order, List.map_inj_left]
  constructor
  · intro hall reading hmem
    have hindex := hall reading hmem
    omega
  · intro hall reading hmem
    rw [hall reading hmem, Nat.add_zero]

end Spans

variable {Called : Hooks P → Machine P → Prop} {r s : Realm P} {log : List Reading}

/-- By induction on the run. Within a call, the cursor is followed through the
reading of the length and from there on through the reading of the element. -/
theorem Visits.spans (hvisits : Visits Called h r log s)
    (hkind : (r.record h).kind = .listIterator c) :
    ∃ c', (s.record h).kind = .listIterator c' ∧ Spans c log c' := by
  induction hvisits generalizing c with
  | apart hstill => exact ⟨c, hstill c hkind, .refl c⟩
  | trans _ _ ihfirst ihrest =>
      obtain ⟨c₁, hkind₁, hfirst⟩ := ihfirst hkind
      obtain ⟨c', hkind', hrest⟩ := ihrest hkind₁
      exact ⟨c', hkind', hfirst.trans hrest⟩
  -- The cursor that the call has taken is the one that the run starts with.
  | ends _ hmoves _ ihlength =>
      obtain ⟨c₁, hkind₁, hlength⟩ := ihlength hmoves.kind
      cases hkind.symm.trans hmoves.kind
      exact ⟨_, hmoves.kind_moved hkind₁, hlength.ends hmoves.undone⟩
  | reads _ hmoves _ _ _ ihlength ihelement =>
      obtain ⟨c₁, hkind₁, hlength⟩ := ihlength hmoves.kind
      obtain ⟨c', hkind', helement⟩ := ihelement (hmoves.kind_moved hkind₁)
      cases hkind.symm.trans hmoves.kind
      exact ⟨c', hkind', hlength.reads hmoves.undone helement⟩

/-- If there is no call, the cursor is where it was. The induction is on the
run: of two parts one must have moved the cursor. -/
theorem Visits.exists_called (hvisits : Visits Called h r log s) (hmoved : ¬ r.Still h s) :
    ∃ hooks m, Called hooks m := by
  induction hvisits with
  | apart hstill => exact absurd hstill hmoved
  | @trans r s t _ _ _ _ ihfirst ihrest =>
      by_cases hstill : r.Still h s
      · exact ihrest fun hrest => hmoved fun c hkind => hrest c (hstill c hkind)
      · exact ihfirst hstill
  | ends hcalled => exact ⟨_, _, hcalled⟩
  | reads hcalled => exact ⟨_, _, hcalled⟩

end ListIterator

/-! ### Changes of list iterators -/

namespace Realm

variable {r s : Realm P} {h : Handle} {c : ListCursor}

/-- A change leaves the cursor of a list iterator alone, unless it is one that
moves it. Objects are added past the end of the arena, where there was no list
iterator. -/
theorem Change.listIterator_cases {licence : Licence} (hchange : Change licence r s)
    (hkind : (r.record h).kind = .listIterator c) :
    (s.record h).kind = .listIterator c ∨
      licence.moves h ∧
        ∃ finished, (s.record h).kind = .listIterator (ListIterator.advance finished c) := by
  obtain hsame | ⟨hsize, -⟩ | ⟨c₀, finished, hold, hnew, hmoves⟩ | ⟨old, new, hold, -, -⟩ :=
    hchange.kind_cases h
  · exact .inl (hsame.trans hkind)
  -- A new object is where there was no list iterator.
  · have hlt := lt_size_of_listIterator hkind
    omega
  · cases hold.symm.trans hkind
    exact .inr ⟨hmoves, finished, hnew⟩
  · cases hold.symm.trans hkind

/-- Driving a generator leaves the list iterators alone. It writes to an
object that is a generator. -/
theorem still_drive {h₀ : Handle} {g : Generator P} (g' : Generator P)
    (hgenerator : (r.record h₀).kind = .generator g) :
    r.Still h (r.setKind h₀ (.generator g')) := by
  intro c hkind
  -- A generator is no list iterator, so that another object is written to.
  have hne : h ≠ h₀ := by
    rintro rfl
    cases hgenerator.symm.trans hkind
  rw [setKind, record_update_of_ne hne]
  exact hkind

/-- So does whatever moves no cursor. The licence has all other cursors, so
that only moves of this one are excluded. -/
theorem still_blind (h : Handle) : Blind ⟨True, (· ≠ h)⟩ (Still (P := P) h) where
  refl _ _ := id
  trans _ _ _ hfirst hrest c hkind := hrest c (hfirst c hkind)
  change r s hchange c hkind := by
    obtain hsame | ⟨hmoves, -⟩ := hchange.listIterator_cases hkind
    · exact hsame
    · exact absurd rfl hmoves
  drive _ _ _ g' hgenerator := still_drive g' hgenerator

/-- A relation that is kept by whatever does not move a cursor is kept by all
that the library does, but for calls of `next` on the list iterator. These are
the ones that such a rule has to be shown for by hand. -/
theorem Blind.ruleBut {R : Realm P → Realm P → Prop} (hblind : Blind ⟨True, (· ≠ h)⟩ R) :
    RuleBut (fun i this => i = .listIteratorNext ∧ this = .object h)
      fun r s => r.Passes s ∧ R r s where
  refl := hblind.law.refl
  trans := hblind.law.trans
  request _ hh r request := hblind.law.perform_keeps hh r request fun _ => trivial
  intrinsic _ hh r i this args hother := by
    apply hblind.law.intrinsic_keeps hh r i this args
    rintro h' hi hthis rfl
    exact hother ⟨hi, hthis⟩
  host r h₀ old new hkind hstep := hblind.law.change r _ (.host r h₀ old new hkind hstep)

end Realm

/-! ### Runs of scripts -/

namespace ListIterator

variable {hooks : Hooks P} {h : Handle} {c : ListCursor} {finished : Bool}
  {m m₁ m' k k₁ : Machine P} {entry : Entry P} {Called : Hooks P → Machine P → Prop}

/-- A call of `next` starts the code that the reading of the length does, in
the same machine. -/
theorem enters_next_of_length (hkind : (m.realm.record h).kind = .listIterator c)
    (hundone : c.done = false) (henters : hooks.Enters (ArrayLike.length · c.target) m entry k₁) :
    hooks.Enters (next · (.object h)) m entry k₁ := by
  rw [Hooks.enters_congr fun hooks => next_of_undone hooks hkind hundone,
    Hooks.enters_bind_iff (ArrayLike.length_relays c.target)]
  exact .inl henters

/-- So does it that of the reading of the element, which starts after the
cursor has moved. -/
theorem enters_next_of_get (hmoves : Moves hooks h c false m m₁ k)
    (henters : hooks.Enters (Object.get · c.target (.ofPosition c.next)) k entry k₁) :
    hooks.Enters (next · (.object h)) m entry k₁ := by
  obtain ⟨length, hlength, hfinished⟩ := hmoves.length
  have hopen : ¬ length ≤ c.next := of_decide_eq_false hfinished
  have hmove : moveCursor h (decide (length ≤ c.next)) m₁ = .done () k := by
    rw [hfinished]
    exact hmoves.move
  rw [Hooks.enters_congr fun hooks => next_of_undone hooks hmoves.kind hmoves.undone,
    Hooks.enters_bind_iff (ArrayLike.length_relays c.target)]
  -- The length has been read. Moving the cursor runs no code, and the element is read next.
  refine .inr ⟨length, m₁, hlength, ?_⟩
  simp only [afterLength, if_neg hopen]
  rw [Hooks.enters_bind_iff (.const (moveCursor h (length ≤ c.next)))]
  exact .inr ⟨(), k, hmove,
    (Hooks.enters_bind_const_iff _ (Object.get_relays c.target _)).mpr henters⟩

/-- One realm comes from another by a run of calls. -/
def Visited (Called : Hooks P → Machine P → Prop) (h : Handle) (r s : Realm P) : Prop :=
  ∃ log, Visits Called h r log s

/-- Runs of calls can be put together, and what moves no cursor is a run
without calls. So the library's own changes are runs, wherever they come
up. -/
theorem visited_blind (Called : Hooks P → Machine P → Prop) (h : Handle) :
    Realm.Blind ⟨True, (· ≠ h)⟩ (Visited Called h) where
  refl _ := ⟨[], .apart fun _ => id⟩
  trans _ _ _ := fun ⟨_, hfirst⟩ ⟨_, hrest⟩ => ⟨_, hfirst.trans hrest⟩
  change r s hchange := ⟨[], .apart ((Realm.still_blind h).change r s hchange)⟩
  drive _ _ _ g' hgenerator := ⟨[], .apart (Realm.still_drive g' hgenerator)⟩

/-- Moving a cursor is among the changes that generators pass through
unharmed. -/
theorem Moves.passes (hmoves : Moves hooks h c finished m m₁ k) : m₁.realm.Passes k.realm := by
  have hmove := (moveCursor_keeps (Realm.passes_law.stable m₁.realm) (h := h) trivial finished m₁
    (.refl _)).meets
  rw [hmoves.move] at hmove
  exact hmove

/-- A call of `next` comes to a run of calls, if the code that it starts does.
The code is started by the two readings, and each of them comes to such a run
for that reason; the move in between is what this call adds. -/
theorem next_visited (hcalled : Called hooks m)
    (hentries : ∀ entry k, hooks.Enters (next · (.object h)) m entry k →
      ¬ hooks.Breaks (fun r s => r.Passes s ∧ Visited Called h r s) entry k)
    (hends : (next hooks (.object h) m).EndsIn m') :
    m.realm.Passes m'.realm ∧ Visited Called h m.realm m'.realm := by
  have law := (visited_blind Called h).law
  cases hkind : (m.realm.record h).kind with
  | listIterator c =>
      -- Reading the length comes to a run of calls, however it ends.
      have hlengths : ∀ {m₁}, c.done = false → (ArrayLike.length hooks c.target m).EndsIn m₁ →
          m.realm.Passes m₁.realm ∧ Visited Called h m.realm m₁.realm := by
        intro m₁ hundone
        apply Hooks.kept_of_enters (ArrayLike.length_relays c.target) law.trans (law.refl _)
          fun _ hh =>
            ArrayLike.length_agree (law.stable m.realm) (Realm.Law.agree hh m.realm) c.target
        intro entry k₁ henters
        exact hentries entry k₁ (enters_next_of_length hkind hundone henters)
      have hcourse := next_course hooks hkind
      generalize next hooks (.object h) m = outcome at hcourse hends
      -- The five courses. Only the last two move the cursor, and these are calls of the run.
      cases hcourse with
      | past =>
          obtain ⟨_, heq⟩ | ⟨_, heq⟩ := hends <;> cases heq
          exact law.refl _
      | broken hundone hlength =>
          obtain ⟨_, heq⟩ | ⟨_, heq⟩ := hends <;> cases heq
          exact hlengths hundone (.inr ⟨_, hlength⟩)
      | stopped => obtain ⟨_, heq⟩ | ⟨_, heq⟩ := hends <;> cases heq
      | ends hmoves =>
          obtain ⟨length, hlength, -⟩ := hmoves.length
          obtain ⟨hpasses, log, hvisits⟩ := hlengths hmoves.undone (.inl ⟨length, hlength⟩)
          obtain ⟨_, heq⟩ | ⟨_, heq⟩ := hends <;> cases heq
          exact ⟨hpasses.trans hmoves.passes, log, .ends hcalled hmoves hvisits⟩
      -- The element is read after the move, from the machine that the move has led to.
      | @reads m₁ k hmoves =>
          obtain ⟨length, hlength, -⟩ := hmoves.length
          obtain ⟨hpasses, log, hvisits⟩ := hlengths hmoves.undone (.inl ⟨length, hlength⟩)
          have hget := Action.endsIn_map.mp hends
          obtain ⟨hpasses', log', helement⟩ := Hooks.kept_of_enters
            (Object.get_relays c.target (.ofPosition c.next)) law.trans (law.refl _)
            (fun _ hh =>
              Object.get_agree (law.stable k.realm) (Realm.Law.agree hh k.realm) c.target _)
            (fun entry k₁ henters => hentries entry k₁ (enters_next_of_get hmoves henters)) hget
          exact ⟨(hpasses.trans hmoves.passes).trans hpasses', _,
            .reads hcalled hmoves hvisits hget helement⟩
  | _ =>
      -- Called on anything else, `next` fails at once.
      rw [next, Action.bind_apply, Action.record] at hends
      simp only [hkind] at hends
      obtain ⟨_, heq⟩ | ⟨_, heq⟩ := hends <;> cases heq
      exact law.refl _

/-- So does one that makes an object of the result. The object is new, so this
moves no cursor. -/
theorem run_visited {args : List Value} (hcalled : Called hooks m)
    (hentries : ∀ entry k,
      hooks.Enters (IntrinsicFunction.listIteratorNext.run · (.object h) args) m entry k →
        ¬ hooks.Breaks (fun r s => r.Passes s ∧ Visited Called h r s) entry k)
    (hends : (IntrinsicFunction.listIteratorNext.run hooks (.object h) args m).EndsIn m') :
    m.realm.Passes m'.realm ∧ Visited Called h m.realm m'.realm := by
  have hnext : ∀ {m₁}, (next hooks (.object h) m).EndsIn m₁ →
      m.realm.Passes m₁.realm ∧ Visited Called h m.realm m₁.realm := by
    intro m₁
    apply next_visited hcalled
    intro entry k henters
    exact hentries entry k
      ((Hooks.enters_bind_const_iff _ (next_relays (.object h))).mpr henters)
  obtain ⟨fault, hfault⟩ | ⟨result, m₁, hresult, hobject⟩ := Action.endsIn_bind_iff.mp hends
  · exact hnext (.inr ⟨fault, hfault⟩)
  -- Making the object of the result is a change that moves no cursor.
  · have hkeeps := (result.toObject_keeps ((visited_blind Called h).law.stable m.realm) m₁
      (hnext (.inl ⟨result, hresult⟩))).meets
    exact Outcome.meets_iff_endsIn.mp hkeeps m' hobject

/-- A call of `next` on a list iterator that is made at a moment later than
`start`, by its hooks and the machine it starts in. -/
def CalledSince (embedder : Embedder P) (rounds : Nat) (start : Moment P) (h : Handle)
    (hooks : Hooks P) (m : Machine P) : Prop :=
  ∃ depth stack f args, Moment.Later embedder rounds start
      ⟨depth + 1, stack, .entry (.call (.object f) (.object h) args), m⟩ ∧
    m.realm.RunsIntrinsic f .listIteratorNext ∧ hooks = embedder.hooks rounds depth

/-- Whatever a script does to a list iterator, it does by the calls of `next`
that are made in the course of it. Suppose it did not. Then among all the
calls that break this there is one that starts no other such call, and that
one is excluded by `run_visited`. -/
theorem run_visits {embedder : Embedder P} {rounds depth : Nat} {script : Script P α}
    (h : Handle) (hrun : (embedder.run rounds depth script m).EndsIn m') (stack : List Run) :
    ∃ log, Visits (CalledSince embedder rounds ⟨depth, stack, .script script, m⟩ h) h m.realm log
      m'.realm := by
  apply Classical.byContradiction
  intro hnot
  -- Otherwise some call of `next` is none, though the code that it starts comes to such a run.
  obtain ⟨⟨_, stack', _, k⟩, hlater, depth', f, _, args, _, k', rfl, rfl, hruns, ⟨rfl, rfl⟩, hends,
    hbroken, hentries⟩ := Moment.exists_breaches (visited_blind _ h).ruleBut hrun
      (fun hkept => hnot hkept.2) stack
  exact hbroken (run_visited ⟨depth', stack', f, args, hlater, hruns, rfl⟩ hentries hends)

end ListIterator

/-! ### Between a call and a later one -/

/-- A cursor that may have moved on. -/
structure ListCursor.Precedes (c c' : ListCursor) : Prop where
  target : c'.target = c.target
  next : c.next ≤ c'.next
  done : c.done = true → c'.done = true

namespace ListCursor.Precedes

variable {a b c : ListCursor}

/-- A cursor that has not moved. -/
theorem refl (c : ListCursor) : c.Precedes c :=
  ⟨rfl, Nat.le_refl _, id⟩

/-- A cursor that has moved on twice. -/
theorem trans (hab : a.Precedes b) (hbc : b.Precedes c) : a.Precedes c :=
  ⟨hbc.target.trans hab.target, Nat.le_trans hab.next hbc.next,
    fun hdone => hbc.done (hab.done hdone)⟩

/-- A move is a move on, by one or to the end. -/
theorem advance (finished : Bool) (c : ListCursor) :
    c.Precedes (ListIterator.advance finished c) := by
  cases finished with
  | true => exact ⟨rfl, Nat.le_refl _, fun _ => rfl⟩
  | false => exact ⟨rfl, Nat.le_succ _, id⟩

end ListCursor.Precedes

namespace Realm

/-- Every list iterator is still one, and its cursor has at most moved on. -/
def Proceeds (r s : Realm P) : Prop :=
  ∀ h c, (r.record h).kind = .listIterator c →
    ∃ c', (s.record h).kind = .listIterator c' ∧ c.Precedes c'

/-- Cursors that have not moved. -/
theorem Proceeds.refl (r : Realm P) : r.Proceeds r :=
  fun _ c hkind => ⟨c, hkind, .refl c⟩

/-- Cursors that have moved on twice. -/
theorem Proceeds.trans {r s t : Realm P} (hrs : r.Proceeds s) (hst : s.Proceeds t) :
    r.Proceeds t := by
  intro h c hkind
  obtain ⟨c', hkind', hprecedes⟩ := hrs h c hkind
  obtain ⟨c'', hkind'', hprecedes'⟩ := hst h c' hkind'
  exact ⟨c'', hkind'', hprecedes.trans hprecedes'⟩

/-- Every change lets the cursors proceed. Those that move one move it on, and
the others leave it where it is. -/
theorem proceeds_blind : Blind True (Proceeds (P := P)) where
  refl := .refl
  trans _ _ _ := Proceeds.trans
  change r s hchange h c hkind := by
    obtain hsame | ⟨-, finished, hmoved⟩ := hchange.listIterator_cases hkind
    · exact ⟨c, hsame, .refl c⟩
    · exact ⟨_, hmoved, .advance finished c⟩
  drive _ _ _ g' hgenerator _ c hkind := ⟨c, still_drive g' hgenerator c hkind, .refl c⟩

end Realm

namespace ListIterator

variable {hooks : Hooks P} {h : Handle} {c : ListCursor} {finished : Bool} {m m₁ m' k : Machine P}

/-- What only runs code lets the cursors proceed, whatever the code is. The
operation is known to keep every invariant that changes keep, and this is such
an invariant. -/
theorem meets_proceeds (embedder : Embedder P) (rounds depth : Nat) {x : Hooks P → Action P α}
    (hx : ∀ I (hooks : Hooks P), Realm.Stable True I → hooks.Agree I hooks →
      Action.Keeps I (x hooks)) (m : Machine P) :
    (x (embedder.hooks rounds depth) m).Meets (fun _ m' => m.realm.Proceeds m'.realm)
      (fun _ m' => m.realm.Proceeds m'.realm) := by
  have hh := embedder.hooks_keeps Realm.proceeds_blind.law
    (embedder.uses_of_forall fun _ _ => trivial) rounds depth
  have hkeeps := hx _ _ (Realm.proceeds_blind.law.stable m.realm) (Realm.Law.agree hh m.realm) m
    ⟨.refl _, .refl _⟩
  exact hkeeps.meets.mono (fun _ _ hm' => hm'.2) fun _ _ hm' => hm'.2

/-- Between the two ends of a reading of the length the cursor has moved on,
if at all. Then it moves once more. -/
theorem Moves.precedes {embedder : Embedder P} {rounds depth : Nat}
    (hmoves : Moves (embedder.hooks rounds depth) h c finished m m₁ k) :
    ∃ c₁, (m₁.realm.record h).kind = .listIterator c₁ ∧ c.Precedes c₁ ∧
      (k.realm.record h).kind = .listIterator (advance finished c₁) := by
  obtain ⟨length, hlength, -⟩ := hmoves.length
  have hproceeds := meets_proceeds embedder rounds depth
    (x := fun hooks => ArrayLike.length hooks c.target)
    (fun _ _ hI hh => ArrayLike.length_agree hI hh c.target) m
  rw [hlength] at hproceeds
  -- Whatever getter was run for the length, the cursor has at most moved on.
  obtain ⟨c₁, hkind₁, hprecedes⟩ := hproceeds h c hmoves.kind
  exact ⟨c₁, hkind₁, hprecedes, hmoves.kind_moved hkind₁⟩

/-- What a call that answers has done to the cursor. With an element the
cursor is past the index of that element, and without one it is done. -/
theorem next_done {embedder : Embedder P} {rounds depth : Nat} {result : IterResult}
    (hkind : (m.realm.record h).kind = .listIterator c)
    (hnext : next (embedder.hooks rounds depth) (.object h) m = .done result m') :
    ∃ c', (m'.realm.record h).kind = .listIterator c' ∧ c'.target = c.target ∧
      (result.done = false → c.next < c'.next) ∧
      (result.done = true → result.value = .undefined ∧ c'.done = true) := by
  have hcourse := next_course (embedder.hooks rounds depth) hkind
  generalize next (embedder.hooks rounds depth) (.object h) m = outcome at hcourse hnext
  cases hcourse with
  | past hdone =>
      cases hnext
      exact ⟨c, hkind, rfl, nofun, fun _ => ⟨rfl, hdone⟩⟩
  | broken => cases hnext
  | stopped => cases hnext
  | ends hmoves =>
      cases hnext
      obtain ⟨c₁, -, hprecedes, hkind'⟩ := hmoves.precedes
      exact ⟨_, hkind', hprecedes.target, nofun, fun _ => ⟨rfl, rfl⟩⟩
  | @reads m₁ k hmoves =>
      obtain ⟨c₁, -, hprecedes, hkind₂⟩ := hmoves.precedes
      -- The element may be read by a getter, during which the cursor may go on further.
      have hproceeds := meets_proceeds embedder rounds depth
        (x := fun hooks => Object.get hooks c.target (.ofPosition c.next))
        (fun _ _ hI hh => Object.get_agree hI hh c.target _) k
      obtain ⟨value, m₃, hget, hvalue⟩ := Action.exists_of_bind hnext
      cases hvalue
      rw [hget] at hproceeds
      obtain ⟨c', hkind', hprecedes'⟩ := hproceeds h _ hkind₂
      refine ⟨c', hkind', hprecedes'.target.trans hprecedes.target, fun _ => ?_, nofun⟩
      have hle : c.next ≤ c₁.next := hprecedes.next
      have hlt : c₁.next + 1 ≤ c'.next := hprecedes'.next
      omega

end ListIterator

/-- The order in which a list iterator reads.

- A new one is at index `0`.
- A call of `next` that is not over takes the index from the cursor, reads the
  length, moves the cursor, and then reads the element at that index, unless the
  index is past the length.
- Nothing but such calls moves the cursor. A run of any script is, for the
  iterator, a run of the calls of `next` that are made at its moments.
- In a run of calls, nested or not, the cursor counts the readings. Each reading
  is at an index that falls behind its place in the order by the number of
  readings that were made while its call was reading the length. So the indices
  come one after the other, each once, just in case no length was read in the
  midst of which an element was. A run that starts when the cursor is done has no
  readings, and leaves the cursor as it is.
- Whatever an embedder's code does after a call that read an element, the cursor
  stays past its index, so no call that starts by then reads there again.
- Whatever it does after a call that answered that it is at the end, every
  further call answers the same, with no value, and changes nothing. -/
theorem listIterator_reads_in_order (embedder : Embedder P) (rounds : Nat) :
    (∀ (r : Realm P) (target : Handle),
      ((r.createListIterator target).2.record (r.createListIterator target).1).kind
        = .listIterator ⟨target, 0, false⟩) ∧
    ∀ h : Handle,
      (∀ (hooks : Hooks P) (m : Machine P) (c : ListCursor),
        (m.realm.record h).kind = .listIterator c →
        ListIterator.Course hooks h c m (ListIterator.next hooks (.object h) m)) ∧
      (∀ (α : Type) (depth : Nat) (stack : List Run) (script : Script P α) (m m' : Machine P),
        (embedder.run rounds depth script m).EndsIn m' →
        ∃ log, ListIterator.Visits
          (ListIterator.CalledSince embedder rounds ⟨depth, stack, .script script, m⟩ h) h
          m.realm log m'.realm) ∧
      (∀ (Called : Hooks P → Machine P → Prop) (r s : Realm P)
        (log : List ListIterator.Reading) (c : ListCursor),
        ListIterator.Visits Called h r log s → (r.record h).kind = .listIterator c →
        (¬ r.Still h s → ∃ hooks m, Called hooks m) ∧
        (∃ c', (s.record h).kind = .listIterator c' ∧ ListIterator.Spans c log c') ∧
        (log.map ListIterator.Reading.index = List.range' c.next log.length ↔
          ∀ reading ∈ log, reading.during = 0)) ∧
      ∀ (depth : Nat) (m m' : Machine P) (result : IterResult) (c : ListCursor),
        (m.realm.record h).kind = .listIterator c →
        ListIterator.next (embedder.hooks rounds depth) (.object h) m = .done result m' →
        (result.done = true → result.value = .undefined) ∧
        ∀ moment moment' : Moment P, moment.machine = m' →
          Moment.Later embedder rounds moment moment' →
          (result.done = false → ∃ c', (moment'.machine.realm.record h).kind = .listIterator c' ∧
            c'.target = c.target ∧ c.next < c'.next) ∧
          (result.done = true → ∀ hooks : Hooks P,
            ListIterator.next hooks (.object h) moment'.machine
              = .done ⟨.undefined, true⟩ moment'.machine) := by
  refine ⟨fun r target => ?_, fun h => ⟨fun hooks m c => ListIterator.next_course hooks,
    fun _ depth stack script m m' hrun => ListIterator.run_visits h hrun stack,
    fun Called r s log c hvisits hkind => ?_, fun depth m m' result c hkind hnext => ?_⟩⟩
  · show ((r.allocate _).2.record ⟨r.size⟩).kind = _
    -- A new list iterator is the object that was just added.
    rw [Realm.record_allocate, if_pos rfl]
    rfl
  · obtain ⟨c', hkind', hspans⟩ := hvisits.spans hkind
    exact ⟨hvisits.exists_called, ⟨c', hkind', hspans⟩, hspans.index_order_iff⟩
  · obtain ⟨c₁, hkind₁, htarget, hread, hend⟩ := ListIterator.next_done hkind hnext
    refine ⟨fun hdone => (hend hdone).1, fun moment moment' hmachine hlater => ?_⟩
    rw [← hmachine] at hkind₁
    -- What the call has left holds of the cursor at all later moments.
    obtain ⟨c', hkind', hprecedes⟩ := hlater.blind Realm.proceeds_blind h c₁ hkind₁
    constructor
    · intro hdone
      exact ⟨c', hkind', hprecedes.target.trans htarget,
        Nat.lt_of_lt_of_le (hread hdone) hprecedes.next⟩
    · intro hdone hooks
      exact ListIterator.next_of_done hooks hkind' (hprecedes.done (hend hdone).2)

/-! ### A call within the reading of a length -/

/-- The embedder of one function, which answers infinity. When it is called for
the first time, it first calls `next` on the list iterator of `steppingMachine`. -/
def Embedder.stepping : Embedder Platform.fixed where
  function _ _ _ := .ask (.newSymbol none) fun symbol =>
    if symbol.toOption.map Symbol.id = some Symbol.firstFree then
      .ask (.call (.object ⟨7⟩) (.object ⟨14⟩) []) fun _ =>
        .done (.ok (.number (.infinite false)))
    else
      .done (.ok (.number (.infinite false)))
  body := Embedder.fixed.body

/-- A new realm with an object whose length is computed by a function of the
embedder, and a list iterator over the object. -/
def steppingMachine : Machine Platform.fixed :=
  let target : ObjectRecord Platform.fixed :=
    (ObjectRecord.create .ordinary none).insert (.string "length")
      ⟨.accessor (.object ⟨13⟩) .undefined, true, true⟩
  let length : FunctionData Platform.fixed :=
    { name := "length", length := 0, code := .native ⟨.undefined, true⟩, isConstructor := false }
  let r : Realm Platform.fixed :=
    ((Realm.initial {}).allocate (target.insert (.index 0) (.plain .null))).2
  ⟨((r.allocate (.create (.function length) none)).2.createListIterator ⟨12⟩).2, ()⟩

/-- The script that calls `next` once. -/
def steppingScript : Script Platform.fixed Unit :=
  .ask (.call (.object ⟨7⟩) (.object ⟨14⟩) []) fun _ => .done ()

/-- The moment at which the script starts. -/
def steppingStart : Moment Platform.fixed :=
  ⟨4, [], .script steppingScript, steppingMachine⟩

/-- Both calls are made in the course of the script. The second is made at a
moment that lies within the first. -/
theorem calledSince_stepping :
    ListIterator.CalledSince Embedder.stepping 0 steppingStart ⟨14⟩
        (Embedder.stepping.hooks 0 3) steppingMachine ∧
      ListIterator.CalledSince Embedder.stepping 0 steppingStart ⟨14⟩
        (Embedder.stepping.hooks 0 1)
        ⟨(steppingMachine.realm.newSymbol none).2, ()⟩ := by
  have houter : Moment.Later Embedder.stepping 0 steppingStart
      ⟨4, [], .entry (.call (.object ⟨7⟩) (.object ⟨14⟩) []), steppingMachine⟩ :=
    Moment.Later.refl.next (.request (Hooks.enters_call_iff.mpr ⟨rfl, rfl⟩))
  -- The first call reads the length, and the function that computes it makes the second call.
  have hcalls : ∀ hooks : Hooks Platform.fixed,
      Object.getFor? hooks ⟨12⟩ (.string "length") (.object ⟨12⟩) steppingMachine
        = (some <$> hooks.call (.object ⟨13⟩) (.object ⟨12⟩) []) steppingMachine := fun _ => rfl
  have hgetter : (Embedder.stepping.hooks 0 3).Enters
      (Object.getFor? · ⟨12⟩ (.string "length") (.object ⟨12⟩)) steppingMachine
      (.call (.object ⟨13⟩) (.object ⟨12⟩) []) steppingMachine := by
    rw [Hooks.enters_congr hcalls]
    exact (Hooks.enters_bind_const_iff _ (.call _ _ _)).mpr (Hooks.enters_call_iff.mpr ⟨rfl, rfl⟩)
  have hlength : (Embedder.stepping.hooks 0 3).Enters (ArrayLike.length · ⟨12⟩)
      steppingMachine (.call (.object ⟨13⟩) (.object ⟨12⟩) []) steppingMachine :=
    (Hooks.enters_bind_const_iff _ (Object.get_relays ⟨12⟩ _)).mpr
      ((Hooks.enters_bind_const_iff _ (Object.getFor?_relays ⟨12⟩ _ _)).mpr hgetter)
  have hnext : (Embedder.stepping.hooks 0 3).Enters
      (IntrinsicFunction.listIteratorNext.run · (.object ⟨14⟩) []) steppingMachine
      (.call (.object ⟨13⟩) (.object ⟨12⟩) []) steppingMachine :=
    (Hooks.enters_bind_const_iff _ (ListIterator.next_relays _)).mpr
      (ListIterator.enters_next_of_length (c := ⟨⟨12⟩, 0, false⟩) rfl rfl hlength)
  have hinner : Moment.Later Embedder.stepping 0 steppingStart
      ⟨2, [], .entry (.call (.object ⟨7⟩) (.object ⟨14⟩) []),
        ⟨(steppingMachine.realm.newSymbol none).2, ()⟩⟩ :=
    (((houter.next (.intrinsic rfl rfl hnext)).next (.native rfl rfl)).next (.reply rfl)).next
      (.request (Hooks.enters_call_iff.mpr ⟨rfl, rfl⟩))
  exact ⟨⟨3, [], ⟨7⟩, [], houter, ⟨_, rfl, rfl⟩, rfl⟩, ⟨1, [], ⟨7⟩, [], hinner, ⟨_, rfl, rfl⟩, rfl⟩⟩

/-- The first call reads the length, in the midst of which the other call
reads the first element. Then it reads the first element itself. -/
theorem visits_stepping :
    ∃ m', (Embedder.stepping.run 0 4 steppingScript steppingMachine).EndsIn m' ∧
      ListIterator.Visits
        (ListIterator.CalledSince Embedder.stepping 0 steppingStart ⟨14⟩) ⟨14⟩
        steppingMachine.realm [⟨0, 0⟩, ⟨0, 1⟩] m'.realm := by
  obtain ⟨houter, hinner⟩ := calledSince_stepping
  -- The other call takes place between the making of a symbol and that of its result.
  have hmoves : ListIterator.Moves (Embedder.stepping.hooks 0 1) ⟨14⟩ ⟨⟨12⟩, 0, false⟩
      false ⟨(steppingMachine.realm.newSymbol none).2, ()⟩ _ _ :=
    ⟨rfl, rfl, ⟨_, rfl, rfl⟩, rfl⟩
  have hmoves' : ListIterator.Moves (Embedder.stepping.hooks 0 3) ⟨14⟩ ⟨⟨12⟩, 0, false⟩
      false steppingMachine _ _ :=
    ⟨rfl, rfl, ⟨_, rfl, rfl⟩, rfl⟩
  have hstart : ListIterator.Visits
      (ListIterator.CalledSince Embedder.stepping 0 steppingStart ⟨14⟩) ⟨14⟩
      steppingMachine.realm [] (steppingMachine.realm.newSymbol none).2 := .apart fun _ => id
  have hread : ListIterator.Visits
      (ListIterator.CalledSince Embedder.stepping 0 steppingStart ⟨14⟩) ⟨14⟩
      (steppingMachine.realm.newSymbol none).2 [⟨0, 0⟩] _ :=
    .reads hinner hmoves (.apart fun _ => id) (.inl ⟨.null, rfl⟩) (.apart fun _ => id)
  have hvisits := ListIterator.Visits.reads houter hmoves'
    ((hstart.trans hread).trans (.apart fun _ => id)) (.inl ⟨.null, rfl⟩) (.apart fun _ => id)
  exact ⟨_, .inl ⟨(), rfl⟩, hvisits.trans (.apart fun _ => id)⟩

/-- After the two calls the cursor has moved by two. An iterator over an object
that has no length is at the end, and stays there. -/
theorem listIterator_reads_in_order_stepping :
    (∃ (m' : Machine Platform.fixed) (c : ListCursor),
      (Embedder.stepping.run 0 4 steppingScript steppingMachine).EndsIn m' ∧
      (m'.realm.record ⟨14⟩).kind = .listIterator c ∧ c.next = 2) ∧
    ∃ m', ListIterator.next (Embedder.stepping.hooks 0 0) (.object ⟨12⟩)
        ⟨((Realm.initial {}).createListIterator ⟨0⟩).2, ()⟩ = .done ⟨.undefined, true⟩ m' ∧
      ListIterator.next (Embedder.stepping.hooks 0 0) (.object ⟨12⟩) m'
        = .done ⟨.undefined, true⟩ m' := by
  obtain ⟨-, horder⟩ := listIterator_reads_in_order Embedder.stepping 0
  constructor
  · obtain ⟨m', hrun, hvisits⟩ := visits_stepping
    obtain ⟨-, -, hruns, -⟩ := horder ⟨14⟩
    obtain ⟨-, ⟨c, hkind, hspans⟩, -⟩ := hruns _ _ _ _ ⟨⟨12⟩, 0, false⟩ hvisits rfl
    exact ⟨m', c, hrun, hkind, hspans.next⟩
  · obtain ⟨-, -, -, hafter⟩ := horder ⟨12⟩
    obtain ⟨-, hlater⟩ := hafter 0 ⟨((Realm.initial {}).createListIterator ⟨0⟩).2, ()⟩ _
      ⟨.undefined, true⟩ ⟨⟨0⟩, 0, false⟩ rfl rfl
    exact ⟨_, rfl, (hlater ⟨0, [], .script (Script.done ()), _⟩ _ rfl .refl).2 rfl _⟩

/-- In the course of a script, a new iterator reads the first element twice, and
the second one not at all: the function that computes the length calls `next`. -/
theorem listIterator_rereads :
    (steppingMachine.realm.record ⟨14⟩).kind = .listIterator ⟨⟨12⟩, 0, false⟩ ∧
    ∃ m' log,
      (Embedder.stepping.run 0 4 steppingScript steppingMachine).EndsIn m' ∧
      ListIterator.Visits
        (ListIterator.CalledSince Embedder.stepping 0 steppingStart ⟨14⟩) ⟨14⟩
        steppingMachine.realm log m'.realm ∧
      log.map ListIterator.Reading.index = [0, 0] := by
  obtain ⟨m', hrun, hvisits⟩ := visits_stepping
  exact ⟨rfl, m', _, hrun, hvisits, rfl⟩

end ScriptRealm
