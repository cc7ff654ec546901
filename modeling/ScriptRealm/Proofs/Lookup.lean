import ScriptRealm.Proofs.Entering
import ScriptRealm.Proofs.Handles.Walk

/-!
# `ScriptRealm.Proofs.Lookup`: where a property is found

Whether an object has a property, which object that comes from and what is
read there are three questions. Each is answered by a loop of its own along
the prototypes, with a test of its own at every object (`Realm.hasUpTo`,
`Realm.ownerUpTo?`, `Realm.readingUpTo?`). Here they are shown to stop at the
same object: each goes along the objects of the walk, and the tests agree at
every object (`Realm.isSome_reading?`).

The owner of a key is the first object that has it when prototypes are
followed from the object on. It is found on the whole walk (`Realm.Walk`), and
not within the bound that lookups keep to. The way to an owner is a
`Realm.Path`. It passes each object once, and each of them is in the arena, so
lookups get to its end (`Realm.Path.owner?_eq`). That depends on the objects of
the path alone, and on nothing that lies behind the owner.

`Object.Reads` says what an owner gives: a value or a getter to be called.
`lookups_resolve` has all of it.
-/

set_option autoImplicit false

namespace ScriptRealm

variable {P : Platform}

namespace Realm

variable {r s : Realm P} {h o p w : Handle} {key : PropertyKey} {front back l : List Handle}

/-- What an object's own table holds under a key. -/
def content? (r : Realm P) (h : Handle) (key : PropertyKey) : Option Content :=
  ((r.record h).slot? key).map Slot.content

/-- What is not foreign has the keys of its table. -/
theorem hasOwn_of_native (hnative : (r.record h).kind.host? = none) (key : PropertyKey) :
    r.hasOwn h key = ((r.record h).slot? key).isSome := by
  rw [hasOwn, hnative]
  exact OrderedMap.contains_eq_isSome _ _

/-- Whether an object has a key of its own is seen from its record. -/
theorem hasOwn_congr (hsame : s.record h = r.record h) (key : PropertyKey) :
    s.hasOwn h key = r.hasOwn h key := by
  rw [hasOwn, hasOwn, hsame]

/-- What has a key is in the arena. -/
theorem lt_size_of_hasOwn (hown : r.hasOwn h key = true) : h.index < r.size := by
  apply lt_size_of_record_ne
  intro hdefault
  rw [hasOwn, hdefault] at hown
  cases hown

/-! ### Where the loops stop -/

/-- An object has something to read under the keys that it has, and under no
others. -/
theorem isSome_reading? (r : Realm P) (h : Handle) (key : PropertyKey) :
    ((r.record h).reading? key).isSome = r.hasOwn h key := by
  unfold hasOwn ObjectRecord.reading?
  -- A foreign object has the key or not, and gives a value for one that it has.
  cases (r.record h).kind.host? with
  | some host => cases hkey : P.hosts.has host key <;> simp [hkey]
  | none => simp [ObjectRecord.slot?, OrderedMap.contains_eq_isSome]

/-- An object that lacks a key has nothing to read under it. -/
theorem reading?_of_lacks (hlacks : r.hasOwn h key = false) : (r.record h).reading? key = none := by
  rw [← isSome_reading?] at hlacks
  simpa using hlacks

/-- The owner of a key has it of its own. -/
theorem hasOwn_of_owner? (howner : r.owner? o key = some w) : r.hasOwn w key = true := by
  rw [owner?, ownerUpTo?_eq_find?] at howner
  simpa using List.find?_some howner

/-- An object has a key if there is an owner of it. -/
theorem has_eq_isSome_owner? (r : Realm P) (o : Handle) (key : PropertyKey) :
    r.has o key = (r.owner? o key).isSome := by
  rw [has, owner?, hasUpTo_eq_any, ownerUpTo?_eq_find?, List.isSome_find?]

/-- A lookup stops where the owner of the key is. It goes along the chain and
asks each object for something to read, and this is the first that has it. -/
theorem readingUpTo?_of_owner (howner : r.owner? o key = some w) :
    r.readingUpTo? key r.size o = (r.record w).reading? key := by
  have hown := hasOwn_of_owner? howner
  rw [owner?, ownerUpTo?_eq_find?, List.find?_eq_some_iff_append] at howner
  obtain ⟨-, front, back, hchain, hlack⟩ := howner
  -- No object before the owner has anything to read.
  have hfront : front.findSome? (fun h => (r.record h).reading? key) = none := by
    rw [List.findSome?_eq_none_iff]
    intro h hmem
    exact reading?_of_lacks (by simpa using hlack h hmem)
  obtain ⟨reading, hreading⟩ := Option.isSome_iff_exists.mp ((isSome_reading? r w key).trans hown)
  rw [readingUpTo?_eq_findSome?, hchain, List.findSome?_append, hfront, Option.none_or,
    List.findSome?_cons, hreading]

/-- Without an owner a lookup finds nothing. -/
theorem readingUpTo?_of_unowned (howner : r.owner? o key = none) :
    r.readingUpTo? key r.size o = none := by
  rw [owner?, ownerUpTo?_eq_find?, List.find?_eq_none] at howner
  rw [readingUpTo?_eq_findSome?, List.findSome?_eq_none_iff]
  intro h hmem
  exact reading?_of_lacks (by simpa using howner h hmem)

/-! ### The way to an owner -/

/-- Following prototypes from `o` leads past the objects of `front` to `w`. -/
inductive Path (r : Realm P) : Handle → List Handle → Handle → Prop where
  | here {w : Handle} : Path r w [] w
  | step {o p w : Handle} {front : List Handle} (hsome : (r.record o).prototype = some p)
      (hpath : Path r p front w) : Path r o (o :: front) w

/-- A walk leads to each of its objects past those before it. By induction on
the objects before it. -/
theorem Walk.path (hwalk : r.Walk o (front ++ w :: back)) : r.Path o front w := by
  induction front generalizing o with
  | nil =>
      cases hwalk with
      | last _ => exact .here
      | step _ _ => exact .here
  | cons h front ih =>
      rw [List.cons_append] at hwalk
      -- The rest of the walk is given a name, so that the walk can be taken apart.
      generalize hl : front ++ w :: back = l at ih hwalk
      cases hwalk with
      | last _ => simp at hl
      | step hsome hwalk => exact .step hsome (ih hwalk)

/-- No object is passed twice on the way to an object of a walk. -/
theorem Walk.nodup_front (hwalk : r.Walk o (front ++ w :: back)) : (front ++ [w]).Nodup := by
  have hnodup := hwalk.nodup
  rw [List.append_cons] at hnodup
  exact (List.nodup_append.mp hnodup).1

/-- No object before the first that has a key has it. On a walk the first one
is at one place only, so there is no doubt about which objects are before
it. -/
theorem Walk.lacks_front (hwalk : r.Walk o (front ++ w :: back))
    (hfind : (front ++ w :: back).find? (r.hasOwn · key) = some w) (hmem : h ∈ front) :
    r.hasOwn h key = false := by
  rw [List.find?_append] at hfind
  cases hfront : front.find? (r.hasOwn · key) with
  | none => simpa using List.find?_eq_none.mp hfront h hmem
  | some h' =>
      -- The search would have stopped there, and a walk does not come back.
      rw [hfront, Option.some_or] at hfind
      cases hfind
      have hdistinct := (List.nodup_append.mp hwalk.nodup_front).2.2
      exact absurd rfl
        (hdistinct w (List.mem_of_find?_eq_some hfront) w (List.mem_singleton_self w))

/-- A walk is where lookups look. However far they go, they see no other
objects. -/
theorem Walk.chainUpTo_subset (hwalk : r.Walk o l) (n : Nat) : r.chainUpTo n o ⊆ l := by
  induction hwalk generalizing n with
  | last hnone =>
      cases n with
      | zero => simp [chainUpTo]
      | succ n => simp [chainUpTo, hnone]
  | step hsome _ ih =>
      cases n with
      | zero => simp [chainUpTo]
      | succ n =>
          simp only [chainUpTo, hsome]
          exact List.cons_subset_cons _ (ih n)

namespace Path

/-- A path depends on the prototypes of the objects before its end. What these
objects hold does not matter for where it leads. -/
theorem congr (hpath : r.Path o front w)
    (hsame : ∀ h ∈ front, (s.record h).prototype = (r.record h).prototype) :
    s.Path o front w := by
  induction hpath with
  | here => exact .here
  | step hsome _ ih =>
      exact .step ((hsame _ List.mem_cons_self).trans hsome)
        (ih fun h hmem => hsame h (List.mem_cons_of_mem _ hmem))

/-- What has a prototype is in the arena. The objects before the end of a path
all have one. -/
theorem lt_size (hpath : r.Path o front w) (hmem : h ∈ front) : h.index < r.size := by
  induction hpath with
  | here => cases hmem
  | @step o p w front hsome _ ih =>
      rcases List.mem_cons.mp hmem with rfl | hmem
      · apply lt_size_of_record_ne
        intro hdefault
        rw [hdefault] at hsome
        cases hsome
      · exact ih hmem

/-- Enough steps lead to the end of a path. By induction on the path, which
has as many steps as it passes objects. -/
theorem exists_chainUpTo (hpath : r.Path o front w) (n : Nat) :
    ∃ rest, r.chainUpTo (front.length + (n + 1)) o = front ++ w :: rest := by
  induction hpath with
  | here =>
      rw [List.length_nil, Nat.zero_add, chainUpTo]
      exact ⟨_, rfl⟩
  | @step o p w front hsome _ ih =>
      obtain ⟨rest, hrest⟩ := ih
      have hsucc : (o :: front).length + (n + 1) = front.length + (n + 1) + 1 := by
        rw [List.length_cons]
        omega
      refine ⟨rest, ?_⟩
      rw [hsucc, chainUpTo, hsome]
      simp only [hrest, List.cons_append]

/-- The end of a path is the owner of a key that it has and no object before
it. The search for an owner is bounded, and this is where the bound is shown
to do no harm. -/
theorem owner?_eq (hpath : r.Path o front w) (hnodup : (front ++ [w]).Nodup)
    (hlack : ∀ h ∈ front, r.hasOwn h key = false) (hown : r.hasOwn w key = true) :
    r.owner? o key = some w := by
  -- The objects of the path are different ones of the arena, so there are not more of them
  -- than the search follows.
  have hlength : (front ++ [w]).length ≤ r.size := by
    apply length_le_of_nodup hnodup
    intro h hmem
    rcases List.mem_append.mp hmem with hmem | hmem
    · exact hpath.lt_size hmem
    · rw [List.mem_singleton.mp hmem]
      exact lt_size_of_hasOwn hown
  rw [List.length_append, List.length_singleton] at hlength
  -- So the bound is the length of the path and something more.
  obtain ⟨n, hn⟩ : ∃ n, r.size = front.length + (n + 1) := ⟨r.size - front.length - 1, by omega⟩
  obtain ⟨rest, hrest⟩ := hpath.exists_chainUpTo n
  rw [owner?, ownerUpTo?_eq_find?, hn, hrest, List.find?_eq_some_iff_append]
  exact ⟨hown, front, rest, rfl, fun h hmem => by simp [hlack h hmem]⟩

/-- The owner stays the owner while the objects of the path stay as they are,
whatever becomes of those behind it. -/
theorem owner?_eq_of_same (hpath : r.Path o front w) (hnodup : (front ++ [w]).Nodup)
    (hlack : ∀ h ∈ front, r.hasOwn h key = false) (hown : r.hasOwn w key = true)
    (hsame : ∀ h ∈ front ++ [w], s.record h = r.record h) : s.owner? o key = some w := by
  have hfront : ∀ h ∈ front, s.record h = r.record h :=
    fun h hmem => hsame h (List.mem_append_left _ hmem)
  -- The links of the path are read off objects that are the same.
  have hpath' : s.Path o front w := hpath.congr fun h hmem => by rw [hfront h hmem]
  apply hpath'.owner?_eq hnodup
  · intro h hmem
    rw [hasOwn_congr (hfront h hmem)]
    exact hlack h hmem
  · rw [hasOwn_congr (hsame w (by simp))]
    exact hown

end Path

/-- A key that no object on the chain has has no owner. -/
theorem owner?_of_lacks (hlack : ∀ h ∈ r.chain o, r.hasOwn h key = false) :
    r.owner? o key = none := by
  rw [owner?, ownerUpTo?_eq_find?, List.find?_eq_none]
  intro h hmem
  rw [hlack h hmem]
  exact Bool.false_ne_true

/-- A key that no object on the walk has has no owner. -/
theorem Walk.owner?_eq_none (hwalk : r.Walk o l) (hlack : ∀ h ∈ l, r.hasOwn h key = false) :
    r.owner? o key = none :=
  owner?_of_lacks fun h hmem => hlack h (hwalk.chainUpTo_subset _ hmem)

/-- The owner of a key is the first object on the whole walk that has it. So
the bound on the search can be forgotten. -/
theorem Walk.owner?_eq_find? (hwalk : r.Walk o l) (key : PropertyKey) :
    r.owner? o key = l.find? (r.hasOwn · key) := by
  cases hfind : l.find? (r.hasOwn · key) with
  | none =>
      apply hwalk.owner?_eq_none
      simpa using hfind
  | some w =>
      obtain ⟨hown, front, back, rfl, hlack⟩ := List.find?_eq_some_iff_append.mp hfind
      exact hwalk.path.owner?_eq hwalk.nodup_front (by simpa using hlack) hown

/-- An object that has a key of its own is the key's owner. -/
theorem owner?_of_hasOwn (hown : r.hasOwn o key = true) : r.owner? o key = some o :=
  Path.here.owner?_eq (by simp) (by simp) hown

/-- A key that an object lacks is looked for in its prototype. The two are not
one object, as the one has the key and the other does not. -/
theorem owner?_of_inherits (hprototype : (r.record o).prototype = some p)
    (hlacks : r.hasOwn o key = false) (hown : r.hasOwn p key = true) : r.owner? o key = some p := by
  have hne : o ≠ p := by
    rintro rfl
    rw [hown] at hlacks
    cases hlacks
  exact (Path.step hprototype .here).owner?_eq (by simp [hne]) (by simp [hlacks]) hown

end Realm

/-! ### Reading -/

/-- A value is the answer as it is. A getter is called once on the receiver,
without arguments. -/
def Reading.run (hooks : Hooks P) (receiver : Value) : Reading → Action P (Option Value)
  | .value v => return some v
  | .getter f => some <$> hooks.call f receiver []

namespace Object

/-- What there is to read under a key at its owner. -/
inductive Reads (r : Realm P) (w : Handle) (key : PropertyKey) : Reading → Prop where
  | data {v : Value} {writable : Bool} (hnative : (r.record w).kind.host? = none)
      (hcontent : r.content? w key = some (.data v writable)) : Reads r w key (.value v)
  | getterless {set : Value} (hnative : (r.record w).kind.host? = none)
      (hcontent : r.content? w key = some (.accessor .undefined set)) :
      Reads r w key (.value .undefined)
  | getter {get set : Value} (hnative : (r.record w).kind.host? = none)
      (hcontent : r.content? w key = some (.accessor get set)) (hget : get ≠ .undefined) :
      Reads r w key (.getter get)
  | host {host : P.Host} {v : Value} (hhost : (r.record w).kind.host? = some host)
      (hvalue : P.hosts.get? host key = some v) : Reads r w key (.value v)
  | hostless {host : P.Host} (hhost : (r.record w).kind.host? = some host)
      (hvalue : P.hosts.get? host key = none) : Reads r w key (.value .undefined)

/-- What looking for a key comes to, if `l` is the walk of an object and
`owner?` the first object on it that has the key. -/
structure Resolves (hooks : Hooks P) (m : Machine P) (o : Handle) (key : PropertyKey)
    (receiver : Value) (l : List Handle) (owner? : Option Handle) : Prop where
  owner : m.realm.owner? o key = owner?
  has : m.realm.has o key = true ↔ ∃ w, owner? = some w
  /-- Only without an owner is there no answer. -/
  missing : (∃ k, getFor? hooks o key receiver m = .done none k) ↔ owner? = none
  unchanged : owner? = none → getFor? hooks o key receiver m = .done none m
  /-- An owner has something to read, and that is read. -/
  read : ∀ w, owner? = some w → (∃ reading, Reads m.realm w key reading) ∧
    ∀ reading, Reads m.realm w key reading →
      getFor? hooks o key receiver m = reading.run hooks receiver m
  /-- The getter of the owner is the only code that is started. -/
  starts : ∀ entry k, hooks.Enters (getFor? · o key receiver) m entry k ↔
    ∃ w f, owner? = some w ∧ Reads m.realm w key (.getter f) ∧ entry = .call f receiver [] ∧ k = m
  /-- In any machine that has the same objects as far as the owner, the key
  has the same owner and the same is read. -/
  behind : ∀ front w back, l = front ++ w :: back → owner? = some w → ∀ k : Machine P,
    (∀ h ∈ front ++ [w], k.realm.record h = m.realm.record h) →
      k.realm.owner? o key = some w ∧ k.realm.has o key = true ∧
        ∀ reading, Reads m.realm w key reading →
          getFor? hooks o key receiver k = reading.run hooks receiver k

variable {m : Machine P} {r s : Realm P} {o w : Handle} {key : PropertyKey} {reading : Reading}

/-- What has a key has something to read under it. The cases are those of
`Reads`. -/
theorem exists_reads (hown : r.hasOwn w key = true) : ∃ reading, Reads r w key reading := by
  cases hhost : (r.record w).kind.host? with
  | some host =>
      cases hvalue : P.hosts.get? host key with
      | none => exact ⟨_, .hostless hhost hvalue⟩
      | some v => exact ⟨_, .host hhost hvalue⟩
  | none =>
      rw [Realm.hasOwn_of_native hhost] at hown
      obtain ⟨⟨content, enumerable, configurable⟩, hslot⟩ := Option.isSome_iff_exists.mp hown
      -- Of the slot only the content is read, and the flags play no part.
      have hcontent : r.content? w key = some content := congrArg (Option.map Slot.content) hslot
      cases content with
      | data v writable => exact ⟨_, .data hhost hcontent⟩
      | accessor get set =>
          by_cases hget : get = .undefined
          · subst hget
            exact ⟨_, .getterless hhost hcontent⟩
          · exact ⟨_, .getter hhost hcontent hget⟩

namespace Reads

/-- What there is to read depends on the owner alone. So it is the same in
every realm that has the owner as it is. -/
theorem congr (hreads : Reads r w key reading) (hsame : s.record w = r.record w) :
    Reads s w key reading := by
  have hcontent : s.content? w key = r.content? w key := by
    rw [Realm.content?, Realm.content?, hsame]
  cases hreads with
  | data hnative hdata => exact .data (hsame ▸ hnative) (hcontent.trans hdata)
  | getterless hnative hnone => exact .getterless (hsame ▸ hnative) (hcontent.trans hnone)
  | getter hnative hgetter hget => exact .getter (hsame ▸ hnative) (hcontent.trans hgetter) hget
  | host hhost hvalue => exact .host (hsame ▸ hhost) hvalue
  | hostless hhost hvalue => exact .hostless (hsame ▸ hhost) hvalue

/-- What an owner has to read is what it gives to a lookup. Case by case, this
is how the record is read. -/
theorem reading?_eq (hreads : Reads r w key reading) (hown : r.hasOwn w key = true) :
    (r.record w).reading? key = some reading := by
  rw [Realm.hasOwn] at hown
  unfold ObjectRecord.reading?
  cases hreads with
  | data hnative hcontent | getterless hnative hcontent =>
      obtain ⟨slot, hslot, hdata⟩ := Option.map_eq_some_iff.mp hcontent
      rw [hnative, hslot, Option.map_some, hdata, Content.reading]
  | getter hnative hcontent hget =>
      obtain ⟨slot, hslot, haccessor⟩ := Option.map_eq_some_iff.mp hcontent
      rw [hnative, hslot, Option.map_some, haccessor, Content.reading]
      exact hget
  | host hhost hvalue =>
      rw [hhost] at hown ⊢
      simp only [hown, hvalue, if_true, Option.getD_some]
  | hostless hhost hvalue =>
      rw [hhost] at hown ⊢
      simp only [hown, hvalue, if_true, Option.getD_none]

/-- What the owner has to read is read. Neither the objects before it nor
those behind it have a part in it. -/
theorem getFor?_eq (hreads : Reads m.realm w key reading)
    (howner : m.realm.owner? o key = some w) (hooks : Hooks P) (receiver : Value) :
    getFor? hooks o key receiver m = reading.run hooks receiver m := by
  have hreading := hreads.reading?_eq (Realm.hasOwn_of_owner? howner)
  rw [getFor?, Action.bind_apply]
  simp only [Action.realm, Realm.readingUpTo?_of_owner howner, hreading]
  cases reading <;> rfl

end Reads

/-- Without an owner there is no answer, and nothing happens. -/
theorem getFor?_of_unowned (howner : m.realm.owner? o key = none) (hooks : Hooks P)
    (receiver : Value) : getFor? hooks o key receiver m = .done none m := by
  rw [getFor?, Action.bind_apply]
  simp only [Action.realm, Realm.readingUpTo?_of_unowned howner]
  rfl

/-- A key that no object on the chain has gives undefined, where `get?` would
say that there is none. -/
theorem get_of_unowned (hooks : Hooks P) (howner : m.realm.owner? o key = none) :
    get hooks o key m = .done .undefined m := by
  rw [get, Action.bind_apply, get?, getFor?_of_unowned howner]
  rfl

/-- A value that the owner of a key holds is read as it is. Nothing is run and
nothing changes. -/
theorem get_of_owner (hooks : Hooks P) (howner : m.realm.owner? o key = some w)
    (hnative : (m.realm.record w).kind.host? = none) {slot : Slot}
    (hslot : (m.realm.record w).slot? key = some slot) {value : Value} {writable : Bool}
    (hcontent : slot.content = .data value writable) : get hooks o key m = .done value m := by
  have hreads : Reads m.realm w key (.value value) := by
    apply Reads.data hnative
    rw [Realm.content?, hslot, Option.map_some, hcontent]
  rw [get, Action.bind_apply, get?, hreads.getFor?_eq howner]
  rfl

/-- A value that an object holds itself is read as it is, since the object is
the owner then. -/
theorem get_of_data (hooks : Hooks P) (hnative : (m.realm.record o).kind.host? = none)
    {slot : Slot} (hslot : (m.realm.record o).slot? key = some slot) {value : Value}
    {writable : Bool} (hcontent : slot.content = .data value writable) :
    get hooks o key m = .done value m := by
  have hown : m.realm.hasOwn o key = true := by
    rw [Realm.hasOwn_of_native hnative, hslot]
    rfl
  exact get_of_owner hooks (Realm.owner?_of_hasOwn hown) hnative hslot hcontent

end Object

namespace Reading

variable {m : Machine P} {reading : Reading}

/-- What there is to read is an answer, if the getter gives one. A getter that
answers `undefined` has answered, too. -/
theorem run_ne_none (hooks : Hooks P) (receiver : Value) (m k : Machine P) :
    reading.run hooks receiver m ≠ .done none k := by
  cases reading with
  | value v =>
      intro hdone
      cases hdone
  | getter f =>
      rw [run, Action.map_apply]
      cases hooks.call f receiver [] m <;> simp

/-- A getter is the only code that reading starts. A value is given without
looking at the hooks. -/
theorem enters_run_iff {hooks : Hooks P} {receiver : Value} {entry : Entry P} {k : Machine P} :
    hooks.Enters (reading.run · receiver) m entry k ↔
      ∃ f, reading = .getter f ∧ entry = .call f receiver [] ∧ k = m := by
  cases reading with
  | value v =>
      constructor
      · exact fun henters => absurd henters (Hooks.not_enters_const _)
      · rintro ⟨f, hgetter, -⟩
        cases hgetter
  | getter f =>
      have hcall : hooks.Enters (fun hooks => hooks.call f receiver [] >>= fun v => pure (some v))
          m entry k ↔ entry = .call f receiver [] ∧ k = m := by
        rw [Hooks.enters_bind_const_iff _ (Action.Relays.call f receiver []),
          Hooks.enters_call_iff]
      refine hcall.trans ?_
      simp

end Reading

open Object

/-- Whether an object has a key, who its owner is and what is read under it all
go by the first object on the walk that has the key. -/
theorem lookups_resolve (hooks : Hooks P) (m : Machine P) (o : Handle) (key : PropertyKey)
    (receiver : Value) (l : List Handle) (hwalk : m.realm.Walk o l) :
    Resolves hooks m o key receiver l (l.find? (m.realm.hasOwn · key)) := by
  -- The bound on the search is gone from here on, and the walk takes its place.
  have howner := hwalk.owner?_eq_find? key
  have hown {w : Handle} (hw : l.find? (m.realm.hasOwn · key) = some w) :
      m.realm.hasOwn w key = true := by
    simpa using List.find?_some hw
  have hread {w : Handle} {reading : Reading} (hw : l.find? (m.realm.hasOwn · key) = some w)
      (hreads : Reads m.realm w key reading) (hooks : Hooks P) :
      getFor? hooks o key receiver m = reading.run hooks receiver m :=
    hreads.getFor?_eq (howner.trans hw) hooks receiver
  have hunowned (hnone : l.find? (m.realm.hasOwn · key) = none) (hooks : Hooks P) :
      getFor? hooks o key receiver m = .done none m :=
    getFor?_of_unowned (howner.trans hnone) hooks receiver
  constructor
  case owner => exact howner
  case has => rw [Realm.has_eq_isSome_owner?, howner, Option.isSome_iff_exists]
  case missing =>
    constructor
    · rintro ⟨k, hdone⟩
      apply Option.eq_none_iff_forall_ne_some.mpr
      intro w hw
      -- An owner would give an answer.
      obtain ⟨reading, hreads⟩ := exists_reads (hown hw)
      rw [hread hw hreads] at hdone
      exact Reading.run_ne_none hooks receiver m k hdone
    · exact fun hnone => ⟨m, hunowned hnone hooks⟩
  case unchanged => exact fun hnone => hunowned hnone hooks
  case read =>
    intro w hw
    exact ⟨exists_reads (hown hw), fun reading hreads => hread hw hreads hooks⟩
  case starts =>
    intro entry k
    constructor
    · intro henters
      cases hw : l.find? (m.realm.hasOwn · key) with
      | none =>
          -- Without an owner nothing is asked of the hooks.
          rw [Hooks.enters_congr (hunowned hw)] at henters
          exact absurd henters (Hooks.not_enters_const fun m => .done none m)
      | some w =>
          obtain ⟨reading, hreads⟩ := exists_reads (hown hw)
          rw [Hooks.enters_congr (hread hw hreads), Reading.enters_run_iff] at henters
          obtain ⟨f, rfl, hentry, hk⟩ := henters
          exact ⟨w, f, rfl, hreads, hentry, hk⟩
    · rintro ⟨w, f, hw, hreads, hentry, hk⟩
      rw [Hooks.enters_congr (hread hw hreads), Reading.enters_run_iff]
      exact ⟨f, rfl, hentry, hk⟩
  -- The way to the owner is the same in the other machine, and so is what the owner holds.
  case behind =>
    rintro front w back rfl hw k hsame
    have howner' : k.realm.owner? o key = some w :=
      hwalk.path.owner?_eq_of_same hwalk.nodup_front (fun _ => hwalk.lacks_front hw) (hown hw)
        hsame
    have hhas : k.realm.has o key = true := by
      rw [Realm.has_eq_isSome_owner?, howner']
      rfl
    refine ⟨howner', hhas, fun reading hreads => ?_⟩
    exact (hreads.congr (hsame w (by simp))).getFor?_eq howner' hooks receiver

/-- A machine with a chain of four objects, of which the third is foreign. The
root holds values under three keys. Before it are a getter under the first of
them, and a foreign storage with the second and, without a value, the third.
The foreign object's own table holds a value under the first key, which is not
looked at. -/
def mixedMachine : Machine Platform.bags where
  realm :=
    { objects := #[(((.create .ordinary none : ObjectRecord Platform.bags).insert (.index 1)
          (.plain .null)).insert (.index 2) (.plain .null)).insert (.index 3) (.plain .null),
        (.create .ordinary (some ⟨0⟩) : ObjectRecord Platform.bags).insert (.index 1)
          ⟨.accessor (.boolean true) .undefined, true, true⟩,
        (.create (.foreign ⟨[(.index 2, some (.boolean true)), (.index 3, none)], false, true⟩)
          (some ⟨1⟩) : ObjectRecord Platform.bags).insert (.index 1) (.plain .null),
        .create .ordinary (some ⟨2⟩)]
      config := {}
      nextSymbol := Symbol.firstFree }
  memory := ()

/-- Whatever is called answers its receiver. -/
def echoingHooks {P : Platform} : Hooks P where
  call _ this _ m := .done this m
  resume _ _ _ _ := .exhausted
  rounds := 0

/-- The chain of `mixedMachine`. -/
def mixedChain : List Handle := [⟨3⟩, ⟨2⟩, ⟨1⟩, ⟨0⟩]

/-- The getter is found past the foreign object and answers for the receiver,
and it still does when the root and its values are gone. The other two keys are
found in the foreign storage, one with a value and one without, and a fourth
key is found nowhere. -/
theorem lookups_resolve_mixed :
    mixedMachine.realm.Walk ⟨3⟩ mixedChain ∧
      (Resolves echoingHooks mixedMachine ⟨3⟩ (.index 1) (.boolean false) mixedChain (some ⟨1⟩) ∧
        Resolves echoingHooks mixedMachine ⟨3⟩ (.index 2) (.boolean false) mixedChain (some ⟨2⟩) ∧
        Resolves echoingHooks mixedMachine ⟨3⟩ (.index 3) (.boolean false) mixedChain (some ⟨2⟩) ∧
        Resolves echoingHooks mixedMachine ⟨3⟩ (.index 4) (.boolean false) mixedChain none) ∧
      getFor? echoingHooks ⟨3⟩ (.index 1) (.boolean false) mixedMachine
        = .done (some (.boolean false)) mixedMachine ∧
      getFor? echoingHooks ⟨3⟩ (.index 1) (.boolean false)
          ⟨mixedMachine.realm.update ⟨0⟩ fun _ => default, ()⟩
        = .done (some (.boolean false)) ⟨mixedMachine.realm.update ⟨0⟩ fun _ => default, ()⟩ ∧
      getFor? echoingHooks ⟨3⟩ (.index 2) (.boolean false) mixedMachine
        = .done (some (.boolean true)) mixedMachine ∧
      getFor? echoingHooks ⟨3⟩ (.index 3) (.boolean false) mixedMachine
        = .done (some .undefined) mixedMachine ∧
      getFor? echoingHooks ⟨3⟩ (.index 4) (.boolean false) mixedMachine
        = .done none mixedMachine := by
  have hwalk : mixedMachine.realm.Walk ⟨3⟩ mixedChain :=
    .step rfl (.step rfl (.step rfl (.last rfl)))
  have hresolves (key : PropertyKey) :=
    lookups_resolve echoingHooks mixedMachine ⟨3⟩ key (.boolean false) mixedChain hwalk
  have hgetter : Reads mixedMachine.realm ⟨1⟩ (.index 1) (.getter (.boolean true)) :=
    .getter rfl rfl (by decide)
  have hbehind := (hresolves (.index 1)).behind [⟨3⟩, ⟨2⟩] ⟨1⟩ [⟨0⟩] rfl rfl
    ⟨mixedMachine.realm.update ⟨0⟩ fun _ => default, ()⟩ (by
      intro h hmem
      refine Realm.record_update_of_ne ?_ _
      rintro rfl
      revert hmem
      decide)
  refine ⟨hwalk, ⟨hresolves _, hresolves _, hresolves _, hresolves _⟩, ?_, ?_, ?_, ?_, ?_⟩
  · exact ((hresolves (.index 1)).read ⟨1⟩ rfl).2 _ hgetter
  · exact hbehind.2.2 _ hgetter
  · exact ((hresolves (.index 2)).read ⟨2⟩ rfl).2 _ (.host rfl rfl)
  · exact ((hresolves (.index 3)).read ⟨2⟩ rfl).2 _ (.hostless rfl rfl)
  · exact (hresolves (.index 4)).unchanged rfl

end ScriptRealm
