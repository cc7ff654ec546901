import ScriptRealm.Object.Lookup
import ScriptRealm.Proofs.Table

/-!
# `ScriptRealm.Proofs.Handles.Walk`: following prototypes to the end

`Realm.Walk r h l` says that following prototypes from `h` leads through
the objects of `l` and comes to an end: the last of them has no prototype.
A realm is `Grounded` if there is such a walk from every handle.

Lookups do not follow prototypes to the end, they follow them for as many
steps as the arena has objects. `Grounded.walk_chain` says that this is
the same: a walk passes no object twice, so it has no more members than
the arena (`Walk.length_le`).

There are three loops that look something up: for the owner of a key, for
whether there is one, and for what it has to read. They are separate
recursions with separate tests. Each goes along the same objects, by induction
on its steps, and comes to a search in the list of them
(`ownerUpTo?_eq_find?`, `hasUpTo_eq_any`, `readingUpTo?_eq_findSome?`).

There are two ways to get a new link. A new object gets one to an object
that was there before (`Grounded.allocate`), and an object gets another
one in place of its own, to an object whose walk does not pass it
(`Grounded.relink`). Both leave a grounded realm grounded. The second is
what `Realm.setPrototype` checks for. `setPrototype_eq_false_iff` says when
a link is refused, and `setPrototype_cases` what becomes of the realm.
-/

set_option autoImplicit false

namespace ScriptRealm.Realm

variable {P : Platform} {r s : Realm P} {h h' p : Handle} {l l' : List Handle}

/-- Following prototypes from `h` leads through `l`, and ends there. -/
inductive Walk (r : Realm P) : Handle → List Handle → Prop where
  | last {h : Handle} (hnone : (r.record h).prototype = none) : Walk r h [h]
  | step {h p : Handle} {l : List Handle} (hsome : (r.record h).prototype = some p)
      (hwalk : Walk r p l) : Walk r h (h :: l)

/-- Following prototypes ends, wherever it begins. -/
def Grounded (r : Realm P) : Prop := ∀ h, ∃ l, r.Walk h l

/-- Every prototype is an object of the arena. -/
def Linked (r : Realm P) : Prop := ∀ h p, (r.record h).prototype = some p → p.index < r.size

/-- The arena has room for each of its objects once. -/
theorem length_le_of_nodup (hnodup : l.Nodup) (hlt : ∀ h ∈ l, h.index < r.size) :
    l.length ≤ r.size := by
  have hsubset : l ⊆ (List.range r.size).map Handle.mk := by
    intro h hmem
    exact List.mem_map.mpr ⟨h.index, List.mem_range.mpr (hlt h hmem), rfl⟩
  have hle := hnodup.length_le_of_subset hsubset
  rwa [List.length_map, List.length_range] at hle

namespace Walk

/-- There is one way to follow prototypes. An object has one prototype or
none, so two walks from it go on alike. -/
theorem unique (hwalk : r.Walk h l) (hwalk' : r.Walk h l') : l = l' := by
  induction hwalk generalizing l' with
  | last hnone =>
      cases hwalk' with
      | last _ => rfl
      | step hsome' _ => simp [hnone] at hsome'
  | step hsome _ ih =>
      cases hwalk' with
      | last hnone' => simp [hsome] at hnone'
      | step hsome' hwalk' =>
          rw [hsome] at hsome'
          cases hsome'
          rw [ih hwalk']

/-- From an object that is passed the rest of the walk goes on. By induction
on the walk up to the object. -/
theorem rest (hwalk : r.Walk h l) (hmem : h' ∈ l) : ∃ front back, l = front ++ back ∧
    r.Walk h' back := by
  induction hwalk with
  | last hnone =>
      cases List.mem_singleton.mp hmem
      exact ⟨[], _, rfl, .last hnone⟩
  | @step h p l hsome hwalk ih =>
      rcases List.mem_cons.mp hmem with rfl | hmem
      · exact ⟨[], _, rfl, .step hsome hwalk⟩
      · obtain ⟨front, back, rfl, hback⟩ := ih hmem
        exact ⟨h :: front, back, rfl, hback⟩

/-- No object is passed twice. Otherwise a walk would be a proper part of
itself, and walks have an end. -/
theorem nodup (hwalk : r.Walk h l) : l.Nodup := by
  induction hwalk with
  | last hnone => simp
  | @step h p l hsome hwalk ih =>
      refine List.nodup_cons.mpr ⟨fun hmem => ?_, ih⟩
      -- The walk from `h` would be a part of what follows on `h`.
      obtain ⟨front, back, rfl, hback⟩ := hwalk.rest hmem
      have hsame : h :: (front ++ back) = back := unique (.step hsome hwalk) hback
      have hlength := congrArg List.length hsame
      simp only [List.length_cons, List.length_append] at hlength
      omega

/-- What comes after the beginning is in the arena, since the links of a
linked realm stay within it. -/
theorem eq_or_lt (hlinked : r.Linked) (hwalk : r.Walk h l) (hmem : h' ∈ l) :
    h' = h ∨ h'.index < r.size := by
  induction hwalk with
  | last hnone => exact .inl (List.mem_singleton.mp hmem)
  | step hsome _ ih =>
      rcases List.mem_cons.mp hmem with heq | hmem
      · exact .inl heq
      · rcases ih hmem with rfl | hlt
        · exact .inr (hlinked _ _ hsome)
        · exact .inr hlt

/-- A walk has no more members than the arena. It repeats none, and all of
them are in the arena if the first one is. -/
theorem length_le (hlinked : r.Linked) (hpos : 0 < r.size) (hwalk : r.Walk h l) :
    l.length ≤ r.size := by
  by_cases hlt : h.index < r.size
  · apply length_le_of_nodup hwalk.nodup
    intro h' hmem
    rcases hwalk.eq_or_lt hlinked hmem with rfl | hlt'
    · exact hlt
    · exact hlt'
  · -- Outside the arena there is a bare object, which has no prototype.
    have hbare : (r.record h).prototype = none := by
      rw [record_eq_default (Nat.le_of_not_lt hlt)]
      rfl
    rw [hwalk.unique (.last hbare)]
    exact hpos

/-- Enough steps lead to the end. A chain that may take as many steps as the
walk has objects is the walk. -/
theorem chainUpTo_eq (hwalk : r.Walk h l) {n : Nat} (hle : l.length ≤ n) :
    r.chainUpTo n h = l := by
  induction hwalk generalizing n with
  | last hnone =>
      obtain ⟨n, rfl⟩ := Nat.exists_eq_add_of_lt hle
      rw [chainUpTo, hnone]
  | step hsome _ ih =>
      obtain ⟨n, rfl⟩ := Nat.exists_eq_add_of_lt hle
      rw [chainUpTo, hsome]
      simp only
      rw [ih (by omega)]

/-- A walk depends on the prototypes of its members alone. -/
theorem congr (hwalk : r.Walk h l)
    (hsame : ∀ h' ∈ l, (s.record h').prototype = (r.record h').prototype) : s.Walk h l := by
  induction hwalk with
  | last hnone => exact .last ((hsame _ (List.mem_singleton_self _)).trans hnone)
  | step hsome _ ih =>
      exact .step ((hsame _ List.mem_cons_self).trans hsome)
        (ih fun h' hmem => hsame h' (List.mem_cons_of_mem _ hmem))

end Walk

namespace Grounded

/-- What lookups walk along is the whole walk. -/
theorem walk_chain (hr : r.Grounded) (hlinked : r.Linked) (hpos : 0 < r.size) (h : Handle) :
    r.Walk h (r.chain h) := by
  obtain ⟨l, hwalk⟩ := hr h
  rw [chain, hwalk.chainUpTo_eq (hwalk.length_le hlinked hpos)]
  exact hwalk

/-- Only prototypes count. -/
theorem congr (hr : r.Grounded)
    (hsame : ∀ h, (s.record h).prototype = (r.record h).prototype) : s.Grounded := by
  intro h
  obtain ⟨l, hwalk⟩ := hr h
  exact ⟨l, hwalk.congr fun h' _ => hsame h'⟩

/-- A new object that inherits from an old one is on no old walk. So the old
walks are as they were, and the new object's is that of its prototype with one
more member. -/
theorem allocate (hr : r.Grounded) (hlinked : r.Linked) {record : ObjectRecord P}
    (hrecord : ∀ p, record.prototype = some p → p.index < r.size) :
    (r.allocate record).2.Grounded := by
  -- A walk that begins elsewhere stays clear of the new object.
  have hold : ∀ h, h.index ≠ r.size → ∃ l, (r.allocate record).2.Walk h l := by
    intro h hne
    obtain ⟨l, hwalk⟩ := hr h
    refine ⟨l, hwalk.congr fun h' hmem => ?_⟩
    have hne' : h'.index ≠ r.size := by
      rcases hwalk.eq_or_lt hlinked hmem with rfl | hlt
      · exact hne
      · exact Nat.ne_of_lt hlt
    rw [record_allocate, if_neg hne']
  intro h
  by_cases hnew : h.index = r.size
  · have hself : (r.allocate record).2.record h = record := by
      rw [record_allocate, if_pos hnew]
    cases hprototype : record.prototype with
    | none => exact ⟨[h], .last (by rw [hself, hprototype])⟩
    | some p =>
        obtain ⟨l, hwalk⟩ := hold p (Nat.ne_of_lt (hrecord p hprototype))
        exact ⟨h :: l, .step (by rw [hself, hprototype]) hwalk⟩
  · exact hold h hnew

/-- An object may be linked to any object whose walk does not pass it. This is
what the program checks before it sets a prototype, and what keeps the arena
free of circles. -/
theorem relink (hr : r.Grounded) {prototype : Option Handle}
    (hfree : ∀ p, prototype = some p → ∃ l, r.Walk p l ∧ h ∉ l) :
    (r.update h fun record => { record with prototype }).Grounded := by
  by_cases hlt : h.index < r.size
  · let s := r.update h fun record => { record with prototype }
    have hother : ∀ h', h' ≠ h → (s.record h').prototype = (r.record h').prototype :=
      fun h' hne => congrArg ObjectRecord.prototype (record_update_of_ne hne _)
    have hself : (s.record h).prototype = prototype :=
      congrArg ObjectRecord.prototype (record_update_self hlt _)
    -- The new link leads to a walk that is as it was.
    have hlinked : ∃ l, s.Walk h l := by
      cases hprototype : prototype with
      | none => exact ⟨[h], .last (hself.trans hprototype)⟩
      | some p =>
          obtain ⟨l, hwalk, hclear⟩ := hfree p hprototype
          refine ⟨h :: l, .step (hself.trans hprototype) (hwalk.congr fun h' hmem => ?_)⟩
          exact hother h' fun heq => hclear (heq ▸ hmem)
    -- Every other walk is as it was, or as it was up to the object and then takes the new link.
    intro h'
    obtain ⟨l, hwalk⟩ := hr h'
    induction hwalk with
    | @last h' hnone =>
        by_cases heq : h' = h
        · rw [heq]
          exact hlinked
        · exact ⟨[h'], .last ((hother h' heq).trans hnone)⟩
    | @step h' p l hsome _ ih =>
        by_cases heq : h' = h
        · rw [heq]
          exact hlinked
        · obtain ⟨l', hwalk'⟩ := ih
          exact ⟨h' :: l', .step ((hother h' heq).trans hsome) hwalk'⟩
  · exact hr.congr fun h' => by rw [record_update, if_neg fun hand => hlt hand.2]

end Grounded

/-! ### Lookups -/

/-- The search for an owner goes along the chain, and stops at the first object
that has the key. -/
theorem ownerUpTo?_eq_find? (r : Realm P) (key : PropertyKey) (n : Nat) (h : Handle) :
    r.ownerUpTo? key n h = (r.chainUpTo n h).find? (r.hasOwn · key) := by
  induction n generalizing h with
  | zero => rfl
  | succ n ih =>
      rw [ownerUpTo?, chainUpTo, List.find?_cons]
      cases r.hasOwn h key with
      | true => rfl
      | false =>
          cases (r.record h).prototype with
          | none => rfl
          | some p => exact ih p

/-- The question for a key goes along the same chain. Its test of an object's
storage comes to whether the object has the key of its own. -/
theorem hasUpTo_eq_any (r : Realm P) (key : PropertyKey) (n : Nat) (h : Handle) :
    r.hasUpTo key n h = (r.chainUpTo n h).any (r.hasOwn · key) := by
  induction n generalizing h with
  | zero => rfl
  | succ n ih =>
      rw [hasUpTo, chainUpTo, List.any_cons, hasOwn]
      cases (r.record h).prototype with
      | none => rfl
      | some p => simp only [ih]

/-- A lookup goes along the same chain, and stops at the first object that has
something to read. -/
theorem readingUpTo?_eq_findSome? (r : Realm P) (key : PropertyKey) (n : Nat) (h : Handle) :
    r.readingUpTo? key n h = (r.chainUpTo n h).findSome? fun h => (r.record h).reading? key := by
  induction n generalizing h with
  | zero => rfl
  | succ n ih =>
      rw [readingUpTo?, chainUpTo, List.findSome?_cons]
      cases (r.record h).reading? key with
      | some reading => rfl
      | none =>
          cases (r.record h).prototype with
          | none => rfl
          | some p => exact ih p

/-- What a lookup finds is what an object has to read. -/
theorem exists_of_readingUpTo? {key : PropertyKey} {n : Nat} {reading : Reading}
    (hreading : r.readingUpTo? key n h = some reading) :
    ∃ w, (r.record w).reading? key = some reading := by
  rw [readingUpTo?_eq_findSome?] at hreading
  obtain ⟨w, -, hw⟩ := List.exists_of_findSome?_eq_some hreading
  exact ⟨w, hw⟩

/-! ### Changing prototypes -/

/-- A prototype is refused exactly if it is another one than the object has
and either the object is not extensible or it lies on the walk from that
prototype. -/
theorem setPrototype_eq_false_iff {prototype : Option Handle}
    (hwalk : ∀ p, prototype = some p → r.Walk p (r.chain p)) :
    (r.setPrototype h prototype).1 = false ↔
      (r.record h).prototype ≠ prototype ∧
        ((r.record h).extensible = false ∨ ∃ p l, prototype = some p ∧ r.Walk p l ∧ h ∈ l) := by
  have hmem : (prototype.any fun p => (r.chain p).contains h) = true ↔
      ∃ p l, prototype = some p ∧ r.Walk p l ∧ h ∈ l := by
    cases prototype with
    | none => simp
    | some p =>
        rw [Option.any_some, List.contains_iff_mem]
        constructor
        · intro hmem
          exact ⟨p, r.chain p, rfl, hwalk p rfl, hmem⟩
        · rintro ⟨p', l, heq, hwalk', hmem⟩
          cases heq
          rwa [(hwalk p rfl).unique hwalk']
  rw [← hmem]
  unfold setPrototype
  generalize (prototype.any fun p => (r.chain p).contains h) = cycle
  by_cases hsame : (r.record h).prototype = prototype
  · simp [hsame]
  · cases (r.record h).extensible <;> cases cycle <;> simp [hsame]

/-- A prototype is refused and nothing changes, or it is accepted and that
is the only change. Accepting the one that the object has already is a
change to the same. -/
theorem setPrototype_cases (r : Realm P) (h : Handle) (prototype : Option Handle) :
    r.setPrototype h prototype = (false, r) ∨
      r.setPrototype h prototype = (true, r.update h fun record => { record with prototype }) := by
  unfold setPrototype
  split
  · rename_i hsame
    rw [update_eq_self (by simp only [← hsame])]
    exact .inr rfl
  · split
    · exact .inl rfl
    · split
      · exact .inl rfl
      · exact .inr rfl

/-- A prototype that is refused changes nothing. -/
theorem setPrototype_of_false {prototype : Option Handle}
    (hrefused : (r.setPrototype h prototype).1 = false) : (r.setPrototype h prototype).2 = r := by
  rcases r.setPrototype_cases h prototype with heq | heq
  · rw [heq]
  · simp [heq] at hrefused

/-- One that is accepted is set, and that is all. -/
theorem setPrototype_of_true {prototype : Option Handle}
    (haccepted : (r.setPrototype h prototype).1 = true) :
    (r.setPrototype h prototype).2 = r.update h fun record => { record with prototype } := by
  rcases r.setPrototype_cases h prototype with heq | heq
  · simp [heq] at haccepted
  · rw [heq]

/-- Changing prototypes leaves a grounded realm grounded, whether or not
the change is made. -/
theorem Grounded.setPrototype (hr : r.Grounded) (hlinked : r.Linked) (hpos : 0 < r.size)
    (h : Handle) (prototype : Option Handle) : (r.setPrototype h prototype).2.Grounded := by
  have hwalk := hr.walk_chain hlinked hpos
  cases hend : (r.setPrototype h prototype).1 with
  | false =>
      rw [setPrototype_of_false hend]
      exact hr
  | true =>
      rw [setPrototype_of_true hend]
      by_cases hsame : (r.record h).prototype = prototype
      · rw [update_eq_self (by simp only [← hsame])]
        exact hr
      · -- Were the object on the walk, the change would have been refused.
        refine hr.relink fun p hp => ⟨r.chain p, hwalk p, fun hmem => ?_⟩
        have hrefused := (setPrototype_eq_false_iff fun p _ => hwalk p).mpr
          ⟨hsame, .inr ⟨p, _, hp, hwalk p, hmem⟩⟩
        rw [hend] at hrefused
        cases hrefused

end ScriptRealm.Realm
