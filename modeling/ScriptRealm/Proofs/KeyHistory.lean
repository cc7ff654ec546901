import Mathlib.Data.List.Induction
import ScriptRealm.Proofs.Table

/-!
# `ScriptRealm.Proofs.KeyHistory`: the order of keys, from what was done to them

An object's table is the result of a history of edits: slots were put in,
anew or over others, and taken out. What the table holds and in which order
its keys come is said here by the history alone, in terms of the places that
the edits have in it.

- `History.Holds`: a key has the slot that the last edit about it put in.
- `History.Since`: a key is there since the edit that put it in when it was
  absent, if it was not taken out later. Overwriting it changes nothing about
  that, and neither does what is done to other keys.

`History.slot?_replay_iff` and `History.pairwise_keys_replay` say that the
table keeps just this, edit by edit. `History.Lists` is what a list of keys
should be like, in the words of the history, and `lists_iff_orderedKeys` says
that `ObjectRecord.orderedKeys` is the only such list.
-/

set_option autoImplicit false

namespace ScriptRealm

/-! ### Histories -/

/-- A change of an object's table. -/
inductive Edit where
  | insert (key : PropertyKey) (slot : Slot)
  | remove (key : PropertyKey)

namespace Edit

/-- The key that an edit is about. -/
def key : Edit → PropertyKey
  | .insert key _ => key
  | .remove key => key

/-- Makes an edit. -/
def apply {P : Platform} (record : ObjectRecord P) : Edit → ObjectRecord P
  | .insert key slot => record.insert key slot
  | .remove key => record.erase key

/-- An edit about a key puts it in, if it does not take it out. -/
theorem exists_eq_insert {edit : Edit} (hne : edit ≠ .remove edit.key) :
    ∃ slot, edit = .insert edit.key slot := by
  cases edit with
  | insert key slot => exact ⟨slot, rfl⟩
  | remove key => exact absurd rfl hne

end Edit

namespace History

variable {P : Platform} {history : List Edit} {edit : Edit} {key : PropertyKey} {n : Nat}

/-- Makes all edits of a history, in which the first one comes first. -/
def replay (history : List Edit) (record : ObjectRecord P) : ObjectRecord P :=
  history.foldl Edit.apply record

/-- A key has a slot in the end: the last edit about the key put it in. -/
def Holds (history : List Edit) (key : PropertyKey) (slot : Slot) : Prop :=
  ∃ n : Nat, history[n]? = some (.insert key slot) ∧
    ∀ (j : Nat) (edit : Edit), n < j → history[j]? = some edit → edit.key ≠ key

/-- A key is there in the end. -/
def Has (history : List Edit) (key : PropertyKey) : Prop := ∃ slot, Holds history key slot

/-- A key that is there in the end came by the edit at a place: it was put in
then, it was absent until then, and it was not taken out later. -/
structure Since (history : List Edit) (key : PropertyKey) (n : Nat) : Prop where
  inserted : ∃ slot, history[n]? = some (.insert key slot)
  absent : ¬ Has (history.take n) key
  stayed : ∀ j : Nat, n < j → history[j]? ≠ some (.remove key)

/-- A place at which there is an edit lies in the history. -/
theorem lt_length_of_getElem? (hread : history[n]? = some edit) : n < history.length := by
  obtain ⟨hlt, -⟩ := List.getElem?_eq_some_iff.mp hread
  exact hlt

/-- A further edit leaves the earlier ones at their places. -/
theorem getElem?_concat_of_some {old : Edit} (hread : history[n]? = some old) :
    (history ++ [edit])[n]? = some old := by
  rw [List.getElem?_append_left (lt_length_of_getElem? hread), hread]

/-- Nothing comes after the last edit. -/
theorem getElem?_concat_of_lt (hn : history.length < n) : (history ++ [edit])[n]? = none := by
  apply List.getElem?_eq_none
  rw [List.length_append, List.length_singleton]
  omega

/-- What is read in a history with one more edit. The new edit is at the end,
and all others are where they were. -/
theorem getElem?_concat (history : List Edit) (edit : Edit) (n : Nat) :
    (history ++ [edit])[n]? = if n = history.length then some edit else history[n]? := by
  split
  · rename_i hn
    rw [hn, List.getElem?_concat_length]
  · rename_i hn
    by_cases hlt : n < history.length
    · exact List.getElem?_append_left hlt
    · rw [getElem?_concat_of_lt (by omega), List.getElem?_eq_none (by omega)]

/-- One more edit decides about its own key and leaves the others. If it puts
the key in, it is the last edit about the key; if it takes the key out, no
earlier one counts. -/
theorem holds_concat_iff {slot : Slot} :
    Holds (history ++ [edit]) key slot ↔
      edit = .insert key slot ∨ edit.key ≠ key ∧ Holds history key slot := by
  constructor
  · rintro ⟨n, hread, hlast⟩
    rw [getElem?_concat] at hread
    split at hread
    · cases hread
      exact .inl rfl
    · have hlt := lt_length_of_getElem? hread
      refine .inr ⟨hlast _ edit hlt List.getElem?_concat_length, n, hread, ?_⟩
      intro j edit' hj hread'
      exact hlast j edit' hj (getElem?_concat_of_some hread')
  · rintro (rfl | ⟨hother, n, hread, hlast⟩)
    · refine ⟨history.length, List.getElem?_concat_length, ?_⟩
      intro j edit' hj hread'
      rw [getElem?_concat_of_lt hj] at hread'
      cases hread'
    · refine ⟨n, getElem?_concat_of_some hread, ?_⟩
      intro j edit' hj hread'
      rw [getElem?_concat] at hread'
      split at hread'
      · cases hread'
        exact hother
      · exact hlast j edit' hj hread'

/-- A key is there since the same place after one more edit, unless that one
takes it out. It may also be there since that one. -/
theorem since_concat_iff :
    Since (history ++ [edit]) key n ↔
      (Since history key n ∧ edit ≠ .remove key) ∨
        (n = history.length ∧ ¬ Has history key ∧ ∃ slot, edit = .insert key slot) := by
  constructor
  · rintro ⟨⟨slot, hread⟩, habsent, hstayed⟩
    -- The key came by the new edit, or the history before its place is an old one.
    rw [getElem?_concat] at hread
    split at hread
    · rename_i hn
      cases hread
      refine .inr ⟨hn, ?_, slot, rfl⟩
      rwa [hn, List.take_left] at habsent
    · have hlt := lt_length_of_getElem? hread
      rw [List.take_append_of_le_length (Nat.le_of_lt hlt)] at habsent
      refine .inl ⟨⟨⟨slot, hread⟩, habsent, ?_⟩, ?_⟩
      · intro j hj hread'
        exact hstayed j hj (getElem?_concat_of_some hread')
      · rintro rfl
        exact hstayed _ hlt List.getElem?_concat_length
  · rintro (⟨⟨⟨slot, hread⟩, habsent, hstayed⟩, hkept⟩ | ⟨rfl, habsent, slot, rfl⟩)
    · have hlt := lt_length_of_getElem? hread
      refine ⟨⟨slot, getElem?_concat_of_some hread⟩, ?_, ?_⟩
      · rwa [List.take_append_of_le_length (Nat.le_of_lt hlt)]
      · intro j hj hread'
        rw [getElem?_concat] at hread'
        split at hread'
        · cases hread'
          exact hkept rfl
        · exact hstayed j hj hread'
    · refine ⟨⟨slot, List.getElem?_concat_length⟩, ?_, ?_⟩
      · rwa [List.take_left]
      · intro j hj hread'
        rw [getElem?_concat_of_lt hj] at hread'
        cases hread'

/-- A key came by an edit of the history. -/
theorem Since.lt_length (h : Since history key n) : n < history.length := by
  obtain ⟨slot, hread⟩ := h.inserted
  exact lt_length_of_getElem? hread

/-- What is there came at some time. By induction on the history from its end:
a key that the last edit has put in came then, unless it was there before. -/
theorem Has.exists_since (h : Has history key) : ∃ n, Since history key n := by
  induction history using List.reverseRecOn with
  | nil =>
      obtain ⟨slot, n, hread, -⟩ := h
      cases hread
  | append_singleton history edit ih =>
      obtain ⟨slot, hholds⟩ := h
      rcases holds_concat_iff.mp hholds with rfl | ⟨hother, hholds⟩
      · by_cases hbefore : Has history key
        · obtain ⟨n, hsince⟩ := ih hbefore
          exact ⟨n, since_concat_iff.mpr (.inl ⟨hsince, by simp⟩)⟩
        · exact ⟨_, since_concat_iff.mpr (.inr ⟨rfl, hbefore, slot, rfl⟩)⟩
      · obtain ⟨n, hsince⟩ := ih ⟨slot, hholds⟩
        refine ⟨n, since_concat_iff.mpr (.inl ⟨hsince, ?_⟩)⟩
        rintro rfl
        exact hother rfl

/-- What came and stayed is there. By the same induction, as an edit about the
key that does not take it out puts it in. -/
theorem Since.has (h : Since history key n) : Has history key := by
  induction history using List.reverseRecOn with
  | nil =>
      obtain ⟨slot, hread⟩ := h.inserted
      cases hread
  | append_singleton history edit ih =>
      rcases since_concat_iff.mp h with ⟨hsince, hkept⟩ | ⟨-, -, slot, rfl⟩
      · by_cases hkey : edit.key = key
        · subst hkey
          obtain ⟨slot, hedit⟩ := Edit.exists_eq_insert hkept
          exact ⟨slot, holds_concat_iff.mpr (.inl hedit)⟩
        · obtain ⟨slot, hholds⟩ := ih hsince
          exact ⟨slot, holds_concat_iff.mpr (.inr ⟨hkey, hholds⟩)⟩
      · exact ⟨slot, holds_concat_iff.mpr (.inl rfl)⟩

/-- What is there came once. Had it come at two places, it would have been
absent at the later one, after it had come and stayed. -/
theorem Since.unique {n' : Nat} (h : Since history key n) (h' : Since history key n') :
    n = n' := by
  induction history using List.reverseRecOn with
  | nil =>
      obtain ⟨slot, hread⟩ := h.inserted
      cases hread
  | append_singleton history edit ih =>
      rcases since_concat_iff.mp h with ⟨hsince, -⟩ | ⟨rfl, habsent, -⟩
      · rcases since_concat_iff.mp h' with ⟨hsince', -⟩ | ⟨-, habsent, -⟩
        · exact ih hsince hsince'
        · exact absurd hsince.has habsent
      · rcases since_concat_iff.mp h' with ⟨hsince', -⟩ | ⟨rfl, -, -⟩
        · exact absurd hsince'.has habsent
        · rfl

/-! ### What a table keeps of its history -/

/-- One key came before another. -/
def Older (history : List Edit) (a b : PropertyKey) : Prop :=
  ∃ i j, Since history a i ∧ Since history b j ∧ i < j

/-- Whatever is done, what stays has its order. -/
theorem Older.concat {a b : PropertyKey} (h : Older history a b) (ha : edit ≠ .remove a)
    (hb : edit ≠ .remove b) : Older (history ++ [edit]) a b := by
  obtain ⟨i, j, hi, hj, hlt⟩ := h
  exact ⟨i, j, since_concat_iff.mpr (.inl ⟨hi, ha⟩), since_concat_iff.mpr (.inl ⟨hj, hb⟩), hlt⟩

/-- A key that is new comes after all others. Each of these came by an edit of
the history, and the new one comes by the edit after it. -/
theorem older_concat_of_new {a : PropertyKey} {slot : Slot} (ha : Has history a)
    (hnew : ¬ Has history key) : Older (history ++ [.insert key slot]) a key := by
  obtain ⟨i, hi⟩ := ha.exists_since
  exact ⟨i, history.length, since_concat_iff.mpr (.inl ⟨hi, by simp⟩),
    since_concat_iff.mpr (.inr ⟨rfl, hnew, slot, rfl⟩), hi.lt_length⟩

/-- The last edit is made last. -/
theorem replay_concat (history : List Edit) (edit : Edit) (record : ObjectRecord P) :
    replay (history ++ [edit]) record = edit.apply (replay history record) := by
  rw [replay, List.foldl_append]
  rfl

section Fresh

variable (kind : Kind P) (prototype : Option Handle)

/-- The table of an object that was new has the slots that the history holds.
By induction on the history from its end, with what one more edit does on
either side. -/
theorem slot?_replay_iff (history : List Edit) (key : PropertyKey) (slot : Slot) :
    (replay history (.create kind prototype)).slot? key = some slot ↔ Holds history key slot := by
  induction history using List.reverseRecOn with
  | nil =>
      constructor
      · intro hslot
        cases hslot
      · rintro ⟨n, hread, -⟩
        cases hread
  | append_singleton history edit ih =>
      rw [replay_concat, holds_concat_iff]
      cases edit with
      | insert key' slot' =>
          rw [Edit.apply, ObjectRecord.slot?, ObjectRecord.insert, OrderedMap.get?_insert]
          by_cases hkey : key = key'
          · simp [hkey, Edit.key, eq_comm]
          · have hne : key' ≠ key := fun heq => hkey heq.symm
            simpa [ObjectRecord.slot?, hkey, hne, Edit.key] using ih
      | remove key' =>
          rw [Edit.apply, ObjectRecord.slot?, ObjectRecord.erase, OrderedMap.get?_erase]
          by_cases hkey : key = key'
          · simp [hkey, Edit.key]
          · have hne : key' ≠ key := fun heq => hkey heq.symm
            simpa [ObjectRecord.slot?, hkey, hne, Edit.key] using ih

/-- The keys of a table made by replaying a history are those that the history
leaves it with. -/
theorem mem_keys_replay_iff (history : List Edit) (key : PropertyKey) :
    key ∈ (replay history (.create kind prototype)).slots.keys ↔ Has history key := by
  rw [← OrderedMap.contains_iff, OrderedMap.contains_eq_isSome, Option.isSome_iff_exists]
  exact exists_congr fun slot => slot?_replay_iff kind prototype history key slot

/-- Its keys are in the order in which they came. By induction on the history
from its end: a table keeps the order of its keys, and puts a new one behind
them. -/
theorem pairwise_keys_replay (history : List Edit) :
    (replay history (.create kind prototype)).slots.keys.Pairwise (Older history) := by
  induction history using List.reverseRecOn with
  | nil => exact .nil
  | append_singleton history edit ih =>
      rw [replay_concat]
      cases edit with
      | insert key slot =>
          have hold : (replay history (.create kind prototype)).slots.keys.Pairwise
              (Older (history ++ [.insert key slot])) :=
            ih.imp fun h => h.concat (by simp) (by simp)
          -- A key that was there keeps its place, and another one goes to the end.
          rw [Edit.apply, ObjectRecord.insert, OrderedMap.keys_insert]
          split
          · exact hold
          · rename_i hnew
            rw [mem_keys_replay_iff] at hnew
            rw [List.pairwise_append]
            refine ⟨hold, List.pairwise_singleton _ _, ?_⟩
            intro a ha b hb
            rw [List.mem_singleton.mp hb]
            exact older_concat_of_new ((mem_keys_replay_iff kind prototype history a).mp ha) hnew
      | remove key =>
          rw [Edit.apply, ObjectRecord.erase, OrderedMap.keys_erase]
          refine (ih.filter _).imp_of_mem fun ha hb h => ?_
          -- Neither of two keys that remain is the one that was taken out.
          simp only [List.mem_filter, decide_eq_true_eq] at ha hb
          apply h.concat
          · rintro ⟨⟩
            exact ha.2 rfl
          · rintro ⟨⟩
            exact hb.2 rfl

end Fresh

/-! ### The list of keys -/

/-- The part of the list that a key belongs to: texts before symbols, and
indices before texts or among them. -/
def part (indicesFirst : Bool) : PropertyKey → Nat
  | .index _ => if indicesFirst then 0 else 1
  | .string _ => 1
  | .symbol _ => 2

/-- One key is to be listed before another. -/
inductive Precedes (indicesFirst : Bool) (history : List Edit) :
    PropertyKey → PropertyKey → Prop where
  /-- It belongs to an earlier part. -/
  | part {a b : PropertyKey} (hlt : part indicesFirst a < part indicesFirst b) :
      Precedes indicesFirst history a b
  /-- Indices that come first are in ascending order. -/
  | ascending {i j : Nat} (hfirst : indicesFirst = true) (hlt : i < j) :
      Precedes indicesFirst history (.index i) (.index j)
  /-- Everything else is in the order in which it came. -/
  | older {a b : PropertyKey} (hsame : part indicesFirst a = part indicesFirst b)
      (hother : part indicesFirst a ≠ 0) (holder : Older history a b) :
      Precedes indicesFirst history a b

/-- What a list of the keys of an object should be like, given what was done
to its table. -/
structure Lists (history : List Edit) (hidden symbols indicesFirst : Bool)
    (keys : List PropertyKey) : Prop where
  nodup : keys.Nodup
  /-- The keys are those that are there in the end, without those that
  enumeration skips unless `hidden`, and without symbols unless `symbols`. -/
  mem_iff : ∀ key, key ∈ keys ↔
    (∃ slot, Holds history key slot ∧ (hidden = true ∨ slot.enumerable = true)) ∧
      (symbols = true ∨ key.isSymbol = false)
  sorted : keys.Pairwise (Precedes indicesFirst history)

variable {indicesFirst : Bool}

/-- No two keys are to be listed before each other. The parts of the list
exclude each other, and within a part it is one order that decides. -/
theorem Precedes.asymm {a b : PropertyKey} (hab : Precedes indicesFirst history a b) :
    ¬ Precedes indicesFirst history b a := by
  intro hba
  cases hab with
  | part hlt =>
      cases hba with
      | part hlt' => omega
      | ascending _ _ => exact absurd hlt (Nat.lt_irrefl _)
      | older hsame _ _ => omega
  | ascending hfirst hlt =>
      cases hba with
      | part hlt' => exact absurd hlt' (Nat.lt_irrefl _)
      | ascending _ hlt' => omega
      | older _ hother _ => simp [History.part, hfirst] at hother
  | older hsame hother holder =>
      cases hba with
      | part hlt' => omega
      | ascending hfirst _ => simp [History.part, hfirst] at hother
      | older _ _ holder' =>
          -- Each key came once, so the same two places are compared both ways.
          obtain ⟨i, j, hi, hj, hlt⟩ := holder
          obtain ⟨j', i', hj', hi', hlt'⟩ := holder'
          rw [hi.unique hi', hj.unique hj'] at hlt
          omega

/-- Two lists that are as they should be are the same. They have the same
keys, each of them once, and an order that is asymmetric leaves one way to
list them. -/
theorem Lists.unique {hidden symbols : Bool} {keys keys' : List PropertyKey}
    (h : Lists history hidden symbols indicesFirst keys)
    (h' : Lists history hidden symbols indicesFirst keys') : keys = keys' := by
  have hperm : keys.Perm keys' := by
    rw [List.perm_ext_iff_of_nodup h.nodup h'.nodup]
    intro key
    rw [h.mem_iff, h'.mem_iff]
  exact hperm.eq_of_pairwise (fun a b _ _ hab hba => absurd hba hab.asymm) h.sorted h'.sorted

/-- A part of texts or symbols is as it should be in the order in which its
keys came. -/
theorem sorted_of_part {keys : List PropertyKey} (hkeys : keys.Pairwise (Older history))
    {k : Nat} (hk : k ≠ 0) (hpart : ∀ a ∈ keys, part indicesFirst a = k) :
    keys.Pairwise (Precedes indicesFirst history) := by
  refine hkeys.imp_of_mem fun {a b} ha hb holder => ?_
  have hsame : part indicesFirst a = part indicesFirst b := by rw [hpart a ha, hpart b hb]
  exact .older hsame (by rw [hpart a ha]; exact hk) holder

/-- Parts are listed one after the other. -/
theorem sorted_append {keys keys' : List PropertyKey}
    (h : keys.Pairwise (Precedes indicesFirst history))
    (h' : keys'.Pairwise (Precedes indicesFirst history))
    (hparts : ∀ a ∈ keys, ∀ b ∈ keys', part indicesFirst a < part indicesFirst b) :
    (keys ++ keys').Pairwise (Precedes indicesFirst history) :=
  List.pairwise_append.mpr ⟨h, h', fun a ha b hb => .part (hparts a ha b hb)⟩

/-- Indices that are sorted are as they should be, if none is there twice.
Sorting gives an order that is not strict, and makes it strict where all
differ. -/
theorem sorted_indices {indices : List Nat} (hnodup : indices.Nodup) :
    ((indices.mergeSort fun i j => i ≤ j).map PropertyKey.index).Pairwise
      (Precedes true history) := by
  have hle : (indices.mergeSort fun i j => i ≤ j).Pairwise fun i j => decide (i ≤ j) = true := by
    -- Sorting asks for an order that is transitive and total.
    apply List.pairwise_mergeSort
    · intro i j k hij hjk
      simp only [decide_eq_true_eq] at hij hjk ⊢
      omega
    · intro i j
      simp only [Bool.or_eq_true, decide_eq_true_eq]
      omega
  have hne : (indices.mergeSort fun i j => i ≤ j).Nodup :=
    (List.mergeSort_perm indices _).nodup_iff.mpr hnodup
  rw [List.pairwise_map]
  refine (hle.and hne).imp fun {i j} h => .ascending rfl ?_
  exact Nat.lt_of_le_of_ne (by simpa using h.1) h.2

open ObjectRecord (arrayIndex?) in
/-- Keys without symbols are as they should be if the indices among them are
sorted and put in front. -/
theorem sorted_named {keys : List PropertyKey} (hkeys : keys.Pairwise (Older history))
    (hnodup : keys.Nodup) (hnamed : ∀ a ∈ keys, a.isSymbol = false) :
    (((keys.filterMap arrayIndex?).mergeSort fun i j => i ≤ j).map PropertyKey.index ++
      keys.filter fun key => (arrayIndex? key).isNone).Pairwise (Precedes true history) := by
  -- Different keys have different indices.
  have hindices : (keys.filterMap arrayIndex?).Nodup := by
    refine List.pairwise_filterMap.mpr (hnodup.imp fun {a b} hne i hi j hj hij => hne ?_)
    cases a <;> cases hi
    cases b <;> cases hj
    rw [hij]
  have htexts : ∀ a ∈ keys.filter fun key => (arrayIndex? key).isNone, part true a = 1 := by
    intro a ha
    obtain ⟨hmem, hindex⟩ := List.mem_filter.mp ha
    have hplain := hnamed a hmem
    cases a with
    | index i => cases hindex
    | string text => rfl
    | symbol s => cases hplain
  apply sorted_append (sorted_indices hindices)
  · exact sorted_of_part (hkeys.filter _) Nat.one_ne_zero htexts
  · intro a ha b hb
    obtain ⟨i, -, rfl⟩ := List.mem_map.mp ha
    rw [htexts b hb]
    exact Nat.one_pos

/-- Keys that are in the order in which they came are listed as they should
be. -/
theorem sorted_orderedKeys {record : ObjectRecord P}
    (hkeys : record.slots.keys.Pairwise (Older history)) (hidden symbols indicesFirst : Bool) :
    (record.orderedKeys hidden symbols indicesFirst).Pairwise
      (Precedes indicesFirst history) := by
  have hsublist : ((record.slots.entries.filter fun entry =>
      hidden || entry.2.enumerable).map Prod.fst).Sublist record.slots.keys :=
    List.filter_sublist.map _
  have hvisible := hkeys.sublist hsublist
  have hnodup : ((record.slots.entries.filter fun entry =>
      hidden || entry.2.enumerable).map Prod.fst).Nodup := record.slots.nodup.sublist hsublist
  unfold ObjectRecord.orderedKeys
  generalize (record.slots.entries.filter fun entry =>
    hidden || entry.2.enumerable).map Prod.fst = visible at hvisible hnodup
  -- Symbols are the third part, and everything else comes before them.
  have hnamed : ∀ a ∈ visible.filter (!·.isSymbol), a.isSymbol = false := by
    intro a ha
    simpa using (List.mem_filter.mp ha).2
  have hsymbols : ∀ a ∈ if symbols then visible.filter (·.isSymbol) else [],
      part indicesFirst a = 2 := by
    intro a ha
    split at ha
    · have hsymbol := (List.mem_filter.mp ha).2
      cases a with
      | symbol s => rfl
      | _ => cases hsymbol
    · cases ha
  refine sorted_append ?named (sorted_of_part ?symbols (by decide) hsymbols) ?parts
  case symbols =>
    split
    · exact hvisible.filter _
    · exact .nil
  case named =>
    cases indicesFirst with
    | true => exact sorted_named (hvisible.filter _) (List.Pairwise.filter _ hnodup) hnamed
    | false =>
        refine sorted_of_part (hvisible.filter _) Nat.one_ne_zero fun a ha => ?_
        have hplain := hnamed a ha
        cases a with
        | symbol s => cases hplain
        | _ => rfl
  case parts =>
    intro a ha b hb
    have hmem : a ∈ visible.filter (!·.isSymbol) := by
      split at ha
      · exact (ObjectRecord.sortedIndices_perm _).mem_iff.mp ha
      · exact ha
    have hplain := hnamed a hmem
    rw [hsymbols b hb]
    cases a with
    | index i => cases indicesFirst <;> simp [part]
    | string text => exact Nat.one_lt_two
    | symbol s => cases hplain

end History

open History

/-- Whatever was done to the table of an object that was new, its keys are
listed as `Lists` says, and no other list is like that:

- each key that is to be seen is listed once, and no other;
- indices come in ascending order before all other keys, if that is asked for;
- texts come before symbols, and both, like indices that are not in front,
  are in the order in which they came since they were last absent. -/
theorem lists_iff_orderedKeys {P : Platform} (kind : Kind P) (prototype : Option Handle)
    (history : List Edit) (hidden symbols indicesFirst : Bool) (keys : List PropertyKey) :
    Lists history hidden symbols indicesFirst keys ↔
      keys = (replay history (.create kind prototype)).orderedKeys hidden symbols indicesFirst := by
  have hlists : Lists history hidden symbols indicesFirst
      ((replay history (.create kind prototype)).orderedKeys hidden symbols indicesFirst) := by
    constructor
    case nodup => exact ObjectRecord.nodup_orderedKeys _ hidden symbols indicesFirst
    case mem_iff =>
      intro key
      simp only [ObjectRecord.mem_orderedKeys_iff, slot?_replay_iff]
    case sorted =>
      exact sorted_orderedKeys (pairwise_keys_replay kind prototype history) _ _ _
  constructor
  · intro h
    exact h.unique hlists
  · rintro rfl
    exact hlists

end ScriptRealm
