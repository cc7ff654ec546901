import ScriptRealm.Proofs.Embedding
import ScriptRealm.Proofs.Likeness.Embedding

/-!
# `ScriptRealm.Proofs.KeyNames`: properties and their names

A table compares keys as they are, while a script knows a property by its
name: the text of the key, or the symbol. Two keys can have one name. The
text `"1"` names what the index `1` names, and an index past the largest one
is named by its decimal text.

`PropertyKey.IsNormal` picks one key of each name, and
`PropertyKey.normalForm` finds it. As long as everything is written under
normal keys, no table has two keys of one name, and asking for a property in
its normal form comes to the same as asking for it as it is, unless the key
is the text of an index that is there. A single key that is not normal is
enough to spoil this, for it can be written beside its normal form.
`wellNamed_iff` states both.

The first part is about decimal texts: `PropertyKey.index?_eq_some_iff` says
that `PropertyKey.index?` reads those that `toString` writes, and no others.
-/

set_option autoImplicit false

namespace ScriptRealm

/-! ### Decimal texts -/

namespace Literal

/-- The digits of the decimal system, as they are read and written. Other
characters stand for ten and more or for nothing, so they are not read. -/
theorem digitOf?_ten_iff {ch : Char} {d : Nat} :
    digitOf? 10 ch = some d ↔ d < 10 ∧ ch = d.digitChar := by
  constructor
  · intro hdigit
    rw [digitOf?, Option.filter_eq_some_iff] at hdigit
    obtain ⟨hvalue, hlt⟩ := hdigit
    have hlt : d < 10 := by simpa using hlt
    refine ⟨hlt, Char.toNat_inj.mp ?_⟩
    rw [Nat.toNat_digitChar_of_lt_ten hlt]
    unfold digitValue? at hvalue
    split at hvalue
    · rename_i hrange
      have hlo : 48 ≤ ch.toNat := hrange.1
      have hvalue : ch.toNat - 48 = d := Option.some.inj hvalue
      omega
    · -- A letter stands for ten or more.
      split at hvalue
      · have hvalue : ch.toNat - 97 + 10 = d := Option.some.inj hvalue
        omega
      · split at hvalue
        · have hvalue : ch.toNat - 65 + 10 = d := Option.some.inj hvalue
          omega
        · cases hvalue
  · rintro ⟨hlt, rfl⟩
    revert hlt
    revert d
    decide

/-- Reading on digit by digit, after a number has been read. -/
def readOn (value : Nat) (digits : List Char) : Option Nat :=
  digits.foldlM (fun value ch => (digitOf? 10 ch).map (value * 10 + ·)) value

/-- The first digit is added to what has been read, ten times over. -/
theorem readOn_cons (value : Nat) (ch : Char) (digits : List Char) :
    readOn value (ch :: digits)
      = (digitOf? 10 ch).bind fun d => readOn (value * 10 + d) digits := by
  rw [readOn, List.foldlM_cons]
  cases digitOf? 10 ch <;> rfl

/-- A text that is not empty is read from zero on. -/
theorem numeral?_ten {digits : List Char} (hne : digits ≠ []) :
    numeral? 10 digits = readOn 0 digits := by
  have hempty : digits.isEmpty = false := by simpa using hne
  rw [numeral?, hempty]
  rfl

/-- What is read on is written on. By induction on the digits. The number read
so far is not zero, since a zero in front would be read and not written. -/
theorem toDigits_of_readOn {value n : Nat} (hpos : 0 < value) {digits : List Char}
    (hread : readOn value digits = some n) :
    Nat.toDigits 10 value ++ digits = Nat.toDigits 10 n := by
  induction digits generalizing value with
  | nil =>
      rw [List.append_nil, Option.some.inj hread]
  | cons ch rest ih =>
      rw [readOn_cons, Option.bind_eq_some_iff] at hread
      obtain ⟨d, hdigit, hread⟩ := hread
      obtain ⟨hlt, rfl⟩ := digitOf?_ten_iff.mp hdigit
      have hstep : Nat.toDigits 10 value ++ [d.digitChar] = Nat.toDigits 10 (value * 10 + d) := by
        rw [← Nat.toDigits_of_lt_base hlt, Nat.toDigits_append_toDigits (by decide) hpos hlt,
          Nat.mul_comm]
      rw [← ih (by omega) hread, ← hstep, List.append_assoc]
      rfl

/-- What is written is read. By strong induction: the digits of the tenth come
first, and the last digit is what is left. -/
theorem readOn_toDigits (n : Nat) : readOn 0 (Nat.toDigits 10 n) = some n := by
  induction n using Nat.strongRecOn with
  | ind n ih =>
      by_cases hlt : n < 10
      · rw [Nat.toDigits_of_lt_base hlt, readOn_cons, digitOf?_ten_iff.mpr ⟨hlt, rfl⟩,
          Option.bind_some, Nat.zero_mul, Nat.zero_add]
        rfl
      · have hdigit : digitOf? 10 (n % 10).digitChar = some (n % 10) :=
          digitOf?_ten_iff.mpr ⟨Nat.mod_lt n (by decide), rfl⟩
        have hfirst : readOn 0 (Nat.toDigits 10 (n / 10)) = some (n / 10) := ih (n / 10) (by omega)
        rw [readOn] at hfirst
        rw [Nat.toDigits_of_base_le (by decide) (by omega), readOn, List.foldlM_append, hfirst]
        simp [hdigit]
        omega

/-- Only the decimal text of zero begins with a zero. By induction on the
number, whose first digit is that of a tenth of it. -/
theorem eq_zero_of_toDigits {n : Nat} {rest : List Char}
    (hdigits : Nat.toDigits 10 n = '0' :: rest) : n = 0 := by
  induction n using Nat.strongRecOn generalizing rest with
  | ind n ih =>
      by_cases hlt : n < 10
      · rw [Nat.toDigits_of_lt_base hlt, List.cons.injEq] at hdigits
        exact Nat.digitChar_eq_zero.mp hdigits.1
      · -- The digits of the tenth come first, and there are some.
        rw [Nat.toDigits_of_base_le (by decide) (by omega)] at hdigits
        cases htenth : Nat.toDigits 10 (n / 10) with
        | nil => exact absurd htenth Nat.toDigits_ne_nil
        | cons ch rest' =>
            rw [htenth, List.cons_append, List.cons.injEq] at hdigits
            rw [hdigits.1] at htenth
            have hzero := ih (n / 10) (by omega) htenth
            omega

end Literal

namespace PropertyKey

/-- The characters of a decimal text are the digits. -/
theorem toList_toString (n : Nat) : (toString n).toList = Nat.toDigits 10 n := by
  rw [Nat.toString_eq_ofList_toDigits, String.toList_ofList]

/-- A text is compared with a decimal text digit by digit. -/
theorem eq_toString_iff {text : String} {n : Nat} :
    text = toString n ↔ text.toList = Nat.toDigits 10 n := by
  rw [← toList_toString, String.toList_inj]

/-- Numbers are told apart by their texts, for they are read back from
them. -/
theorem eq_of_toString_eq {i j : Nat} (htext : toString i = toString j) : i = j := by
  have hread := Literal.readOn_toDigits j
  rw [← toList_toString, ← htext, toList_toString, Literal.readOn_toDigits] at hread
  exact Option.some.inj hread

/-- The texts of array indices are those that indices are written as. From
left to right the cases are those of the reader: a lone zero, a zero in front,
which is no index, and any other text, whose first digit is not zero. -/
theorem index?_eq_some_iff {text : String} {i : Nat} :
    index? text = some i ↔ i ≤ maxIndex ∧ text = toString i := by
  rw [eq_toString_iff, index?]
  constructor
  · intro hindex
    split at hindex
    · rename_i hzero
      cases hindex
      exact ⟨Nat.zero_le _, hzero⟩
    · cases hindex
    · rename_i hone hmany
      rw [Option.filter_eq_some_iff] at hindex
      obtain ⟨hread, hle⟩ := hindex
      refine ⟨by simpa using hle, ?_⟩
      cases hdigits : text.toList with
      | nil =>
          rw [hdigits] at hread
          cases hread
      | cons ch rest =>
          rw [hdigits, Literal.numeral?_ten (List.cons_ne_nil _ _), Literal.readOn_cons,
            Option.bind_eq_some_iff] at hread
          obtain ⟨d, hdigit, hread⟩ := hread
          obtain ⟨hlt, rfl⟩ := Literal.digitOf?_ten_iff.mp hdigit
          -- The texts with a zero in front are excluded by the case before.
          have hpos : 0 < d := by
            rcases Nat.eq_zero_or_pos d with rfl | hpos
            · exact absurd hdigits (hmany rest)
            · exact hpos
          rw [Nat.zero_mul, Nat.zero_add] at hread
          rw [← Literal.toDigits_of_readOn hpos hread, Nat.toDigits_of_lt_base hlt]
          rfl
  · rintro ⟨hle, hdigits⟩
    split
    · rename_i hzero
      rw [Literal.eq_zero_of_toDigits (hdigits.symm.trans hzero)]
    · rename_i rest hne hzero
      -- The text of zero is a single digit.
      have hi := Literal.eq_zero_of_toDigits (hdigits.symm.trans hzero)
      rw [hi, hzero, Nat.toDigits_zero, List.cons.injEq] at hdigits
      exact absurd hdigits.2 hne
    · rw [hdigits, Literal.numeral?_ten Nat.toDigits_ne_nil, Literal.readOn_toDigits]
      simpa using hle

/-! ### Normal keys -/

/-- One key of each name: an index as long as there is one, and otherwise a
text or a symbol. -/
def IsNormal : PropertyKey → Prop
  | .string text => index? text = none
  | .index i => i ≤ maxIndex
  | .symbol _ => True

instance : DecidablePred IsNormal := fun key =>
  match key with
  | .string text => inferInstanceAs (Decidable (index? text = none))
  | .index i => inferInstanceAs (Decidable (i ≤ maxIndex))
  | .symbol _ => inferInstanceAs (Decidable True)

/-- The normal key of the same name. -/
def normalForm : PropertyKey → PropertyKey
  | .string text => ofText text
  | .index i => ofPosition i
  | .symbol s => .symbol s

/-- A key and its normal form have the same name. If a text is read as an
index, it is what the index is written as. -/
theorem toValue_normalForm (key : PropertyKey) : key.normalForm.toValue = key.toValue := by
  cases key with
  | string text =>
      rw [normalForm, ofText]
      split
      · rename_i i hindex
        rw [(index?_eq_some_iff.mp hindex).2]
        rfl
      · rfl
  | index i =>
      rw [normalForm, ofPosition]
      split <;> rfl
  | symbol s => rfl

/-- What the normal form gives is normal. A number past the largest index is
kept as a text, and this text is not read as an index. -/
theorem isNormal_normalForm (key : PropertyKey) : key.normalForm.IsNormal := by
  cases key with
  | string text =>
      rw [normalForm, ofText]
      split
      · rename_i i hindex
        exact (index?_eq_some_iff.mp hindex).1
      · assumption
  | index i =>
      rw [normalForm, ofPosition]
      split
      · assumption
      · rename_i hlt
        -- The text of a number past the largest index is the text of no index.
        show index? (toString i) = none
        rw [Option.eq_none_iff_forall_ne_some]
        intro j hindex
        obtain ⟨hle, hsame⟩ := index?_eq_some_iff.mp hindex
        have hij : i = j := eq_of_toString_eq hsame
        omega
  | symbol s => trivial

/-- A normal key is known by its name. The case that counts is that of a text
and an index with one name. -/
theorem IsNormal.eq_of_toValue {key key' : PropertyKey} (hkey : key.IsNormal)
    (hkey' : key'.IsNormal) (hname : key.toValue = key'.toValue) : key = key' := by
  -- A text that names an index would have been read as that index.
  have hmixed : ∀ {text i}, index? text = none → i ≤ maxIndex → text ≠ toString i := by
    intro text i hnone hle htext
    rw [index?_eq_some_iff.mpr ⟨hle, htext⟩] at hnone
    cases hnone
  cases key with
  | string text =>
      cases key' with
      | string text' => rw [Value.string.inj hname]
      | index i => exact absurd (Value.string.inj hname) (hmixed hkey hkey')
      | symbol s => cases hname
  | index i =>
      cases key' with
      | string text => exact absurd (Value.string.inj hname).symm (hmixed hkey' hkey)
      | index j => rw [eq_of_toString_eq (Value.string.inj hname)]
      | symbol s => cases hname
  | symbol s =>
      cases key' with
      | string text => cases hname
      | index i => cases hname
      | symbol s' => rw [Value.symbol.inj hname]

end PropertyKey

variable {P : Platform} {α : Type}

/-! ### Realms whose tables have normal keys -/

/-- No object has two keys of one name. An object that is not foreign
answers for a key as it does for the key's normal form, except if the key is
the text of an index that it has. -/
structure Realm.WellNamed (r : Realm P) : Prop where
  unique : ∀ h key key', (r.record h).slots.contains key = true →
    (r.record h).slots.contains key' = true → key.toValue = key'.toValue → key = key'
  asked : ∀ h key, (r.record h).kind.host? = none →
    (r.hasOwn h key = Object.owns r h key ↔
      key.canonical = key ∨ Object.owns r h key = false)

/-- A realm whose tables have normal keys alone is well named. Two such keys
of one name are the same, and a key that is not in its normal form is in no
table. -/
theorem Realm.wellNamed_of_isNormal {r : Realm P}
    (hnormal : ∀ h key, (r.record h).slots.contains key = true → key.IsNormal) : r.WellNamed where
  unique h key key' hkey hkey' hname :=
    (hnormal h key hkey).eq_of_toValue (hnormal h key' hkey') hname
  asked h key hnative := by
    by_cases hcanonical : key.canonical = key
    · simp only [Object.owns, hcanonical, true_or]
    · -- Only a text that is read as an index is not canonical, and no table has it.
      have hnone : r.hasOwn h key = false := by
        rw [Realm.hasOwn, hnative, Bool.eq_false_iff]
        intro hkey
        refine hcanonical ?_
        cases key with
        | string text =>
            have htext : PropertyKey.index? text = none := hnormal h _ hkey
            rw [PropertyKey.canonical, PropertyKey.ofText, htext]
        | index i => rfl
        | symbol s => rfl
      rw [hnone]
      simp only [hcanonical, false_or]
      exact eq_comm

/-- Everything is the same, and every key of a table is normal. -/
def Likeness.normal (P : Platform) : Likeness P P :=
  .same P PropertyKey.IsNormal Eq (fun _ htext => htext) fun _ => trivial

/-- A run that writes under normal keys alone leaves no other key in any
table. Such a run is like itself, with the condition that every key of a table
is normal. -/
theorem Embedder.run_wellNamed {embedder : Embedder P}
    (hembedder : embedder.Uses (·.KeysIn PropertyKey.IsNormal)) (rounds depth : Nat)
    {script : Script P α} (hscript : script.Uses (·.KeysIn PropertyKey.IsNormal))
    (config : Config) (memory : P.Memory) :
    (embedder.run rounds depth script ⟨.initial config, memory⟩).Meets
      (fun _ m => m.realm.WellNamed) (fun _ m => m.realm.WellNamed) := by
  have hstart : (⟨.initial config, memory⟩ : Machine P).Alike (.normal P)
      ⟨.initial config, memory⟩ :=
    ⟨Realm.initial_alike ⟨rfl, rfl, rfl⟩, rfl⟩
  have hsame : embedder.Alike (.normal P) embedder :=
    Embedder.alike_self hembedder (.inl fun _ _ horder => horder)
  have hscript : script.Alike (.normal P) Eq script :=
    Script.alike_self (fun _ => rfl) hscript (.inl fun _ _ horder => horder)
  have hrun := Embedder.run_alike hsame rounds depth hscript _ _ hstart
  generalize embedder.run rounds depth script _ = outcome at hrun ⊢
  cases hrun with
  | done _ hm => exact Realm.wellNamed_of_isNormal fun h => (hm.realm.record h).keys
  | failed _ hm => exact Realm.wellNamed_of_isNormal fun h => (hm.realm.record h).keys
  | exhausted => trivial

/-! ### Two keys of one name -/

/-- Writing a new property to an object that takes new ones. It becomes a
plain property, and no prototype is asked. -/
theorem Object.put_of_new (hooks : Hooks P) {m : Machine P} {h : Handle} {key : PropertyKey}
    (hnative : (m.realm.record h).kind.host? = none) (hnew : (m.realm.record h).slot? key = none)
    (hextensible : (m.realm.record h).extensible = true) (value : Value) :
    put hooks h key value m
      = .done true { m with realm := m.realm.insertSlot h key (.plain value) } := by
  unfold put
  rw [Action.bind_apply]
  simp only [Action.record, hnative, hnew, hextensible]
  rfl

/-- A script that writes to a new object under a key and under its normal
form. -/
def Script.writeUnderNormalForm (P : Platform) (key : PropertyKey) : Script P Unit :=
  .ask .createObject fun reply =>
  .ask (.put (reply.toOption.getD ⟨0⟩) key .null) fun _ =>
  .ask (.put (reply.toOption.getD ⟨0⟩) key.normalForm .null) fun _ => .done ()

/-- The object gets two keys of one name. The run is followed request by
request, through the machines `m₁` with the new object, `m₂` with the first
key and `m₃` with both. -/
theorem Script.writeUnderNormalForm_run (hooks : Hooks P) {key : PropertyKey}
    (hkey : ¬ key.IsNormal) (m : Machine P) :
    ∃ m', (Script.writeUnderNormalForm P key).run hooks m = .done () m' ∧
      (m'.realm.record ⟨m.realm.size⟩).slots.contains key = true ∧
      (m'.realm.record ⟨m.realm.size⟩).slots.contains key.normalForm = true := by
  have hne : key.normalForm ≠ key := by
    intro hsame
    rw [← hsame] at hkey
    exact hkey key.isNormal_normalForm
  let h : Handle := ⟨m.realm.size⟩
  let bare : ObjectRecord P := .create .ordinary (some Intrinsic.objectPrototype)
  let m₁ : Machine P := { m with realm := (m.realm.allocate bare).2 }
  let m₂ : Machine P := { m₁ with realm := m₁.realm.insertSlot h key (.plain .null) }
  let m₃ : Machine P := { m₂ with realm := m₂.realm.insertSlot h key.normalForm (.plain .null) }
  have hlt : h.index < m₁.realm.size := by
    rw [Realm.size_allocate]
    exact Nat.lt_succ_self _
  have hlt' : h.index < m₂.realm.size := by
    show h.index < (m₁.realm.update h _).size
    rw [Realm.size_update]
    exact hlt
  have h₁ : m₁.realm.record h = bare := by
    rw [Realm.record_allocate, if_pos rfl]
  have h₂ : m₂.realm.record h = bare.insert key (.plain .null) := by
    rw [← h₁]
    exact Realm.record_update_self hlt _
  have h₃ : m₃.realm.record h
      = (bare.insert key (.plain .null)).insert key.normalForm (.plain .null) := by
    rw [← h₂]
    exact Realm.record_update_self hlt' _
  have hcreate : Request.perform hooks (.createObject : Request P) m = .done h m₁ := rfl
  have hput : Request.perform hooks (.put h key .null) m₁ = .done true m₂ :=
    Object.put_of_new hooks (by rw [h₁]; rfl) (by rw [h₁]; rfl) (by rw [h₁]; rfl) .null
  have hput' : Request.perform hooks (.put h key.normalForm .null) m₂ = .done true m₃ := by
    refine Object.put_of_new hooks (by rw [h₂]; rfl) ?_ (by rw [h₂]; rfl) .null
    rw [h₂, ObjectRecord.slot?_insert, if_neg hne, ObjectRecord.slot?_create]
  refine ⟨m₃, ?_, ?_, ?_⟩
  · rw [Script.writeUnderNormalForm, Script.run_ask hooks hcreate]
    exact (Script.run_ask hooks hput).trans (Script.run_ask hooks hput')
  · rw [h₃, OrderedMap.contains_eq_isSome]
    simp [ObjectRecord.insert, OrderedMap.get?_insert]
  · rw [h₃, OrderedMap.contains_eq_isSome]
    simp [ObjectRecord.insert, OrderedMap.get?_insert]

/-- If the realm is still well named, there was only one key to write
under. The script is given by an equation, for the run is not to be
evaluated where this is used. -/
theorem isNormal_of_wellNamed {hooks : Hooks P} {key : PropertyKey} {script : Script P Unit}
    (hscript : Script.writeUnderNormalForm P key = script) {m : Machine P}
    (hmeets : (script.run hooks m).Meets (fun _ m' => m'.realm.WellNamed)
      (fun _ m' => m'.realm.WellNamed)) : key.IsNormal := by
  refine Decidable.byContradiction fun hnot => ?_
  obtain ⟨m', hrun, hcontains, hcontains'⟩ := Script.writeUnderNormalForm_run hooks hnot m
  rw [← hscript, hrun] at hmeets
  have hsame := hmeets.unique _ _ _ hcontains hcontains' key.toValue_normalForm.symm
  rw [hsame] at hnot
  exact hnot key.isNormal_normalForm

/-- The keys under which properties may be written, if names are to stay
unique. Callers who may write under every normal key must write under no
other one. If they keep to that, then whatever script is run in a new realm
and whatever code it sets going, no table ever has two keys of one name, and
the two ways to ask whether an object has a property differ for the texts of
the indices it has and for nothing else. -/
theorem wellNamed_iff (memory : P.Memory) {admitted : PropertyKey → Prop}
    (hnormal : ∀ key : PropertyKey, key.IsNormal → admitted key) :
    (∀ (embedder : Embedder P), embedder.Uses (·.KeysIn admitted) →
      ∀ (rounds depth : Nat) (α : Type) (script : Script P α),
        script.Uses (·.KeysIn admitted) → ∀ config : Config,
          (embedder.run rounds depth script ⟨.initial config, memory⟩).Meets
            (fun _ m => m.realm.WellNamed) (fun _ m => m.realm.WellNamed)) ↔
      ∀ key, admitted key → key.IsNormal := by
  constructor
  · intro hruns key hkey
    have hscript : (Script.writeUnderNormalForm P key).Uses (·.KeysIn admitted) :=
      ⟨trivial, fun _ => ⟨hkey, fun _ => ⟨hnormal _ key.isNormal_normalForm, fun _ => trivial⟩⟩⟩
    have hidle : (Embedder.idle P).Uses (·.KeysIn admitted) :=
      ⟨fun _ _ _ => trivial, fun _ _ _ => trivial⟩
    generalize hrespelling : Script.writeUnderNormalForm P key = script at hscript
    exact isNormal_of_wellNamed hrespelling (hruns (.idle P) hidle 0 0 Unit script hscript default)
  · intro hadmitted embedder hembedder rounds depth α script hscript config
    have hkeys : ∀ request : Request P, request.KeysIn admitted →
        request.KeysIn PropertyKey.IsNormal := fun _ => .mono hadmitted
    exact Embedder.run_wellNamed (hembedder.mono hkeys) rounds depth (hscript.mono hkeys) config
      memory

/-- A script that writes to one property under two spellings that come to the
same key, and to another one under a text that is no index. -/
def Script.writeUnderTwoSpellings : Script Platform.fixed Unit :=
  .ask .createObject fun reply =>
  .ask (.put (reply.toOption.getD ⟨0⟩) (.index 1) .null) fun _ =>
  .ask (.assign (reply.toOption.getD ⟨0⟩) (.string "1") .undefined false) fun _ =>
  .ask (.createData (reply.toOption.getD ⟨0⟩) (.string "01") .null) fun _ => .done ()

/-- The script ends with two properties of different names. One of its
spellings is that of an index, under which it has written already, and the
other one is a name of its own. -/
theorem wellNamed_iff_spelling :
    ∃ m', Embedder.fixed.run 1 1 Script.writeUnderTwoSpellings ⟨.initial default, ()⟩
        = .done () m' ∧
      m'.realm.WellNamed := by
  have hfixed : Embedder.fixed.Uses (·.KeysIn PropertyKey.IsNormal) :=
    ⟨fun _ _ _ => ⟨trivial, fun _ => trivial⟩, fun _ _ _ => trivial⟩
  -- Whether a key is in normal form is computed, after the coercion that the request makes.
  have hspelling : Script.writeUnderTwoSpellings.Uses (·.KeysIn PropertyKey.IsNormal) := by
    refine ⟨trivial, fun _ => ⟨?_, fun _ => ⟨?_, fun _ => ⟨?_, fun _ => trivial⟩⟩⟩⟩
    · show PropertyKey.IsNormal (.index 1)
      decide
    · show PropertyKey.IsNormal (PropertyKey.string "1").canonical
      decide
    · show PropertyKey.IsNormal (PropertyKey.string "01").canonical
      decide
  have hnamed : ∀ script : Script Platform.fixed Unit,
      script.Uses (·.KeysIn PropertyKey.IsNormal) → ∀ m',
        Embedder.fixed.run 1 1 script ⟨.initial default, ()⟩ = .done () m' →
          m'.realm.WellNamed := by
    intro script hscript m' hrun
    have hmeets := (wellNamed_iff (P := Platform.fixed) () fun _ hkey => hkey).mpr
      (fun _ hkey => hkey) Embedder.fixed hfixed 1 1 Unit script hscript default
    rw [hrun] at hmeets
    exact hmeets
  exact ⟨_, rfl, hnamed Script.writeUnderTwoSpellings hspelling _ rfl⟩

/-- One text is enough to give an object two properties of one name. The
script writes under the text and under its normal form, and `put` does not
coerce either. -/
theorem not_wellNamed_respelling :
    ∃ m', Embedder.fixed.run 1 1 (Script.writeUnderNormalForm Platform.fixed (.string "1"))
        ⟨.initial default, ()⟩ = .done () m' ∧ ¬ m'.realm.WellNamed := by
  have hkey : ¬ (PropertyKey.string "1").IsNormal := by decide
  obtain ⟨m', hrun, hcontains, hcontains'⟩ :=
    Script.writeUnderNormalForm_run (Embedder.fixed.hooks 1 1) hkey ⟨.initial default, ()⟩
  refine ⟨m', hrun, fun hnamed => ?_⟩
  have hsame := hnamed.unique _ _ _ hcontains hcontains' (PropertyKey.toValue_normalForm _).symm
  exact absurd hsame (by decide)

end ScriptRealm
