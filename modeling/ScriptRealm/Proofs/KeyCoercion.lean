import ScriptRealm.Proofs.Iteration.Visits
import ScriptRealm.Proofs.KeyNames
import ScriptRealm.Proofs.Number.WholeText

/-!
# `ScriptRealm.Proofs.KeyCoercion`: the ways to a key

A key can be made from a text, from a value, from a place in a list or from
another key. Only the way from a text looks at digits. The others have ways of
their own for indices, which never make the text: a whole number becomes an
index at once, and so does a place in a list.

They all come to the same. The way from a text is settled by
`PropertyKey.index?_eq_some_iff`: it gives an index for the text that the index
is written as, and for no other. Every other way is shown to agree with it at
the text of what it is given (`PropertyKey.ofPosition_eq_ofText`,
`PropertyKey.ofValue_of_isWhole`), on both sides of the largest index. So the
canonical form of a key is a function of its name, and tells names apart
(`PropertyKey.canonical_eq_iff`).
-/

set_option autoImplicit false

namespace ScriptRealm

namespace PropertyKey

/-- A text, a symbol, or an index that is an array index. -/
def InRange : PropertyKey → Prop
  | .index i => i ≤ maxIndex
  | _ => True

/-- Texts become indices if they are what indices are written as. There is one
such text for each index, without zeros in front. -/
theorem ofText_eq_index_iff {text : String} {i : Nat} :
    ofText text = .index i ↔ text = toString i ∧ i ≤ maxIndex := by
  rw [and_comm, ← index?_eq_some_iff, ofText]
  cases index? text <;> simp

/-- Nothing else becomes of a text. -/
theorem ofText_of_index?_eq_none {text : String} (hnone : index? text = none) :
    ofText text = .string text := by
  rw [ofText, hnone]

/-- A place in a list is named by its decimal text. A place past the largest
index is named by a text that is read as no index. -/
theorem ofPosition_eq_ofText (i : Nat) : ofPosition i = ofText (toString i) := by
  rw [ofPosition]
  split
  · rename_i hle
    exact (ofText_eq_index_iff.mpr ⟨rfl, hle⟩).symm
  -- The text of such a place is normal, as its normal form is.
  · rename_i hlt
    have hnormal := isNormal_normalForm (.index i)
    rw [normalForm, ofPosition, if_neg hlt] at hnormal
    exact (ofText_of_index?_eq_none hnormal).symm

/-- In range, the canonical form is the normal one. -/
theorem InRange.canonical_eq {key : PropertyKey} (hkey : key.InRange) :
    key.canonical = key.normalForm := by
  cases key with
  | string text => rfl
  | symbol s => rfl
  | index i => exact (if_pos hkey).symm

/-- A canonical key is its own canonical form. What a text becomes is an
index, or a text that is not read as one. -/
theorem canonical_canonical (key : PropertyKey) : key.canonical.canonical = key.canonical := by
  cases key with
  | index i => rfl
  | symbol s => rfl
  | string text =>
      show (ofText text).canonical = ofText text
      cases hindex : index? text with
      | none =>
          rw [ofText_of_index?_eq_none hindex]
          exact ofText_of_index?_eq_none hindex
      | some i =>
          rw [ofText, hindex]
          rfl

/-- A key is found again from its value, in its canonical form. -/
theorem InRange.ofValue_toValue {key : PropertyKey} (hkey : key.InRange) :
    ofValue key.toValue = key.canonical := by
  cases key with
  | string text => rfl
  | symbol s => rfl
  | index i => exact ofText_eq_index_iff.mpr ⟨rfl, hkey⟩

/-- Keys have one canonical form just in case they have one name. The name can
be read off the canonical form, and the canonical form off the name. -/
theorem canonical_eq_iff {a b : PropertyKey} (ha : a.InRange) (hb : b.InRange) :
    a.canonical = b.canonical ↔ a.toValue = b.toValue := by
  constructor
  · intro hsame
    calc a.toValue = a.canonical.toValue := by rw [ha.canonical_eq, toValue_normalForm]
      _ = b.canonical.toValue := by rw [hsame]
      _ = b.toValue := by rw [hb.canonical_eq, toValue_normalForm]
  · intro hname
    rw [← ha.ofValue_toValue, hname, hb.ofValue_toValue]

/-- A whole number that is an array index is named by its text. The number is
recognized as it is, and its text is the text of the index. -/
theorem ofValue_of_isWhole {n : Number} {i : Nat} (hwhole : n.IsWhole i) (hi : i ≤ maxIndex) :
    ofValue (.number n) = .index i ∧ ofText n.toText = .index i := by
  have hlt : i < Nat.pow 2 53 := Nat.lt_of_le_of_lt hi (by decide)
  constructor
  · have hindex : n.toNat?.filter (· ≤ maxIndex) = some i :=
      Option.filter_eq_some_iff.mpr ⟨hwhole.toNat?_eq, by simpa using hi⟩
    simp only [ofValue, hindex]
  · exact ofText_eq_index_iff.mpr ⟨hwhole.toText_eq hlt, hi⟩

/-- The ways to a key agree, and keys are told apart by their names. -/
structure Faithful (P : Platform) : Prop where
  text : ∀ text i, ofText text = .index i ↔ text = toString i ∧ i ≤ maxIndex
  canonical : ∀ key : PropertyKey, key.canonical.canonical = key.canonical
  value : ∀ key : PropertyKey, key.InRange → ofValue key.toValue = key.canonical
  names : ∀ a b : PropertyKey, a.InRange → b.InRange →
    (a.canonical = b.canonical ↔ a.toValue = b.toValue)
  /-- Elements of an array-like object are read under the texts of their places. -/
  elements : ∀ (hooks : Hooks P) (h : Handle) (admits : Value → Bool) (remaining place : Nat),
    ArrayLike.elementsFrom hooks h admits (remaining + 1) place = do
      let element ← Object.get hooks h (.ofText (toString place))
      if admits element then
        return element :: (← ArrayLike.elementsFrom hooks h admits remaining (place + 1))
      else
        Action.fail (.type (.listElement ((← Action.realm).typeName element)))
  /-- So are those that a list iterator comes to. -/
  next : ∀ (hooks : Hooks P) (h : Handle) (c : ListCursor) (m m₁ k : Machine P),
    ListIterator.Moves hooks h c false m m₁ k →
      ListIterator.next hooks (.object h) m
        = ((IterResult.mk · false) <$> Object.get hooks c.target (.ofText (toString c.next))) k
  number : ∀ (n : Number) (i : Nat), n.IsWhole i → i ≤ maxIndex →
    ofValue (.number n) = ofText n.toText
  /-- There is a number for every index, and two for zero. -/
  wholes : ∀ i ≤ maxIndex, (Number.ofNat i).IsWhole i ∧ (i = 0 → Number.negativeZero.IsWhole i)

end PropertyKey

/-- Reading an element moves the cursor and then asks under the place. What is
found there is not looked at, so that the answer is that of the one `get`. -/
theorem ListIterator.next_of_moves {P : Platform} {hooks : Hooks P} {h : Handle} {c : ListCursor}
    {m m₁ k : Machine P} (hmoves : Moves hooks h c false m m₁ k) :
    next hooks (.object h) m
      = ((IterResult.mk · false) <$> Object.get hooks c.target (.ofPosition c.next)) k := by
  obtain ⟨length, hlength, hfinished⟩ := hmoves.length
  have hopen : ¬ length ≤ c.next := of_decide_eq_false hfinished
  -- The program decides by the length; the move records what it decided.
  have hmove : moveCursor h (decide (length ≤ c.next)) m₁ = .done () k := by
    rw [hfinished]
    exact hmoves.move
  rw [next_of_undone hooks hmoves.kind hmoves.undone, Action.bind_apply, hlength]
  show (moveCursor h (length ≤ c.next) >>= fun _ => _) m₁ = _
  rw [Action.bind_apply, hmove]
  simp only [if_neg hopen]
  rfl

open PropertyKey

/-- All ways to a key agree with the way from a text, and canonical keys are
faithful to names. -/
theorem keys_faithful (P : Platform) : PropertyKey.Faithful P where
  text _ _ := ofText_eq_index_iff
  canonical := canonical_canonical
  value _ := InRange.ofValue_toValue
  names _ _ := canonical_eq_iff
  elements hooks h admits remaining place := by
    rw [← ofPosition_eq_ofText]
    rfl
  next hooks h c m m₁ k hmoves := by
    rw [← ofPosition_eq_ofText]
    exact ListIterator.next_of_moves hmoves
  number n i hwhole hi := by
    obtain ⟨hvalue, htext⟩ := ofValue_of_isWhole hwhole hi
    rw [hvalue, htext]
  wholes i hi := by
    refine ⟨Number.isWhole_ofNat (Nat.lt_of_le_of_lt hi (by decide)), ?_⟩
    rintro rfl
    exact Number.isWhole_negativeZero

/-- The texts on both sides of the largest index. -/
example : ofText "4294967294" = .index 4294967294 ∧
    ofText "4294967295" = .string "4294967295" ∧ ofText "042" = .string "042" := by
  decide

end ScriptRealm
