import ScriptRealm.Value.Conversion

/-!
# `ScriptRealm.Proofs.Number.Grammar`: the texts that are numbers

`Literal.Numeric` is the grammar of numeric texts, blanks at the ends aside.
What may follow `0x`, `0o` and `0b` is left open in it. By the grammar that
scripts know it is one or more digits of the radix (`Literal.Digits`). What is
read is another thing (`Literal.Word`): a plus sign may come first, and the
value must be below `2 ^ 64`.

`toNumber_numeric` says that the reader accepts the grammar with words, and
nothing else. So the two grammars differ in announced numerals alone
(`Literal.numeric_of_announced`), and there in both directions
(`toNumber_not_grammatical`).
-/

set_option autoImplicit false

namespace ScriptRealm

namespace Literal

/-! ### The grammar -/

/-- The digits of a radix, letters in either case. -/
def digitsOf (radix : Nat) : List Char :=
  ['0', '1', '2', '3', '4', '5', '6', '7', '8', '9', 'a', 'b', 'c', 'd', 'e', 'f'].take radix ++
    ['A', 'B', 'C', 'D', 'E', 'F'].take (radix - 10)

/-- One or more digits of a radix and nothing else. -/
def Digits (radix : Nat) (cs : List Char) : Prop := cs ≠ [] ∧ ∀ c ∈ cs, c ∈ digitsOf radix

/-- No sign or one. -/
inductive Sign : List Char → Prop where
  | absent : Sign []
  | plus : Sign ['+']
  | minus : Sign ['-']

/-- Digits with or without a fraction, or a fraction alone. -/
inductive Mantissa : List Char → Prop where
  | whole {digits : List Char} (hdigits : Digits 10 digits) : Mantissa digits
  | mixed {digits fraction : List Char} (hdigits : Digits 10 digits)
      (hfraction : ∀ c ∈ fraction, c ∈ digitsOf 10) : Mantissa (digits ++ '.' :: fraction)
  | fraction {digits : List Char} (hdigits : Digits 10 digits) : Mantissa ('.' :: digits)

/-- No exponent or one, which may have a sign. -/
inductive Exponent : List Char → Prop where
  | absent : Exponent []
  | given {mark : Char} {sign digits : List Char} (hmark : mark = 'e' ∨ mark = 'E')
      (hsign : Sign sign) (hdigits : Digits 10 digits) : Exponent (mark :: (sign ++ digits))

/-- The letter after a zero that announces a radix. -/
inductive Announces : Char → Nat → Prop where
  | hexadecimal {letter : Char} (hletter : letter = 'x' ∨ letter = 'X') : Announces letter 16
  | octal {letter : Char} (hletter : letter = 'o' ∨ letter = 'O') : Announces letter 8
  | binary {letter : Char} (hletter : letter = 'b' ∨ letter = 'B') : Announces letter 2

/-- The numeric texts, if `announced` are those that may follow the
announcement of a radix. -/
inductive Numeric (announced : Nat → List Char → Prop) : List Char → Prop where
  | empty : Numeric announced []
  | infinity {sign : List Char} (hsign : Sign sign) :
      Numeric announced (sign ++ "Infinity".toList)
  | decimal {sign mantissa exponent : List Char} (hsign : Sign sign)
      (hmantissa : Mantissa mantissa) (hexponent : Exponent exponent) :
      Numeric announced (sign ++ (mantissa ++ exponent))
  | numeral {letter : Char} {radix : Nat} {rest : List Char} (hletter : Announces letter radix)
      (hrest : announced radix rest) : Numeric announced ('0' :: letter :: rest)

/-- The value of a digit is its place among the digits of the radix. The
capital letters come after all others and begin again at ten. -/
def placeOf (radix : Nat) (c : Char) : Nat :=
  let place := (digitsOf radix).idxOf c
  if place < radix then place else place - radix + 10

/-- The value of digits of a radix. -/
def valueOf (radix : Nat) (cs : List Char) : Nat :=
  cs.foldl (fun value c => value * radix + placeOf radix c) 0

/-- Digits of a radix that stand for a number below `2 ^ 64`, with or without
a plus sign. -/
def Word (radix : Nat) (cs : List Char) : Prop :=
  ∃ plus digits, cs = plus ++ digits ∧ (plus = [] ∨ plus = ['+']) ∧ Digits radix digits ∧
    valueOf radix digits < Nat.pow 2 64

/-! ### Digits -/

/-- The radices of announced numerals and of decimal literals. -/
def IsRadix (radix : Nat) : Prop := radix ∈ [2, 8, 10, 16]

/-- Each letter announces one of the radices that the lemmas below are
about. -/
theorem Announces.isRadix {letter : Char} {radix : Nat} (hletter : Announces letter radix) :
    IsRadix radix := by
  cases hletter <;> simp [IsRadix]

/-- Ten is one of them, for decimal literals. -/
theorem isRadix_ten : IsRadix 10 := by simp [IsRadix]

/-- Two properties of characters are the same if the first characters have
both or neither, and no other character has one of them. This leaves finitely
many characters to decide. -/
theorem iff_of_first {bound : Nat} {p q : Char → Prop}
    (hfirst : ∀ n < bound, p (Char.ofNat n) ↔ q (Char.ofNat n))
    (hp : ∀ c, p c → c.toNat < bound) (hq : ∀ c, q c → c.toNat < bound) (c : Char) :
    p c ↔ q c := by
  have hbelow : c.toNat < bound → (p c ↔ q c) := by
    intro hlt
    have hsame := hfirst c.toNat hlt
    rwa [Char.ofNat_toNat] at hsame
  constructor
  · exact fun hc => (hbelow (hp c hc)).mp hc
  · exact fun hc => (hbelow (hq c hc)).mpr hc

/-- What is true of all characters of a text is decided for one after the
other. -/
theorem forall_mem_of_all {p : Char → Prop} [DecidablePred p] {cs : List Char}
    (hall : cs.all (fun c => decide (p c)) = true) : ∀ c ∈ cs, p c := by
  intro c hc
  exact of_decide_eq_true (List.all_eq_true.mp hall c hc)

/-- The digits of all radices are among the first characters, up to the letter
`f`. -/
theorem toNat_lt_of_mem_digitsOf {radix : Nat} {c : Char} (hmem : c ∈ digitsOf radix) :
    c.toNat < 103 := by
  have hall : ∀ c ∈ ['0', '1', '2', '3', '4', '5', '6', '7', '8', '9', 'a', 'b', 'c', 'd', 'e',
      'f'] ++ ['A', 'B', 'C', 'D', 'E', 'F'], c.toNat < 103 := forall_mem_of_all (by decide)
  apply hall
  rw [digitsOf, List.mem_append] at hmem
  rw [List.mem_append]
  exact hmem.imp List.mem_of_mem_take List.mem_of_mem_take

/-- So are the characters that are read as digits, by the ranges in which the
reader looks for them. -/
theorem toNat_lt_of_digitOf? {radix : Nat} {c : Char} (hdigit : (digitOf? radix c).isSome = true) :
    c.toNat < 103 := by
  obtain ⟨d, hdigit⟩ := Option.isSome_iff_exists.mp hdigit
  rw [digitOf?, Option.filter_eq_some_iff] at hdigit
  have hvalue := hdigit.1
  unfold digitValue? at hvalue
  split at hvalue
  · rename_i hrange
    have hhi : c.toNat ≤ 57 := hrange.2
    omega
  · split at hvalue
    · rename_i hrange
      have hhi : c.toNat ≤ 102 := hrange.2
      omega
    · split at hvalue
      · rename_i hrange
        have hhi : c.toNat ≤ 70 := hrange.2
        omega
      · cases hvalue

/-- The digits that are read are those of the radix. The characters up to `f`
are tried one by one, for each radix, and beyond them there are no digits on
either side. -/
theorem isSome_digitOf?_iff {radix : Nat} (hradix : IsRadix radix) (c : Char) :
    (digitOf? radix c).isSome = true ↔ c ∈ digitsOf radix := by
  have hfirst : ∀ radix ∈ [2, 8, 10, 16], ∀ n < 103,
      (digitOf? radix (Char.ofNat n)).isSome = true ↔ Char.ofNat n ∈ digitsOf radix := by
    decide +kernel
  exact iff_of_first (hfirst radix hradix) (fun _ => toNat_lt_of_digitOf?)
    (fun _ => toNat_lt_of_mem_digitsOf) c

/-- The value that is read of a digit is its place among the digits of the
radix. -/
theorem digitOf?_of_mem {radix : Nat} (hradix : IsRadix radix) {c : Char}
    (hmem : c ∈ digitsOf radix) : digitOf? radix c = some (placeOf radix c) := by
  have hall : ∀ radix ∈ [2, 8, 10, 16],
      (digitsOf radix).all (fun c => decide (digitOf? radix c = some (placeOf radix c)))
        = true := by
    decide +kernel
  exact forall_mem_of_all (hall radix hradix) c hmem

/-- The decimal digits are told apart by another test than the others, which
comes to the same. -/
theorem isDigit_iff (c : Char) : c.isDigit = true ↔ c ∈ digitsOf 10 := by
  have hfirst : ∀ n < 103, (Char.ofNat n).isDigit = true ↔ Char.ofNat n ∈ digitsOf 10 := by
    decide +kernel
  refine iff_of_first (p := fun c => c.isDigit = true) (q := fun c => c ∈ digitsOf 10) hfirst
    (fun c hdigit => ?_) (fun _ => toNat_lt_of_mem_digitsOf) c
  have hhi : c.toNat ≤ 57 := (Char.isDigit_iff_toNat.mp hdigit).2
  omega

/-- No digit of a radix is a sign or a point, so that signs and points end a
row of digits. -/
theorem ne_of_mem_digitsOf {radix : Nat} (hradix : IsRadix radix) {c : Char}
    (hmem : c ∈ digitsOf radix) : c ≠ '+' ∧ c ≠ '-' ∧ c ≠ '.' := by
  have hall : ∀ radix ∈ [2, 8, 10, 16],
      (digitsOf radix).all (fun c => decide (c ≠ '+' ∧ c ≠ '-' ∧ c ≠ '.')) = true := by
    decide
  exact forall_mem_of_all (hall radix hradix) c hmem

/-- Reading on digit by digit, after a number has been read. It goes to the
end if all that is left are digits, and the result is the value that the
digits stand for. By induction on what is left. -/
theorem foldlM_eq_some_iff {radix : Nat} (hradix : IsRadix radix) {cs : List Char}
    {value n : Nat} :
    cs.foldlM (fun value c => (digitOf? radix c).map (value * radix + ·)) value = some n ↔
      (∀ c ∈ cs, c ∈ digitsOf radix) ∧
        cs.foldl (fun value c => value * radix + placeOf radix c) value = n := by
  induction cs generalizing value with
  | nil => simp
  | cons c rest ih =>
      rw [List.foldlM_cons, List.forall_mem_cons, List.foldl_cons]
      by_cases hmem : c ∈ digitsOf radix
      · rw [digitOf?_of_mem hradix hmem]
        simpa [hmem] using ih
      · -- What is no digit of the radix is not read.
        have hnone : digitOf? radix c = none := by
          simpa [← isSome_digitOf?_iff hradix] using hmem
        simp [hnone, hmem]

/-- A numeral is one or more digits, and it is read as their value. An empty
text is none, although there would be a value for it. -/
theorem numeral?_eq_some_iff {radix : Nat} (hradix : IsRadix radix) {cs : List Char} {n : Nat} :
    numeral? radix cs = some n ↔ Digits radix cs ∧ valueOf radix cs = n := by
  rw [numeral?, Digits, valueOf]
  cases cs with
  | nil => simp
  | cons c rest =>
      rw [List.isEmpty_cons, if_neg Bool.false_ne_true, foldlM_eq_some_iff hradix]
      simp

/-- What is read as a numeral are digits. -/
theorem isSome_numeral?_iff {radix : Nat} (hradix : IsRadix radix) (cs : List Char) :
    (numeral? radix cs).isSome = true ↔ Digits radix cs := by
  simp [Option.isSome_iff_exists, numeral?_eq_some_iff hradix]

/-! ### Signs and announcements -/

/-- A text that does not begin with a sign. -/
def Unsigned (cs : List Char) : Prop := ∀ c ∈ cs.head?, c ≠ '+' ∧ c ≠ '-'

/-- A row of digits does not begin with a sign. -/
theorem Digits.unsigned {radix : Nat} (hradix : IsRadix radix) {cs : List Char}
    (hdigits : Digits radix cs) : Unsigned cs := by
  intro c hc
  have hne := ne_of_mem_digitsOf hradix (hdigits.2 c (List.mem_of_mem_head? hc))
  exact ⟨hne.1, hne.2.1⟩

/-- What follows the sign of a text, which may have none. -/
theorem exists_sign (cs : List Char) : ∃ sign, Sign sign ∧ cs = sign ++ (signed cs).2 := by
  unfold signed
  split
  · exact ⟨_, .minus, rfl⟩
  · exact ⟨_, .plus, rfl⟩
  · exact ⟨_, .absent, rfl⟩

/-- A sign in front of a text without one is taken off. Without that condition
a second sign could be taken for the first. -/
theorem Sign.signed_append {sign cs : List Char} (hsign : Sign sign) (hcs : Unsigned cs) :
    (signed (sign ++ cs)).2 = cs := by
  cases hsign with
  | plus => rfl
  | minus => rfl
  | absent =>
      rw [List.nil_append]
      unfold signed
      split
      · exact absurd rfl (hcs '-' rfl).2
      · exact absurd rfl (hcs '+' rfl).1
      · rfl

/-- Infinity is its name, with or without a sign. The name does not begin with
a sign itself, so that the sign is taken off in one way only. -/
theorem isSome_infinity?_iff (cs : List Char) :
    (infinity? cs).isSome = true ↔ ∃ sign, Sign sign ∧ cs = sign ++ "Infinity".toList := by
  have hname : Unsigned "Infinity".toList := by
    have hfirst : "Infinity".toList.head? = some 'I' := rfl
    intro c hc
    rw [hfirst] at hc
    cases hc
    decide
  have hinfinity : infinity? cs
      = if (signed cs).2 = "Infinity".toList then some (signed cs).1 else none := rfl
  rw [hinfinity]
  -- From here on the name only matters for not beginning with a sign.
  generalize "Infinity".toList = name at hname
  rw [Option.isSome_ite]
  constructor
  · intro hrest
    obtain ⟨sign, hsign, hcs⟩ := exists_sign cs
    exact ⟨sign, hsign, hrest ▸ hcs⟩
  · rintro ⟨sign, hsign, rfl⟩
    exact hsign.signed_append hname

/-- A radix is announced by a zero and one of three letters, in either
case. -/
theorem radix?_eq_some_iff {cs rest : List Char} {radix : Nat} :
    radix? cs = some (radix, rest) ↔
      ∃ letter, Announces letter radix ∧ cs = '0' :: letter :: rest := by
  constructor
  · intro hradix
    unfold radix? at hradix
    split at hradix
    · cases hradix
      exact ⟨_, .hexadecimal (.inl rfl), rfl⟩
    · cases hradix
      exact ⟨_, .hexadecimal (.inr rfl), rfl⟩
    · cases hradix
      exact ⟨_, .octal (.inl rfl), rfl⟩
    · cases hradix
      exact ⟨_, .octal (.inr rfl), rfl⟩
    · cases hradix
      exact ⟨_, .binary (.inl rfl), rfl⟩
    · cases hradix
      exact ⟨_, .binary (.inr rfl), rfl⟩
    · cases hradix
  · rintro ⟨letter, hletter, rfl⟩
    cases hletter with
    | hexadecimal hletter => rcases hletter with rfl | rfl <;> rfl
    | octal hletter => rcases hletter with rfl | rfl <;> rfl
    | binary hletter => rcases hletter with rfl | rfl <;> rfl

/-- The words of a radix are what is read after its announcement: a plus sign
is skipped, and the value of the digits must fit. -/
theorem isSome_word?_iff {radix : Nat} (hradix : IsRadix radix) (cs : List Char) :
    (word? radix cs).isSome = true ↔ Word radix cs := by
  have hword : ∀ digits, Digits radix digits ∧ valueOf radix digits < Nat.pow 2 64 ↔
      ((numeral? radix digits).filter (· < Nat.pow 2 64)).isSome = true := by
    intro digits
    simp only [Option.isSome_iff_exists, Option.filter_eq_some_iff, numeral?_eq_some_iff hradix,
      decide_eq_true_eq]
    -- A numeral is filtered by its value, which is the one that the grammar gives it.
    constructor
    · rintro ⟨hdigits, hlt⟩
      exact ⟨_, ⟨hdigits, rfl⟩, hlt⟩
    · rintro ⟨n, ⟨hdigits, rfl⟩, hlt⟩
      exact ⟨hdigits, hlt⟩
  rw [word?, ← hword]
  constructor
  · intro hdigits
    unfold afterPlus at hdigits
    split at hdigits
    · exact ⟨['+'], _, rfl, .inr rfl, hdigits⟩
    · exact ⟨[], _, rfl, .inl rfl, hdigits⟩
  · rintro ⟨plus, digits, rfl, rfl | rfl, hdigits⟩
    · -- No digit is taken for a plus sign.
      have hplus : afterPlus digits = digits := by
        unfold afterPlus
        split
        · exact absurd rfl (hdigits.1.unsigned hradix '+' rfl).1
        · rfl
      rw [List.nil_append, hplus]
      exact hdigits
    · exact hdigits

/-! ### Decimal literals -/

/-- What is read as an exponent: nothing at all, or a mark followed by a sign,
if there is one, and digits. -/
theorem isSome_exponent?_iff (cs : List Char) : (exponent? cs).isSome = true ↔ Exponent cs := by
  -- After the mark there is a sign and then digits.
  have hafter : ∀ mark rest, mark = 'e' ∨ mark = 'E' →
      ((exponent? (mark :: rest)).isSome = true ↔
        ∃ sign digits, Sign sign ∧ Digits 10 digits ∧ rest = sign ++ digits) := by
    intro mark rest hmark
    have hsame : (exponent? (mark :: rest)).isSome = (numeral? 10 (signed rest).2).isSome := by
      cases hsigned : signed rest with
      | mk negative digits =>
          rcases hmark with rfl | rfl
          · simp only [exponent?, hsigned]
            cases numeral? 10 digits <;> rfl
          · simp only [exponent?, hsigned]
            cases numeral? 10 digits <;> rfl
    rw [hsame, isSome_numeral?_iff isRadix_ten]
    constructor
    · intro hdigits
      obtain ⟨sign, hsign, hrest⟩ := exists_sign rest
      exact ⟨sign, _, hsign, hdigits, hrest⟩
    · rintro ⟨sign, digits, hsign, hdigits, rfl⟩
      rw [hsign.signed_append (hdigits.unsigned isRadix_ten)]
      exact hdigits
  constructor
  · intro hsome
    cases cs with
    | nil => exact .absent
    | cons mark rest =>
        have hmark : mark = 'e' ∨ mark = 'E' := by
          unfold exponent? at hsome
          split at hsome <;> simp_all
        obtain ⟨sign, digits, hsign, hdigits, rfl⟩ := (hafter mark rest hmark).mp hsome
        exact .given hmark hsign hdigits
  · intro hexponent
    cases hexponent with
    | absent => rfl
    | given hmark hsign hdigits =>
        exact (hafter _ _ hmark).mpr ⟨_, _, hsign, hdigits, rfl⟩

/-- Digits end before a text that does not begin with one. So they are split
off whole. -/
theorem span_digits {digits rest : List Char} (hdigits : ∀ c ∈ digits, c ∈ digitsOf 10)
    (hrest : ∀ c ∈ rest.head?, c ∉ digitsOf 10) :
    (digits ++ rest).takeWhile Char.isDigit = digits ∧
      (digits ++ rest).dropWhile Char.isDigit = rest := by
  have hpos : ∀ c ∈ digits, c.isDigit = true := fun c hc => (isDigit_iff c).mpr (hdigits c hc)
  rw [List.takeWhile_append_of_pos hpos, List.dropWhile_append_of_pos hpos]
  cases rest with
  | nil => simp
  | cons c rest =>
      have hnot : ¬ c.isDigit = true := fun hc => hrest c rfl ((isDigit_iff c).mp hc)
      simp [hnot]

/-- No digit is the mark of an exponent, and neither is a point. So the digits
before the mark are read up to the mark. -/
theorem Exponent.not_digit {cs : List Char} (hexponent : Exponent cs) :
    ∀ c ∈ cs.head?, c ∉ digitsOf 10 ∧ c ≠ '.' := by
  intro c hc
  cases hexponent with
  | absent => cases hc
  | given hmark =>
      cases hc
      rcases hmark with rfl | rfl <;> decide

/-- What a text begins with is split into the parts of a mantissa, if there is
a digit among them. Without that condition the text could begin with a point
and nothing else. -/
theorem exists_mantissa {cs : List Char}
    (hdigits : Digits 10 ((splitDigits cs).1 ++ (splitDigits cs).2.1)) :
    ∃ mantissa, Mantissa mantissa ∧ cs = mantissa ++ (splitDigits cs).2.2 := by
  have hcs : cs.takeWhile Char.isDigit ++ cs.dropWhile Char.isDigit = cs :=
    List.takeWhile_append_dropWhile
  unfold splitDigits at hdigits ⊢
  split at hdigits
  · -- There is a point, with digits on one side of it at least.
    rename_i rest hdrop
    have hrest : rest.takeWhile Char.isDigit ++ rest.dropWhile Char.isDigit = rest :=
      List.takeWhile_append_dropWhile
    dsimp only at hdigits ⊢
    generalize cs.takeWhile Char.isDigit = whole at hcs hdigits
    generalize rest.takeWhile Char.isDigit = fraction at hrest hdigits
    obtain ⟨hne, hall⟩ := hdigits
    rw [List.forall_mem_append] at hall
    rw [hdrop, ← hrest] at hcs
    by_cases hwhole : whole = []
    · subst hwhole
      exact ⟨_, .fraction ⟨hne, hall.2⟩, hcs.symm⟩
    · refine ⟨_, .mixed ⟨hwhole, hall.1⟩ hall.2, ?_⟩
      rw [List.append_assoc]
      exact hcs.symm
  · rw [List.append_nil] at hdigits
    exact ⟨_, .whole hdigits, hcs.symm⟩

/-- A mantissa is split into its digits and what follows. What follows is an
exponent, which begins with neither a digit nor a point, so the splitting ends
where the mantissa does. -/
theorem Mantissa.splitDigits_append {mantissa exponent : List Char}
    (hmantissa : Mantissa mantissa) (hexponent : Exponent exponent) :
    Digits 10 ((splitDigits (mantissa ++ exponent)).1 ++
        (splitDigits (mantissa ++ exponent)).2.1) ∧
      (splitDigits (mantissa ++ exponent)).2.2 = exponent := by
  have hstop : ∀ c ∈ exponent.head?, c ∉ digitsOf 10 := fun c hc => (hexponent.not_digit c hc).1
  -- The digits before a point and those after it are taken in turn.
  have hpoint : ∀ {digits fraction : List Char}, (∀ c ∈ digits, c ∈ digitsOf 10) →
      (∀ c ∈ fraction, c ∈ digitsOf 10) →
      splitDigits ((digits ++ '.' :: fraction) ++ exponent) = (digits, fraction, exponent) := by
    intro digits fraction hdigits hfraction
    have hdot : ∀ c ∈ ('.' :: (fraction ++ exponent)).head?, c ∉ digitsOf 10 := by
      intro c hc
      cases hc
      decide
    obtain ⟨htake, hdrop⟩ := span_digits hdigits hdot
    obtain ⟨htake', hdrop'⟩ := span_digits hfraction hstop
    rw [List.append_assoc, List.cons_append, splitDigits, htake, hdrop]
    simp only [htake', hdrop']
  cases hmantissa with
  | whole hdigits =>
      obtain ⟨htake, hdrop⟩ := span_digits hdigits.2 hstop
      have hsplit : splitDigits (mantissa ++ exponent) = (mantissa, [], exponent) := by
        rw [splitDigits, htake, hdrop]
        split
        · exact absurd rfl (hexponent.not_digit '.' rfl).2
        · rfl
      rw [hsplit, List.append_nil]
      exact ⟨hdigits, rfl⟩
  | mixed hdigits hfraction =>
      rw [hpoint hdigits.2 hfraction]
      refine ⟨⟨fun hnil => hdigits.1 (List.append_eq_nil_iff.mp hnil).1, ?_⟩, rfl⟩
      exact List.forall_mem_append.mpr ⟨hdigits.2, hfraction⟩
  | @fraction digits hdigits =>
      have hnone : ∀ c ∈ ([] : List Char), c ∈ digitsOf 10 := by simp
      have hsplit := hpoint hnone hdigits.2
      rw [List.nil_append] at hsplit
      rw [hsplit]
      exact ⟨hdigits, rfl⟩

/-- A mantissa begins with a digit or a point. So a sign before it cannot be
mistaken for a part of it. -/
theorem Mantissa.unsigned {mantissa : List Char} (hmantissa : Mantissa mantissa)
    (rest : List Char) : Unsigned (mantissa ++ rest) := by
  -- Digits are not empty, and the first one is no sign.
  have hdigits : ∀ {digits rest : List Char}, Digits 10 digits → Unsigned (digits ++ rest) := by
    intro digits rest hdigits c hc
    cases digits with
    | nil => exact absurd rfl hdigits.1
    | cons d digits => exact hdigits.unsigned isRadix_ten c hc
  cases hmantissa with
  | whole hwhole => exact hdigits hwhole
  | mixed hwhole =>
      rw [List.append_assoc]
      exact hdigits hwhole
  | fraction =>
      intro c hc
      cases hc
      decide

/-- The decimal literals that are read: a sign, a mantissa and an exponent, of
which the first and the last may be empty. -/
theorem isSome_decimal?_iff (cs : List Char) :
    (decimal? cs).isSome = true ↔ ∃ sign mantissa exponent, Sign sign ∧ Mantissa mantissa ∧
      Exponent exponent ∧ cs = sign ++ (mantissa ++ exponent) := by
  -- Reading goes through if the digits and the exponent are read, whatever their values are.
  have hparts : (decimal? cs).isSome = true ↔
      Digits 10 ((splitDigits (signed cs).2).1 ++ (splitDigits (signed cs).2).2.1) ∧
        Exponent (splitDigits (signed cs).2).2.2 := by
    rw [← isSome_numeral?_iff isRadix_ten, ← isSome_exponent?_iff]
    unfold decimal?
    dsimp only
    cases numeral? 10 ((splitDigits (signed cs).2).1 ++ (splitDigits (signed cs).2).2.1) with
    | none => simp
    | some coefficient => cases exponent? (splitDigits (signed cs).2).2.2 <;> simp
  rw [hparts]
  constructor
  · rintro ⟨hdigits, hexponent⟩
    obtain ⟨sign, hsign, hcs⟩ := exists_sign cs
    obtain ⟨mantissa, hmantissa, hunsigned⟩ := exists_mantissa hdigits
    exact ⟨sign, mantissa, _, hsign, hmantissa, hexponent, by rw [← hunsigned, ← hcs]⟩
  · rintro ⟨sign, mantissa, exponent, hsign, hmantissa, hexponent, rfl⟩
    obtain ⟨hdigits, hrest⟩ := hmantissa.splitDigits_append hexponent
    rw [hsign.signed_append (hmantissa.unsigned exponent), hrest]
    exact ⟨hdigits, hexponent⟩

/-! ### Numbers -/

/-- The letter of an announcement goes on no decimal literal. After the zero
it is neither a digit nor a point nor the mark of an exponent. -/
theorem decimal?_of_announced {letter : Char} {radix : Nat} (hletter : Announces letter radix)
    (rest : List Char) : decimal? ('0' :: letter :: rest) = none := by
  have hall : ∀ letter ∈ ['x', 'X', 'o', 'O', 'b', 'B'],
      letter.isDigit = false ∧ letter ≠ '.' ∧ letter ≠ 'e' ∧ letter ≠ 'E' :=
    forall_mem_of_all (by decide)
  obtain ⟨hdigit, hpoint, he, hE⟩ := hall letter (by
    cases hletter with
    | hexadecimal hletter => rcases hletter with rfl | rfl <;> simp
    | octal hletter => rcases hletter with rfl | rfl <;> simp
    | binary hletter => rcases hletter with rfl | rfl <;> simp)
  have hsplit : splitDigits ('0' :: letter :: rest) = (['0'], [], letter :: rest) := by
    have hzero : '0'.isDigit = true := rfl
    unfold splitDigits
    simp only [List.takeWhile_cons, List.dropWhile_cons, hzero, hdigit, if_true]
    split
    · rename_i hcons
      simp_all
    · simp_all
  have hexponent : exponent? (letter :: rest) = none := by
    unfold exponent?
    split <;> simp_all
  have hsigned : signed ('0' :: letter :: rest) = (false, '0' :: letter :: rest) := rfl
  simp only [decimal?, hsigned, hsplit, hexponent]
  cases numeral? 10 (['0'] ++ []) <;> rfl

/-- After an announcement all depends on what is announced. No other clause of
the grammar has texts that begin like this. -/
theorem numeric_of_announced {announced : Nat → List Char → Prop} {letter : Char} {radix : Nat}
    (hletter : Announces letter radix) (rest : List Char) :
    Numeric announced ('0' :: letter :: rest) ↔ announced radix rest := by
  constructor
  · intro hnumeric
    generalize htext : '0' :: letter :: rest = text at hnumeric
    cases hnumeric with
    | empty => cases htext
    | infinity hsign => cases hsign <;> cases htext
    | decimal hsign hmantissa hexponent =>
        have hsome := (isSome_decimal?_iff _).mpr ⟨_, _, _, hsign, hmantissa, hexponent, rfl⟩
        rw [← htext, decimal?_of_announced hletter] at hsome
        cases hsome
    | numeral hletter' hrest =>
        cases htext
        -- A letter announces one radix.
        have hradix : radix? ('0' :: letter :: rest) = some (radix, rest) :=
          radix?_eq_some_iff.mpr ⟨letter, hletter, rfl⟩
        rw [radix?_eq_some_iff.mpr ⟨letter, hletter', rfl⟩] at hradix
        cases hradix
        exact hrest
  · exact .numeral hletter

/-- The texts that are read as numbers are those of the grammar with words.
The reader tries its clauses in an order, and the grammar has none. So where
the reader comes to a later clause, the earlier ones have to be excluded. -/
theorem isSome_number?_iff (cs : List Char) :
    (number? cs).isSome = true ↔ Numeric Word cs := by
  unfold number?
  split
  · rename_i radix rest hradix
    obtain ⟨letter, hletter, rfl⟩ := radix?_eq_some_iff.mp hradix
    rw [Option.isSome_map, isSome_word?_iff hletter.isRadix, numeric_of_announced hletter]
  · rename_i hradix
    constructor
    · intro hsome
      split at hsome
      · rename_i negative hinfinity
        obtain ⟨sign, hsign, rfl⟩ := (isSome_infinity?_iff cs).mp (by rw [hinfinity]; rfl)
        exact .infinity hsign
      · split at hsome
        · rename_i hempty
          rw [List.isEmpty_iff.mp hempty]
          exact .empty
        · obtain ⟨sign, mantissa, exponent, hsign, hmantissa, hexponent, rfl⟩ :=
            (isSome_decimal?_iff cs).mp hsome
          exact .decimal hsign hmantissa hexponent
    -- An announced radix has been excluded, so of the four clauses three are left.
    · intro hnumeric
      split
      · rfl
      · rename_i hinfinity
        split
        · rfl
        · rename_i hempty
          cases hnumeric with
          | empty => exact absurd rfl hempty
          | infinity hsign =>
              have hsome := (isSome_infinity?_iff _).mpr ⟨_, hsign, rfl⟩
              rw [hinfinity] at hsome
              cases hsome
          | decimal hsign hmantissa hexponent =>
              exact (isSome_decimal?_iff _).mpr ⟨_, _, _, hsign, hmantissa, hexponent, rfl⟩
          | numeral hletter =>
              rw [radix?_eq_some_iff.mpr ⟨_, hletter, rfl⟩] at hradix
              cases hradix

end Literal

namespace Number

/-- A number that is built from its place in the order of numbers is none that
is not one. -/
theorem isNaN_ofRank (negative : Bool) (rank : Nat) : (ofRank negative rank).isNaN = false := by
  unfold ofRank
  split <;> rfl

/-- What is rounded is a number or infinite. -/
theorem isNaN_nearest (negative : Bool) (numerator denominator : Nat) :
    (nearest negative numerator denominator).isNaN = false :=
  isNaN_ofRank negative _

/-- A decimal literal is rounded, or is zero or infinite because of its
exponent. -/
theorem isNaN_decimal (negative : Bool) (coefficient : Nat) (exponent : Int) :
    (Literal.decimal negative coefficient exponent).isNaN = false := by
  unfold Literal.decimal
  dsimp only
  split
  · exact isNaN_ofRank negative 0
  · split
    · rfl
    · split
      · exact isNaN_nearest negative _ _
      · exact isNaN_nearest negative _ _

/-- What is read as a number is one. Only a text that is not read has `nan`
for its number. -/
theorem isNaN_of_number? {cs : List Char} {n : Number} (hread : Literal.number? cs = some n) :
    n.isNaN = false := by
  unfold Literal.number? at hread
  split at hread
  · obtain ⟨value, -, rfl⟩ := Option.map_eq_some_iff.mp hread
    exact isNaN_nearest false value 1
  · split at hread
    · cases hread
      rfl
    · split at hread
      · cases hread
        rfl
      · unfold Literal.decimal? at hread
        dsimp only at hread
        split at hread
        · cases hread
          exact isNaN_decimal _ _ _
        · cases hread

end Number

open Literal

/-- Every text has a number, and the texts whose number is not NaN are the
numeric ones. What follows the announcement of a radix must be a word. -/
theorem toNumber_numeric (text : String) :
    ∃ n, (Value.string text).toNumber = .ok n ∧
      (n.isNaN = false ↔ Numeric Word (Text.trim text.toList)) := by
  refine ⟨.ofText text, rfl, ?_⟩
  rw [← isSome_number?_iff, Number.ofText]
  cases hread : number? (Text.trim text.toList) with
  | none => simp [Number.isNaN]
  | some n => simpa using Number.isNaN_of_number? hread

/-- A sign after an announcement is read, which is not in the grammar of
scripts, and a numeral with seventeen digits is not, although it is in that
grammar. -/
theorem toNumber_not_grammatical :
    (¬ Numeric Digits "0x+1".toList ∧ (Value.string "0x+1").toNumber = .ok (.ofNat 1)) ∧
      Numeric Digits "0x10000000000000000".toList ∧
      (Value.string "0x10000000000000000").toNumber = .ok .nan := by
  have hhex : Announces 'x' 16 := .hexadecimal (.inl rfl)
  refine ⟨⟨?_, ?_⟩, ?_, rfl⟩
  · intro hnumeric
    have hdigits : Digits 16 ['+', '1'] := (numeric_of_announced hhex _).mp hnumeric
    exact absurd (hdigits.2 '+' List.mem_cons_self) (by decide)
  · -- The number is not evaluated, only what it is made of.
    have hword : word? 16 ['+', '1'] = some 1 := by decide
    have hread : number? (Text.trim "0x+1".toList) = some (.ofNat 1) := by
      show (word? 16 ['+', '1']).map Number.ofNat = _
      rw [hword, Option.map_some]
    show Except.ok ((number? (Text.trim "0x+1".toList)).getD .nan) = _
    rw [hread, Option.getD_some]
  · refine (numeric_of_announced hhex _).mpr ⟨by simp, ?_⟩
    exact forall_mem_of_all (by decide)

end ScriptRealm
