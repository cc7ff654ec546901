import ScriptRealm.Number.Rounding
import ScriptRealm.Text.Blank

/-!
# Reading numbers from text

`Number.ofText` reads a whole text, blanks at its ends aside: nothing at
all is zero, `0x`, `0o` and `0b` introduce a numeral of that radix,
`Infinity` may carry a sign, and everything else is a decimal literal or
not a number.

A numeral of a radix must be below `2 ^ 64`; a plus sign may stand
between it and its introduction. A decimal literal is a sign, digits with
a point anywhere among or beside them, and an exponent; sign, point and
exponent are optional, one digit is not.
-/

set_option autoImplicit false

namespace ScriptRealm

namespace Literal

/-- The value of a character as a digit of any radix up to sixteen. -/
def digitValue? (c : Char) : Option Nat :=
  if '0' ≤ c ∧ c ≤ '9' then some (c.toNat - '0'.toNat)
  else if 'a' ≤ c ∧ c ≤ 'f' then some (c.toNat - 'a'.toNat + 10)
  else if 'A' ≤ c ∧ c ≤ 'F' then some (c.toNat - 'A'.toNat + 10)
  else none

/-- The value of a digit of the given radix. -/
def digitOf? (radix : Nat) (c : Char) : Option Nat :=
  (digitValue? c).filter (· < radix)

/-- The value of a non-empty run of digits of the given radix and
nothing else. -/
def numeral? (radix : Nat) (cs : List Char) : Option Nat :=
  if cs.isEmpty then none
  else cs.foldlM (fun value c => (digitOf? radix c).map (value * radix + ·)) 0

/-- The text after one plus sign, if it starts with one. -/
def afterPlus : List Char → List Char
  | '+' :: rest => rest
  | cs => cs

/-- The natural number below `2 ^ 64` that a numeral of the given radix
stands for. -/
def word? (radix : Nat) (cs : List Char) : Option Nat :=
  (numeral? radix (afterPlus cs)).filter (· < Nat.pow 2 64)

/-- The radix a text announces, and the text after the announcement. -/
def radix? : List Char → Option (Nat × List Char)
  | '0' :: 'x' :: rest | '0' :: 'X' :: rest => some (16, rest)
  | '0' :: 'o' :: rest | '0' :: 'O' :: rest => some (8, rest)
  | '0' :: 'b' :: rest | '0' :: 'B' :: rest => some (2, rest)
  | _ => none

/-- Whether a text starts with a minus sign, and what follows its sign
if it has one. -/
def signed : List Char → Bool × List Char
  | '-' :: rest => (true, rest)
  | '+' :: rest => (false, rest)
  | cs => (false, cs)

/-- The exponent of a decimal literal: the whole of what follows its
digits. -/
def exponent? : List Char → Option Int
  | [] => some 0
  | 'e' :: rest | 'E' :: rest =>
      let (negative, digits) := signed rest
      (numeral? 10 digits).map fun n => if negative then -(n : Int) else n
  | _ => none

/-- The digits before the point, the digits after it, and the rest. -/
def splitDigits (cs : List Char) : List Char × List Char × List Char :=
  let whole := cs.takeWhile Char.isDigit
  match cs.dropWhile Char.isDigit with
  | '.' :: rest => (whole, rest.takeWhile Char.isDigit, rest.dropWhile Char.isDigit)
  | rest => (whole, [], rest)

/-- The number nearest to `coefficient * 10 ^ exponent`. A decimal far
outside the range of numbers is settled by its first digit's place, so
that no power of ten is larger than the literal or the range. -/
def decimal (negative : Bool) (coefficient : Nat) (exponent : Int) : Number :=
  let place : Int := (Nat.toDigits 10 coefficient).length + exponent
  if coefficient = 0 ∨ place < -400 then .ofRank negative 0
  else if 400 < place then .infinite negative
  else if 0 ≤ exponent then .nearest negative (coefficient * Nat.pow 10 exponent.toNat) 1
  else .nearest negative coefficient (Nat.pow 10 (-exponent).toNat)

/-- The number a decimal literal stands for. -/
def decimal? (cs : List Char) : Option Number :=
  let (negative, unsigned) := signed cs
  let (whole, fraction, rest) := splitDigits unsigned
  let digits := whole ++ fraction
  match numeral? 10 digits, exponent? rest with
  | some coefficient, some exponent =>
      some (decimal negative coefficient (exponent - fraction.length))
  | _, _ => none

/-- The sign of an infinity that is written out. -/
def infinity? (cs : List Char) : Option Bool :=
  let (negative, rest) := signed cs
  if rest = "Infinity".toList then some negative else none

/-- The number a text without blanks at its ends stands for. -/
def number? (cs : List Char) : Option Number :=
  match radix? cs with
  -- No sign may stand before an announced radix, though a plus may stand after it.
  | some (radix, digits) => (word? radix digits).map .ofNat
  | none =>
      match infinity? cs with
      | some negative => some (.infinite negative)
      -- Blanks alone stand for zero.
      | none => if cs.isEmpty then some .zero else decimal? cs

end Literal

/-- The number a text stands for, NaN if it is no number. -/
def Number.ofText (text : String) : Number :=
  (Literal.number? (Text.trim text.toList)).getD .nan

end ScriptRealm
