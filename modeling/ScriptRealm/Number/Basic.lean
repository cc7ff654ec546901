/-!
# Script numbers

A script number is a double-precision number, held here by its fields
rather than as a machine word. NaN is one value and zero keeps its
sign, so equality of `Number` is the relation that tells two numbers
apart only when a script could: NaN equals NaN, and the zeros differ.

Every finite number is a whole multiple of the least positive one,
`2 ^ (-1074)`. `Number.multiple` is that whole number without the sign,
and each question of size below is asked of it in `Nat`.
-/

set_option autoImplicit false

namespace ScriptRealm

/-- A double-precision number by its fields. A finite one with exponent
field `0` is `fraction * 2 ^ (-1074)`; any other is
`(2 ^ 52 + fraction) * 2 ^ (exponent - 1075)`. -/
inductive Number where
  | nan
  | infinite (negative : Bool)
  | finite (negative : Bool) (exponent : Fin 2047) (fraction : Fin (Nat.pow 2 52))
  deriving DecidableEq, Inhabited

namespace Number

/-- The positive zero. -/
def zero : Number := .finite false 0 0

/-- The negative zero. -/
def negativeZero : Number := .finite true 0 0

/-- Either zero. -/
def isZero : Number → Bool
  | .finite _ exponent fraction => exponent == 0 && fraction == 0
  | _ => false

def isNaN : Number → Bool
  | .nan => true
  | _ => false

/-- The finite number at a place in the list of non-negative finite
numbers, smallest first; past its end, infinity. The place of a number
is its exponent and fraction fields read as one numeral. -/
def ofRank (negative : Bool) (rank : Nat) : Number :=
  if h : rank < 2047 * Nat.pow 2 52 then
    .finite negative
      ⟨rank / Nat.pow 2 52, Nat.div_lt_of_lt_mul (Nat.mul_comm 2047 _ ▸ h)⟩
      ⟨rank % Nat.pow 2 52, Nat.mod_lt _ (by decide)⟩
  else
    .infinite negative

/-- The number a 64-bit word stands for. Every NaN word is `nan`. -/
def ofBits (word : UInt64) : Number :=
  let rank := word.toNat % Nat.pow 2 63
  if 2047 * Nat.pow 2 52 < rank then .nan else ofRank (Nat.pow 2 63 ≤ word.toNat) rank

/-- The sign bit in its place. -/
def signWord (negative : Bool) : Nat := if negative then Nat.pow 2 63 else 0

/-- The word of a number: the inverse of `ofBits` but for NaN, which
has the word of a quiet NaN. -/
def bits : Number → UInt64
  | .nan => 0x7ff8000000000000
  | .infinite negative => UInt64.ofNat (signWord negative + 2047 * Nat.pow 2 52)
  | .finite negative exponent fraction =>
      UInt64.ofNat (signWord negative + exponent.val * Nat.pow 2 52 + fraction.val)

/-! ### Size, counted in least numbers -/

/-- The significand of the two fields: the fraction, with the leading
one that every exponent but `0` implies. -/
def significand (exponent : Fin 2047) (fraction : Fin (Nat.pow 2 52)) : Nat :=
  if exponent = 0 then fraction.val else Nat.pow 2 52 + fraction.val

/-- The place value of a significand's last bit, as a power of two
times the least number. -/
def unit (exponent : Fin 2047) : Nat := exponent.val - 1

/-- How many least numbers a finite number's absolute value is. -/
def multiple (exponent : Fin 2047) (fraction : Fin (Nat.pow 2 52)) : Nat :=
  significand exponent fraction * Nat.pow 2 (unit exponent)

/-- How many least numbers make one. -/
def one : Nat := Nat.pow 2 1074

/-- The whole number that a finite number without fractional part is,
unless it is below zero. Negative zero is `0`. -/
def toNat? : Number → Option Nat
  | .finite negative exponent fraction =>
      let m := multiple exponent fraction
      if m % one = 0 ∧ (negative = false ∨ m = 0) then some (m / one) else none
  | _ => none

/-- The largest integer up to which every integer is a number. -/
def maxSafeInteger : Nat := Nat.pow 2 53 - 1

/-- A number as a length: NaN and everything not above zero is `0`,
fractions are cut off, and the largest length is `maxSafeInteger`. -/
def toLength : Number → Nat
  | .nan => 0
  | .infinite negative => if negative then 0 else maxSafeInteger
  | .finite negative exponent fraction =>
      if negative then 0 else min (multiple exponent fraction / one) maxSafeInteger

/-! ### Equality as scripts ask for it -/

/-- Equality up to the sign of zero; NaN equals itself. -/
def sameZero (x y : Number) : Bool := x == y || (x.isZero && y.isZero)

/-- Equality of quantities: NaN equals nothing, the zeros are equal. -/
def equal (x y : Number) : Bool := !x.isNaN && sameZero x y

end Number

end ScriptRealm
