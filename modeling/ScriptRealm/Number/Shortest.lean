import ScriptRealm.Number.Rounding

/-!
# Shortest decimals

The shortest decimal of a positive finite number has the fewest
significant digits that still read back as the number, and of those it
is the nearest to it.

The decimals that read back lie between the midpoints to the two
neighbouring numbers; the midpoints themselves read back exactly when
the significand is even. Four times the significand counts the number in
quarter units, in which both midpoints are whole: two quarters above,
and two below, or only one where the number is the first with its
exponent. For one digit, then two, up to seventeen, the number's two
neighbours on that decimal grid are compared with these bounds in exact
arithmetic.
-/

set_option autoImplicit false

namespace ScriptRealm

/-- The decimal `coefficient * 10 ^ exponent`. -/
structure Decimal where
  coefficient : Nat
  exponent : Int
  deriving DecidableEq, Inhabited

/-- What a tie between two equally near decimals goes to. -/
inductive Tie where
  | even
  | up
  deriving DecidableEq

namespace Number

/-- The number of decimal digits of a natural number. -/
def digitCount (n : Nat) : Int := (Nat.toDigits 10 n).length

/-- The power of ten just above `numerator / denominator`, which must be
positive: the place of its first digit. -/
def decimalPlace (numerator denominator : Nat) : Int :=
  if denominator ≤ numerator then
    digitCount (numerator / denominator)
  else
    1 - digitCount ((denominator - 1) / numerator)

/-- The decimals that read back as one number, in quarter units: `value`
between `below` and `above`, ends included if `closed`. A quarter unit
is `2 ^ unit` of the `4 * one` quarters of a least number that make
one. -/
structure Neighbourhood where
  below : Nat
  value : Nat
  above : Nat
  closed : Bool

/-- The neighbourhood of the number with the given fields. -/
def neighbourhood (exponent : Fin 2047) (fraction : Fin (Nat.pow 2 52)) : Neighbourhood :=
  let quarter := Nat.pow 2 (unit exponent)
  let m := significand exponent fraction
  -- The first number with its exponent has a nearer neighbour below.
  let gap := if fraction.val = 0 ∧ 1 < exponent.val then 1 else 2
  { below := (4 * m - gap) * quarter
    value := 4 * m * quarter
    above := (4 * m + 2) * quarter
    closed := m % 2 = 0 }

/-- A decimal on the grid of multiples of `10 ^ place` that reads back,
if the neighbourhood holds one: the nearer of the two beside the value,
and of two equally near ones as `tie` says. -/
def Neighbourhood.onGrid? (near : Neighbourhood) (tie : Tie) (place : Int) : Option Decimal :=
  let up := Nat.pow 10 (-place).toNat
  let down := 4 * one * Nat.pow 10 place.toNat
  let within (a b : Nat) : Bool := a < b || (near.closed && a == b)
  let low := near.value * up / down
  let high := low + 1
  let lowReads := within (near.below * up) (low * down)
  let highReads := within (high * down) (near.above * up)
  -- How far each of the two is away, both over the same denominator.
  let toLow := near.value * up - low * down
  let toHigh := high * down - near.value * up
  let preferLow := toLow < toHigh ||
    (toLow == toHigh && match tie with
      | .even => low % 2 == 0
      | .up => false)
  if lowReads && (preferLow || !highReads) then some ⟨low, place⟩
  else if highReads then some ⟨high, place⟩
  else none

/-- The shortest decimal of a positive finite number. Seventeen digits
always suffice. -/
def shortest (tie : Tie) (exponent : Fin 2047) (fraction : Fin (Nat.pow 2 52)) : Decimal :=
  let near := neighbourhood exponent fraction
  let first := decimalPlace near.value (4 * one)
  let grids := (List.range 17).map fun n => first - (n + 1 : Nat)
  (grids.findSome? (near.onGrid? tie)).getD ⟨0, 0⟩

end Number

end ScriptRealm
