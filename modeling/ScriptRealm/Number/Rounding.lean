import ScriptRealm.Number.Basic

/-!
# Rounding to a number

`Number.nearest` is the number nearest to an exact quotient, the one
with the even significand when two are equally near, and infinity once
the quotient is past the largest finite number by half a unit.

The quotient is first counted in least numbers. `unitOf` finds the unit
in which it has 53 significant bits, or the least unit if it is too
small for that; `nearestMultiple` then rounds once. Significand and
unit together are the place of the result in the list of numbers, so a
significand that rounds up to `2 ^ 53` needs no case of its own.
-/

set_option autoImplicit false

namespace ScriptRealm

namespace Number

/-- The whole number nearest to `a / d`, the even one of two equally
near. -/
def nearestMultiple (a d : Nat) : Nat :=
  let q := a / d
  let r := a % d
  if 2 * r < d then q
  else if d < 2 * r then q + 1
  else if q % 2 = 0 then q
  else q + 1

/-- The unit, as a power of two, in which `a / d` has 53 significant
bits; `0` if it has fewer in every unit. -/
def unitOf (a d : Nat) : Nat :=
  let p := a.log2 - (d.log2 + 52)
  -- The two logarithms are rounded down, so their difference can be one too large.
  if 0 < p ∧ a < d * Nat.pow 2 (p + 52) then p - 1 else p

/-- The number nearest to `numerator / denominator`, with the given
sign. -/
def nearest (negative : Bool) (numerator denominator : Nat) : Number :=
  let a := numerator * one
  let p := unitOf a denominator
  -- A unit up is `2 ^ 52` places up in the list of numbers.
  ofRank negative (p * Nat.pow 2 52 + nearestMultiple a (denominator * Nat.pow 2 p))

/-- The number nearest to a natural number. -/
def ofNat (n : Nat) : Number := nearest false n 1

/-- The number nearest to an integer. -/
def ofInt (i : Int) : Number := nearest (i < 0) i.natAbs 1

end Number

end ScriptRealm
