import ScriptRealm.Number.Shortest

/-!
# The text of a number

A `NumberFormat` says how the digits of a shortest decimal are laid
out: which magnitudes are written positionally, how an exponent is
marked, and what becomes of the special numbers. Scripts see
`NumberFormat.script`; the inspection of records uses
`NumberFormat.inspection`.
-/

set_option autoImplicit false

namespace ScriptRealm

/-- How a number is written. -/
structure NumberFormat where
  /-- Numbers from `10 ^ positionalFrom` on are written positionally. -/
  positionalFrom : Int
  /-- Numbers from `10 ^ positionalTo` on are not. -/
  positionalTo : Int
  /-- The mark of a positive exponent. -/
  positiveExponent : String
  /-- What follows a whole number written positionally. -/
  wholeSuffix : String
  /-- Whether negative zero keeps its sign. -/
  signedZero : Bool
  /-- The text of positive infinity. -/
  infinity : String
  /-- Which of two equally near shortest decimals is written. -/
  tie : Tie

/-- The text scripts see: positional from `0.000001` up to below `1e+21`,
both zeros `0`. -/
def NumberFormat.script : NumberFormat where
  positionalFrom := -6
  positionalTo := 21
  positiveExponent := "e+"
  wholeSuffix := ""
  signedZero := false
  infinity := "Infinity"
  tie := .even

/-- The text in inspected records: positional from `0.0001` up to below
`1e16`, and always recognisable as a fraction. -/
def NumberFormat.inspection : NumberFormat where
  positionalFrom := -4
  positionalTo := 16
  positiveExponent := "e"
  wholeSuffix := ".0"
  signedZero := true
  infinity := "inf"
  tie := .up

namespace NumberFormat

/-- Lays out digits without trailing zeros. The decimal point stands
after the first `point` of them, or that many zeros in front of them if
`point` is negative. -/
def layout (format : NumberFormat) (digits : List Char) (point : Int) : String :=
  let zeros (n : Int) : List Char := List.replicate n.toNat '0'
  let count : Int := digits.length
  if format.positionalFrom < point ∧ point ≤ format.positionalTo then
    -- Positional: all digits before the point, the point among them, or all behind it.
    if count ≤ point then
      String.ofList (digits ++ zeros (point - count)) ++ format.wholeSuffix
    else if 0 < point then
      String.ofList (digits.take point.toNat ++ '.' :: digits.drop point.toNat)
    else
      String.ofList ('0' :: '.' :: zeros (-point) ++ digits)
  else
    -- One digit stands before the point here.
    let exponent := point - 1
    let mark := if exponent < 0 then "e-" else format.positiveExponent
    let mantissa := match digits with
      | first :: second :: rest => first :: '.' :: second :: rest
      | short => short
    String.ofList mantissa ++ mark ++ toString exponent.natAbs

/-- The text of a decimal that is not zero. -/
def decimalText (format : NumberFormat) (d : Decimal) : String :=
  let digits := Nat.toDigits 10 d.coefficient
  let significant := (digits.reverse.dropWhile (· == '0')).reverse
  -- Dropping zeros at the end does not move the point.
  format.layout significant (digits.length + d.exponent)

/-- The mark of a negative number. -/
def sign (negative : Bool) : String := if negative then "-" else ""

/-- The text of a number. -/
def text (format : NumberFormat) : Number → String
  | .nan => "NaN"
  | .infinite negative => sign negative ++ format.infinity
  | .finite negative exponent fraction =>
      if exponent.val = 0 ∧ fraction.val = 0 then
        sign (negative && format.signedZero) ++ "0" ++ format.wholeSuffix
      else
        sign negative ++ format.decimalText (Number.shortest format.tie exponent fraction)

end NumberFormat

/-- The text of a number as scripts see it. -/
def Number.toText (n : Number) : String := NumberFormat.script.text n

end ScriptRealm
