import ScriptRealm.Number.Literal
import ScriptRealm.Toml.Document

/-!
# Scalars without quotes

Booleans, numbers and dates in a document. Digits may be grouped by
single underscores. An integer has no leading zeros unless it announces a
radix, which excludes a sign; it must fit 128 bits, signed or not. A
float must not overflow. Dates and times must exist.
-/

set_option autoImplicit false

namespace ScriptRealm.Toml

/-- A digit of a radix. -/
def isDigitOf (radix : Nat) (c : Char) : Bool := (Literal.digitOf? radix c).isSome

/-- Digits of a radix without the underscores that group them, each of
which must stand between two digits. -/
def ungroup? (radix : Nat) : List Char → Option (List Char)
  | [] => none
  | [c] => if isDigitOf radix c then some [c] else none
  | c :: '_' :: rest => if isDigitOf radix c then (ungroup? radix rest).map (c :: ·) else none
  | c :: rest => if isDigitOf radix c then (ungroup? radix rest).map (c :: ·) else none

/-- The value of grouped digits. -/
def grouped? (radix : Nat) (cs : List Char) : Option Nat :=
  (ungroup? radix cs).bind (Literal.numeral? radix)

/-- Grouped decimal digits without a leading zero. -/
def wholePart? (cs : List Char) : Option (List Char) :=
  match ungroup? 10 cs with
  | some ('0' :: _ :: _) => none
  | digits => digits

/-- An integer. -/
def integer? (cs : List Char) : Option Int :=
  let value : Option Int :=
    match cs with
    -- A sign may stand only before decimal digits.
    | '0' :: 'x' :: digits => (grouped? 16 digits).map Int.ofNat
    | '0' :: 'o' :: digits => (grouped? 8 digits).map Int.ofNat
    | '0' :: 'b' :: digits => (grouped? 2 digits).map Int.ofNat
    | _ =>
        let (negative, digits) := Literal.signed cs
        ((wholePart? digits).bind (Literal.numeral? 10)).map fun n =>
          if negative then -(n : Int) else n
  value.filter fun i => -(Int.pow 2 127) ≤ i && i < Int.pow 2 128

/-- Whether a text is a float, and if so its number. -/
def float? (cs : List Char) : Option Number :=
  let (negative, unsigned) := Literal.signed cs
  if unsigned = "inf".toList then some (.infinite negative)
  else if unsigned = "nan".toList then some .nan
  else
    let mark (c : Char) : Bool := c == 'e' || c == 'E'
    let mantissa := unsigned.takeWhile (!mark ·)
    let whole := mantissa.takeWhile (· != '.')
    let point := mantissa.drop whole.length
    let scale := unsigned.drop mantissa.length
    let fraction? : Option (List Char) :=
      match point with
      | [] => some []
      | _ :: digits => ungroup? 10 digits
    let exponent? : Option (List Char) :=
      match scale with
      | [] => some []
      | _ :: '-' :: digits => (ungroup? 10 digits).map ('-' :: ·)
      | _ :: '+' :: digits | _ :: digits => ungroup? 10 digits
    match wholePart? whole, fraction?, exponent? with
    | some whole, some fraction, some exponent =>
        -- Without point and exponent it is an integer, if perhaps one too large to be read.
        if point.isEmpty && scale.isEmpty then none
        else
          let scaled := if exponent.isEmpty then [] else 'e' :: exponent
          (Literal.decimal? (whole ++ '.' :: fraction ++ scaled)).bind fun n =>
            match n with
            -- The sign was taken off at the start.
            | .finite _ e f => some (.finite negative e f)
            | _ => none
    | _, _, _ => none

/-! ### Dates and times -/

/-- A number of exactly as many decimal digits as the characters given. -/
def fixed? (cs : List Char) (low high : Nat) : Option Nat :=
  if cs.all Char.isDigit then
    (Literal.numeral? 10 cs).filter fun n => low ≤ n && n ≤ high
  else none

/-- The number of days of a month. -/
def daysIn (year month : Nat) : Nat :=
  if month = 2 then
    if year % 4 = 0 ∧ (year % 100 ≠ 0 ∨ year % 400 = 0) then 29 else 28
  else if month = 4 ∨ month = 6 ∨ month = 9 ∨ month = 11 then 30
  else 31

/-- A date of ten characters that exists. -/
def isDate : List Char → Bool
  | [y1, y2, y3, y4, '-', m1, m2, '-', d1, d2] =>
      match fixed? [y1, y2, y3, y4] 0 9999, fixed? [m1, m2] 1 12 with
      | some year, some month => (fixed? [d1, d2] 1 (daysIn year month)).isSome
      | _, _ => false
  | _ => false

/-- What follows the seconds of a time, which may have a fraction. -/
def secondsRest? : List Char → Option (List Char)
  | s1 :: s2 :: '.' :: digits =>
      if (fixed? [s1, s2] 0 60).isNone || (digits.takeWhile Char.isDigit).isEmpty then none
      else some (digits.dropWhile Char.isDigit)
  | s1 :: s2 :: rest => (fixed? [s1, s2] 0 60).map fun _ => rest
  | _ => none

/-- What follows a time of day. The seconds may be missing. -/
def timeRest? : List Char → Option (List Char)
  | h1 :: h2 :: ':' :: m1 :: m2 :: rest =>
      match fixed? [h1, h2] 0 23, fixed? [m1, m2] 0 59 with
      | some _, some _ =>
          match rest with
          | ':' :: seconds => secondsRest? seconds
          | _ => some rest
      | _, _ => none
  | _ => none

/-- A distance from universal time. -/
def isOffset : List Char → Bool
  | ['Z'] | ['z'] => true
  | [sign, h1, h2, ':', m1, m2] =>
      (sign == '+' || sign == '-') && (fixed? [h1, h2] 0 23).isSome &&
        (fixed? [m1, m2] 0 59).isSome
  | _ => false

/-- A date, a time, or both with or without a distance from universal
time. -/
def isDateTime (cs : List Char) : Bool :=
  if isDate cs then true
  else if timeRest? cs = some [] then true
  else
    -- A date has ten characters; what follows it starts with the mark of a time.
    match cs.drop 10 with
    | mark :: time =>
        isDate (cs.take 10) && (mark == 'T' || mark == 't' || mark == ' ') &&
          match timeRest? time with
          | some [] => true
          | some offset => isOffset offset
          | none => false
    | [] => false

/-- What a scalar without quotes stands for. -/
def scalar? (cs : List Char) : Option Node :=
  if cs = "true".toList then some (.boolean true)
  else if cs = "false".toList then some (.boolean false)
  else if isDateTime cs then some (.dateTime (String.ofList cs))
  else
    match integer? cs with
    | some i => some (.integer i)
    | none => (float? cs).map .float

end ScriptRealm.Toml
