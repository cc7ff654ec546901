import ScriptRealm.Number.Text
import ScriptRealm.Proofs.Number.Whole

/-!
# `ScriptRealm.Proofs.Number.WholeText`: the text of a whole number

A natural number below `2 ^ 53` is written with its decimal digits. The text
of a number is laid out from its shortest decimal, and that may have fewer
digits: the shortest decimal of `1200` is `12 * 10 ^ 2`.

The decimals that read back as a number below `2 ^ 53` are less than one away
from it (`neighbourhood_narrow`). So a grid of whole numbers holds such a
decimal only if it holds the number itself (`Neighbourhood.onGrid?_of_narrow`).
The grid of ones does. The search for the shortest decimal ends there or
earlier, with the number itself in fewer digits and a power of ten
(`exists_shortest`), and the layout puts the zeros back (`IsWhole.toText_eq`).
-/

set_option autoImplicit false

namespace ScriptRealm

namespace Number

/-- The number is the given natural number. Zero may have a sign. -/
def IsWhole (n : Number) (i : Nat) : Prop :=
  ∃ negative exponent fraction, n = .finite negative exponent fraction ∧
    multiple exponent fraction = i * one ∧ (negative = true → i = 0)

/-- The number one is made of units, so there are some. -/
theorem one_pos : 0 < one := by
  obtain ⟨e, -, hone⟩ := exists_one_eq
  rw [hone]
  exact Nat.two_pow_pos e

/-- A natural number below `2 ^ 53` is exact as a number. -/
theorem isWhole_ofNat {i : Nat} (hi : i < Nat.pow 2 53) : (ofNat i).IsWhole i := by
  obtain ⟨exponent, fraction, hofNat, hmultiple⟩ := exists_ofNat hi
  exact ⟨false, exponent, fraction, hofNat, hmultiple, fun hfalse => nomatch hfalse⟩

/-- Zero with a sign is zero. -/
theorem isWhole_negativeZero : negativeZero.IsWhole 0 := by
  refine ⟨true, 0, 0, rfl, ?_, fun _ => rfl⟩
  rw [multiple, significand, Nat.zero_mul]
  simp

/-- What is a natural number is read as that number. The sign is no hindrance,
since only zero may have one. -/
theorem IsWhole.toNat?_eq {n : Number} {i : Nat} (hwhole : n.IsWhole i) : n.toNat? = some i := by
  obtain ⟨negative, exponent, fraction, rfl, hmultiple, hsign⟩ := hwhole
  have hunsigned : negative = false ∨ i * one = 0 := by
    cases negative with
    | false => exact .inl rfl
    | true =>
        right
        rw [hsign rfl, Nat.zero_mul]
  rw [toNat?, hmultiple, Nat.mul_mod_left, Nat.mul_div_cancel i one_pos]
  exact if_pos ⟨rfl, hunsigned⟩

/-! ### The shortest decimal -/

/-- On a grid of whole numbers, a neighbourhood of a natural number that is
less than one wide on either side holds that number or nothing. So it depends
on the zeros at the end of the number whether a point of the grid is found. -/
theorem Neighbourhood.onGrid?_of_narrow {near : Neighbourhood} {i : Nat}
    (hvalue : near.value = 4 * one * i) (hbelow : near.below < near.value)
    (hnarrow : near.value < near.below + 4 * one) (habove : near.above < near.value + 4 * one)
    (tie : Tie) (t : Nat) :
    near.onGrid? tie (t : Int) =
      if i % Nat.pow 10 t = 0 then some ⟨i / Nat.pow 10 t, t⟩ else none := by
  have hunit : 0 < 4 * one := Nat.mul_pos (by decide) one_pos
  have hgrid : 0 < Nat.pow 10 t := Nat.pow_pos (by decide)
  have hup : Nat.pow 10 (-(t : Int)).toNat = 1 :=
    congrArg (Nat.pow 10) (Int.toNat_of_nonpos (by omega))
  have hdivision := Nat.div_add_mod i (Nat.pow 10 t)
  have hremainder := Nat.mod_lt i hgrid
  unfold onGrid?
  simp only [hup, Int.toNat_natCast, Nat.mul_one]
  generalize Nat.pow 10 t = grid at *
  generalize 4 * one = unit at *
  -- Both neighbours on the grid are multiples of the unit, like the value.
  have hlow : near.value / (unit * grid) = i / grid := by
    rw [hvalue, Nat.mul_div_mul_left i grid hunit]
  have hlowValue : i / grid * (unit * grid) = unit * (grid * (i / grid)) := by
    rw [Nat.mul_left_comm, Nat.mul_comm grid]
  have hhighValue : (i / grid + 1) * (unit * grid) = unit * (grid * (i / grid) + grid) := by
    rw [Nat.mul_left_comm, Nat.add_mul, Nat.one_mul, Nat.mul_comm grid]
  simp only [hlow, hlowValue, hhighValue]
  by_cases hdvd : i % grid = 0
  · have hexact : grid * (i / grid) = i := by omega
    have hpast : 0 < unit * grid := Nat.mul_pos hunit hgrid
    have hread : near.below < unit * i := by rw [← hvalue]; exact hbelow
    simp [hexact, hvalue, hdvd, hread, Nat.mul_add, hpast]
  · -- The neighbours are other natural numbers, so they are one away at least.
    have hlowFar : unit * (grid * (i / grid)) + unit ≤ unit * i := by
      rw [← Nat.mul_succ]
      exact Nat.mul_le_mul_left unit (by omega)
    have hhighFar : unit * i + unit ≤ unit * (grid * (i / grid) + grid) := by
      rw [← Nat.mul_succ]
      exact Nat.mul_le_mul_left unit (by omega)
    have hlowReads : ¬ near.below < unit * (grid * (i / grid)) ∧
        near.below ≠ unit * (grid * (i / grid)) := by omega
    have hhighReads : ¬ unit * (grid * (i / grid) + grid) < near.above ∧
        unit * (grid * (i / grid) + grid) ≠ near.above := by omega
    simp [hlowReads, hhighReads, hdvd]

variable {exponent : Fin 2047} {fraction : Fin (Nat.pow 2 52)} {i : Nat}

/-- The unit of a number below `2 ^ 53` is at most one. If the number is not
among the smallest, its significand has all of its bits, and a larger unit
would make it too large. -/
theorem unit_lt (hmultiple : multiple exponent fraction = i * one) (hi : i < Nat.pow 2 53) :
    Nat.pow 2 (unit exponent) < 2 * one := by
  have hone := one_pos
  by_cases hzero : exponent = 0
  · rw [hzero]
    show 1 < 2 * one
    omega
  · have hsignificand : Nat.pow 2 52 ≤ significand exponent fraction := by
      rw [significand, if_neg hzero]
      exact Nat.le_add_right _ _
    have hscaled : Nat.pow 2 52 * Nat.pow 2 (unit exponent) < Nat.pow 2 52 * (2 * one) := by
      calc Nat.pow 2 52 * Nat.pow 2 (unit exponent)
          ≤ significand exponent fraction * Nat.pow 2 (unit exponent) :=
            Nat.mul_le_mul_right _ hsignificand
        _ = i * one := hmultiple
        _ < Nat.pow 2 53 * one := Nat.mul_lt_mul_of_pos_right hi hone
        _ = Nat.pow 2 52 * (2 * one) := by rw [← Nat.mul_assoc]
    exact Nat.lt_of_mul_lt_mul_left hscaled

/-- What reads back as a natural number below `2 ^ 53` is less than one away
from it. The ends of the neighbourhood are half a unit away at most, and half
of that below a power of two. -/
theorem neighbourhood_narrow (hmultiple : multiple exponent fraction = i * one) (hpos : 0 < i)
    (hi : i < Nat.pow 2 53) :
    (neighbourhood exponent fraction).value = 4 * one * i ∧
      (neighbourhood exponent fraction).below < (neighbourhood exponent fraction).value ∧
      (neighbourhood exponent fraction).value
        < (neighbourhood exponent fraction).below + 4 * one ∧
      (neighbourhood exponent fraction).above
        < (neighbourhood exponent fraction).value + 4 * one := by
  have hunit := unit_lt hmultiple hi
  have hquarter : 0 < Nat.pow 2 (unit exponent) := Nat.two_pow_pos _
  have hvalue : 4 * (significand exponent fraction * Nat.pow 2 (unit exponent))
      = 4 * one * i := by
    rw [← multiple, hmultiple, Nat.mul_comm i, Nat.mul_assoc]
  have hsignificand : 0 < significand exponent fraction := by
    rcases Nat.eq_zero_or_pos (significand exponent fraction) with hzero | hpos'
    · have hnone := one_pos
      have hpositive : 0 < i * one := Nat.mul_pos hpos hnone
      rw [← hmultiple, multiple, hzero, Nat.zero_mul] at hpositive
      exact absurd hpositive (Nat.lt_irrefl 0)
    · exact hpos'
  unfold neighbourhood
  dsimp only
  -- Below a power of two the numbers lie closer.
  generalize hgap : (if fraction.val = 0 ∧ 1 < exponent.val then 1 else 2) = gap
  have hgap : 1 ≤ gap ∧ gap ≤ 2 := by
    split at hgap <;> omega
  generalize significand exponent fraction = m at *
  generalize Nat.pow 2 (unit exponent) = quarter at *
  have hfirst : gap * quarter ≤ 2 * quarter := Nat.mul_le_mul_right _ hgap.2
  have hsecond : quarter ≤ gap * quarter := Nat.le_mul_of_pos_left _ hgap.1
  have hthird : 4 * quarter ≤ 4 * m * quarter := Nat.mul_le_mul_right _ (by omega)
  rw [Nat.sub_mul, Nat.add_mul, ← hvalue, Nat.mul_assoc]
  rw [Nat.mul_assoc] at hthird
  refine ⟨rfl, ?_, ?_, ?_⟩ <;> omega

/-- The shortest decimal of a natural number below `2 ^ 53` is that number,
written with a power of ten. The search goes from coarse grids to fine ones.
All that it meets before it ends are grids of whole numbers, where it finds
the number itself. -/
theorem exists_shortest (hmultiple : multiple exponent fraction = i * one) (hpos : 0 < i)
    (hi : i < Nat.pow 2 53) (tie : Tie) :
    ∃ c t : Nat, shortest tie exponent fraction = ⟨c, t⟩ ∧ c * Nat.pow 10 t = i := by
  obtain ⟨hvalue, hbelow, hnarrow, habove⟩ := neighbourhood_narrow hmultiple hpos hi
  have hgrid := Neighbourhood.onGrid?_of_narrow hvalue hbelow hnarrow habove tie
  have hunit : 0 < 4 * one := Nat.mul_pos (by decide) one_pos
  have hplace : decimalPlace (neighbourhood exponent fraction).value (4 * one)
      = ((Nat.toDigits 10 i).length : Int) := by
    rw [decimalPlace, hvalue, if_pos (Nat.le_mul_of_pos_right _ hpos),
      Nat.mul_div_cancel_left i hunit]
    rfl
  have hlength : (Nat.toDigits 10 i).length ≤ 17 := by
    rw [Nat.length_toDigits_le_iff (by decide) (by decide)]
    exact Nat.lt_trans hi (by decide)
  have hdigits : 0 < (Nat.toDigits 10 i).length := Nat.length_toDigits_pos
  obtain ⟨rest, hrest⟩ := Nat.exists_eq_add_of_le hlength
  unfold shortest
  simp only [hplace, List.findSome?_map]
  generalize (Nat.toDigits 10 i).length = length at *
  -- The search ends among the grids of whole numbers, for the last of these holds `i`.
  have hsome : ((List.range length).findSome? ((neighbourhood exponent fraction).onGrid? tie ∘
      fun n => (length : Int) - (n + 1 : Nat))).isSome = true := by
    rw [List.findSome?_isSome_iff]
    refine ⟨length - 1, List.mem_range.mpr (by omega), ?_⟩
    have hones : (length : Int) - (length - 1 + 1 : Nat) = (0 : Nat) := by omega
    rw [Function.comp_apply, hones, hgrid 0, if_pos (Nat.mod_one i)]
    rfl
  obtain ⟨d, hd⟩ := Option.isSome_iff_exists.mp hsome
  rw [hrest, List.range_add, List.findSome?_append, hd, Option.some_or, Option.getD_some]
  obtain ⟨n, hn, hfound⟩ := List.exists_of_findSome?_eq_some hd
  have hwhole : (length : Int) - (n + 1 : Nat) = (length - (n + 1) : Nat) := by
    have hlt := List.mem_range.mp hn
    omega
  rw [Function.comp_apply, hwhole, hgrid] at hfound
  split at hfound
  · rename_i hdvd
    cases hfound
    exact ⟨_, _, rfl, Nat.div_mul_cancel (Nat.dvd_of_mod_eq_zero hdvd)⟩
  · cases hfound

/-! ### The layout -/

/-- Zeros at the end are digits of a power of ten. By induction on the
power. -/
theorem toDigits_mul_pow {c : Nat} (hc : 0 < c) (t : Nat) :
    Nat.toDigits 10 (c * Nat.pow 10 t) = Nat.toDigits 10 c ++ List.replicate t '0' := by
  induction t with
  | zero => simp
  | succ t ih =>
      have hpos : 0 < c * Nat.pow 10 t := Nat.mul_pos hc (Nat.pow_pos (by decide))
      have hstep : c * Nat.pow 10 (t + 1) = 10 * (c * Nat.pow 10 t) + 0 := by
        rw [Nat.pow_eq, Nat.pow_succ, Nat.pow_eq, Nat.add_zero, Nat.mul_comm 10, Nat.mul_assoc]
      rw [hstep, ← Nat.toDigits_append_toDigits (by decide) hpos (by decide), ih,
        Nat.toDigits_zero, List.append_assoc, List.replicate_succ']

/-- What is cut off at the end of a list can be put back. It is known to be
zeros, so it is enough to know how many. -/
theorem append_replicate_of_cut {digits cut : List Char}
    (hcut : cut = (digits.reverse.dropWhile (· == '0')).reverse) :
    cut.length ≤ digits.length ∧
      cut ++ List.replicate (digits.length - cut.length) '0' = digits := by
  obtain ⟨zeros, hzeros, hdigits⟩ : ∃ zeros : List Char, (∀ c ∈ zeros, c = '0') ∧
      digits = cut ++ zeros := by
    refine ⟨(digits.reverse.takeWhile (· == '0')).reverse, ?_, ?_⟩
    · intro c hc
      have hall := List.all_takeWhile (p := (· == '0')) (l := digits.reverse)
      rw [List.all_eq_true] at hall
      simpa using hall c (List.mem_reverse.mp hc)
    · rw [hcut, ← List.reverse_append, List.takeWhile_append_dropWhile, List.reverse_reverse]
  have hreplicate : zeros = List.replicate zeros.length '0' :=
    List.eq_replicate_iff.mpr ⟨rfl, hzeros⟩
  rw [hdigits, List.length_append, Nat.add_sub_cancel_left, ← hreplicate]
  exact ⟨Nat.le_add_right _ _, rfl⟩

/-- A decimal that is a natural number of few digits is written with these.
The layout cuts off the zeros of the digits and fills up with zeros to the
point, which puts them back. -/
theorem decimalText_eq {c t : Nat} (hc : 0 < c)
    (hlength : (Nat.toDigits 10 (c * Nat.pow 10 t)).length ≤ 21) :
    NumberFormat.script.decimalText ⟨c, t⟩ = toString (c * Nat.pow 10 t) := by
  have hdigits := toDigits_mul_pow hc t
  have hsize : (Nat.toDigits 10 (c * Nat.pow 10 t)).length = (Nat.toDigits 10 c).length + t := by
    rw [hdigits, List.length_append, List.length_replicate]
  unfold NumberFormat.decimalText
  dsimp only
  generalize hcut : ((Nat.toDigits 10 c).reverse.dropWhile (· == '0')).reverse = cut
  obtain ⟨hle, hback⟩ := append_replicate_of_cut hcut.symm
  have hpositional : NumberFormat.script.positionalFrom < ((Nat.toDigits 10 c).length + t : Int) ∧
      ((Nat.toDigits 10 c).length + t : Int) ≤ NumberFormat.script.positionalTo := by
    simp only [NumberFormat.script]
    omega
  have hzeros : ((Nat.toDigits 10 c).length + t - cut.length : Int).toNat
      = (Nat.toDigits 10 c).length - cut.length + t := by omega
  unfold NumberFormat.layout
  dsimp only
  rw [if_pos hpositional, if_pos (by omega), hzeros, ← List.replicate_append_replicate,
    ← List.append_assoc, hback, ← hdigits, Nat.toString_eq_ofList_toDigits]
  exact String.append_empty

/-- A number is zero if both of its fields are. With another exponent the
leading bit is set, though it is not stored. -/
theorem multiple_eq_zero_iff :
    multiple exponent fraction = 0 ↔ exponent.val = 0 ∧ fraction.val = 0 := by
  have hunit : Nat.pow 2 (unit exponent) ≠ 0 := Nat.ne_of_gt (Nat.two_pow_pos _)
  have hbit : 0 < Nat.pow 2 52 := Nat.two_pow_pos 52
  rw [multiple, Nat.mul_eq_zero, or_iff_left hunit, significand]
  by_cases hzero : exponent = 0
  · simp [hzero]
  · have hval : exponent.val ≠ 0 := fun hval => hzero (Fin.ext hval)
    rw [if_neg hzero]
    omega

/-- A natural number below `2 ^ 53` is written with its decimal digits. Zero
is written apart, and its sign is not shown. -/
theorem IsWhole.toText_eq {n : Number} (hwhole : n.IsWhole i) (hi : i < Nat.pow 2 53) :
    n.toText = toString i := by
  obtain ⟨negative, exponent, fraction, rfl, hmultiple, hsign⟩ := hwhole
  rw [toText, NumberFormat.text]
  by_cases hzero : i = 0
  · subst hzero
    rw [Nat.zero_mul] at hmultiple
    rw [if_pos (multiple_eq_zero_iff.mp hmultiple)]
    cases negative <;> rfl
  · have hpos : 0 < i := Nat.pos_of_ne_zero hzero
    have hfields : ¬ (exponent.val = 0 ∧ fraction.val = 0) := by
      rw [← multiple_eq_zero_iff, hmultiple]
      exact Nat.ne_of_gt (Nat.mul_pos hpos one_pos)
    have hunsigned : negative = false := by
      cases negative with
      | false => rfl
      | true => exact absurd (hsign rfl) hzero
    obtain ⟨c, t, hshortest, hvalue⟩ :=
      exists_shortest hmultiple hpos hi NumberFormat.script.tie
    have hc : 0 < c := by
      rcases Nat.eq_zero_or_pos c with rfl | hc
      · rw [Nat.zero_mul] at hvalue
        exact absurd hvalue.symm hzero
      · exact hc
    have hlength : (Nat.toDigits 10 (c * Nat.pow 10 t)).length ≤ 21 := by
      rw [hvalue, Nat.length_toDigits_le_iff (by decide) (by decide)]
      exact Nat.lt_trans hi (by decide)
    rw [if_neg hfields, hunsigned, hshortest, decimalText_eq hc hlength, hvalue]
    exact String.empty_append

end Number

end ScriptRealm
