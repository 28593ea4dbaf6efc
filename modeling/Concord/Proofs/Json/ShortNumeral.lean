import Concord.Proofs.Binary64.Nearest
import Concord.Proofs.Json.Numeral

/-!
# Numerals with few digits

A numeral of at most fifteen digits whose exponent of ten is at most 22 either way is made of two
numbers of the format, so it is read as its rational rounded once. Rationals as coarse as that lie
further apart than rounding moves them, so two such numerals have one value exactly when they denote
one rational.
-/

namespace Concord.Json.Numeral

open Binary64
open Nat (ofDigitChars)

/-- The numeral has few digits: they spell a number below `10 ^ 15`, and the power of ten that goes
with it is at most `10 ^ 22` either way. -/
structure Short (n : Numeral) : Prop where
  /-- The digits are few. -/
  digits : ofDigitChars 10 n.digits 0 < 10 ^ 15
  /-- The power of ten is a number of the format, or its inverse is. -/
  place : n.decimalExponent.natAbs ≤ 22
  /-- The exponent that is written is not too great to be read. -/
  exponent : ∀ exponent ∈ n.exponent, ofDigitChars 10 exponent.2 0 ≤ greatestExponent

section Rounding

variable {significand : Nat} {place : Int}

/-- A decimal with few digits is far below the overflow limit. -/
theorem lt_overflowLimit_of_few (few : significand < 10 ^ 15) (near : place ≤ 22) :
    (significand : ℚ) * (10 : ℚ) ^ place < overflowLimit := by
  have power : (10 : ℚ) ^ place ≤ (10 : ℚ) ^ (22 : Int) :=
    zpow_le_zpow_right₀ (by norm_num) near
  have digits : (significand : ℚ) ≤ 10 ^ 15 := by exact_mod_cast few.le
  calc
    (significand : ℚ) * (10 : ℚ) ^ place ≤ 10 ^ 15 * (10 : ℚ) ^ (22 : Int) := by gcongr
    _ = ((10 ^ 37 : Nat) : ℚ) := by norm_num
    _ < overflowLimit := ten_pow_lt_overflowLimit (by decide)

/-- A number scaled by a power of ten that is a number of the format is rounded once. -/
theorem exists_scale_nearest {x : Binary64} (exact : x.absolute = significand)
    (few : significand < 10 ^ 15) (near : place.natAbs ≤ 22) :
    ∃ y, scale x place = some y ∧ y.absolute = nearest (significand * (10 : ℚ) ^ place) := by
  have finite : (significand : ℚ) * (10 : ℚ) ^ place < overflowLimit :=
    lt_overflowLimit_of_few few (by omega)
  rcases lt_or_ge place 0 with down | up
  · obtain ⟨places, rfl⟩ : ∃ places : Nat, place = -places := ⟨place.natAbs, by omega⟩
    obtain ⟨power, rounded, value⟩ := exists_tenPow_exact (n := places) (by omega)
    have large : 1 ≤ power.absolute := by
      rw [value]
      exact one_le_pow₀ (by norm_num)
    obtain ⟨y, quotient, result⟩ := exists_div_nearest x large
    have once : (places - 1) / greatestPower = 0 := Nat.div_eq_of_lt (by
      rw [greatestPower]
      omega)
    rw [scale, if_neg (by omega)]
    simp only [neg_neg, Int.toNat_natCast, once, lower, Nat.zero_mul, Nat.sub_zero, rounded,
      quotient, bind, Option.bind_some]
    by_cases isZero : x.isZero = true
    · have none := (isZero_iff x).mp isZero
      refine ⟨x, if_pos isZero, ?_⟩
      rw [← exact, none, zero_mul, nearest_zero]
    · refine ⟨y, if_neg isZero, ?_⟩
      rw [result, exact, value, zpow_neg, zpow_natCast, div_eq_mul_inv]
  · obtain ⟨places, rfl⟩ := Int.eq_ofNat_of_zero_le up
    obtain ⟨power, rounded, value⟩ := exists_tenPow_exact (n := places) (by omega)
    rw [zpow_natCast] at finite ⊢
    rw [← exact, ← value] at finite ⊢
    obtain ⟨y, product, result⟩ := exists_mul_nearest finite
    have bounded : places ≤ greatestPower := by
      rw [greatestPower]
      omega
    refine ⟨y, ?_, result⟩
    rw [scale, if_pos up, Int.toNat_natCast, if_pos bounded, rounded]
    exact product

/-- Few digits and a moderate power of ten make the floating point number nearest to their exact
product. -/
theorem exists_float_nearest (negative : Bool) (few : significand < 10 ^ 15)
    (near : place.natAbs ≤ 22) :
    ∃ x, float negative significand place = some x ∧ x.negative = negative ∧
      x.absolute = nearest (significand * (10 : ℚ) ^ place) := by
  obtain ⟨x, rounded, exact⟩ := exists_ofNat_exact (few.trans (by decide : 10 ^ 15 < 2 ^ 53))
  obtain ⟨y, scaled, value⟩ := exists_scale_nearest exact few near
  exact ⟨y.withSign negative, by simp [float, rounded, scaled], rfl, value⟩

/-- A decimal with few digits is moved by at most one part in `2 ^ 53`. -/
theorem nearest_error_of_few (significand : Nat) (near : place.natAbs ≤ 22) :
    |nearest (significand * (10 : ℚ) ^ place) - significand * (10 : ℚ) ^ place| ≤
      significand * (10 : ℚ) ^ place / 2 ^ 53 := by
  rcases Nat.eq_zero_or_pos significand with rfl | positive
  · simp [nearest_zero]
  · apply nearest_error
    have one : (1 : ℚ) ≤ significand := by exact_mod_cast positive
    have power : (10 : ℚ) ^ (-22 : Int) ≤ (10 : ℚ) ^ place :=
      zpow_le_zpow_right₀ (by norm_num) (by omega)
    calc
      (2 : ℚ) ^ (-1022 : Int) ≤ (2 : ℚ) ^ (-88 : Int) :=
        zpow_le_zpow_right₀ one_le_two (by decide)
      _ ≤ (10 : ℚ) ^ (-22 : Int) := by norm_num
      _ ≤ significand * (10 : ℚ) ^ place :=
        power.trans (le_mul_of_one_le_left (by positivity) one)

/-- Two rationals that one number is near to are near to each other. -/
theorem close_of_errors {a b rounded : ℚ} (first : |rounded - a| ≤ a / 2 ^ 53)
    (second : |rounded - b| ≤ b / 2 ^ 53) : |a - b| ≤ (a + b) / 2 ^ 53 := by
  calc
    |a - b| ≤ |a - rounded| + |rounded - b| := abs_sub_le a rounded b
    _ = |rounded - a| + |rounded - b| := by rw [abs_sub_comm]
    _ ≤ a / 2 ^ 53 + b / 2 ^ 53 := add_le_add first second
    _ = (a + b) / 2 ^ 53 := (add_div a b _).symm

/-- A decimal with few digits is not near to another one on its grid. -/
theorem eq_of_close {s t : Nat} {unit : ℚ} (few : s < 10 ^ 15) (positive : 0 < unit)
    (close : |(s : ℚ) * unit - t * unit| ≤ (s * unit + t * unit) / 2 ^ 53) : s = t := by
  rw [← sub_mul, ← add_mul, abs_mul, abs_of_pos positive, mul_div_right_comm,
    mul_le_mul_iff_left₀ positive, le_div_iff₀ (by positivity)] at close
  have steps : |(s : ℤ) - t| * 2 ^ 53 ≤ s + t := by exact_mod_cast close
  have above := le_abs_self ((s : ℤ) - t)
  have below := neg_abs_le ((s : ℤ) - t)
  omega

/-- Decimals with few digits that are rounded to one number are equal. -/
theorem eq_of_nearest_eq {s t : Nat} {d e : Int} (fewS : s < 10 ^ 15) (fewT : t < 10 ^ 15)
    (nearD : d.natAbs ≤ 22) (nearE : e.natAbs ≤ 22)
    (same : nearest ((s : ℚ) * (10 : ℚ) ^ d) = nearest ((t : ℚ) * (10 : ℚ) ^ e)) :
    (s : ℚ) * (10 : ℚ) ^ d = t * (10 : ℚ) ^ e := by
  -- The decimal with the lower last place gives the grid; it alone needs few digits.
  wlog order : d ≤ e generalizing s t d e
  · exact (this fewT fewS nearE nearD same.symm (by omega)).symm
  have errorS := nearest_error_of_few s nearD
  have errorT := nearest_error_of_few t nearE
  obtain ⟨steps, rfl⟩ := Int.le.dest order
  have regrid : (t : ℚ) * (10 : ℚ) ^ (d + steps) = (t * 10 ^ steps : Nat) * (10 : ℚ) ^ d := by
    rw [zpow_add₀ (by norm_num), zpow_natCast]
    push_cast
    ring
  rw [same] at errorS
  rw [regrid] at errorS errorT ⊢
  rw [eq_of_close fewS (by positivity) (close_of_errors errorS errorT)]

end Rounding

/-- A numeral denotes its magnitude with its sign. -/
theorem toRat_eq_magnitude (n : Numeral) :
    n.toRat = if n.negative then -n.magnitude else n.magnitude := by
  cases sign : n.negative <;> simp [toRat, magnitude, sign]

/-- A floating point number is made of all digits that are written, when they fit 64 bits. -/
theorem float_of_number? {n : Numeral} (fits : ofDigitChars 10 n.digits 0 ≤ greatestSignificand)
    (moderate : ∀ exponent ∈ n.exponent, ofDigitChars 10 exponent.2 0 ≤ greatestExponent)
    {x : Binary64} (read : n.number? = some (.float x)) :
    float n.negative (ofDigitChars 10 n.digits 0) n.decimalExponent = some x := by
  by_cases pointed : n.fraction.isSome ∨ n.exponent.isSome
  · rw [number?_eq_float fits pointed moderate] at read
    obtain ⟨y, made, same⟩ := Option.map_eq_some_iff.mp read
    rw [made, Number.float.inj same]
  · -- Without a point or an exponent only a zero with a sign is a floating point number.
    obtain ⟨whole, plain⟩ := not_or.mp pointed
    rw [Option.not_isSome_iff_eq_none] at whole plain
    have place : n.decimalExponent = 0 := by simp [decimalExponent, whole, plain]
    rw [number?, leading_eq fits, plain] at read
    simp only [whole, Option.isSome_none, Bool.false_eq_true, or_self, if_false] at read
    split_ifs at read
    · simp at read
    · obtain ⟨y, made, same⟩ := Option.map_eq_some_iff.mp read
      rw [place, made, Number.float.inj same]
    · simp at read

/-- A numeral with few digits is read as its rational rounded once, with its sign. -/
theorem toRat_of_short {n : Numeral} (short : n.Short) {value : Number}
    (read : n.number? = some value) :
    value.toRat = if n.negative then -nearest n.magnitude else nearest n.magnitude := by
  have small : ofDigitChars 10 n.digits 0 < 2 ^ 53 := short.digits.trans (by decide)
  have fits : ofDigitChars 10 n.digits 0 ≤ greatestSignificand := small.le.trans (by decide)
  cases value with
  | integer k =>
    obtain ⟨whole, plain, -, -⟩ := number?_eq_integer_iff.mp read
    have natural : n.magnitude = (ofDigitChars 10 n.digits 0 : Nat) := by
      simp [magnitude, decimalExponent, whole, plain]
    rw [toRat_of_integer read, toRat_eq_magnitude, natural, nearest_natCast small]
  | float x =>
    have made := float_of_number? fits short.exponent read
    obtain ⟨y, nearestMade, sign, value⟩ :=
      exists_float_nearest n.negative short.digits short.place
    obtain rfl : x = y := Option.some.inj (made.symm.trans nearestMade)
    rw [Number.toRat, toRat_eq_absolute, sign, value]
    rfl

/-- A magnitude with few digits is rounded to zero only when it is zero. -/
theorem nearest_magnitude_eq_zero {n : Numeral} (short : n.Short) :
    nearest n.magnitude = 0 ↔ n.magnitude = 0 := by
  constructor
  · intro none
    have zero : nearest n.magnitude = nearest ((0 : Nat) * (10 : ℚ) ^ (0 : ℤ)) := by
      simp [none, nearest_zero]
    have same := eq_of_nearest_eq short.digits (by decide) short.place (by decide) zero
    rw [magnitude, same]
    simp
  · intro zero
    rw [zero, nearest_zero]

/-- Two rationals with signs are equal when they are so without, and their signs are unless both are
zero. -/
theorem signed_eq_iff {a b : ℚ} (left : 0 ≤ a) (right : 0 ≤ b) (p q : Bool) :
    (if p then -a else a) = (if q then -b else b) ↔ a = b ∧ (p = q ∨ a = 0) := by
  have opposite {x y : ℚ} (first : 0 ≤ x) (second : 0 ≤ y) : -x = y ↔ x = y ∧ x = 0 := by
    constructor
    · intro same
      constructor <;> linarith only [same, first, second]
    · rintro ⟨same, zero⟩
      linarith only [same, zero]
  cases p with
  | false =>
    cases q with
    | false => simp
    | true =>
      have turned : a = -b ↔ a = b ∧ a = 0 := by
        rw [eq_comm, opposite right left]
        constructor <;> rintro ⟨rfl, zero⟩ <;> exact ⟨rfl, zero⟩
      simpa using turned
  | true =>
    cases q with
    | false => simpa using opposite left right
    | true => simp

/-- Of two numerals with few digits, exactly those that denote one rational have one value. -/
theorem toRat_eq_iff_of_short {n m : Numeral} (first : n.Short) (second : m.Short)
    {left right : Number} (readLeft : n.number? = some left) (readRight : m.number? = some right) :
    left.toRat = right.toRat ↔ n.toRat = m.toRat := by
  have inj : nearest n.magnitude = nearest m.magnitude ↔ n.magnitude = m.magnitude :=
    ⟨eq_of_nearest_eq first.digits second.digits first.place second.place, congrArg nearest⟩
  have leftSide : 0 ≤ n.magnitude := by
    unfold magnitude
    positivity
  have rightSide : 0 ≤ m.magnitude := by
    unfold magnitude
    positivity
  rw [toRat_of_short first readLeft, toRat_of_short second readRight, toRat_eq_magnitude,
    toRat_eq_magnitude, signed_eq_iff (nearest_nonneg _) (nearest_nonneg _),
    signed_eq_iff leftSide rightSide, inj, nearest_magnitude_eq_zero first]

end Concord.Json.Numeral
