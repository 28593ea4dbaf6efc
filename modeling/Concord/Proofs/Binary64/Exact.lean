import Concord.Binary64
import Mathlib.Algebra.Order.Field.Power
import Mathlib.Data.Rat.Cast.Order
import Mathlib.Tactic.FieldSimp
import Mathlib.Tactic.Linarith
import Mathlib.Tactic.NormNum
import Mathlib.Tactic.Positivity
import Mathlib.Tactic.Ring

/-!
# Exact values of floating point numbers

`Binary64.toRat` is the rational that a number stands for. Its fields are canonical, so two numbers
stand for one rational exactly when they are equal or both zeros, and the whole part and the test
for a fraction, computed on integers, are those of the rational.
-/

namespace Concord.Binary64

/-- The absolute value of the rational that a number stands for. -/
def absolute (x : Binary64) : ℚ := x.significand * (2 : ℚ) ^ x.exponent

/-- An absolute value is not negative. -/
theorem absolute_nonneg (x : Binary64) : 0 ≤ x.absolute := by
  unfold absolute
  positivity

/-- A number is its absolute value with its sign. -/
theorem toRat_eq_absolute (x : Binary64) :
    x.toRat = if x.negative then -x.absolute else x.absolute := by
  cases sign : x.negative <;> simp [toRat, signedSignificand, absolute, sign]

/-- The sign of a number does not change its absolute value. -/
theorem abs_toRat (x : Binary64) : |x.toRat| = x.absolute := by
  rw [toRat_eq_absolute]
  split
  · rw [abs_neg, abs_of_nonneg x.absolute_nonneg]
  · exact abs_of_nonneg x.absolute_nonneg

/-- The denominator of a magnitude is positive. -/
theorem magnitude_snd_pos (x : Binary64) : 0 < x.magnitude.2 := Nat.two_pow_pos _

/-- A power is the quotient of a power with a natural exponent and one of the opposite. -/
theorem zpow_eq_div {base : ℚ} (nonzero : base ≠ 0) (e : Int) :
    base ^ e = base ^ e.toNat / base ^ (-e).toNat := by
  rw [← zpow_natCast, ← zpow_natCast, ← zpow_sub₀ nonzero]
  congr 1
  omega

/-- The fraction of natural numbers that a magnitude is stored as. -/
theorem magnitude_eq_absolute (x : Binary64) :
    (x.magnitude.1 : ℚ) / x.magnitude.2 = x.absolute := by
  rw [absolute, zpow_eq_div two_ne_zero]
  simp only [magnitude, Nat.pow_eq, Nat.cast_mul, Nat.cast_pow, Nat.cast_ofNat, mul_div_assoc]

/-- A canonical significand scaled up by a positive power of two is canonical no more. -/
theorem exponent_le_of_absolute_eq {x y : Binary64} (same : x.absolute = y.absolute) :
    y.exponent ≤ x.exponent := by
  by_contra above
  obtain ⟨gap, shift⟩ : ∃ gap : Nat, y.exponent = x.exponent + gap + 1 :=
    ⟨(y.exponent - x.exponent - 1).toNat, by omega⟩
  have leading : 2 ^ 52 ≤ y.significand := by
    have normal := y.normal
    have least := x.exponent_ge
    rw [Nat.pow_eq] at normal
    omega
  have scaled : x.significand = y.significand * 2 ^ (gap + 1) := by
    have power : (2 : ℚ) ^ y.exponent = 2 ^ (gap + 1) * (2 : ℚ) ^ x.exponent := by
      rw [shift, ← zpow_natCast, ← zpow_add₀ two_ne_zero]
      congr 1
      push_cast
      ring
    have cancelled : (x.significand : ℚ) = y.significand * 2 ^ (gap + 1) := by
      have unit : (2 : ℚ) ^ x.exponent ≠ 0 := by positivity
      apply mul_right_cancel₀ unit
      calc
        (x.significand : ℚ) * (2 : ℚ) ^ x.exponent = y.significand * (2 : ℚ) ^ y.exponent := same
        _ = y.significand * 2 ^ (gap + 1) * (2 : ℚ) ^ x.exponent := by rw [power]; ring
    exact_mod_cast cancelled
  have fits := x.significand_lt
  have twice : y.significand * 2 ≤ y.significand * 2 ^ (gap + 1) :=
    Nat.mul_le_mul_left _ (Nat.le_self_pow (Nat.succ_ne_zero gap) 2)
  rw [Nat.pow_eq] at fits
  omega

/-- Numbers with one absolute value have the same significand and exponent. -/
theorem fields_eq_of_absolute_eq {x y : Binary64} (same : x.absolute = y.absolute) :
    x.significand = y.significand ∧ x.exponent = y.exponent := by
  have exponents : x.exponent = y.exponent :=
    le_antisymm (exponent_le_of_absolute_eq same.symm) (exponent_le_of_absolute_eq same)
  have unit : (2 : ℚ) ^ y.exponent ≠ 0 := by positivity
  have significands : (x.significand : ℚ) = y.significand := by
    apply mul_right_cancel₀ unit
    rw [← absolute, ← same, absolute, exponents]
  exact ⟨by exact_mod_cast significands, exponents⟩

/-- A number is determined by its sign and its absolute value. -/
theorem eq_of_absolute_eq {x y : Binary64} (sign : x.negative = y.negative)
    (same : x.absolute = y.absolute) : x = y := by
  obtain ⟨significands, exponents⟩ := fields_eq_of_absolute_eq same
  cases x
  cases y
  simp_all

/-- Only the zeros have the absolute value zero. -/
theorem isZero_iff (x : Binary64) : x.isZero = true ↔ x.absolute = 0 := by
  have unit : (2 : ℚ) ^ x.exponent ≠ 0 := by positivity
  simp [isZero, absolute, unit]

/-- Equality of numbers is equality of the rationals they stand for. -/
theorem equals_iff (x y : Binary64) : x.equals y = true ↔ x.toRat = y.toRat := by
  rw [equals, Bool.or_eq_true, Bool.and_eq_true, isZero_iff, isZero_iff, beq_iff_eq]
  constructor
  · rintro (rfl | ⟨left, right⟩)
    · rfl
    · rw [toRat_eq_absolute, toRat_eq_absolute, left, right]
      simp
  · intro same
    have absolutes : x.absolute = y.absolute := by rw [← abs_toRat, same, abs_toRat]
    by_cases sign : x.negative = y.negative
    · exact Or.inl (eq_of_absolute_eq sign absolutes)
    · right
      have opposite : x.absolute = -y.absolute := by
        rw [toRat_eq_absolute, toRat_eq_absolute, Bool.eq_not_of_ne sign] at same
        generalize y.negative = negative at same
        cases negative with
        | true => simpa using same
        | false =>
          simp only [Bool.not_false, if_true, Bool.false_eq_true, if_false] at same
          linarith only [same]
      have left := x.absolute_nonneg
      have right := y.absolute_nonneg
      constructor <;> linarith

/-- The test for a fraction compares the number with its whole part. -/
theorem isWhole_iff (x : Binary64) : x.isWhole = true ↔ x.toRat = x.whole := by
  have positive : (x.magnitude.2 : ℚ) ≠ 0 := by
    exact_mod_cast x.magnitude_snd_pos.ne'
  have divides : x.isWhole = true ↔ x.absolute = (x.magnitude.1 / x.magnitude.2 : Nat) := by
    rw [isWhole, beq_iff_eq, ← magnitude_eq_absolute, div_eq_iff positive]
    norm_cast
    have split := Nat.div_add_mod' x.magnitude.1 x.magnitude.2
    omega
  rw [divides, toRat_eq_absolute, whole]
  split
  · rw [Int.cast_neg, Int.cast_natCast, neg_inj]
  · rw [Int.cast_natCast]

/-- A number that stands for an integer has no fraction. -/
theorem isWhole_of_toRat_eq {x : Binary64} {n : Int} (value : x.toRat = n) : x.isWhole = true := by
  have positive : (x.magnitude.2 : ℚ) ≠ 0 := by
    exact_mod_cast x.magnitude_snd_pos.ne'
  have natural : x.absolute = n.natAbs := by
    rw [← abs_toRat, value, Nat.cast_natAbs, Int.cast_abs]
  have multiple : x.magnitude.1 = n.natAbs * x.magnitude.2 := by
    rw [← magnitude_eq_absolute, div_eq_iff positive] at natural
    exact_mod_cast natural
  rw [isWhole, multiple, Nat.mul_mod_left, beq_self_eq_true]

end Concord.Binary64
