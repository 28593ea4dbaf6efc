import Concord.Proofs.Binary64.Order
import Concord.Report

/-!
# The percentage of agreeing cases

The percentage is computed in five roundings: both counts, the percentage factor, the quotient and
the product. Rounding keeps order and passes no number of the format, so the result stays between 0
and 100 and does not grow with the number of differences. It is 100 only without differences as long
as the counts are exact: the quotient then stays below the last number before one, and a hundred
times that is further from 100 than a rounding reaches.
-/

namespace Concord

open Binary64

/-- The percentage as a rational: the quotient of the rounded counts, rounded, times a hundred,
rounded. -/
def roundedPercentage (total differences : Nat) : ℚ :=
  nearest (nearest (nearest (total - differences : Nat) / nearest total) * 100)

section Percentage

variable {total differences more : Nat}

/-- One is not rounded. -/
theorem nearest_one : nearest 1 = 1 := by
  exact_mod_cast nearest_natCast_of_le (n := 1) (by decide)

/-- A hundred is not rounded. -/
theorem nearest_hundred : nearest 100 = 100 := by
  exact_mod_cast nearest_natCast_of_le (n := 100) (by decide)

/-- What is at least one is of normal size. -/
theorem normal_of_one_le {r : ℚ} (large : 1 ≤ r) : (2 : ℚ) ^ (-1022 : Int) ≤ r :=
  (zpow_le_one_of_nonpos₀ one_le_two (by decide)).trans large

/-- A positive count is rounded to at least one. -/
theorem one_le_nearest (positive : 0 < total) : 1 ≤ nearest (total : ℚ) := by
  have least : (1 : ℚ) ≤ total := by exact_mod_cast positive
  exact nearest_one.symm.trans_le (nearest_mono zero_le_one least)

/-- The rounded quotient does not exceed one. -/
theorem nearest_quotient_le_one (positive : 0 < total) (differences : Nat) :
    nearest (nearest (total - differences : Nat) / nearest (total : ℚ)) ≤ 1 := by
  have whole := one_le_nearest positive
  have counts : nearest (total - differences : Nat) ≤ nearest (total : ℚ) :=
    nearest_mono (Nat.cast_nonneg _) (by exact_mod_cast Nat.sub_le total differences)
  have quotient : nearest (total - differences : Nat) / nearest (total : ℚ) ≤ 1 :=
    (div_le_one (by linarith)).mpr counts
  exact (nearest_mono (div_nonneg (nearest_nonneg _) (nearest_nonneg _)) quotient).trans_eq
    nearest_one

/-- The percentage does not exceed a hundred. -/
theorem roundedPercentage_le (positive : 0 < total) (differences : Nat) :
    roundedPercentage total differences ≤ 100 := by
  have quotient := nearest_quotient_le_one positive differences
  exact (nearest_mono (mul_nonneg (nearest_nonneg _) (by norm_num)) (by linarith)).trans_eq
    nearest_hundred

/-- The percentage does not grow with the number of differences. -/
theorem roundedPercentage_antitone (total : Nat) (order : differences ≤ more) :
    roundedPercentage total more ≤ roundedPercentage total differences := by
  have fewer : total - more ≤ total - differences := Nat.sub_le_sub_left order total
  have counts : nearest (total - more : Nat) ≤ nearest (total - differences : Nat) :=
    nearest_mono (Nat.cast_nonneg _) (by exact_mod_cast fewer)
  have quotients : nearest (total - more : Nat) / nearest (total : ℚ) ≤
      nearest (total - differences : Nat) / nearest (total : ℚ) :=
    div_le_div_of_nonneg_right counts (nearest_nonneg _)
  apply nearest_mono (mul_nonneg (nearest_nonneg _) (by norm_num))
  apply mul_le_mul_of_nonneg_right _ (by norm_num)
  exact nearest_mono (div_nonneg (nearest_nonneg _) (nearest_nonneg _)) quotients

/-- The percentage is zero when no case agrees. -/
theorem roundedPercentage_eq_zero (all : total ≤ differences) :
    roundedPercentage total differences = 0 := by
  rw [roundedPercentage, Nat.sub_eq_zero_of_le all, Nat.cast_zero, nearest_zero, zero_div,
    nearest_zero, zero_mul, nearest_zero]

/-- The percentage is a hundred when every case agrees. -/
theorem roundedPercentage_zero (positive : 0 < total) : roundedPercentage total 0 = 100 := by
  have whole := one_le_nearest positive
  rw [roundedPercentage, Nat.sub_zero, div_self (by linarith), nearest_one, one_mul,
    nearest_hundred]

/-- The counts are not rounded when they have at most 53 bits or are `2 ^ 53`. -/
theorem roundedPercentage_of_exact (exact : total ≤ 2 ^ 53) (differences : Nat) :
    roundedPercentage total differences =
      nearest (nearest ((total - differences : Nat) / total) * 100) := by
  rw [roundedPercentage, nearest_natCast_of_le exact,
    nearest_natCast_of_le ((Nat.sub_le total differences).trans exact)]

/-- The last number of the format before one. -/
def lastBeforeOne : Binary64 :=
  ⟨false, 2 ^ 53 - 1, -53, by decide, by decide, by decide, by decide⟩

/-- The last number before one is less by one part in `2 ^ 53`. -/
theorem absolute_lastBeforeOne : lastBeforeOne.absolute = 1 - 1 / 2 ^ 53 := by
  show ((2 ^ 53 - 1 : Nat) : ℚ) * (2 : ℚ) ^ (-53 : Int) = _
  norm_num

/-- The percentage is below a hundred when the counts are exact and a case differs. -/
theorem roundedPercentage_lt (positive : 0 < total) (exact : total ≤ 2 ^ 53)
    (some : 0 < differences) : roundedPercentage total differences < 100 := by
  have scale : (0 : ℚ) < total := by exact_mod_cast positive
  have few : (total : ℚ) ≤ 2 ^ 53 := by exact_mod_cast exact
  have agreed : ((total - differences : Nat) : ℚ) ≤ total - 1 := by
    rw [le_sub_iff_add_le]
    exact_mod_cast (by omega : total - differences + 1 ≤ total)
  have quotient : ((total - differences : Nat) : ℚ) / total ≤ lastBeforeOne.absolute := by
    rw [absolute_lastBeforeOne, div_le_iff₀ scale]
    linarith
  have rounded : nearest (((total - differences : Nat) : ℚ) / total) ≤ 1 - 1 / 2 ^ 53 :=
    (nearest_le_absolute (by positivity) quotient).trans_eq absolute_lastBeforeOne
  -- A rounding moves a hundred times the last number before one by less than what is missing.
  have error := (abs_le.mp (nearest_error (r := (1 - 1 / 2 ^ 53) * 100)
    (normal_of_one_le (by norm_num)))).2
  have product : nearest (nearest (((total - differences : Nat) : ℚ) / total) * 100) ≤
      nearest ((1 - 1 / 2 ^ 53) * 100) :=
    nearest_mono (mul_nonneg (nearest_nonneg _) (by norm_num)) (by linarith)
  rw [roundedPercentage_of_exact exact]
  linarith

/-- The percentage is positive when the counts are exact and a case agrees. -/
theorem roundedPercentage_pos (exact : total ≤ 2 ^ 53) (agrees : differences < total) :
    0 < roundedPercentage total differences := by
  have scale : (0 : ℚ) < total := by exact_mod_cast (Nat.zero_le _).trans_lt agrees
  have few : (total : ℚ) ≤ 2 ^ 53 := by exact_mod_cast exact
  have one : (1 : ℚ) ≤ (total - differences : Nat) := by
    exact_mod_cast Nat.sub_pos_of_lt agrees
  have quotient : 1 / 2 ^ 53 ≤ ((total - differences : Nat) : ℚ) / total := by
    rw [div_le_div_iff₀ (by positivity) scale]
    linarith
  have tiny : (2 : ℚ) ^ (-1022 : Int) ≤ 1 / 2 ^ 54 := by
    have power : (1 : ℚ) / 2 ^ 54 = (2 : ℚ) ^ (-54 : Int) := by norm_num
    rw [power]
    exact zpow_le_zpow_right₀ one_le_two (by decide)
  have first := half_le_nearest (r := ((total - differences : Nat) : ℚ) / total) (by linarith)
  have second := half_le_nearest
    (r := nearest (((total - differences : Nat) : ℚ) / total) * 100) (by linarith)
  rw [roundedPercentage_of_exact exact]
  linarith

end Percentage

section Rate

variable {total differences : Nat}

/-- When cases were compared the rate is the rounded percentage, without a sign. -/
theorem exists_successRate (positive : 0 < total) (fits : total < 2 ^ 64) (differences : Nat) :
    ∃ rate, successRate total differences = some rate ∧ rate.negative = false ∧
      rate.absolute = roundedPercentage total differences := by
  have finite : ∀ n : Nat, n < 2 ^ 64 → (n : ℚ) < overflowLimit := by
    intro n small
    have below : n < 10 ^ 20 := small.trans (by decide)
    have cast : (n : ℚ) < ((10 ^ 20 : Nat) : ℚ) := by exact_mod_cast below
    exact cast.trans (ten_pow_lt_overflowLimit (by decide))
  obtain ⟨agreed, agreedMade, agreedValue⟩ :=
    exists_ofNat_nearest (finite _ ((Nat.sub_le total differences).trans_lt fits))
  obtain ⟨whole, wholeMade, wholeValue⟩ := exists_ofNat_nearest (finite total fits)
  obtain ⟨hundred, hundredMade, hundredValue⟩ := exists_ofNat_exact (n := 100) (by decide)
  have large : 1 ≤ whole.absolute := wholeValue ▸ one_le_nearest positive
  obtain ⟨quotient, divided, quotientValue⟩ := exists_div_nearest agreed large
  have bounded : quotient.absolute ≤ 1 := by
    rw [quotientValue, agreedValue, wholeValue]
    exact nearest_quotient_le_one positive differences
  have product : quotient.absolute * hundred.absolute < overflowLimit := by
    have limit := finite 101 (by decide)
    rw [hundredValue]
    push_cast at limit ⊢
    linarith
  obtain ⟨rate, multiplied, rateValue⟩ := exists_mul_nearest product
  refine ⟨rate, ?_, ?_, ?_⟩
  · rw [successRate, if_neg positive.ne']
    simp only [agreedMade, wholeMade, hundredMade, divided, multiplied, Option.bind_eq_bind,
      Option.bind_some]
  · rw [negative_of_round multiplied, negative_of_round divided, negative_of_round agreedMade,
      negative_of_round wholeMade, negative_of_round hundredMade]
    rfl
  · rw [rateValue, quotientValue, agreedValue, wholeValue, hundredValue, Nat.cast_ofNat,
      roundedPercentage]

/-- A number without a sign stands for its absolute value. -/
theorem toRat_of_not_negative {x : Binary64} (positive : x.negative = false) :
    x.toRat = x.absolute := by
  rw [toRat_eq_absolute, positive, if_neg Bool.false_ne_true]

/-- The rate of an outcome is below a hundred when a case diverges and the counts are exact. -/
theorem successRate_ofOutcome_lt {I : Type} {outcome : SuiteOutcome I}
    (diverges : 0 < outcome.differences) (exact : outcome.totalCases ≤ 2 ^ 53) {rate : Binary64}
    (given : (SuiteSummary.ofOutcome outcome).successRate = some rate) : rate.toRat < 100 := by
  have compared : 0 < outcome.totalCases := by
    rcases Nat.eq_zero_or_pos outcome.totalCases with none | some
    · rw [SuiteSummary.ofOutcome, none] at given
      contradiction
    · exact some
  obtain ⟨found, made, sign, value⟩ :=
    exists_successRate compared (exact.trans_lt (by decide)) outcome.differences
  obtain rfl : found = rate := Option.some.inj (made.symm.trans given)
  rw [toRat_of_not_negative sign, value]
  exact roundedPercentage_lt compared exact diverges

/-- The rate of agreeing cases. It is absent exactly when no case was compared. Otherwise it lies
between 0 and 100, does not grow with the number of differences, and is 0 when every case differs.
Among at most `2 ^ 53` cases it is 100 exactly without differences and 0 exactly when every case
differs, so no report records a full success over a divergence. -/
theorem successRate_bounds {total : Nat} (fits : total < 2 ^ 64) :
    (∀ differences, successRate total differences = none ↔ total = 0) ∧
      (0 < total → ∀ differences, ∃ rate, successRate total differences = some rate ∧
        0 ≤ rate.toRat ∧ rate.toRat ≤ 100 ∧
        (∀ more, differences ≤ more → ∃ lower, successRate total more = some lower ∧
          lower.toRat ≤ rate.toRat) ∧
        (total ≤ differences → rate = .zero false) ∧
        (total ≤ 2 ^ 53 → (rate.toRat = 100 ↔ differences = 0) ∧
          (rate.toRat = 0 ↔ total ≤ differences))) ∧
      ∀ (I : Type) (outcome : SuiteOutcome I), outcome.totalCases = total → total ≤ 2 ^ 53 →
        0 < outcome.differences → ∀ rate,
          (SuiteSummary.ofOutcome outcome).successRate = some rate → rate.toRat < 100 := by
  refine ⟨fun differences => ⟨fun absent => ?_, fun none => if_pos none⟩,
    fun positive differences => ?_, ?_⟩
  · by_contra compared
    obtain ⟨rate, made, -⟩ :=
      exists_successRate (Nat.pos_of_ne_zero compared) fits differences
    exact Option.some_ne_none rate (made.symm.trans absent)
  · obtain ⟨rate, made, sign, value⟩ := exists_successRate positive fits differences
    have exact := toRat_of_not_negative sign
    refine ⟨rate, made, ?_, ?_, fun more order => ?_, fun all => ?_, fun counted => ⟨?_, ?_⟩⟩
    · exact exact ▸ rate.absolute_nonneg
    · rw [exact, value]
      exact roundedPercentage_le positive differences
    · obtain ⟨lower, lowerMade, lowerSign, lowerValue⟩ := exists_successRate positive fits more
      refine ⟨lower, lowerMade, ?_⟩
      rw [exact, value, toRat_of_not_negative lowerSign, lowerValue]
      exact roundedPercentage_antitone total order
    · refine eq_of_absolute_eq sign ?_
      rw [value, roundedPercentage_eq_zero all]
      exact ((isZero_iff (.zero false)).mp rfl).symm
    · rw [exact, value]
      refine ⟨fun full => ?_, fun none => none ▸ roundedPercentage_zero positive⟩
      by_contra some
      exact (roundedPercentage_lt positive counted (Nat.pos_of_ne_zero some)).ne full
    · rw [exact, value]
      refine ⟨fun empty => ?_, roundedPercentage_eq_zero⟩
      by_contra agrees
      exact (roundedPercentage_pos counted (not_le.mp agrees)).ne' empty
  · rintro I outcome rfl counted diverges rate given
    exact successRate_ofOutcome_lt diverges counted given

/-- One difference among `2 ^ 53` cases is neither a full success nor a full failure. -/
theorem successRate_bounds_last_exact_total : (2 : Nat) ^ 53 < 2 ^ 64 ∧
    ∃ rate, successRate (2 ^ 53) 1 = some rate ∧ rate.toRat ≠ 100 ∧ rate.toRat ≠ 0 := by
  have fits : (2 : Nat) ^ 53 < 2 ^ 64 := by decide
  obtain ⟨rate, made, -, -, -, -, extremes⟩ := (successRate_bounds fits).2.1 (by decide) 1
  obtain ⟨full, empty⟩ := extremes (Nat.le_refl _)
  exact ⟨fits, rate, made, fun same => absurd (full.mp same) (by decide),
    fun none => absurd (empty.mp none) (by decide)⟩

end Rate

end Concord
