import Concord.Binary64.Rounding
import Concord.Proofs.Binary64.Exact

/-!
# How far rounding moves a fraction

`Binary64.round` scales a fraction so that its leading bit becomes the 53rd, takes the nearest
integer and scales back. So it succeeds for every fraction below `overflowLimit`, the midpoint
beyond the greatest finite number, moves no fraction by more than half the spacing, and keeps a
fraction that is not too small within one part in `2 ^ 53`.
-/

namespace Concord

/-- The nearest integer is at most half away. -/
theorem roundHalfEven_error (numerator : Nat) {denominator : Nat} (positive : 0 < denominator) :
    |(roundHalfEven numerator denominator : ℚ) - numerator / denominator| ≤ 1 / 2 := by
  let quotient := numerator / denominator
  let remainder := numerator % denominator
  have split : numerator = denominator * quotient + remainder := (Nat.div_add_mod _ _).symm
  have below : remainder < denominator := Nat.mod_lt _ positive
  have scale : (0 : ℚ) < denominator := by exact_mod_cast positive
  -- The result is the quotient or the next integer, whichever side of a half the remainder is on.
  have choice : roundHalfEven numerator denominator = quotient ∧ 2 * remainder ≤ denominator ∨
      roundHalfEven numerator denominator = quotient + 1 ∧ denominator ≤ 2 * remainder := by
    simp only [roundHalfEven]
    change (if 2 * remainder < denominator then quotient
      else if denominator < 2 * remainder then quotient + 1 else quotient + quotient % 2) = quotient
        ∧ _ ∨ (if 2 * remainder < denominator then quotient
      else if denominator < 2 * remainder then quotient + 1 else quotient + quotient % 2) =
        quotient + 1 ∧ _
    split_ifs <;> omega
  have value : (numerator : ℚ) / denominator = quotient + remainder / denominator := by
    rw [split]
    push_cast
    field_simp
  have low : (0 : ℚ) ≤ remainder / denominator := by positivity
  rw [value, abs_le]
  rcases choice with ⟨result, half⟩ | ⟨result, half⟩
  · have small : (remainder : ℚ) / denominator ≤ 1 / 2 := by
      rw [div_le_div_iff₀ scale two_pos]
      exact_mod_cast (by omega : remainder * 2 ≤ 1 * denominator)
    rw [result]
    constructor <;> linarith only [low, small]
  · have large : 1 / 2 ≤ (remainder : ℚ) / denominator := by
      rw [div_le_div_iff₀ two_pos scale]
      exact_mod_cast (by omega : 1 * denominator ≤ remainder * 2)
    have small : (remainder : ℚ) / denominator < 1 := by
      rw [div_lt_one scale]
      exact_mod_cast below
    rw [result]
    push_cast
    constructor <;> linarith only [large, small]

/-- Rounding does not pass an integer from below. -/
theorem roundHalfEven_le {numerator denominator bound : Nat} (positive : 0 < denominator)
    (below : (numerator : ℚ) / denominator ≤ bound) :
    roundHalfEven numerator denominator ≤ bound := by
  have near := (abs_le.mp (roundHalfEven_error numerator positive)).2
  have strict : (roundHalfEven numerator denominator : ℚ) < (bound + 1 : Nat) := by
    push_cast
    linarith only [near, below]
  exact Nat.lt_succ_iff.mp (by exact_mod_cast strict)

/-- Rounding does not pass an integer from above. -/
theorem le_roundHalfEven {numerator denominator bound : Nat} (positive : 0 < denominator)
    (above : (bound : ℚ) ≤ numerator / denominator) :
    bound ≤ roundHalfEven numerator denominator := by
  have near := (abs_le.mp (roundHalfEven_error numerator positive)).1
  have strict : (bound : ℚ) < (roundHalfEven numerator denominator + 1 : Nat) := by
    push_cast
    linarith only [near, above]
  exact Nat.lt_succ_iff.mp (by exact_mod_cast strict)

namespace Binary64

/-- Comparing a fraction with a power of two on integers. -/
theorem lt_two_zpow_iff (numerator : Nat) {denominator : Nat} (positive : 0 < denominator)
    (e : Int) : (numerator : ℚ) / denominator < (2 : ℚ) ^ e ↔
      numerator * 2 ^ (-e).toNat < denominator * 2 ^ e.toNat := by
  have scale : (0 : ℚ) < denominator := by exact_mod_cast positive
  have unit : (0 : ℚ) < 2 ^ (-e).toNat := by positivity
  rw [zpow_eq_div two_ne_zero, div_lt_div_iff₀ scale unit, mul_comm ((2 : ℚ) ^ e.toNat)]
  exact_mod_cast Iff.rfl

/-- The binary logarithm of a positive fraction is the exponent of the greatest power of two that it
reaches. -/
theorem floorLog2_spec {numerator denominator : Nat} (top : 0 < numerator)
    (positive : 0 < denominator) :
    (2 : ℚ) ^ floorLog2 numerator denominator ≤ (numerator : ℚ) / denominator ∧
      (numerator : ℚ) / denominator < (2 : ℚ) ^ (floorLog2 numerator denominator + 1) := by
  let guess : Int := (numerator.log2 : Int) - denominator.log2
  have scale : (0 : ℚ) < denominator := by exact_mod_cast positive
  have topLow : (2 : ℚ) ^ (numerator.log2 : Int) ≤ numerator := by
    rw [zpow_natCast]
    exact_mod_cast Nat.log2_self_le top.ne'
  have topHigh : (numerator : ℚ) < (2 : ℚ) ^ (numerator.log2 + 1 : Int) := by
    exact_mod_cast Nat.lt_log2_self
  have bottomLow : (2 : ℚ) ^ (denominator.log2 : Int) ≤ denominator := by
    rw [zpow_natCast]
    exact_mod_cast Nat.log2_self_le positive.ne'
  have bottomHigh : (denominator : ℚ) < (2 : ℚ) ^ (denominator.log2 + 1 : Int) := by
    exact_mod_cast Nat.lt_log2_self
  have low : (2 : ℚ) ^ (guess - 1) ≤ (numerator : ℚ) / denominator := by
    rw [le_div_iff₀ scale]
    calc
      (2 : ℚ) ^ (guess - 1) * denominator
          ≤ (2 : ℚ) ^ (guess - 1) * (2 : ℚ) ^ (denominator.log2 + 1 : Int) := by gcongr
      _ = (2 : ℚ) ^ (numerator.log2 : Int) := by
        rw [← zpow_add₀ two_ne_zero]
        congr 1
        omega
      _ ≤ numerator := topLow
  have high : (numerator : ℚ) / denominator < (2 : ℚ) ^ (guess + 1) := by
    rw [div_lt_iff₀ scale]
    calc
      (numerator : ℚ) < (2 : ℚ) ^ (numerator.log2 + 1 : Int) := topHigh
      _ = (2 : ℚ) ^ (guess + 1) * (2 : ℚ) ^ (denominator.log2 : Int) := by
        rw [← zpow_add₀ two_ne_zero]
        congr 1
        omega
      _ ≤ (2 : ℚ) ^ (guess + 1) * denominator := by gcongr
  have compared := lt_two_zpow_iff numerator positive guess
  have unfolded : floorLog2 numerator denominator =
      if numerator * 2 ^ (-guess).toNat < denominator * 2 ^ guess.toNat then guess - 1
      else guess := rfl
  rw [unfolded]
  split_ifs with less
  · exact ⟨low, by simpa using compared.mpr less⟩
  · exact ⟨not_lt.mp fun small => less (compared.mp small), high⟩

/-- The midpoint between the greatest finite number and the power of two beyond it. Fractions from
it on round to no finite number. -/
def overflowLimit : ℚ := 2 ^ 1024 - 2 ^ 970

/-- The overflow limit is half a unit short of 53 bits at the greatest spacing. -/
theorem overflowLimit_eq : overflowLimit = (2 ^ 53 - 1 / 2) * (2 : ℚ) ^ (971 : Int) := by
  have unit : (2 : ℚ) ^ (971 : Int) = 2 ^ 970 * 2 := by
    rw [show (971 : Int) = (970 : Nat) + 1 from rfl, zpow_add_one₀ two_ne_zero, zpow_natCast]
  have power : (2 : ℚ) ^ 1024 = 2 ^ 54 * 2 ^ 970 := by rw [← pow_add]
  rw [overflowLimit, unit, power]
  generalize (2 : ℚ) ^ 970 = spacing
  ring

/-- The fraction measured in units of the spacing at which it is rounded. -/
theorem scaled_fraction (numerator denominator : Nat) (e : Int) :
    ((numerator * 2 ^ (-e).toNat : Nat) : ℚ) / (denominator * 2 ^ e.toNat : Nat) =
      (numerator : ℚ) / denominator / (2 : ℚ) ^ e := by
  rw [zpow_eq_div two_ne_zero]
  push_cast
  rw [div_div_div_eq]

section

variable {numerator denominator : Nat}

/-- The significand that a positive fraction is rounded to, which may be the power of two just
beyond the greatest one. -/
def roundedSignificand (numerator denominator : Nat) : Nat :=
  let exponent := roundingExponent numerator denominator
  roundHalfEven (numerator * 2 ^ (-exponent).toNat) (denominator * 2 ^ exponent.toNat)

/-- The rational that a positive fraction is rounded to. -/
def nearestAbsolute (numerator denominator : Nat) : ℚ :=
  roundedSignificand numerator denominator * (2 : ℚ) ^ roundingExponent numerator denominator

/-- The rounded significand is within half a unit of the scaled fraction. -/
theorem roundedSignificand_error (positive : 0 < denominator) :
    |(roundedSignificand numerator denominator : ℚ) - (numerator : ℚ) / denominator /
      (2 : ℚ) ^ roundingExponent numerator denominator| ≤ 1 / 2 := by
  rw [← scaled_fraction]
  exact roundHalfEven_error _ (by positivity)

/-- At its rounding exponent a fraction has at most 53 bits before the point, and exactly 53 unless
the exponent is the least one. -/
theorem roundingExponent_spec (top : 0 < numerator) (positive : 0 < denominator) :
    (numerator : ℚ) / denominator / (2 : ℚ) ^ roundingExponent numerator denominator < 2 ^ 53 ∧
      (roundingExponent numerator denominator = -1074 ∨ 2 ^ 52 ≤
        (numerator : ℚ) / denominator / (2 : ℚ) ^ roundingExponent numerator denominator) := by
  obtain ⟨low, high⟩ := floorLog2_spec top positive
  let e := roundingExponent numerator denominator
  have unit : (0 : ℚ) < (2 : ℚ) ^ e := by positivity
  have exponent : e = max (-1074) (floorLog2 numerator denominator - 52) := rfl
  constructor
  · rw [div_lt_iff₀ unit]
    calc
      (numerator : ℚ) / denominator < (2 : ℚ) ^ (floorLog2 numerator denominator + 1) := high
      _ ≤ (2 : ℚ) ^ (53 + e) := zpow_le_zpow_right₀ one_le_two (by omega)
      _ = 2 ^ 53 * (2 : ℚ) ^ e := by rw [zpow_add₀ two_ne_zero]; norm_cast
  · by_cases least : e = -1074
    · exact Or.inl least
    · right
      rw [le_div_iff₀ unit]
      calc
        2 ^ 52 * (2 : ℚ) ^ e = (2 : ℚ) ^ (52 + e) := by rw [zpow_add₀ two_ne_zero]; norm_cast
        _ = (2 : ℚ) ^ floorLog2 numerator denominator := by congr 1; omega
        _ ≤ (numerator : ℚ) / denominator := low

/-- The rounded significand has at most 53 bits or is the power of two beyond, and it has its
leading bit unless the exponent is the least one. -/
theorem roundedSignificand_bounds (top : 0 < numerator) (positive : 0 < denominator) :
    roundedSignificand numerator denominator ≤ 2 ^ 53 ∧
      (roundingExponent numerator denominator = -1074 ∨
        2 ^ 52 ≤ roundedSignificand numerator denominator) := by
  obtain ⟨high, low⟩ := roundingExponent_spec top positive
  constructor
  · apply roundHalfEven_le (by positivity)
    rw [scaled_fraction]
    exact_mod_cast high.le
  · refine low.imp_right fun above => ?_
    apply le_roundHalfEven (by positivity)
    rw [scaled_fraction]
    exact_mod_cast above

/-- Below the overflow limit the spacing is that of a finite number, also after a carry. -/
theorem roundingExponent_le (top : 0 < numerator) (positive : 0 < denominator)
    (finite : (numerator : ℚ) / denominator < overflowLimit) :
    roundingExponent numerator denominator ≤ 970 ∨
      roundingExponent numerator denominator = 971 ∧
        roundedSignificand numerator denominator < 2 ^ 53 := by
  obtain ⟨-, low⟩ := roundingExponent_spec top positive
  by_cases small : roundingExponent numerator denominator ≤ 970
  · exact Or.inl small
  · right
    have above : 2 ^ 52 ≤ (numerator : ℚ) / denominator /
        (2 : ℚ) ^ roundingExponent numerator denominator := low.resolve_left (by omega)
    rw [le_div_iff₀ (by positivity)] at above
    have exponent : roundingExponent numerator denominator = 971 := by
      by_contra other
      have large : (2 : ℚ) ^ (971 : Int) * 2 ≤
          (2 : ℚ) ^ roundingExponent numerator denominator := by
        rw [← zpow_add_one₀ two_ne_zero]
        exact zpow_le_zpow_right₀ one_le_two (by omega)
      have unit : (0 : ℚ) < (2 : ℚ) ^ (971 : Int) := by positivity
      rw [overflowLimit_eq] at finite
      generalize (2 : ℚ) ^ (971 : Int) = spacing at large unit finite
      linarith only [large, unit, finite, above]
    refine ⟨exponent, ?_⟩
    have error : |(roundedSignificand numerator denominator : ℚ) - (numerator : ℚ) / denominator /
        (2 : ℚ) ^ roundingExponent numerator denominator| ≤ 1 / 2 :=
      roundedSignificand_error positive
    have near := (abs_le.mp error).2
    have bounded := (roundedSignificand_bounds top positive).1
    rcases Nat.lt_or_eq_of_le bounded with strict | carry
    · exact strict
    · exfalso
      rw [carry, exponent, Nat.cast_pow, Nat.cast_ofNat, sub_le_comm,
        le_div_iff₀ (by positivity)] at near
      rw [overflowLimit_eq] at finite
      exact absurd finite (not_lt.mpr near)

/-- A positive fraction below the overflow limit is rounded to a finite number of the given sign. -/
theorem exists_round_of_pos (negative : Bool) (top : 0 < numerator) (positive : 0 < denominator)
    (finite : (numerator : ℚ) / denominator < overflowLimit) :
    ∃ x, round negative numerator denominator = some x ∧ x.negative = negative ∧
      x.absolute = nearestAbsolute numerator denominator := by
  obtain ⟨bounded, leading⟩ := roundedSignificand_bounds top positive
  have least : -1074 ≤ roundingExponent numerator denominator := le_max_left _ _
  have unfolded : round negative numerator denominator =
      if roundedSignificand numerator denominator = 2 ^ 53 then
        ofParts? negative (2 ^ 52) (roundingExponent numerator denominator + 1)
      else
        ofParts? negative (roundedSignificand numerator denominator)
          (roundingExponent numerator denominator) := by
    rw [round, if_neg top.ne']
    rfl
  rw [unfolded, nearestAbsolute]
  by_cases carry : roundedSignificand numerator denominator = 2 ^ 53
  · rw [if_pos carry]
    have canonical : Canonical (2 ^ 52) (roundingExponent numerator denominator + 1) := by
      have spacing := roundingExponent_le top positive finite
      refine ⟨by decide, by omega, by omega, Or.inr (by decide)⟩
    refine ⟨_, ofParts?_eq_some canonical negative, rfl, ?_⟩
    rw [absolute, carry, zpow_add₀ two_ne_zero]
    push_cast
    ring
  · rw [if_neg carry]
    have canonical : Canonical (roundedSignificand numerator denominator)
        (roundingExponent numerator denominator) := by
      have spacing := roundingExponent_le top positive finite
      refine ⟨lt_of_le_of_ne bounded carry, least, by omega, leading⟩
    exact ⟨_, ofParts?_eq_some canonical negative, rfl, rfl⟩

/-- A fraction of normal size moves by at most one part in `2 ^ 53`. -/
theorem nearestAbsolute_error (top : 0 < numerator) (positive : 0 < denominator)
    (normal : (2 : ℚ) ^ (-1022 : Int) ≤ (numerator : ℚ) / denominator) :
    |nearestAbsolute numerator denominator - (numerator : ℚ) / denominator| ≤
      (numerator : ℚ) / denominator / 2 ^ 53 := by
  obtain ⟨low, high⟩ := floorLog2_spec top positive
  let e := roundingExponent numerator denominator
  have unit : (0 : ℚ) < (2 : ℚ) ^ e := by positivity
  have exponent : e = floorLog2 numerator denominator - 52 := by
    have order := (zpow_lt_zpow_iff_right₀ (one_lt_two : (1 : ℚ) < 2)).mp (normal.trans_lt high)
    have defined : e = max (-1074) (floorLog2 numerator denominator - 52) := rfl
    omega
  have scaled : nearestAbsolute numerator denominator - (numerator : ℚ) / denominator =
      ((roundedSignificand numerator denominator : ℚ) -
        (numerator : ℚ) / denominator / (2 : ℚ) ^ e) * (2 : ℚ) ^ e := by
    rw [nearestAbsolute, sub_mul, div_mul_cancel₀ _ unit.ne']
  have spacing : (2 : ℚ) ^ e = (2 : ℚ) ^ floorLog2 numerator denominator / 2 ^ 52 := by
    rw [exponent, zpow_sub₀ two_ne_zero]
    norm_cast
  calc
    |nearestAbsolute numerator denominator - (numerator : ℚ) / denominator|
        ≤ 1 / 2 * (2 : ℚ) ^ e := by
      rw [scaled, abs_mul, abs_of_pos unit]
      exact mul_le_mul_of_nonneg_right (roundedSignificand_error positive) unit.le
    _ ≤ (numerator : ℚ) / denominator / 2 ^ 53 := by
      rw [spacing, le_div_iff₀ (by positivity)]
      linarith only [low]

/-- No finite number reaches the overflow limit. -/
theorem absolute_lt_overflowLimit (x : Binary64) : x.absolute < overflowLimit := by
  have significand : (x.significand : ℚ) ≤ 2 ^ 53 - 1 := by
    have fits := x.significand_lt
    rw [Nat.pow_eq] at fits
    rw [le_sub_iff_add_le]
    exact_mod_cast fits
  have unit : (0 : ℚ) < (2 : ℚ) ^ (971 : Int) := by positivity
  have spacing : (2 : ℚ) ^ x.exponent ≤ (2 : ℚ) ^ (971 : Int) :=
    zpow_le_zpow_right₀ one_le_two x.exponent_le
  rw [overflowLimit_eq, absolute]
  calc
    (x.significand : ℚ) * (2 : ℚ) ^ x.exponent
        ≤ (2 ^ 53 - 1) * (2 : ℚ) ^ (971 : Int) :=
      mul_le_mul significand spacing (by positivity) (by norm_num)
    _ < (2 ^ 53 - 1 / 2) * (2 : ℚ) ^ (971 : Int) := by
      apply mul_lt_mul_of_pos_right _ unit
      norm_num

end

/-- The quotient of magnitudes is that of the absolute values. -/
theorem magnitude_div (x y : Binary64) :
    ((x.magnitude.1 * y.magnitude.2 : Nat) : ℚ) / (x.magnitude.2 * y.magnitude.1 : Nat) =
      x.absolute / y.absolute := by
  rw [← magnitude_eq_absolute, ← magnitude_eq_absolute, div_div_div_eq]
  push_cast
  rfl

/-- The product of magnitudes is that of the absolute values. -/
theorem magnitude_mul (x y : Binary64) :
    ((x.magnitude.1 * y.magnitude.1 : Nat) : ℚ) / (x.magnitude.2 * y.magnitude.2 : Nat) =
      x.absolute * y.absolute := by
  rw [← magnitude_eq_absolute, ← magnitude_eq_absolute, div_mul_div_comm]
  push_cast
  rfl

/-- The numerator of a magnitude is positive unless the number is a zero. -/
theorem magnitude_fst_pos {x : Binary64} (nonzero : 0 < x.absolute) : 0 < x.magnitude.1 := by
  rw [← magnitude_eq_absolute] at nonzero
  by_contra zero
  rw [Nat.eq_zero_of_not_pos zero] at nonzero
  simp at nonzero

/-- The powers of ten that numbers are scaled by are finite. -/
theorem ten_pow_lt_overflowLimit {n : Nat} (bounded : n ≤ 308) :
    ((10 ^ n : Nat) : ℚ) < overflowLimit := by
  have greatest : (10 ^ 308 : Nat) + 2 ^ 970 < 2 ^ 1024 := by decide +kernel
  have power : 10 ^ n ≤ 10 ^ 308 := pow_le_pow_right₀ (by decide : 1 ≤ 10) bounded
  have sum : 10 ^ n + 2 ^ 970 < 2 ^ 1024 := (Nat.add_le_add_right power _).trans_lt greatest
  rw [overflowLimit, lt_sub_iff_add_lt]
  exact_mod_cast sum

end Binary64

end Concord
