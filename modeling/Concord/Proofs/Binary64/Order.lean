import Concord.Proofs.Binary64.Nearest

/-!
# Rounding keeps order

Of two rationals the greater one is not rounded to less: at one spacing the nearest integers are in
order, and where the spacing grows it grows at a power of two, which rounding does not pass. And a
number of the format is rounded to itself. So rounding passes no number of the format, which tells
how a chain of roundings compares with a bound that is one.
-/

namespace Concord

/-- Nearest integers are in the order of the fractions. -/
theorem roundHalfEven_mono {numerator denominator top bottom : Nat} (first : 0 < denominator)
    (second : 0 < bottom) (order : (numerator : ℚ) / denominator ≤ (top : ℚ) / bottom) :
    roundHalfEven numerator denominator ≤ roundHalfEven top bottom := by
  by_contra above
  have step : (roundHalfEven top bottom : ℚ) + 1 ≤ roundHalfEven numerator denominator := by
    exact_mod_cast not_le.mp above
  have high := (abs_le.mp (roundHalfEven_error numerator first)).2
  have low := (abs_le.mp (roundHalfEven_error top second)).1
  -- Both fractions are then the midpoint of two integers, so they are rounded alike.
  have same : (numerator : ℚ) / denominator = (top : ℚ) / bottom := by linarith
  have crossed : numerator * bottom = top * denominator := by
    rw [div_eq_div_iff (by positivity) (by positivity)] at same
    exact_mod_cast same
  exact above (roundHalfEven_congr first second crossed).le

namespace Binary64

section

variable {numerator denominator top bottom : Nat}

/-- The exponents at which fractions are rounded are in the order of the fractions. -/
theorem roundingExponent_mono (some : 0 < numerator) (first : 0 < denominator) (other : 0 < top)
    (second : 0 < bottom) (order : (numerator : ℚ) / denominator ≤ (top : ℚ) / bottom) :
    roundingExponent numerator denominator ≤ roundingExponent top bottom := by
  obtain ⟨low, -⟩ := floorLog2_spec some first
  obtain ⟨-, high⟩ := floorLog2_spec other second
  have logarithms := (zpow_lt_zpow_iff_right₀ (one_lt_two : (1 : ℚ) < 2)).mp
    (low.trans_lt (order.trans_lt high))
  unfold roundingExponent
  omega

/-- Fractions are rounded to rationals in their order. -/
theorem nearestAbsolute_mono (some : 0 < numerator) (first : 0 < denominator) (other : 0 < top)
    (second : 0 < bottom) (order : (numerator : ℚ) / denominator ≤ (top : ℚ) / bottom) :
    nearestAbsolute numerator denominator ≤ nearestAbsolute top bottom := by
  have exponents := roundingExponent_mono some first other second order
  rcases exponents.eq_or_lt with same | less
  · -- At one spacing the scaled fractions are in order.
    have unit : (0 : ℚ) < (2 : ℚ) ^ roundingExponent top bottom := by positivity
    have significands :
        roundedSignificand numerator denominator ≤ roundedSignificand top bottom := by
      rw [roundedSignificand, roundedSignificand, same]
      apply roundHalfEven_mono (by positivity) (by positivity)
      rw [scaled_fraction, scaled_fraction]
      exact div_le_div_of_nonneg_right order unit.le
    rw [nearestAbsolute, nearestAbsolute, same]
    exact mul_le_mul_of_nonneg_right (by exact_mod_cast significands) unit.le
  · -- The power of two at which the spacing grows stands between the results.
    have bounded := (roundedSignificand_bounds some first).1
    have least : -1074 ≤ roundingExponent numerator denominator := le_max_left _ _
    have leading : 2 ^ 52 ≤ roundedSignificand top bottom :=
      (roundedSignificand_bounds other second).2.resolve_left (by omega)
    have below : (roundedSignificand numerator denominator : ℚ) ≤ 2 ^ 52 * 2 := by
      exact_mod_cast bounded
    have above : (2 : ℚ) ^ 52 ≤ roundedSignificand top bottom := by exact_mod_cast leading
    calc
      nearestAbsolute numerator denominator
          ≤ 2 ^ 52 * 2 * (2 : ℚ) ^ roundingExponent numerator denominator :=
        mul_le_mul_of_nonneg_right below (by positivity)
      _ = 2 ^ 52 * (2 : ℚ) ^ (roundingExponent numerator denominator + 1) := by
        rw [zpow_add_one₀ two_ne_zero]
        ring
      _ ≤ 2 ^ 52 * (2 : ℚ) ^ roundingExponent top bottom :=
        mul_le_mul_of_nonneg_left (zpow_le_zpow_right₀ one_le_two (by omega)) (by positivity)
      _ ≤ nearestAbsolute top bottom := mul_le_mul_of_nonneg_right above (by positivity)

end

/-- Rounding keeps the order of rationals. -/
theorem nearest_mono {r s : ℚ} (nonneg : 0 ≤ r) (order : r ≤ s) : nearest r ≤ nearest s := by
  rcases nonneg.eq_or_lt with rfl | positive
  · rw [nearest_zero]
    exact nearest_nonneg s
  · have greater := positive.trans_le order
    apply nearestAbsolute_mono
    · exact Int.natAbs_pos.mpr (Rat.num_pos.mpr positive).ne'
    · exact r.den_pos
    · exact Int.natAbs_pos.mpr (Rat.num_pos.mpr greater).ne'
    · exact s.den_pos
    · rwa [natAbs_num_div_den nonneg, natAbs_num_div_den greater.le]

/-- A number of the format is rounded at its own exponent. -/
theorem roundingExponent_magnitude {x : Binary64} (nonzero : 0 < x.significand) :
    roundingExponent x.magnitude.1 x.magnitude.2 = x.exponent := by
  have unit : (0 : ℚ) < (2 : ℚ) ^ x.exponent := by positivity
  have digits : (0 : ℚ) < x.significand := by exact_mod_cast nonzero
  have top : 0 < x.magnitude.1 := magnitude_fst_pos (mul_pos digits unit)
  obtain ⟨low, high⟩ := floorLog2_spec top x.magnitude_snd_pos
  rw [magnitude_eq_absolute, absolute] at low high
  have below : floorLog2 x.magnitude.1 x.magnitude.2 < 53 + x.exponent := by
    apply (zpow_lt_zpow_iff_right₀ (one_lt_two : (1 : ℚ) < 2)).mp
    have fits : (x.significand : ℚ) < 2 ^ 53 := by exact_mod_cast x.significand_lt
    calc
      (2 : ℚ) ^ floorLog2 x.magnitude.1 x.magnitude.2
          ≤ x.significand * (2 : ℚ) ^ x.exponent := low
      _ < 2 ^ 53 * (2 : ℚ) ^ x.exponent := mul_lt_mul_of_pos_right fits unit
      _ = (2 : ℚ) ^ (53 + x.exponent) := by rw [zpow_add₀ two_ne_zero]; norm_cast
  have least := x.exponent_ge
  rw [roundingExponent]
  rcases x.normal with lowest | leading
  · omega
  · have above : 52 + x.exponent < floorLog2 x.magnitude.1 x.magnitude.2 + 1 := by
      apply (zpow_lt_zpow_iff_right₀ (one_lt_two : (1 : ℚ) < 2)).mp
      have reached : (2 : ℚ) ^ 52 ≤ x.significand := by exact_mod_cast leading
      calc
        (2 : ℚ) ^ (52 + x.exponent) = 2 ^ 52 * (2 : ℚ) ^ x.exponent := by
          rw [zpow_add₀ two_ne_zero]
          norm_cast
        _ ≤ x.significand * (2 : ℚ) ^ x.exponent := mul_le_mul_of_nonneg_right reached unit.le
        _ < (2 : ℚ) ^ (floorLog2 x.magnitude.1 x.magnitude.2 + 1) := high
    omega

/-- Numbers of the format are not rounded. -/
theorem nearest_absolute (x : Binary64) : nearest x.absolute = x.absolute := by
  rcases Nat.eq_zero_or_pos x.significand with none | nonzero
  · have zero : x.absolute = 0 := by rw [absolute, none, Nat.cast_zero, zero_mul]
    rw [zero, nearest_zero]
  · have unit : (2 : ℚ) ^ x.exponent ≠ 0 := by positivity
    have exponent := roundingExponent_magnitude nonzero
    have scaled : (x.magnitude.1 : ℚ) / x.magnitude.2 /
        (2 : ℚ) ^ roundingExponent x.magnitude.1 x.magnitude.2 = x.significand := by
      rw [exponent, magnitude_eq_absolute, absolute, mul_div_cancel_right₀ _ unit]
    have significand : roundedSignificand x.magnitude.1 x.magnitude.2 = x.significand := by
      have positive : 0 < x.magnitude.2 *
          2 ^ (roundingExponent x.magnitude.1 x.magnitude.2).toNat :=
        Nat.mul_pos x.magnitude_snd_pos (by positivity)
      rw [← scaled_fraction] at scaled
      exact le_antisymm (roundHalfEven_le positive scaled.le) (le_roundHalfEven positive scaled.ge)
    rw [← magnitude_eq_absolute, ← nearestAbsolute_eq_nearest x.magnitude_snd_pos, nearestAbsolute,
      significand, exponent, magnitude_eq_absolute, absolute]

/-- Rounding passes no number of the format. -/
theorem nearest_le_absolute {r : ℚ} (nonneg : 0 ≤ r) {x : Binary64} (below : r ≤ x.absolute) :
    nearest r ≤ x.absolute :=
  (nearest_mono nonneg below).trans_eq x.nearest_absolute

/-- Rationals of normal size are not rounded to less than half. -/
theorem half_le_nearest {r : ℚ} (normal : (2 : ℚ) ^ (-1022 : Int) ≤ r) : r / 2 ≤ nearest r := by
  have positive : 0 < r := lt_of_lt_of_le (by positivity) normal
  have error := (abs_le.mp (nearest_error normal)).1
  linarith only [error, positive]

/-- Counts up to `2 ^ 53` are not rounded. -/
theorem nearest_natCast_of_le {n : Nat} (bounded : n ≤ 2 ^ 53) : nearest n = n := by
  rcases bounded.eq_or_lt with rfl | small
  · let limit : Binary64 := ⟨false, 2 ^ 52, 1, by decide, by decide, by decide, by decide⟩
    have value : limit.absolute = ((2 ^ 53 : Nat) : ℚ) := by
      show ((2 ^ 52 : Nat) : ℚ) * (2 : ℚ) ^ (1 : Int) = _
      norm_num
    rw [← value, limit.nearest_absolute]
  · exact nearest_natCast small

section Signs

variable {negative : Bool} {x : Binary64}

/-- A number made of its parts has the sign that it was given. -/
theorem negative_of_ofParts? {significand : Nat} {exponent : Int}
    (made : ofParts? negative significand exponent = some x) : x.negative = negative := by
  unfold ofParts? at made
  split at made
  · obtain rfl := Option.some.inj made
    rfl
  · contradiction

/-- Rounding gives the sign that it was given. -/
theorem negative_of_round {numerator denominator : Nat}
    (rounded : round negative numerator denominator = some x) : x.negative = negative := by
  simp only [round] at rounded
  split_ifs at rounded
  · obtain rfl := Option.some.inj rounded
    rfl
  · exact negative_of_ofParts? rounded
  · exact negative_of_ofParts? rounded

end Signs

end Binary64

end Concord
