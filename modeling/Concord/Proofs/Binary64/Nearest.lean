import Concord.Proofs.Binary64.Rounding

/-!
# Rounding depends on the rational alone

A fraction is rounded by its value: `nearest` is what a rational becomes, in whatever terms it is
written. Products and quotients are the exact ones rounded so, and small integers stay as they are.
-/

namespace Concord

/-- Cancelling a common factor does not change the nearest integer. -/
theorem roundHalfEven_mul_right (numerator denominator : Nat) {factor : Nat}
    (positive : 0 < factor) :
    roundHalfEven (numerator * factor) (denominator * factor) =
      roundHalfEven numerator denominator := by
  have cancel (a b : Nat) : a * factor < b * factor ↔ a < b := Nat.mul_lt_mul_right positive
  simp only [roundHalfEven, Nat.mul_div_mul_right _ _ positive, Nat.mul_mod_mul_right,
    ← Nat.mul_assoc, cancel]

/-- Equal fractions have the same nearest integer. -/
theorem roundHalfEven_congr {numerator denominator top bottom : Nat} (first : 0 < denominator)
    (second : 0 < bottom) (same : numerator * bottom = top * denominator) :
    roundHalfEven numerator denominator = roundHalfEven top bottom := by
  calc
    roundHalfEven numerator denominator
        = roundHalfEven (numerator * bottom) (denominator * bottom) :=
      (roundHalfEven_mul_right numerator denominator second).symm
    _ = roundHalfEven (top * denominator) (bottom * denominator) := by
      rw [same, Nat.mul_comm denominator]
    _ = roundHalfEven top bottom := roundHalfEven_mul_right top bottom first

/-- An integer is its own nearest integer. -/
theorem roundHalfEven_one (n : Nat) : roundHalfEven n 1 = n := by
  simp [roundHalfEven, Nat.mod_one]

namespace Binary64

section

variable {numerator denominator top bottom : Nat}

/-- Equal fractions have the same binary logarithm. -/
theorem floorLog2_congr (some : 0 < numerator) (first : 0 < denominator) (other : 0 < top)
    (second : 0 < bottom) (same : (numerator : ℚ) / denominator = (top : ℚ) / bottom) :
    floorLog2 numerator denominator = floorLog2 top bottom := by
  obtain ⟨low, high⟩ := floorLog2_spec some first
  obtain ⟨otherLow, otherHigh⟩ := floorLog2_spec other second
  rw [same] at low high
  have up := (zpow_lt_zpow_iff_right₀ (one_lt_two : (1 : ℚ) < 2)).mp (low.trans_lt otherHigh)
  have down := (zpow_lt_zpow_iff_right₀ (one_lt_two : (1 : ℚ) < 2)).mp (otherLow.trans_lt high)
  omega

/-- Equal fractions are rounded to the same rational. -/
theorem nearestAbsolute_congr (first : 0 < denominator) (second : 0 < bottom)
    (same : (numerator : ℚ) / denominator = (top : ℚ) / bottom) :
    nearestAbsolute numerator denominator = nearestAbsolute top bottom := by
  have crossed : numerator * bottom = top * denominator := by
    rw [div_eq_div_iff (by positivity) (by positivity)] at same
    exact_mod_cast same
  rcases Nat.eq_zero_or_pos numerator with rfl | some
  · have none : top = 0 := by
      rw [Nat.zero_mul] at crossed
      exact (Nat.mul_eq_zero.mp crossed.symm).resolve_right first.ne'
    simp [none, nearestAbsolute, roundedSignificand, roundHalfEven]
  · have other : 0 < top := by
      apply Nat.pos_of_ne_zero
      rintro rfl
      have positive := Nat.mul_pos some second
      omega
    have exponents : roundingExponent numerator denominator = roundingExponent top bottom := by
      rw [roundingExponent, roundingExponent, floorLog2_congr some first other second same]
    have significands : roundedSignificand numerator denominator =
        roundedSignificand top bottom := by
      rw [roundedSignificand, roundedSignificand, exponents]
      apply roundHalfEven_congr (by positivity) (by positivity)
      rw [Nat.mul_mul_mul_comm, crossed, Nat.mul_mul_mul_comm]
    rw [nearestAbsolute, nearestAbsolute, significands, exponents]

end

/-- The rational that a rational without a sign is rounded to. -/
def nearest (r : ℚ) : ℚ := nearestAbsolute r.num.natAbs r.den

/-- A rational without a sign as a fraction of natural numbers. -/
theorem natAbs_num_div_den {r : ℚ} (nonneg : 0 ≤ r) : (r.num.natAbs : ℚ) / r.den = r := by
  have top : (r.num.natAbs : Int) = r.num := Int.natAbs_of_nonneg (Rat.num_nonneg.mpr nonneg)
  rw [← Int.cast_natCast (R := ℚ), top, Rat.num_div_den]

/-- A fraction is rounded as the rational it stands for. -/
theorem nearestAbsolute_eq_nearest {numerator denominator : Nat} (positive : 0 < denominator) :
    nearestAbsolute numerator denominator = nearest ((numerator : ℚ) / denominator) := by
  apply nearestAbsolute_congr positive (Rat.den_pos _)
  rw [natAbs_num_div_den (by positivity)]

/-- What a rational is rounded to has no sign. -/
theorem nearest_nonneg (r : ℚ) : 0 ≤ nearest r := by
  unfold nearest nearestAbsolute
  positivity

/-- Zero is not rounded. -/
theorem nearest_zero : nearest 0 = 0 := by
  simp [nearest, nearestAbsolute, roundedSignificand, roundHalfEven]

/-- Integers of at most 53 bits are not rounded. -/
theorem nearest_natCast {n : Nat} (small : n < 2 ^ 53) : nearest n = n := by
  rcases Nat.eq_zero_or_pos n with rfl | positive
  · exact_mod_cast nearest_zero
  · have fraction : nearest n = nearestAbsolute n 1 := by
      rw [nearestAbsolute_eq_nearest one_pos, Nat.cast_one, div_one]
    obtain ⟨low, -⟩ := floorLog2_spec positive one_pos
    have below : (2 : ℚ) ^ floorLog2 n 1 < (2 : ℚ) ^ (53 : Int) := by
      rw [Nat.cast_one, div_one] at low
      exact low.trans_lt (by exact_mod_cast small)
    have bits := (zpow_lt_zpow_iff_right₀ (one_lt_two : (1 : ℚ) < 2)).mp below
    have exponent : roundingExponent n 1 ≤ 0 := by
      rw [roundingExponent]
      omega
    obtain ⟨places, shift⟩ : ∃ places : Nat, roundingExponent n 1 = -places :=
      ⟨(roundingExponent n 1).natAbs, by omega⟩
    rw [fraction, nearestAbsolute, roundedSignificand, shift]
    simp [roundHalfEven_one]

/-- A rational of normal size moves by at most one part in `2 ^ 53`. -/
theorem nearest_error {r : ℚ} (normal : (2 : ℚ) ^ (-1022 : Int) ≤ r) :
    |nearest r - r| ≤ r / 2 ^ 53 := by
  have positive : 0 < r := lt_of_lt_of_le (by positivity) normal
  have fraction := natAbs_num_div_den positive.le
  have top : 0 < r.num.natAbs := Int.natAbs_pos.mpr (Rat.num_pos.mpr positive).ne'
  have error := nearestAbsolute_error top r.den_pos (by rwa [fraction])
  rwa [fraction] at error

/-- A fraction below the overflow limit becomes the number that stands for the nearest rational. -/
theorem exists_round_nearest (negative : Bool) {numerator denominator : Nat}
    (positive : 0 < denominator) (finite : (numerator : ℚ) / denominator < overflowLimit) :
    ∃ x, round negative numerator denominator = some x ∧
      x.absolute = nearest ((numerator : ℚ) / denominator) := by
  rcases Nat.eq_zero_or_pos numerator with rfl | top
  · refine ⟨zero negative, if_pos rfl, ?_⟩
    rw [Nat.cast_zero, zero_div, nearest_zero]
    simp [absolute, zero]
  · obtain ⟨x, rounded, -, value⟩ := exists_round_of_pos negative top positive finite
    exact ⟨x, rounded, value.trans (nearestAbsolute_eq_nearest positive)⟩

/-- The product is the exact one, rounded. -/
theorem exists_mul_nearest {x y : Binary64} (finite : x.absolute * y.absolute < overflowLimit) :
    ∃ z, x.mul y = some z ∧ z.absolute = nearest (x.absolute * y.absolute) := by
  rw [← magnitude_mul] at finite ⊢
  exact exists_round_nearest _ (Nat.mul_pos x.magnitude_snd_pos y.magnitude_snd_pos) finite

/-- The quotient is the exact one, rounded. -/
theorem exists_div_nearest (x : Binary64) {y : Binary64} (large : 1 ≤ y.absolute) :
    ∃ z, x.div y = some z ∧ z.absolute = nearest (x.absolute / y.absolute) := by
  have top : 0 < y.magnitude.1 := magnitude_fst_pos (zero_lt_one.trans_le large)
  have finite : x.absolute / y.absolute < overflowLimit :=
    (div_le_self x.absolute_nonneg large).trans_lt x.absolute_lt_overflowLimit
  rw [← magnitude_div] at finite ⊢
  exact exists_round_nearest _ (Nat.mul_pos x.magnitude_snd_pos top) finite

/-- A natural number below the overflow limit becomes the number nearest to it. -/
theorem exists_ofNat_nearest {n : Nat} (finite : (n : ℚ) < overflowLimit) :
    ∃ x, ofNat n = some x ∧ x.absolute = nearest n := by
  have below : (n : ℚ) / (1 : Nat) < overflowLimit := by rwa [Nat.cast_one, div_one]
  obtain ⟨x, rounded, value⟩ := exists_round_nearest false one_pos below
  exact ⟨x, rounded, by rw [value, Nat.cast_one, div_one]⟩

/-- A natural number moves by at most one part in `2 ^ 53`. -/
theorem nearest_natCast_error (n : Nat) : |nearest n - n| ≤ n / 2 ^ 53 := by
  rcases Nat.eq_zero_or_pos n with rfl | positive
  · simp [nearest_zero]
  · apply nearest_error
    have whole : (1 : ℚ) ≤ n := by exact_mod_cast positive
    exact (zpow_le_one_of_nonpos₀ one_le_two (by decide)).trans whole

/-- A natural number of at most 53 bits is a number of the format. -/
theorem exists_ofNat_exact {n : Nat} (small : n < 2 ^ 53) :
    ∃ x, ofNat n = some x ∧ x.absolute = n := by
  have finite : (n : ℚ) < overflowLimit := by
    have bound : n < 10 ^ 308 := small.trans (by decide +kernel)
    have below : (n : ℚ) < ((10 ^ 308 : Nat) : ℚ) := by exact_mod_cast bound
    exact below.trans (ten_pow_lt_overflowLimit (Nat.le_refl 308))
  obtain ⟨x, rounded, value⟩ := exists_ofNat_nearest finite
  exact ⟨x, rounded, value.trans (nearest_natCast small)⟩

/-- The powers of ten up to `10 ^ 22` are numbers of the format. -/
theorem exists_tenPow_exact {n : Nat} (small : n ≤ 22) :
    ∃ x, tenPow n = some x ∧ x.absolute = 10 ^ n := by
  have all : ∀ n ≤ 22, (tenPow n).any fun x => x.magnitude.1 == 10 ^ n * x.magnitude.2 := by
    decide +kernel
  obtain ⟨x, rounded, value⟩ := (Option.any_eq_true _ _).mp (all n small)
  refine ⟨x, rounded, ?_⟩
  have bottom : (x.magnitude.2 : ℚ) ≠ 0 := by exact_mod_cast x.magnitude_snd_pos.ne'
  rw [← magnitude_eq_absolute, beq_iff_eq.mp value, Nat.cast_mul, mul_div_cancel_right₀ _ bottom]
  norm_cast

end Binary64

end Concord
