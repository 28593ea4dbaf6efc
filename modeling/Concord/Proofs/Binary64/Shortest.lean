import Concord.Binary64.Shortest
import Concord.Proofs.Binary64.Exact

/-!
# What the shortest digits of a number are

The digits come from a point of a decimal grid among the reals that round to the number. So they are
at most seventeen and one more, they are not all zero, and the decimal they make lies at most half
the spacing above the number. Leaving out trailing zeros changes the digits but not the decimal.
-/

namespace Concord

section Decimal

/-- A natural number is below the power of ten of its decimal length. -/
theorem lt_ten_pow_decimalLength (n : Nat) : n < 10 ^ decimalLength n :=
  (Nat.length_toDigits_le_iff (by decide) Nat.length_toDigits_pos).mp (Nat.le_refl _)

/-- A natural number has at least one digit. -/
theorem decimalLength_pos (n : Nat) : 0 < decimalLength n := Nat.length_toDigits_pos

/-- A number below a power of ten has no more digits than its exponent. -/
theorem decimalLength_le {n k : Nat} (positive : 0 < k) (below : n < 10 ^ k) :
    decimalLength n ≤ k :=
  (Nat.length_toDigits_le_iff (by decide) positive).mpr below

/-- A positive number reaches the power of ten of its leading digit. -/
theorem ten_pow_le_of_pos {n : Nat} (positive : 0 < n) : 10 ^ (decimalLength n - 1) ≤ n := by
  by_contra below
  rcases Nat.eq_zero_or_pos (decimalLength n - 1) with single | several
  · rw [single, Nat.pow_zero] at below
    omega
  · have shorter := decimalLength_le several (Nat.lt_of_not_le below)
    omega

/-- A trailing zero is one more digit. -/
theorem decimalLength_mul_ten {n : Nat} (positive : 0 < n) :
    decimalLength (n * 10) = decimalLength n + 1 := by
  have base : 10 ≤ n * 10 := Nat.le_mul_of_pos_left 10 positive
  rw [decimalLength, Nat.toDigits_of_base_le (by decide) base, List.length_append,
    Nat.mul_div_cancel _ (by decide), decimalLength, List.length_singleton]

/-- Trailing zeros are as many more digits. -/
theorem decimalLength_mul_ten_pow {n : Nat} (positive : 0 < n) (zeros : Nat) :
    decimalLength (n * 10 ^ zeros) = decimalLength n + zeros := by
  induction zeros with
  | zero => simp
  | succ zeros ih =>
    have shifted : 0 < n * 10 ^ zeros := Nat.mul_pos positive (by positivity)
    rw [Nat.pow_succ, ← Nat.mul_assoc, decimalLength_mul_ten shifted, ih, Nat.add_assoc]

/-- What is dropped from a number are trailing zeros. -/
theorem exists_dropTrailingZeros (fuel n : Nat) :
    ∃ zeros, n = dropTrailingZeros fuel n * 10 ^ zeros := by
  induction fuel generalizing n with
  | zero => exact ⟨0, (Nat.mul_one n).symm⟩
  | succ fuel ih =>
    rw [dropTrailingZeros]
    split_ifs with divides
    · obtain ⟨zeros, split⟩ := ih (n / 10)
      refine ⟨zeros + 1, ?_⟩
      rw [Nat.pow_succ, ← Nat.mul_assoc, ← split]
      omega
    · exact ⟨0, (Nat.mul_one n).symm⟩

end Decimal

namespace Scientific

/-- The exponent of ten of the last digit. -/
def lastPlace (s : Scientific) : Int := s.exponent - decimalLength s.digits + 1

/-- The rational that a decimal stands for. -/
def value (s : Scientific) : ℚ := s.digits * (10 : ℚ) ^ s.lastPlace

/-- The decimal of a grid point stands for the point: its trailing zeros do not count. -/
theorem value_dropTrailingZeros {count point : Nat} (positive : 0 < point) (place : Int) :
    value ⟨dropTrailingZeros count point, place + decimalLength point - 1⟩ =
      point * (10 : ℚ) ^ place := by
  obtain ⟨zeros, split⟩ := exists_dropTrailingZeros count point
  let digits := dropTrailingZeros count point
  change point = digits * 10 ^ zeros at split
  have some : 0 < digits := Nat.pos_of_ne_zero fun none => by simp [split, none] at positive
  have length : decimalLength point = decimalLength digits + zeros := by
    rw [split, decimalLength_mul_ten_pow some]
  calc
    (digits : ℚ) * (10 : ℚ) ^ (place + decimalLength point - 1 - decimalLength digits + 1)
        = digits * (10 : ℚ) ^ (zeros + place) := by
      rw [length]
      congr 2
      push_cast
      ring
    _ = point * (10 : ℚ) ^ place := by
      rw [zpow_add₀ (by norm_num), zpow_natCast, split]
      push_cast
      ring

end Scientific

namespace Binary64

/-- A positive fraction is below the power of ten after its leading digit. -/
theorem lt_ten_zpow_leadingExponent {numerator denominator : Nat} (top : 0 < numerator)
    (positive : 0 < denominator) :
    (numerator : ℚ) / denominator < (10 : ℚ) ^ (leadingExponent numerator denominator + 1) := by
  have scale : (0 : ℚ) < denominator := by exact_mod_cast positive
  rw [div_lt_iff₀ scale, leadingExponent]
  split_ifs with large
  · have below := lt_ten_pow_decimalLength (numerator / denominator)
    have quotient : numerator < 10 ^ decimalLength (numerator / denominator) * denominator :=
      (Nat.div_lt_iff_lt_mul positive).mp below
    rw [sub_add_cancel, zpow_natCast]
    exact_mod_cast quotient
  · let inverse := (denominator - 1) / numerator
    have some : 0 < inverse := Nat.div_pos (by omega) top
    have reached : 10 ^ (decimalLength inverse - 1) * numerator ≤ denominator - 1 :=
      (Nat.le_div_iff_mul_le top).mp (ten_pow_le_of_pos some)
    have below : numerator * 10 ^ (decimalLength inverse - 1) < denominator := by
      rw [Nat.mul_comm]
      omega
    have exponent :
        -(decimalLength inverse : Int) + 1 = -((decimalLength inverse - 1 : Nat) : Int) := by
      have digits := decimalLength_pos inverse
      omega
    change (numerator : ℚ) < (10 : ℚ) ^ (-(decimalLength inverse : Int) + 1) * denominator
    rw [exponent, zpow_neg, zpow_natCast, ← div_eq_inv_mul, lt_div_iff₀ (by positivity)]
    exact_mod_cast below

/-- A point of a grid that lies in a neighbourhood, compared on integers. -/
theorem Neighbourhood.bounds_of_holds {hood : Neighbourhood} {point unitTop unitBottom : Nat}
    (holds : hood.holds point unitTop unitBottom = true) :
    hood.lower * unitBottom ≤ point * unitTop * hood.denominator ∧
      point * unitTop * hood.denominator ≤ hood.upper * unitBottom := by
  rw [Neighbourhood.holds] at holds
  split_ifs at holds with closed
  · exact of_decide_eq_true holds
  · have strict := of_decide_eq_true holds
    exact ⟨strict.1.le, strict.2.le⟩

/-- The grid point that stands for a number lies in its neighbourhood, and is at most the one next
above the number. -/
theorem gridPoint_spec {tie : Tie} {hood : Neighbourhood} {place : Int} {point : Nat}
    (found : gridPoint tie hood place = some point) :
    hood.holds point (10 ^ place.toNat) (10 ^ (-place).toNat) = true ∧
      point ≤ hood.value * 10 ^ (-place).toNat / (hood.denominator * 10 ^ place.toNat) + 1 := by
  unfold gridPoint at found
  simp only [Nat.pow_eq] at found
  generalize hood.value * 10 ^ (-place).toNat / (hood.denominator * 10 ^ place.toNat) = floor at *
  split at found
  case h_1 => contradiction
  case h_2 low _ =>
    exact Option.some.inj found ▸ ⟨low, Nat.le_succ _⟩
  case h_3 _ high =>
    exact Option.some.inj found ▸ ⟨high, Nat.le_refl _⟩
  case h_4 low high =>
    -- Both neighbours on the grid stand for the number, so it does not matter which is taken.
    have either : point = floor ∨ point = floor + 1 := by
      split_ifs at found
      · exact Or.inl (Option.some.inj found).symm
      · exact Or.inr (Option.some.inj found).symm
      · cases tie with
        | up => exact Or.inr (Option.some.inj found).symm
        | toEven =>
          have even := Option.some.inj found
          omega
    rcases either with rfl | rfl
    · exact ⟨low, Nat.le_succ _⟩
    · exact ⟨high, Nat.le_refl _⟩

/-- The first grid that has a point for the number is one of those tried, and the decimal is that
point. -/
theorem firstGrid_spec {tie : Tie} {hood : Neighbourhood} {leading : Int} {more count : Nat}
    {s : Scientific} (found : firstGrid tie hood leading more count = some s) :
    ∃ digits point, count ≤ digits ∧ digits < count + more ∧
      gridPoint tie hood (leading - digits + 1) = some point ∧
      s = ⟨dropTrailingZeros digits point, leading - digits + 1 + decimalLength point - 1⟩ := by
  induction more generalizing count with
  | zero => simp [firstGrid] at found
  | succ more ih =>
    rw [firstGrid] at found
    cases here : gridPoint tie hood (leading - count + 1) with
    | some point =>
      simp only [here, Option.some.injEq] at found
      exact ⟨count, point, Nat.le_refl _, by omega, here, found.symm⟩
    | none =>
      simp only [here] at found
      obtain ⟨digits, point, least, greatest, rest⟩ := ih found
      exact ⟨digits, point, by omega, by omega, rest⟩

section Neighbourhood

variable {x : Binary64}

/-- The least real that rounds to a positive number is positive. -/
theorem neighbourhood_lower_pos (nonzero : 0 < x.significand) : 0 < x.neighbourhood.lower := by
  apply Nat.mul_pos
  · split_ifs <;> omega
  · exact Nat.two_pow_pos _

/-- The common denominator of a neighbourhood is positive. -/
theorem neighbourhood_denominator_pos (x : Binary64) : 0 < x.neighbourhood.denominator :=
  Nat.mul_pos (by decide) (Nat.two_pow_pos _)

/-- A neighbourhood reaches half the spacing above the number. -/
theorem neighbourhood_upper (x : Binary64) :
    (x.neighbourhood.upper : ℚ) / x.neighbourhood.denominator =
      (x.significand + 1 / 2) * (2 : ℚ) ^ x.exponent := by
  rw [zpow_eq_div two_ne_zero]
  simp only [neighbourhood, Nat.pow_eq]
  push_cast
  field_simp
  ring

/-- A fraction of numbers below a power of ten has a leading digit near the point. -/
theorem leadingExponent_natAbs_le {numerator denominator bound : Nat} (positive : 0 < bound)
    (top : numerator < 10 ^ bound) (bottom : denominator < 10 ^ bound) :
    (leadingExponent numerator denominator).natAbs ≤ bound := by
  rw [leadingExponent]
  split_ifs
  · have quotient := Nat.div_le_self numerator denominator
    have short := decimalLength_le positive (quotient.trans_lt top)
    have digits := decimalLength_pos (numerator / denominator)
    omega
  · have quotient := (Nat.div_le_self (denominator - 1) numerator).trans (Nat.sub_le _ _)
    have short := decimalLength_le positive (quotient.trans_lt bottom)
    omega

/-- The leading digit of a number stands near the point. -/
theorem leadingExponent_neighbourhood (x : Binary64) :
    (leadingExponent x.neighbourhood.value x.neighbourhood.denominator).natAbs ≤ 400 := by
  have fits : x.significand < 2 ^ 53 := x.significand_lt
  have most := x.exponent_le
  have least := x.exponent_ge
  have narrow : 4 * x.significand < 4 * 2 ^ 53 := by omega
  have bounded : x.exponent.toNat ≤ 971 := by omega
  have spacing := Nat.pow_le_pow_right (by decide : 2 > 0) bounded
  have unit := Nat.two_pow_pos 971
  apply leadingExponent_natAbs_le (by decide)
  · calc
      4 * x.significand * 2 ^ x.exponent.toNat < 4 * 2 ^ 53 * 2 ^ 971 :=
        Nat.mul_lt_mul_of_lt_of_le narrow spacing unit
      _ < 10 ^ 400 := by decide +kernel
  · calc
      4 * 2 ^ (-x.exponent).toNat ≤ 4 * 2 ^ 1074 :=
        Nat.mul_le_mul_left 4 (Nat.pow_le_pow_right (by decide) (by omega))
      _ < 10 ^ 400 := by decide +kernel

/-- A grid point that stands for a number is positive and has at most as many digits as the grid
gives the number, or is the power of ten beyond. -/
theorem gridPoint_bounds {tie : Tie} {digits point : Nat} (nonzero : 0 < x.significand)
    (found : gridPoint tie x.neighbourhood
      (leadingExponent x.neighbourhood.value x.neighbourhood.denominator - digits + 1) =
        some point) :
    0 < point ∧ point ≤ 10 ^ digits ∧
      (point : ℚ) * (10 : ℚ) ^
        (leadingExponent x.neighbourhood.value x.neighbourhood.denominator - digits + 1) ≤
          (x.significand + 1 / 2) * (2 : ℚ) ^ x.exponent := by
  obtain ⟨holds, near⟩ := gridPoint_spec found
  obtain ⟨low, high⟩ := Neighbourhood.bounds_of_holds holds
  have lower := neighbourhood_lower_pos nonzero
  have bottom := neighbourhood_denominator_pos x
  have top : 0 < x.neighbourhood.value :=
    Nat.mul_pos (Nat.mul_pos (by decide) nonzero) (Nat.two_pow_pos _)
  have scale : (0 : ℚ) < x.neighbourhood.denominator := by exact_mod_cast bottom
  have leading := lt_ten_zpow_leadingExponent top bottom
  generalize shift :
    leadingExponent x.neighbourhood.value x.neighbourhood.denominator - digits + 1 = place at *
  have unit : (0 : ℚ) < 10 ^ (-place).toNat := by positivity
  refine ⟨?_, ?_, ?_⟩
  · apply Nat.pos_of_ne_zero
    rintro rfl
    have positive := Nat.mul_pos lower (Nat.pow_pos (n := (-place).toNat) (by decide : 0 < 10))
    omega
  · have exponent : leadingExponent x.neighbourhood.value x.neighbourhood.denominator + 1 =
        place + digits := by omega
    rw [exponent, zpow_add₀ (by norm_num), zpow_eq_div (by norm_num) place, zpow_natCast,
      div_lt_iff₀ scale, div_mul_eq_mul_div, div_mul_eq_mul_div, lt_div_iff₀ unit] at leading
    have below : x.neighbourhood.value * 10 ^ (-place).toNat <
        10 ^ digits * (x.neighbourhood.denominator * 10 ^ place.toNat) := by
      have swapped : x.neighbourhood.value * 10 ^ (-place).toNat <
          10 ^ place.toNat * 10 ^ digits * x.neighbourhood.denominator := by exact_mod_cast leading
      linarith only [swapped]
    have floor := (Nat.div_lt_iff_lt_mul (by positivity)).mpr below
    omega
  · rw [← neighbourhood_upper, zpow_eq_div (by norm_num), ← mul_div_assoc,
      div_le_div_iff₀ unit scale]
    exact_mod_cast high

/-- The shortest decimal of a number stands for a grid point that stands for the number. -/
theorem exists_gridPoint_of_shortest {tie : Tie} {s : Scientific}
    (found : x.shortest tie = some s) :
    0 < x.significand ∧ ∃ count point : Nat, 1 ≤ count ∧ count ≤ 17 ∧
      gridPoint tie x.neighbourhood
        (leadingExponent x.neighbourhood.value x.neighbourhood.denominator - count + 1) =
          some point ∧
      s = ⟨dropTrailingZeros count point,
        leadingExponent x.neighbourhood.value x.neighbourhood.denominator - count + 1 +
          decimalLength point - 1⟩ := by
  rw [shortest] at found
  split_ifs at found with zero
  obtain ⟨count, point, least, greatest, isPoint, made⟩ := firstGrid_spec found
  exact ⟨Nat.pos_of_ne_zero zero, count, point, least, by omega, isPoint, made⟩

/-- The shortest decimal of a number: its digits fit 57 bits, the leading one stands near the point,
and it is at most half the spacing greater than the number. -/
theorem shortest_spec {tie : Tie} {s : Scientific} (found : x.shortest tie = some s) :
    0 < s.digits ∧ s.digits ≤ 10 ^ 17 ∧ s.exponent.natAbs ≤ 500 ∧
      s.value ≤ (x.significand + 1 / 2) * (2 : ℚ) ^ x.exponent := by
  obtain ⟨nonzero, count, point, least, greatest, isPoint, rfl⟩ :=
    exists_gridPoint_of_shortest found
  obtain ⟨positive, bounded, near⟩ := gridPoint_bounds nonzero isPoint
  obtain ⟨zeros, split⟩ := exists_dropTrailingZeros count point
  let digits := dropTrailingZeros count point
  change point = digits * 10 ^ zeros at split
  have some : 0 < digits := Nat.pos_of_ne_zero fun none => by simp [split, none] at positive
  have most : 10 ^ count ≤ 10 ^ 17 := Nat.pow_le_pow_right (by decide) greatest
  have fewer : digits ≤ point := by
    rw [split]
    exact Nat.le_mul_of_pos_right _ (by positivity)
  have size : decimalLength point ≤ 18 := decimalLength_le (by decide) (by omega)
  have leading := leadingExponent_neighbourhood x
  refine ⟨some, fewer.trans (bounded.trans most), ?_, ?_⟩
  · have one := decimalLength_pos point
    simp only
    omega
  · rw [Scientific.value_dropTrailingZeros positive]
    exact near

end Neighbourhood

end Binary64

end Concord
