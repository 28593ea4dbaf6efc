import Concord.Proofs.Binary64.Shortest

/-!
# Neighbourhoods do not overlap

The rationals that round to a number reach from the midpoint below it to the midpoint above it, and
a midpoint itself counts when the significand is even. The midpoint above a number is at most the
one below the next, and of two numbers that share a midpoint one has an odd significand. So no
rational rounds to two positive numbers. The shortest decimal of a number rounds to it; so it is the
decimal of no other number. Every number but zero has one, since the grid of seventeen digits is
finer than the midpoints around it are apart.
-/

namespace Concord.Binary64

/-- The midpoint below a number. -/
def lowerEnd (x : Binary64) : ℚ := x.neighbourhood.lower / x.neighbourhood.denominator

/-- The midpoint above a number. -/
def upperEnd (x : Binary64) : ℚ := x.neighbourhood.upper / x.neighbourhood.denominator

/-- A rational is between the midpoints around a number, and is one of them only when the
significand is even. -/
structure Attracts (x : Binary64) (q : ℚ) : Prop where
  /-- It is at least the midpoint below. -/
  lower : x.lowerEnd ≤ q
  /-- It is at most the midpoint above. -/
  upper : q ≤ x.upperEnd
  /-- It is no midpoint when the significand is odd. -/
  strict : x.significand % 2 = 1 → x.lowerEnd < q ∧ q < x.upperEnd

/-- A point of a grid that lies in a neighbourhood without its ends is none of them. -/
theorem Neighbourhood.strict_bounds_of_holds {hood : Neighbourhood} {point unitTop unitBottom : Nat}
    (opened : hood.closed = false) (holds : hood.holds point unitTop unitBottom = true) :
    hood.lower * unitBottom < point * unitTop * hood.denominator ∧
      point * unitTop * hood.denominator < hood.upper * unitBottom := by
  rw [Neighbourhood.holds, opened, if_neg Bool.false_ne_true] at holds
  exact of_decide_eq_true holds

variable {x y : Binary64} {q : ℚ}

/-- The midpoint above a number is half the spacing above it. -/
theorem upperEnd_eq (x : Binary64) : x.upperEnd = (x.significand + 1 / 2) * (2 : ℚ) ^ x.exponent :=
  neighbourhood_upper x

/-- The midpoint below a number is half the spacing below it, unless the number is the least of its
exponent. -/
theorem lowerEnd_eq (nonzero : 0 < x.significand)
    (inner : ¬ (x.significand = 2 ^ 52 ∧ x.exponent ≠ -1074)) :
    x.lowerEnd = (x.significand - 1 / 2) * (2 : ℚ) ^ x.exponent := by
  have below : ((4 * x.significand - 2 : Nat) : ℚ) = 4 * x.significand - 2 := by
    rw [Nat.cast_sub (by omega)]
    push_cast
    ring
  rw [lowerEnd, zpow_eq_div two_ne_zero]
  simp only [neighbourhood, Nat.pow_eq, if_neg inner]
  push_cast [below]
  field_simp
  ring

/-- Below the least number of an exponent the spacing is half as wide. -/
theorem lowerEnd_eq_of_least (least : x.significand = 2 ^ 52) (above : x.exponent ≠ -1074) :
    x.lowerEnd = (2 ^ 52 - 1 / 4) * (2 : ℚ) ^ x.exponent := by
  have below : ((4 * 2 ^ 52 - 1 : Nat) : ℚ) = 4 * 2 ^ 52 - 1 := by norm_num
  rw [lowerEnd, zpow_eq_div two_ne_zero]
  simp only [neighbourhood, Nat.pow_eq, least, above, ne_eq, not_false_eq_true, and_self, if_true]
  rw [Nat.cast_mul, below]
  push_cast
  field_simp

/-- A grid point that stands for a number is attracted by it. -/
theorem attracts_of_holds {point : Nat} {place : Int}
    (holds : x.neighbourhood.holds point (10 ^ place.toNat) (10 ^ (-place).toNat) = true) :
    x.Attracts (point * (10 : ℚ) ^ place) := by
  have scale : (0 : ℚ) < x.neighbourhood.denominator := by
    exact_mod_cast neighbourhood_denominator_pos x
  have unit : (0 : ℚ) < 10 ^ (-place).toNat := by positivity
  obtain ⟨low, high⟩ := Neighbourhood.bounds_of_holds holds
  rw [zpow_eq_div (by norm_num), ← mul_div_assoc]
  refine ⟨?_, ?_, fun odd => ⟨?_, ?_⟩⟩
  · rw [lowerEnd, div_le_div_iff₀ scale unit]
    exact_mod_cast low
  · rw [upperEnd, div_le_div_iff₀ unit scale]
    exact_mod_cast high
  all_goals
    have opened : x.neighbourhood.closed = false := by simp [neighbourhood, odd]
    have strict := Neighbourhood.strict_bounds_of_holds opened holds
  · rw [lowerEnd, div_lt_div_iff₀ scale unit]
    exact_mod_cast strict.1
  · rw [upperEnd, div_lt_div_iff₀ unit scale]
    exact_mod_cast strict.2

/-- The shortest decimal of a number is attracted by it. -/
theorem attracts_shortest {tie : Tie} {s : Scientific} (found : x.shortest tie = some s) :
    x.Attracts s.value := by
  obtain ⟨nonzero, count, point, -, -, isPoint, rfl⟩ := exists_gridPoint_of_shortest found
  obtain ⟨positive, -⟩ := gridPoint_bounds nonzero isPoint
  rw [Scientific.value_dropTrailingZeros positive]
  exact attracts_of_holds (gridPoint_spec isPoint).1

/-- Of two numbers with one exponent the greater one attracts nothing that the other one does. -/
theorem not_attracts_of_lt_significand (exponents : x.exponent = y.exponent)
    (smaller : x.significand < y.significand) (left : x.Attracts q) : ¬ y.Attracts q := by
  intro right
  have unit : (0 : ℚ) < (2 : ℚ) ^ y.exponent := by positivity
  have inner : ¬ (y.significand = 2 ^ 52 ∧ y.exponent ≠ -1074) := by
    rintro ⟨least, above⟩
    have normal := x.normal
    rw [Nat.pow_eq] at normal
    omega
  have above := upperEnd_eq x
  have below := lowerEnd_eq (Nat.zero_lt_of_lt smaller) inner
  rw [exponents] at above
  have next : (x.significand : ℚ) + 1 ≤ y.significand := by exact_mod_cast smaller
  have apart : x.upperEnd ≤ y.lowerEnd := by
    rw [above, below]
    exact mul_le_mul_of_nonneg_right (by linarith only [next]) unit.le
  have low := right.lower
  have high := left.upper
  -- If the midpoint is shared, the numbers are next to each other and one of them is odd.
  by_cases oddX : x.significand % 2 = 1
  · have strict := (left.strict oddX).2
    linarith only [strict, apart, low]
  by_cases oddY : y.significand % 2 = 1
  · have strict := (right.strict oddY).1
    linarith only [strict, apart, high]
  · have further : (x.significand : ℚ) + 2 ≤ y.significand := by
      have steps : x.significand + 2 ≤ y.significand := by omega
      exact_mod_cast steps
    have wider : x.upperEnd < y.lowerEnd := by
      rw [above, below]
      exact mul_lt_mul_of_pos_right (by linarith only [further]) unit
    linarith only [wider, low, high]

/-- What a number attracts is below the midpoint above the greatest significand of its exponent. -/
theorem lt_of_attracts (attracted : x.Attracts q) :
    q < (2 ^ 53 - 1 / 2) * (2 : ℚ) ^ x.exponent := by
  have unit : (0 : ℚ) < (2 : ℚ) ^ x.exponent := by positivity
  have fits : x.significand < 2 ^ 53 := x.significand_lt
  have above := upperEnd_eq x
  have high := attracted.upper
  by_cases greatest : x.significand = 2 ^ 53 - 1
  · have strict := (attracted.strict (by omega)).2
    have value : (x.significand : ℚ) = 2 ^ 53 - 1 := by
      rw [greatest]
      norm_num
    rw [above, value] at strict
    linarith only [strict]
  · have less : (x.significand : ℚ) + 2 ≤ 2 ^ 53 := by
      have steps : x.significand + 2 ≤ 2 ^ 53 := by omega
      exact_mod_cast steps
    calc
      q ≤ (x.significand + 1 / 2) * (2 : ℚ) ^ x.exponent := above ▸ high
      _ < (2 ^ 53 - 1 / 2) * (2 : ℚ) ^ x.exponent :=
        mul_lt_mul_of_pos_right (by linarith only [less]) unit

/-- What a number above the least exponent attracts is at least the midpoint below the least
significand of its exponent. -/
theorem le_of_attracts (above : x.exponent ≠ -1074) (attracted : x.Attracts q) :
    (2 ^ 52 - 1 / 4) * (2 : ℚ) ^ x.exponent ≤ q := by
  have unit : (0 : ℚ) < (2 : ℚ) ^ x.exponent := by positivity
  have normal : 2 ^ 52 ≤ x.significand := x.normal.resolve_left above
  refine le_trans ?_ attracted.lower
  by_cases least : x.significand = 2 ^ 52
  · rw [lowerEnd_eq_of_least least above]
  · have more : (2 : ℚ) ^ 52 + 1 ≤ x.significand := by
      have steps : 2 ^ 52 + 1 ≤ x.significand := by omega
      exact_mod_cast steps
    rw [lowerEnd_eq (by omega) fun both => least both.1]
    exact mul_le_mul_of_nonneg_right (by linarith only [more]) unit.le

/-- A number with a greater exponent attracts nothing that another number does. -/
theorem not_attracts_of_lt_exponent (smaller : x.exponent < y.exponent) (left : x.Attracts q) :
    ¬ y.Attracts q := by
  intro right
  have least := x.exponent_ge
  have high := lt_of_attracts left
  have low := le_of_attracts (by omega) right
  have spacing : (2 : ℚ) ^ x.exponent * 2 ≤ (2 : ℚ) ^ y.exponent := by
    rw [← zpow_add_one₀ two_ne_zero]
    exact zpow_le_zpow_right₀ one_le_two (by omega)
  have between : (2 ^ 53 - 1 / 2) * (2 : ℚ) ^ x.exponent ≤ q := by
    calc
      (2 ^ 53 - 1 / 2) * (2 : ℚ) ^ x.exponent
          = (2 ^ 52 - 1 / 4) * ((2 : ℚ) ^ x.exponent * 2) := by ring
      _ ≤ (2 ^ 52 - 1 / 4) * (2 : ℚ) ^ y.exponent :=
        mul_le_mul_of_nonneg_left spacing (by norm_num)
      _ ≤ q := low
  linarith only [high, between]

/-- No rational is attracted by two positive numbers. -/
theorem fields_eq_of_attracts (left : x.Attracts q) (right : y.Attracts q) :
    x.significand = y.significand ∧ x.exponent = y.exponent := by
  have exponents : x.exponent = y.exponent := by
    by_contra differ
    rcases lt_or_gt_of_ne differ with smaller | greater
    · exact not_attracts_of_lt_exponent smaller left right
    · exact not_attracts_of_lt_exponent greater right left
  refine ⟨?_, exponents⟩
  by_contra differ
  rcases lt_or_gt_of_ne differ with smaller | greater
  · exact not_attracts_of_lt_significand exponents smaller left right
  · exact not_attracts_of_lt_significand exponents.symm greater right left

section SeventeenDigits

/-- A positive fraction reaches the power of ten of its leading digit. -/
theorem ten_zpow_leadingExponent_le {numerator denominator : Nat} (top : 0 < numerator)
    (positive : 0 < denominator) :
    (10 : ℚ) ^ leadingExponent numerator denominator ≤ (numerator : ℚ) / denominator := by
  have scale : (0 : ℚ) < denominator := by exact_mod_cast positive
  rw [le_div_iff₀ scale, leadingExponent]
  split_ifs with large
  · have some : 0 < numerator / denominator := Nat.div_pos large positive
    have digits := decimalLength_pos (numerator / denominator)
    have reached : 10 ^ (decimalLength (numerator / denominator) - 1) * denominator ≤ numerator :=
      (Nat.le_div_iff_mul_le positive).mp (ten_pow_le_of_pos some)
    have exponent : (decimalLength (numerator / denominator) : Int) - 1 =
        ((decimalLength (numerator / denominator) - 1 : Nat) : Int) := by omega
    rw [exponent, zpow_natCast]
    exact_mod_cast reached
  · let inverse := (denominator - 1) / numerator
    have below : denominator - 1 < 10 ^ decimalLength inverse * numerator :=
      (Nat.div_lt_iff_lt_mul top).mp (lt_ten_pow_decimalLength inverse)
    have covered : denominator ≤ 10 ^ decimalLength inverse * numerator := by omega
    change (10 : ℚ) ^ (-(decimalLength inverse : Int)) * denominator ≤ numerator
    rw [zpow_neg, zpow_natCast, inv_mul_le_iff₀ (by positivity)]
    exact_mod_cast covered

/-- The value of a neighbourhood is that of its number. -/
theorem neighbourhood_value (x : Binary64) :
    (x.neighbourhood.value : ℚ) / x.neighbourhood.denominator = x.absolute := by
  rw [absolute, zpow_eq_div two_ne_zero]
  simp only [neighbourhood, Nat.pow_eq]
  push_cast
  field_simp

/-- A grid point between the midpoints stands for the number. -/
theorem holds_of_between {point : Nat} {place : Int} (low : x.lowerEnd < point * (10 : ℚ) ^ place)
    (high : point * (10 : ℚ) ^ place < x.upperEnd) :
    x.neighbourhood.holds point (10 ^ place.toNat) (10 ^ (-place).toNat) = true := by
  have scale : (0 : ℚ) < x.neighbourhood.denominator := by
    exact_mod_cast neighbourhood_denominator_pos x
  have unit : (0 : ℚ) < 10 ^ (-place).toNat := by positivity
  rw [zpow_eq_div (by norm_num), ← mul_div_assoc] at low high
  rw [lowerEnd, div_lt_div_iff₀ scale unit] at low
  rw [upperEnd, div_lt_div_iff₀ unit scale] at high
  have below : x.neighbourhood.lower * 10 ^ (-place).toNat <
      point * 10 ^ place.toNat * x.neighbourhood.denominator := by exact_mod_cast low
  have above : point * 10 ^ place.toNat * x.neighbourhood.denominator <
      x.neighbourhood.upper * 10 ^ (-place).toNat := by exact_mod_cast high
  rw [Neighbourhood.holds]
  split_ifs
  · exact decide_eq_true ⟨below.le, above.le⟩
  · exact decide_eq_true ⟨below, above⟩

/-- A number lies between the midpoints around it. -/
theorem absolute_between (nonzero : 0 < x.significand) :
    x.lowerEnd < x.absolute ∧ x.absolute < x.upperEnd := by
  have unit : (0 : ℚ) < (2 : ℚ) ^ x.exponent := by positivity
  constructor
  · by_cases least : x.significand = 2 ^ 52 ∧ x.exponent ≠ -1074
    · have value : (x.significand : ℚ) = 2 ^ 52 := by rw [least.1]; norm_num
      rw [lowerEnd_eq_of_least least.1 least.2, absolute, value]
      exact mul_lt_mul_of_pos_right (by norm_num) unit
    · rw [lowerEnd_eq nonzero least, absolute]
      exact mul_lt_mul_of_pos_right (by linarith) unit
  · rw [upperEnd_eq, absolute]
    exact mul_lt_mul_of_pos_right (by linarith) unit

/-- The number lies between the two grid points that are tried. -/
theorem floor_between (x : Binary64) (place : Int) :
    let floor := x.neighbourhood.value * 10 ^ (-place).toNat /
      (x.neighbourhood.denominator * 10 ^ place.toNat)
    floor * (10 : ℚ) ^ place ≤ x.absolute ∧ x.absolute < (floor + 1 : Nat) * (10 : ℚ) ^ place := by
  intro floor
  have bottom := neighbourhood_denominator_pos x
  have scale : (0 : ℚ) < x.neighbourhood.denominator := by exact_mod_cast bottom
  have unit : (0 : ℚ) < 10 ^ (-place).toNat := by positivity
  have positive : 0 < x.neighbourhood.denominator * 10 ^ place.toNat :=
    Nat.mul_pos bottom (by positivity)
  have low : floor * (x.neighbourhood.denominator * 10 ^ place.toNat) ≤
      x.neighbourhood.value * 10 ^ (-place).toNat := Nat.div_mul_le_self _ _
  have high : x.neighbourhood.value * 10 ^ (-place).toNat <
      (floor + 1) * (x.neighbourhood.denominator * 10 ^ place.toNat) :=
    (Nat.div_lt_iff_lt_mul positive).mp (Nat.lt_succ_self floor)
  rw [← neighbourhood_value, zpow_eq_div (by norm_num), ← mul_div_assoc, ← mul_div_assoc]
  constructor
  · rw [div_le_div_iff₀ unit scale, mul_assoc, mul_comm ((10 : ℚ) ^ place.toNat)]
    exact_mod_cast low
  · rw [div_lt_div_iff₀ scale unit, mul_assoc, mul_comm ((10 : ℚ) ^ place.toNat)]
    exact_mod_cast high

/-- The grid has a point for the number if one of the two that are tried stands for it. -/
theorem exists_gridPoint_of_holds {tie : Tie} {hood : Neighbourhood} {place : Int}
    (stands :
      let floor := hood.value * 10 ^ (-place).toNat / (hood.denominator * 10 ^ place.toNat)
      hood.holds floor (10 ^ place.toNat) (10 ^ (-place).toNat) = true ∨
        hood.holds (floor + 1) (10 ^ place.toNat) (10 ^ (-place).toNat) = true) :
    ∃ point, gridPoint tie hood place = some point := by
  unfold gridPoint
  simp only [Nat.pow_eq] at stands ⊢
  split
  case h_1 low high =>
    rw [low, high] at stands
    simp at stands
  case h_2 => exact ⟨_, rfl⟩
  case h_3 => exact ⟨_, rfl⟩
  case h_4 =>
    split_ifs
    · exact ⟨_, rfl⟩
    · exact ⟨_, rfl⟩
    · cases tie <;> exact ⟨_, rfl⟩

/-- A grid that is finer than the midpoints are apart has a point that stands for the number. -/
theorem exists_gridPoint (tie : Tie) (nonzero : 0 < x.significand) {place : Int}
    (fine : (10 : ℚ) ^ place < x.upperEnd - x.lowerEnd) :
    ∃ point, gridPoint tie x.neighbourhood place = some point := by
  obtain ⟨low, high⟩ := floor_between x place
  obtain ⟨above, below⟩ := absolute_between nonzero
  apply exists_gridPoint_of_holds
  intro floor
  by_cases near : x.lowerEnd < floor * (10 : ℚ) ^ place
  · exact .inl (holds_of_between near (lt_of_le_of_lt low below))
  · have next : ((floor + 1 : Nat) : ℚ) * (10 : ℚ) ^ place =
        floor * (10 : ℚ) ^ place + (10 : ℚ) ^ place := by
      push_cast
      ring
    have inside : ((floor + 1 : Nat) : ℚ) * (10 : ℚ) ^ place < x.upperEnd := by
      linarith only [near, fine, next]
    exact .inr (holds_of_between (lt_trans above high) inside)

/-- The grid of seventeen digits is finer than the midpoints are apart. -/
theorem seventeen_digits (nonzero : 0 < x.significand) :
    (10 : ℚ) ^ (leadingExponent x.neighbourhood.value x.neighbourhood.denominator - 17 + 1) <
      x.upperEnd - x.lowerEnd := by
  have unit : (0 : ℚ) < (2 : ℚ) ^ x.exponent := by positivity
  have top : 0 < x.neighbourhood.value :=
    Nat.mul_pos (Nat.mul_pos (by decide) nonzero) (Nat.two_pow_pos _)
  have reached := ten_zpow_leadingExponent_le top (neighbourhood_denominator_pos x)
  rw [neighbourhood_value] at reached
  generalize leadingExponent x.neighbourhood.value x.neighbourhood.denominator = leading at *
  have shifted : (10 : ℚ) ^ (leading - 17 + 1) * 10 ^ 16 = (10 : ℚ) ^ leading := by
    rw [← zpow_natCast, ← zpow_add₀ (by norm_num)]
    congr 1
    push_cast
    ring
  have spaced : (10 : ℚ) ^ (leading - 17 + 1) * 10 ^ 16 ≤
      x.significand * (2 : ℚ) ^ x.exponent := shifted ▸ reached
  by_cases least : x.significand = 2 ^ 52 ∧ x.exponent ≠ -1074
  · have value : (x.significand : ℚ) = 2 ^ 52 := by
      rw [least.1]
      norm_num
    rw [upperEnd_eq, lowerEnd_eq_of_least least.1 least.2, value]
    rw [value] at spaced
    linarith only [spaced, unit]
  · have fits : (x.significand : ℚ) ≤ 2 ^ 53 := by
      have below : x.significand < 2 ^ 53 := x.significand_lt
      exact_mod_cast below.le
    have scaled := mul_le_mul_of_nonneg_right fits unit.le
    rw [upperEnd_eq, lowerEnd_eq nonzero least]
    linarith only [spaced, scaled, unit]

/-- The search for a grid point ends when there is one. -/
theorem exists_firstGrid {tie : Tie} {hood : Neighbourhood} {leading : Int} (digits : Nat)
    {more count : Nat} (least : count ≤ digits) (greatest : digits < count + more)
    (there : ∃ point, gridPoint tie hood (leading - digits + 1) = some point) :
    ∃ s, firstGrid tie hood leading more count = some s := by
  induction more generalizing count with
  | zero => omega
  | succ more ih =>
    rw [firstGrid]
    cases here : gridPoint tie hood (leading - count + 1) with
    | some point => exact ⟨_, rfl⟩
    | none =>
      have other : count ≠ digits := by
        rintro rfl
        obtain ⟨point, found⟩ := there
        rw [here] at found
        contradiction
      exact ih (by omega) (by omega)

/-- Every number but zero has a shortest decimal. -/
theorem exists_shortest (tie : Tie) (nonzero : 0 < x.significand) :
    ∃ s, x.shortest tie = some s := by
  have there := exists_gridPoint tie nonzero (seventeen_digits nonzero)
  rw [shortest, if_neg (Nat.ne_of_gt nonzero)]
  exact exists_firstGrid 17 (by decide) (by decide) there

end SeventeenDigits

end Concord.Binary64
