import Concord.Json.Numeral
import Concord.Proofs.Binary64.Nearest

/-!
# The value of a numeral

A numeral whose digits fit 64 bits is read without leaving out a digit: its significand is the
number that all its digits spell, and its exponent of ten counts the digits after the point. The
floating point number made of them exists unless the numeral comes close to the overflow limit: the
significand, the power of ten and their product are each rounded by at most one part in `2 ^ 53`,
and a division only makes a number smaller.
-/

namespace Concord.Json.Numeral

open Nat (ofDigitChars)

section Digits

/-- Reading more digits never makes a number smaller. -/
theorem le_ofDigitChars (digits : List Char) (start : Nat) :
    start ≤ ofDigitChars 10 digits start := by
  rw [Nat.ofDigitChars_eq_ofDigitChars_zero]
  exact (Nat.le_mul_of_pos_left start (by positivity)).trans (Nat.le_add_right _ _)

/-- The number read so far and one more digit. -/
theorem ofDigitChars_step (start : Nat) (d : Char) (rest : List Char) :
    ofDigitChars 10 (d :: rest) start = ofDigitChars 10 rest (start * 10 + digitValue d) := by
  rw [Nat.ofDigitChars_cons, Nat.mul_comm, digitValue]

/-- Digits that spell a number of 64 bits are all gathered. -/
theorem gather_eq {digits : List Char} {start : Nat}
    (fits : ofDigitChars 10 digits start ≤ greatestSignificand) :
    gather start digits = (ofDigitChars 10 digits start, []) := by
  induction digits generalizing start with
  | nil => simp [gather]
  | cons d rest ih =>
    rw [ofDigitChars_step] at fits ⊢
    rw [gather, if_pos ((le_ofDigitChars rest _).trans fits)]
    exact ih fits

/-- When no digit is left over, what is gathered is the number that the digits spell. -/
theorem gather_complete {digits : List Char} {start : Nat}
    (complete : (gather start digits).2 = []) :
    (gather start digits).1 = ofDigitChars 10 digits start := by
  induction digits generalizing start with
  | nil => simp [gather]
  | cons d rest ih =>
    rw [gather] at complete ⊢
    split_ifs at complete ⊢
    · rw [ofDigitChars_step]
      exact ih complete

/-- What is gathered fits 64 bits. -/
theorem gather_le {digits : List Char} {start : Nat} (fits : start ≤ greatestSignificand) :
    (gather start digits).1 ≤ greatestSignificand := by
  induction digits generalizing start with
  | nil => exact fits
  | cons d rest ih =>
    rw [gather]
    split_ifs with next
    · exact ih next
    · exact fits

/-- The significand of a numeral fits 64 bits. -/
theorem leading_significand_le (n : Numeral) : n.leading.significand ≤ greatestSignificand := by
  simp only [leading]
  exact gather_le (gather_le (Nat.zero_le _))

/-- Digits of an exponent that is not too great are all read. -/
theorem exponentValue_eq {digits : List Char} {start : Nat}
    (fits : ofDigitChars 10 digits start ≤ greatestExponent) :
    exponentValue start digits = .ok (ofDigitChars 10 digits start) := by
  induction digits generalizing start with
  | nil => simp [exponentValue]
  | cons d rest ih =>
    rw [ofDigitChars_step] at fits ⊢
    rw [exponentValue, if_pos ((le_ofDigitChars rest _).trans fits)]
    exact ih fits

end Digits

/-- All digits of a numeral before its exponent. -/
def digits (n : Numeral) : List Char := n.whole ++ n.fraction.getD []

/-- The exponent of ten that goes with all digits of a numeral read as one number. -/
def decimalExponent (n : Numeral) : Int :=
  (match n.exponent with
    | none => 0
    | some (lowering, digits) =>
      if lowering then -(ofDigitChars 10 digits 0 : Int) else (ofDigitChars 10 digits 0 : Int)) -
    (n.fraction.getD []).length

/-- The rational that the digits of a numeral denote, without its sign. -/
def magnitude (n : Numeral) : ℚ := ofDigitChars 10 n.digits 0 * (10 : ℚ) ^ n.decimalExponent

/-- A numeral whose digits fit 64 bits keeps all of them. -/
theorem leading_eq {n : Numeral} (fits : ofDigitChars 10 n.digits 0 ≤ greatestSignificand) :
    n.leading = ⟨ofDigitChars 10 n.digits 0, -((n.fraction.getD []).length : Int), false⟩ := by
  rw [digits, Nat.ofDigitChars_append] at fits ⊢
  have whole := gather_eq ((le_ofDigitChars _ _).trans fits)
  simp only [leading, whole, gather_eq fits]
  simp

/-- A numeral with a fraction or an exponent, whose digits fit 64 bits and whose exponent is not too
great, stands for the floating point number made of them. -/
theorem number?_eq_float {n : Numeral}
    (fits : ofDigitChars 10 n.digits 0 ≤ greatestSignificand)
    (pointed : n.fraction.isSome ∨ n.exponent.isSome)
    (moderate : ∀ exponent ∈ n.exponent, ofDigitChars 10 exponent.2 0 ≤ greatestExponent) :
    n.number? = (float n.negative (ofDigitChars 10 n.digits 0) n.decimalExponent).map .float := by
  rw [number?, leading_eq fits]
  cases written : n.exponent with
  | none =>
    have fraction : n.fraction.isSome = true := by simpa [written] using pointed
    have exponent : n.decimalExponent = -((n.fraction.getD []).length : Int) := by
      rw [decimalExponent, written]
      exact zero_sub _
    simp [fraction, exponent]
  | some exponent =>
    obtain ⟨lowering, digits⟩ := exponent
    have value : exponentValue 0 digits = .ok (ofDigitChars 10 digits 0) :=
      exponentValue_eq (moderate (lowering, digits) written)
    have exponent : n.decimalExponent = -((n.fraction.getD []).length : Int) +
        (if lowering then -(ofDigitChars 10 digits 0 : Int) else ofDigitChars 10 digits 0) := by
      rw [decimalExponent, written]
      exact sub_eq_neg_add _ _
    simp only [value, exponent]

/-- Digits alone that fit 64 bits stand for the integer they spell. -/
theorem number?_eq_integer {whole : List Char}
    (fits : ofDigitChars 10 whole 0 ≤ greatestSignificand) :
    (⟨false, whole, none, none⟩ : Numeral).number? = some (.integer (ofDigitChars 10 whole 0)) := by
  have plain : (⟨false, whole, none, none⟩ : Numeral).digits = whole := by simp [digits]
  rw [number?, leading_eq (by rwa [plain]), plain]
  simp

/-- Digits after a minus sign that fit a signed number of 64 bits stand for the integer they
spell. -/
theorem number?_eq_negative {whole : List Char} (positive : 0 < ofDigitChars 10 whole 0)
    (fits : ofDigitChars 10 whole 0 ≤ 2 ^ 63) :
    (⟨true, whole, none, none⟩ : Numeral).number? =
      some (.integer (-(ofDigitChars 10 whole 0 : Nat))) := by
  have plain : (⟨true, whole, none, none⟩ : Numeral).digits = whole := by simp [digits]
  have narrow : ofDigitChars 10 whole 0 ≤ greatestSignificand := fits.trans (by decide)
  have inside : 0 < ofDigitChars 10 whole 0 ∧ ofDigitChars 10 whole 0 ≤ Nat.pow 2 63 :=
    ⟨positive, fits⟩
  rw [number?, leading_eq (by rwa [plain]), plain]
  simp only [Option.isSome_none, Bool.false_eq_true, or_self, if_false, if_true, if_pos inside]

/-- The rational that the digits of a numeral denote. -/
def toRat (n : Numeral) : ℚ :=
  (if n.negative then -1 else 1) * ofDigitChars 10 n.digits 0 * (10 : ℚ) ^ n.decimalExponent

/-- An integer is read from digits alone, of which none is left over, and within 64 bits. -/
theorem number?_eq_integer_iff {n : Numeral} {k : Int} :
    n.number? = some (.integer k) ↔
      n.fraction = none ∧ n.exponent = none ∧ n.leading.cut = false ∧
        (n.negative = true ∧ 0 < n.leading.significand ∧ n.leading.significand ≤ 2 ^ 63 ∧
            k = -n.leading.significand ∨
          n.negative = false ∧ k = n.leading.significand) := by
  rw [number?]
  cases exponent : n.exponent with
  | some written =>
    obtain ⟨lowering, digits⟩ := written
    simp only [reduceCtorEq, false_and, and_false, iff_false]
    split
    · simp
    · split_ifs <;> simp
  | none =>
    cases fraction : n.fraction with
    | some digits => simp
    | none =>
      cases cut : n.leading.cut with
      | true => simp
      | false =>
        cases sign : n.negative with
        | false => simp [eq_comm]
        | true =>
          by_cases inside : 0 < n.leading.significand ∧ n.leading.significand ≤ Nat.pow 2 63
          · simp only [Option.isSome_none, Bool.false_eq_true, or_self, if_false, if_true,
              if_pos inside, Option.some.injEq, Number.integer.injEq]
            constructor
            · rintro rfl
              exact ⟨trivial, trivial, trivial, Or.inl ⟨trivial, inside.1, inside.2, rfl⟩⟩
            · rintro ⟨-, -, -, ⟨-, -, -, rfl⟩ | ⟨plus, -⟩⟩
              · rfl
              · contradiction
          · simp only [Option.isSome_none, Bool.false_eq_true, or_self, if_false, if_true,
              if_neg inside, Option.map_eq_some_iff, reduceCtorEq, and_false, exists_false,
              false_iff]
            rintro ⟨-, -, -, ⟨-, positive, bounded, -⟩ | ⟨plus, -⟩⟩
            · exact inside ⟨positive, bounded⟩
            · contradiction

/-- The significand of a whole number of which no digit is left over. -/
theorem leading_significand_eq {n : Numeral} (whole : n.fraction = none)
    (complete : n.leading.cut = false) :
    n.leading.significand = ofDigitChars 10 n.digits 0 := by
  have none : (gather 0 n.whole).2 = [] := by simpa [leading] using complete
  simpa [leading, whole, digits, gather] using gather_complete none

/-- An integer is read as the number that its digits denote. -/
theorem toRat_of_integer {n : Numeral} {k : Int} (read : n.number? = some (.integer k)) :
    (Number.integer k).toRat = n.toRat := by
  obtain ⟨whole, plain, complete, signed⟩ := number?_eq_integer_iff.mp read
  have exponent : n.decimalExponent = 0 := by simp [decimalExponent, whole, plain]
  have significand := leading_significand_eq whole complete
  rw [Number.toRat, toRat, exponent, zpow_zero, mul_one, ← significand]
  rcases signed with ⟨sign, -, -, rfl⟩ | ⟨sign, rfl⟩
  · simp [sign]
  · simp [sign]

/-- Every number that is read fits its kind. -/
theorem number?_fits {n : Numeral} {value : Number} (read : n.number? = some value) :
    value.Fits := by
  cases value with
  | float x => trivial
  | integer k =>
    have narrow : n.leading.significand < 2 ^ 64 := by
      have bounded := n.leading_significand_le
      have limit : greatestSignificand < 2 ^ 64 := by decide
      omega
    obtain ⟨-, -, -, signed⟩ := number?_eq_integer_iff.mp read
    change -((2 ^ 63 : Nat) : Int) ≤ k ∧ k < ((2 ^ 64 : Nat) : Int)
    omega

section Scaling

open Binary64

/-- A power of ten that numbers are scaled by is rounded by at most one part in `2 ^ 53`. -/
theorem exists_tenPow {n : Nat} (bounded : n ≤ greatestPower) :
    ∃ power, tenPow n = some power ∧ |power.absolute - 10 ^ n| ≤ 10 ^ n / 2 ^ 53 := by
  obtain ⟨power, rounded, value⟩ := exists_ofNat_nearest (ten_pow_lt_overflowLimit bounded)
  have error := nearest_natCast_error (10 ^ n)
  rw [← value] at error
  exact ⟨power, rounded, by exact_mod_cast error⟩

/-- A power of ten that numbers are divided by is at least one. -/
theorem exists_divisor {n : Nat} (positive : 0 < n) (bounded : n ≤ greatestPower) :
    ∃ power, tenPow n = some power ∧ 1 ≤ power.absolute := by
  obtain ⟨power, rounded, error⟩ := exists_tenPow bounded
  refine ⟨power, rounded, ?_⟩
  have ten : (10 : ℚ) ^ 1 ≤ 10 ^ n := pow_le_pow_right₀ (by norm_num) positive
  have near := (abs_le.mp error).1
  linarith only [ten, near]

/-- Dividing by the greatest power of ten several times gives a finite number. -/
theorem exists_lower (times : Nat) (x : Binary64) : ∃ y, lower times x = some y := by
  induction times generalizing x with
  | zero => exact ⟨x, rfl⟩
  | succ times ih =>
    rw [lower]
    split_ifs
    · exact ⟨x, rfl⟩
    · obtain ⟨power, rounded, large⟩ := exists_divisor (by decide) (Nat.le_refl greatestPower)
      obtain ⟨quotient, divided, -⟩ := exists_div_nearest x large
      simpa [rounded, divided] using ih quotient

/-- A number scaled down is finite. -/
theorem exists_scale_of_neg (x : Binary64) {exponent : Int} (negative : exponent < 0) :
    ∃ y, scale x exponent = some y := by
  rw [scale, if_neg (not_le.mpr negative)]
  let places := (-exponent).toNat
  let times := (places - 1) / greatestPower
  obtain ⟨lowered, reached⟩ := exists_lower times x
  have remaining : places - times * greatestPower = (places - 1) % greatestPower + 1 := by
    have split : times * greatestPower + (places - 1) % greatestPower = places - 1 :=
      Nat.div_add_mod' _ _
    have some : 0 < places := by omega
    omega
  have bounded : (places - 1) % greatestPower < greatestPower := Nat.mod_lt _ (by decide)
  obtain ⟨power, rounded, large⟩ :=
    exists_divisor (n := places - times * greatestPower) (by omega) (by omega)
  obtain ⟨quotient, divided, -⟩ := exists_div_nearest lowered large
  change ∃ y, (lower times x).bind (fun lowered =>
    if lowered.isZero then some lowered
    else (tenPow (places - times * greatestPower)).bind lowered.div) = some y
  rw [reached, Option.bind_some, rounded, Option.bind_some, divided]
  split_ifs
  · exact ⟨lowered, rfl⟩
  · exact ⟨quotient, rfl⟩

/-- A number scaled up is finite as long as the exact product stays clear of the overflow limit. -/
theorem exists_scale_of_nonneg (x : Binary64) {n : Nat} (bounded : n ≤ greatestPower)
    (finite : x.absolute * (10 ^ n * (1 + 1 / 2 ^ 53)) < overflowLimit) :
    ∃ y, scale x n = some y := by
  obtain ⟨power, rounded, error⟩ := exists_tenPow bounded
  have near := (abs_le.mp error).2
  have high : power.absolute ≤ 10 ^ n * (1 + 1 / 2 ^ 53) := by linarith only [near]
  obtain ⟨product, multiplied, -⟩ :=
    exists_mul_nearest ((mul_le_mul_of_nonneg_left high x.absolute_nonneg).trans_lt finite)
  refine ⟨product, ?_⟩
  rw [scale, if_pos (Int.natCast_nonneg n), Int.toNat_natCast, if_pos bounded, rounded]
  exact multiplied

/-- The significand and the power of ten of a numeral make a finite number unless their exact
product comes close to the overflow limit. -/
theorem exists_float (negative : Bool) {significand : Nat} {exponent : Int}
    (fits : significand ≤ greatestSignificand)
    (finite : 0 ≤ exponent → exponent ≤ greatestPower ∧
      (significand : ℚ) * 10 ^ exponent.toNat * (1 + 1 / 2 ^ 53) ^ 2 < overflowLimit) :
    ∃ x, float negative significand exponent = some x := by
  have small : (significand : ℚ) < overflowLimit := by
    have narrow : significand ≤ 10 ^ 20 := fits.trans (by decide)
    calc
      (significand : ℚ) ≤ ((10 ^ 20 : Nat) : ℚ) := by exact_mod_cast narrow
      _ < overflowLimit := ten_pow_lt_overflowLimit (by decide)
  obtain ⟨x, rounded, value⟩ := exists_ofNat_nearest small
  have error := nearest_natCast_error significand
  rw [← value] at error
  obtain ⟨y, scaled⟩ : ∃ y, scale x exponent = some y := by
    rcases lt_or_ge exponent 0 with down | up
    · exact exists_scale_of_neg x down
    · obtain ⟨bounded, product⟩ := finite up
      obtain ⟨n, rfl⟩ := Int.eq_ofNat_of_zero_le up
      have near := (abs_le.mp error).2
      have high : x.absolute ≤ significand * (1 + 1 / 2 ^ 53) := by linarith only [near]
      refine exists_scale_of_nonneg x (by exact_mod_cast bounded) ?_
      calc
        x.absolute * (10 ^ n * (1 + 1 / 2 ^ 53))
            ≤ (significand : ℚ) * (1 + 1 / 2 ^ 53) * (10 ^ n * (1 + 1 / 2 ^ 53)) := by gcongr
        _ = (significand : ℚ) * 10 ^ n * (1 + 1 / 2 ^ 53) ^ 2 := by ring
        _ < overflowLimit := product
  exact ⟨y.withSign negative, by simp [float, rounded, scaled]⟩

end Scaling

end Concord.Json.Numeral
