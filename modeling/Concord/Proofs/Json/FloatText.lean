import Concord.Proofs.Binary64.Shortest
import Concord.Proofs.Json.NumeralText

/-!
# Printed floating point numbers are finite again

The decimal that is printed for a number lies at most half the spacing above it, and reading it back
adds at most two roundings. Only for the two greatest numbers is that not enough to stay below the
overflow limit; their decimals are known and read back as finite numbers.
-/

namespace Concord.Json

open Binary64

/-- Numbers that differ in sign only have the same shortest decimal. -/
theorem shortest_eq_of_fields {x y : Binary64} (tie : Tie)
    (significand : x.significand = y.significand) (exponent : x.exponent = y.exponent) :
    x.shortest tie = y.shortest tie := by
  have hood : x.neighbourhood = y.neighbourhood := by
    simp only [neighbourhood, significand, exponent]
  simp only [shortest, hood, significand]

/-- The shortest decimal of the greatest finite number. -/
theorem shortest_greatest {x : Binary64} (significand : x.significand = 2 ^ 53 - 1)
    (exponent : x.exponent = 971) : x.shortest .toEven = some ⟨17976931348623157, 308⟩ := by
  let greatest : Binary64 :=
    ⟨false, 2 ^ 53 - 1, 971, by decide, by decide, by decide, by decide⟩
  rw [shortest_eq_of_fields (y := greatest) .toEven significand exponent]
  decide +kernel

/-- The shortest decimal of the second greatest finite number. -/
theorem shortest_secondGreatest {x : Binary64} (significand : x.significand = 2 ^ 53 - 2)
    (exponent : x.exponent = 971) : x.shortest .toEven = some ⟨17976931348623155, 308⟩ := by
  let second : Binary64 :=
    ⟨false, 2 ^ 53 - 2, 971, by decide, by decide, by decide, by decide⟩
  rw [shortest_eq_of_fields (y := second) .toEven significand exponent]
  decide +kernel

/-- What lies half the spacing above a bounded significand stays below a limit that has room for two
roundings. -/
theorem widened_lt {significand most limit scale : ℚ} (bounded : significand ≤ most)
    (room : (most + 1 / 2) * (1 + 1 / 2 ^ 53) ^ 2 < limit) (positive : 0 < scale) :
    (significand + 1 / 2) * scale * (1 + 1 / 2 ^ 53) ^ 2 < limit * scale := by
  calc
    (significand + 1 / 2) * scale * (1 + 1 / 2 ^ 53) ^ 2
        = (significand + 1 / 2) * (1 + 1 / 2 ^ 53) ^ 2 * scale := by ring
    _ ≤ (most + 1 / 2) * (1 + 1 / 2 ^ 53) ^ 2 * scale := by gcongr
    _ < limit * scale := mul_lt_mul_of_pos_right room positive

/-- Below the two greatest numbers there is room for two roundings of a decimal that lies half the
spacing above. -/
theorem lt_overflowLimit_of_narrow {x : Binary64}
    (narrow : x.exponent ≤ 970 ∨ x.significand ≤ 2 ^ 53 - 3) :
    ((x.significand : ℚ) + 1 / 2) * (2 : ℚ) ^ x.exponent * (1 + 1 / 2 ^ 53) ^ 2 <
      overflowLimit := by
  have own : (0 : ℚ) < (2 : ℚ) ^ x.exponent := by positivity
  rw [overflowLimit_eq]
  rcases narrow with small | below
  · have bounded : (x.significand : ℚ) ≤ 2 ^ 53 - 1 := by
      have fits : x.significand < 2 ^ 53 := x.significand_lt
      rw [le_sub_iff_add_le]
      exact_mod_cast fits
    have spacing : (2 : ℚ) ^ x.exponent * 2 ≤ (2 : ℚ) ^ (971 : Int) := by
      rw [← zpow_add_one₀ two_ne_zero]
      exact zpow_le_zpow_right₀ one_le_two (by omega)
    have room : ((2 : ℚ) ^ 53 - 1 + 1 / 2) * (1 + 1 / 2 ^ 53) ^ 2 < 2 ^ 54 - 1 := by norm_num
    calc
      ((x.significand : ℚ) + 1 / 2) * (2 : ℚ) ^ x.exponent * (1 + 1 / 2 ^ 53) ^ 2
          < (2 ^ 54 - 1) * (2 : ℚ) ^ x.exponent := widened_lt bounded room own
      _ = (2 ^ 53 - 1 / 2) * ((2 : ℚ) ^ x.exponent * 2) := by ring
      _ ≤ (2 ^ 53 - 1 / 2) * (2 : ℚ) ^ (971 : Int) :=
        mul_le_mul_of_nonneg_left spacing (by norm_num)
  · have bounded : (x.significand : ℚ) ≤ 2 ^ 53 - 3 := by
      have cast : ((2 ^ 53 - 3 : Nat) : ℚ) = 2 ^ 53 - 3 := by norm_num
      rw [← cast]
      exact_mod_cast below
    have spacing : (2 : ℚ) ^ x.exponent ≤ (2 : ℚ) ^ (971 : Int) :=
      zpow_le_zpow_right₀ one_le_two x.exponent_le
    have room : ((2 : ℚ) ^ 53 - 3 + 1 / 2) * (1 + 1 / 2 ^ 53) ^ 2 < 2 ^ 53 - 1 / 2 := by norm_num
    calc
      ((x.significand : ℚ) + 1 / 2) * (2 : ℚ) ^ x.exponent * (1 + 1 / 2 ^ 53) ^ 2
          < (2 ^ 53 - 1 / 2) * (2 : ℚ) ^ x.exponent := widened_lt bounded room own
      _ ≤ (2 ^ 53 - 1 / 2) * (2 : ℚ) ^ (971 : Int) :=
        mul_le_mul_of_nonneg_left spacing (by norm_num)

/-- A power of ten below the overflow limit has an exponent that numbers are scaled by. -/
theorem lastPlace_le_of_lt {digits : Nat} {place : Int} (some : 0 < digits)
    (finite : (digits : ℚ) * (10 : ℚ) ^ place < overflowLimit) : place ≤ Numeral.greatestPower := by
  by_contra beyond
  have least : (309 : Int) ≤ place := Int.not_le.mp beyond
  have one : (1 : ℚ) ≤ digits := by exact_mod_cast some
  have limit : overflowLimit < ((10 ^ 309 : Nat) : ℚ) := by
    have power : (2 ^ 1024 : Nat) < 10 ^ 309 := by decide +kernel
    calc
      overflowLimit < 2 ^ 1024 := sub_lt_self _ (by positivity)
      _ < ((10 ^ 309 : Nat) : ℚ) := by exact_mod_cast power
  have large : ((10 ^ 309 : Nat) : ℚ) ≤ digits * (10 : ℚ) ^ place := by
    calc
      ((10 ^ 309 : Nat) : ℚ) = (10 : ℚ) ^ (309 : Int) := by
        rw [Nat.cast_pow]
        exact (zpow_natCast _ 309).symm
      _ ≤ (10 : ℚ) ^ place := zpow_le_zpow_right₀ (by norm_num) least
      _ ≤ digits * (10 : ℚ) ^ place := le_mul_of_one_le_left (by positivity) one
  exact absurd finite (not_lt.mpr (limit.trans_le large).le)

/-- The shortest decimal of a number, read back, makes a finite number. -/
theorem exists_float_of_shortest {x : Binary64} {s : Scientific}
    (found : x.shortest .toEven = some s) (negative : Bool) :
    ∃ y, Numeral.float negative s.digits s.lastPlace = some y := by
  obtain ⟨some, few, -, near⟩ := shortest_spec found
  have fits : s.digits ≤ Numeral.greatestSignificand := few.trans (by decide)
  by_cases narrow : x.exponent ≤ 970 ∨ x.significand ≤ 2 ^ 53 - 3
  · have below : s.value * (1 + 1 / 2 ^ 53) ^ 2 < overflowLimit := by
      refine lt_of_le_of_lt ?_ (lt_overflowLimit_of_narrow narrow)
      gcongr
    apply Numeral.exists_float negative fits
    intro up
    have power : (10 : ℚ) ^ s.lastPlace = 10 ^ s.lastPlace.toNat := by
      rw [← zpow_natCast, Int.toNat_of_nonneg up]
    have plain : s.value < overflowLimit := by
      refine lt_of_le_of_lt (le_mul_of_one_le_right ?_ ?_) below
      · exact mul_nonneg (Nat.cast_nonneg _) (by positivity)
      · norm_num
    refine ⟨lastPlace_le_of_lt some plain, ?_⟩
    rw [← power]
    exact below
  · have fewer : x.significand < 2 ^ 53 := x.significand_lt
    have most := x.exponent_le
    have exponent : x.exponent = 971 := by omega
    have either : x.significand = 2 ^ 53 - 1 ∨ x.significand = 2 ^ 53 - 2 := by omega
    rcases either with greatest | second
    · rw [shortest_greatest greatest exponent] at found
      obtain rfl := Option.some.inj found
      cases negative <;> exact Option.isSome_iff_exists.mp (by decide +kernel)
    · rw [shortest_secondGreatest second exponent] at found
      obtain rfl := Option.some.inj found
      cases negative <;> exact Option.isSome_iff_exists.mp (by decide +kernel)

section Layout

open Nat (ofDigitChars)

/-- The text is a numeral with a point or an exponent that stands for a floating point number; it
has a sign and denotes a rational. -/
def IsFloatText (negative : Bool) (value : ℚ) (text : List Char) : Prop :=
  ∃ n : Numeral, n.WellFormed ∧ n.chars = text ∧ (n.fraction.isSome ∨ n.exponent.isSome) ∧
    n.negative = negative ∧ n.magnitude = value ∧ ∃ y, n.number? = some (.float y)

/-- A numeral with a point or an exponent, whose digits fit 64 bits and make a finite number, is the
text of a floating point number. -/
theorem isFloatText_of_numeral {n : Numeral} (wellFormed : n.WellFormed)
    (pointed : n.fraction.isSome ∨ n.exponent.isSome)
    (moderate : ∀ exponent ∈ n.exponent,
      ofDigitChars 10 exponent.2 0 ≤ Numeral.greatestExponent)
    {digits : Nat} {place : Int} (spelled : ofDigitChars 10 n.digits 0 = digits)
    (scaled : n.decimalExponent = place) (fits : digits ≤ Numeral.greatestSignificand)
    (finite : ∃ y, Numeral.float n.negative digits place = some y) :
    IsFloatText n.negative (digits * (10 : ℚ) ^ place) n.chars := by
  obtain ⟨y, made⟩ := finite
  refine ⟨n, wellFormed, rfl, pointed, rfl, ?_, y, ?_⟩
  · rw [Numeral.magnitude, spelled, scaled]
  · rw [Numeral.number?_eq_float (spelled ▸ fits) pointed moderate, spelled, scaled, made]
    rfl

variable {s : Scientific}

/-- Zeros in front of digits do not count. -/
theorem ofDigitChars_zeros_append (zeros : Nat) (digits : List Char) :
    ofDigitChars 10 (List.replicate zeros '0' ++ digits) 0 = ofDigitChars 10 digits 0 := by
  rw [Nat.ofDigitChars_append, Nat.ofDigitChars_replicate_zero, Nat.mul_zero]

/-- The digits of a decimal spell its digits. -/
theorem ofDigitChars_digitChars (s : Scientific) : ofDigitChars 10 s.digitChars 0 = s.digits :=
  Nat.ofDigitChars_ten_toDigits

/-- The numeral of a decimal whose leading digit stands after the point. -/
def belowOneNumeral (negative : Bool) (s : Scientific) : Numeral :=
  ⟨negative, ['0'], some (List.replicate (-s.exponent - 1).toNat '0' ++ s.digitChars), none⟩

/-- The numeral of a decimal whose last digit stands before the point. -/
def wholeNumeral (negative : Bool) (s : Scientific) : Numeral :=
  ⟨negative, s.digitChars ++ List.replicate (s.exponent.toNat + 1 - s.digitChars.length) '0',
    some ['0'], none⟩

/-- The numeral of a decimal with digits on both sides of the point. -/
def pointedNumeral (negative : Bool) (s : Scientific) : Numeral :=
  ⟨negative, s.digitChars.take (s.exponent.toNat + 1),
    some (s.digitChars.drop (s.exponent.toNat + 1)), none⟩

/-- The numeral of a decimal with an exponent, given its first digit and the other ones. -/
def exponentialNumeral (negative : Bool) (exponent : Int) (first : Char) (more : List Char) :
    Numeral :=
  ⟨negative, [first], if more = [] then none else some more,
    some (decide (exponent < 0), Nat.toDigits 10 exponent.natAbs)⟩

/-- A decimal whose leading digit stands after the point. -/
theorem isFloatText_belowOne (negative : Bool) (few : s.digits ≤ Numeral.greatestSignificand)
    (small : s.exponent < 0)
    (finite : ∃ y, Numeral.float negative s.digits s.lastPlace = some y) :
    IsFloatText negative s.value ((if negative then ['-'] else []) ++ s.positional) := by
  have run : IsRun (List.replicate (-s.exponent - 1).toNat '0' ++ s.digitChars) := by
    refine ⟨List.append_ne_nil_of_right_ne_nil _ Nat.toDigits_ne_nil, fun c there => ?_⟩
    rcases List.mem_append.mp there with zero | digit
    · exact isDigit_of_mem_zeros zero
    · exact (isRun_toDigits s.digits).all c digit
  have wellFormed : (belowOneNumeral negative s).WellFormed :=
    ⟨Or.inl rfl, by simpa [belowOneNumeral] using run, by simp [belowOneNumeral]⟩
  have spelled : ofDigitChars 10 (belowOneNumeral negative s).digits 0 = s.digits := by
    show ofDigitChars 10 (List.replicate 1 '0' ++ (List.replicate _ '0' ++ s.digitChars)) 0 = _
    rw [ofDigitChars_zeros_append, ofDigitChars_zeros_append, ofDigitChars_digitChars]
  have scaled : (belowOneNumeral negative s).decimalExponent = s.lastPlace := by
    show 0 - ((List.replicate _ '0' ++ s.digitChars).length : Int) = _
    have length : s.digitChars.length = decimalLength s.digits := rfl
    rw [List.length_append, List.length_replicate, length, Scientific.lastPlace]
    omega
  have text : (belowOneNumeral negative s).chars =
      (if negative then ['-'] else []) ++ s.positional := by
    unfold belowOneNumeral
    simp [Numeral.chars, Numeral.fractionChars, Numeral.exponentChars, Scientific.positional, small]
  rw [← text]
  exact isFloatText_of_numeral wellFormed (Or.inl rfl) (by simp [belowOneNumeral]) spelled scaled
    few finite

/-- Digits that are filled up with zeros to at most sixteen are few, also with the zero after the
point. -/
theorem filled_le {count : Nat} (short : count + s.digitChars.length ≤ 16) :
    10 ^ (count + 1) * s.digits ≤ Numeral.greatestSignificand := by
  have below : s.digits < 10 ^ s.digitChars.length := lt_ten_pow_decimalLength s.digits
  calc
    10 ^ (count + 1) * s.digits ≤ 10 ^ (count + 1) * 10 ^ s.digitChars.length :=
      Nat.mul_le_mul_left _ below.le
    _ = 10 ^ (count + 1 + s.digitChars.length) := (Nat.pow_add 10 _ _).symm
    _ ≤ 10 ^ 17 := Nat.pow_le_pow_right (by decide) (by omega)
    _ ≤ Numeral.greatestSignificand := by decide

/-- A decimal whose last digit stands before the point. -/
theorem isFloatText_whole (negative : Bool) (positive : 0 < s.digits)
    (large : 0 ≤ s.exponent) (limit : s.exponent ≤ 15)
    (whole : s.digitChars.length ≤ s.exponent.toNat + 1) :
    IsFloatText negative s.value ((if negative then ['-'] else []) ++ s.positional) := by
  let count := s.exponent.toNat + 1 - s.digitChars.length
  have run : IsRun (s.digitChars ++ List.replicate count '0') :=
    (isRun_toDigits s.digits).append fun _ there => isDigit_of_mem_zeros there
  have lead : (s.digitChars ++ List.replicate count '0').head? ≠ some '0' := by
    rw [List.head?_append_of_ne_nil s.digitChars Nat.toDigits_ne_nil]
    exact head?_toDigits positive
  have point : IsRun ['0'] := ⟨by simp, by simp⟩
  have wellFormed : (wholeNumeral negative s).WellFormed :=
    ⟨Or.inr ⟨run, lead⟩, by simpa [wholeNumeral] using point, by simp [wholeNumeral]⟩
  have spelled : ofDigitChars 10 (wholeNumeral negative s).digits 0 =
      10 ^ (count + 1) * s.digits := by
    have all : (wholeNumeral negative s).digits =
        s.digitChars ++ List.replicate (count + 1) '0' := by
      simp [wholeNumeral, count, Numeral.digits, List.replicate_succ']
    rw [all, Nat.ofDigitChars_append, ofDigitChars_digitChars, Nat.ofDigitChars_replicate_zero]
  have scaled : (wholeNumeral negative s).decimalExponent = -1 := rfl
  have fits : 10 ^ (count + 1) * s.digits ≤ Numeral.greatestSignificand := filled_le (by omega)
  have text : (wholeNumeral negative s).chars =
      (if negative then ['-'] else []) ++ s.positional := by
    have notSmall : ¬s.exponent < 0 := not_lt.mpr large
    unfold wholeNumeral
    simp [Numeral.chars, Numeral.fractionChars, Numeral.exponentChars, Scientific.positional,
      notSmall, whole]
  have value : ((10 ^ (count + 1) * s.digits : Nat) : ℚ) * (10 : ℚ) ^ (-1 : Int) = s.value := by
    have place : s.lastPlace = count := by
      have length : s.digitChars.length = decimalLength s.digits := rfl
      rw [Scientific.lastPlace]
      omega
    rw [Scientific.value, place, zpow_natCast]
    push_cast
    ring
  rw [← text, ← value]
  exact isFloatText_of_numeral wellFormed (Or.inl rfl) (by simp [wholeNumeral]) spelled scaled fits
    (Numeral.exists_float negative fits fun up => absurd up (by decide))

/-- Digits that are cut before the end, though not before the first, make two runs. -/
theorem isRun_take_drop {digits : List Char} (run : IsRun digits) {places : Nat}
    (some : 0 < places) (inside : places < digits.length) :
    IsRun (digits.take places) ∧ IsRun (digits.drop places) := by
  have front : digits.take places ≠ [] := by
    apply List.ne_nil_of_length_pos
    rw [List.length_take]
    omega
  have back : digits.drop places ≠ [] := by
    apply List.ne_nil_of_length_pos
    rw [List.length_drop]
    omega
  exact ⟨⟨front, fun c there => run.all c (List.mem_of_mem_take there)⟩,
    back, fun c there => run.all c (List.mem_of_mem_drop there)⟩

/-- A decimal with digits on both sides of the point. -/
theorem isFloatText_pointed (negative : Bool) (positive : 0 < s.digits)
    (few : s.digits ≤ Numeral.greatestSignificand) (large : 0 ≤ s.exponent)
    (broken : s.exponent.toNat + 1 < s.digitChars.length)
    (finite : ∃ y, Numeral.float negative s.digits s.lastPlace = some y) :
    IsFloatText negative s.value ((if negative then ['-'] else []) ++ s.positional) := by
  have digits : IsRun s.digitChars := isRun_toDigits s.digits
  obtain ⟨front, back⟩ := isRun_take_drop digits (Nat.succ_pos _) broken
  have lead : (s.digitChars.take (s.exponent.toNat + 1)).head? ≠ some '0' := by
    rw [List.head?_take, if_neg (Nat.succ_ne_zero _)]
    exact head?_toDigits positive
  have wellFormed : (pointedNumeral negative s).WellFormed :=
    ⟨Or.inr ⟨front, lead⟩, by simpa [pointedNumeral] using back, by simp [pointedNumeral]⟩
  have spelled : ofDigitChars 10 (pointedNumeral negative s).digits 0 = s.digits := by
    have all : (pointedNumeral negative s).digits = s.digitChars := List.take_append_drop _ _
    rw [all, ofDigitChars_digitChars]
  have scaled : (pointedNumeral negative s).decimalExponent = s.lastPlace := by
    show 0 - ((s.digitChars.drop (s.exponent.toNat + 1)).length : Int) = _
    have length : s.digitChars.length = decimalLength s.digits := rfl
    rw [List.length_drop, Scientific.lastPlace]
    omega
  have text : (pointedNumeral negative s).chars =
      (if negative then ['-'] else []) ++ s.positional := by
    have notSmall : ¬s.exponent < 0 := not_lt.mpr large
    unfold pointedNumeral
    simp [Numeral.chars, Numeral.fractionChars, Numeral.exponentChars, Scientific.positional,
      notSmall, Nat.not_le.mpr broken]
  rw [← text]
  exact isFloatText_of_numeral wellFormed (Or.inl rfl) (by simp [pointedNumeral]) spelled scaled few
    finite

section Exponential

variable {first : Char} {more : List Char}

/-- The digits after the first, also when there are none. -/
theorem exponentialNumeral_fraction (negative : Bool) (exponent : Int) :
    (exponentialNumeral negative exponent first more).fraction.getD [] = more := by
  by_cases single : more = [] <;> simp [exponentialNumeral, single]

/-- A numeral with an exponent is well formed when its digits are, the first not being zero. -/
theorem wellFormed_exponentialNumeral (negative : Bool) (exponent : Int)
    (digits : IsRun (first :: more)) (lead : first ≠ '0') :
    (exponentialNumeral negative exponent first more).WellFormed := by
  have alone : IsRun [first] := by
    refine ⟨List.cons_ne_nil first [], fun c there => ?_⟩
    rw [List.mem_singleton.mp there]
    exact digits.all first List.mem_cons_self
  have fraction : ∀ part ∈ (exponentialNumeral negative exponent first more).fraction,
      IsRun part := by
    intro part there
    by_cases single : more = []
    · simp [exponentialNumeral, single] at there
    · obtain rfl : more = part := by simpa [exponentialNumeral, single] using there
      exact ⟨single, fun c inside => digits.all c (List.mem_cons_of_mem first inside)⟩
  have power : ∀ part ∈ (exponentialNumeral negative exponent first more).exponent,
      IsRun part.2 := by
    simpa [exponentialNumeral] using isRun_toDigits exponent.natAbs
  have head : [first].head? ≠ some '0' := by simpa using lead
  exact ⟨Or.inr ⟨alone, head⟩, fraction, power⟩

/-- The exponent of the last digit is lowered by the digits after the first. -/
theorem decimalExponent_exponentialNumeral (negative : Bool) (exponent : Int) :
    (exponentialNumeral negative exponent first more).decimalExponent = exponent - more.length := by
  have written : ofDigitChars 10 (Nat.toDigits 10 exponent.natAbs) 0 = exponent.natAbs :=
    Nat.ofDigitChars_ten_toDigits
  have split : (exponentialNumeral negative exponent first more).decimalExponent =
      (if decide (exponent < 0) then
          -(ofDigitChars 10 (Nat.toDigits 10 exponent.natAbs) 0 : Int)
        else (ofDigitChars 10 (Nat.toDigits 10 exponent.natAbs) 0 : Int)) -
        (((exponentialNumeral negative exponent first more).fraction.getD []).length : Int) := rfl
  rw [split, written, exponentialNumeral_fraction]
  by_cases below : exponent < 0
  · rw [if_pos (decide_eq_true below)]
    omega
  · rw [if_neg (by simpa using below)]
    omega

/-- A decimal with an exponent. -/
theorem isFloatText_exponential (negative : Bool) (positive : 0 < s.digits)
    (few : s.digits ≤ Numeral.greatestSignificand) (moderate : s.exponent.natAbs ≤ 500)
    (finite : ∃ y, Numeral.float negative s.digits s.lastPlace = some y) :
    IsFloatText negative s.value ((if negative then ['-'] else []) ++ s.exponential) := by
  have digits : IsRun s.digitChars := isRun_toDigits s.digits
  have head : s.digitChars.head? ≠ some '0' := head?_toDigits positive
  obtain ⟨first, more, split⟩ := List.exists_cons_of_ne_nil digits.nonempty
  have length : (decimalLength s.digits : Int) = more.length + 1 := by
    have size : decimalLength s.digits = (first :: more).length := congrArg List.length split
    rw [size, List.length_cons, Nat.cast_add_one]
  rw [split] at digits head
  have lead : first ≠ '0' := by simpa using head
  have spelled :
      ofDigitChars 10 (exponentialNumeral negative s.exponent first more).digits 0 = s.digits := by
    have all : (exponentialNumeral negative s.exponent first more).digits = s.digitChars := by
      rw [split, Numeral.digits, exponentialNumeral_fraction]
      rfl
    rw [all, ofDigitChars_digitChars]
  have scaled :
      (exponentialNumeral negative s.exponent first more).decimalExponent = s.lastPlace := by
    rw [decimalExponent_exponentialNumeral, Scientific.lastPlace, length]
    omega
  have bounded : ∀ part ∈ (exponentialNumeral negative s.exponent first more).exponent,
      ofDigitChars 10 part.2 0 ≤ Numeral.greatestExponent := by
    have written : ofDigitChars 10 (Nat.toDigits 10 s.exponent.natAbs) 0 ≤
        Numeral.greatestExponent := by
      rw [Nat.ofDigitChars_ten_toDigits]
      exact moderate.trans (by decide)
    simpa [exponentialNumeral] using written
  have text : (exponentialNumeral negative s.exponent first more).chars =
      (if negative then ['-'] else []) ++ s.exponential := by
    rw [Scientific.exponential, split]
    cases more <;>
      simp [exponentialNumeral, Numeral.chars, Numeral.fractionChars, Numeral.exponentChars]
  rw [← text]
  exact isFloatText_of_numeral (wellFormed_exponentialNumeral negative s.exponent digits lead)
    (Or.inr rfl) bounded spelled scaled few finite

end Exponential

end Layout

/-- The text of zero. -/
theorem isFloatText_zero (negative : Bool) :
    IsFloatText negative 0 ((if negative then ['-'] else []) ++ ['0', '.', '0']) := by
  let n : Numeral := ⟨negative, ['0'], some ['0'], none⟩
  have point : IsRun ['0'] := ⟨by simp, by simp⟩
  have wellFormed : n.WellFormed := ⟨Or.inl rfl, by simpa [n] using point, by simp [n]⟩
  have text : n.chars = (if negative then ['-'] else []) ++ ['0', '.', '0'] := by
    simp [n, Numeral.chars, Numeral.fractionChars, Numeral.exponentChars]
  have spelled : Nat.ofDigitChars 10 n.digits 0 = 0 := rfl
  have scaled : n.decimalExponent = -1 := rfl
  have made := isFloatText_of_numeral wellFormed (Or.inl rfl) (by simp [n]) spelled scaled
    (by decide) (Numeral.exists_float negative (by decide) fun up => absurd up (by decide))
  rw [Nat.cast_zero, zero_mul, text] at made
  exact made

/-- The rational that the text of a number denotes, without its sign. -/
def printedValue (x : Binary64) : ℚ :=
  match x.shortest .toEven with
  | none => 0
  | some s => s.value

/-- What is printed for a floating point number is the text of a floating point number, never of an
integer, and never out of range. -/
theorem isFloatText_floatChars (x : Binary64) :
    IsFloatText x.negative (printedValue x) (floatChars x) := by
  have signed (magnitude : List Char) :
      (if x.negative then '-' :: magnitude else magnitude) =
        (if x.negative then ['-'] else []) ++ magnitude := by
    cases x.negative <;> rfl
  rw [floatChars, signed, printedValue]
  cases found : x.shortest .toEven with
  | none => exact isFloatText_zero x.negative
  | some s =>
    obtain ⟨positive, few, moderate, -⟩ := shortest_spec found
    have fits : s.digits ≤ Numeral.greatestSignificand := few.trans (by decide)
    have finite := exists_float_of_shortest found x.negative
    by_cases plain : positionalRange.1 ≤ s.exponent ∧ s.exponent ≤ positionalRange.2
    · simp only [if_pos plain]
      rcases lt_or_ge s.exponent 0 with small | large
      · exact isFloatText_belowOne x.negative fits small finite
      · rcases Nat.lt_or_ge (s.exponent.toNat + 1) s.digitChars.length with broken | whole
        · exact isFloatText_pointed x.negative positive fits large broken finite
        · exact isFloatText_whole x.negative positive large plain.2 whole
    · simp only [if_neg plain]
      exact isFloatText_exponential x.negative positive fits moderate finite

end Concord.Json
