/-!
# Finite binary floating point numbers

A `Binary64` is one finite number of the 64-bit binary format, held as a sign, a significand of at
most 53 bits and the exponent of two that scales it. The fields are canonical: a significand below
`2 ^ 52` occurs only at the least exponent, so no number has two forms apart from the two zeros,
which differ in sign. Infinities and the undefined result are not numbers and are left out.
-/

namespace Concord

/-- A finite number of the 64-bit binary format, `± significand * 2 ^ exponent`. -/
structure Binary64 where
  /-- Whether the sign bit is set; zero carries a sign as well. -/
  negative : Bool
  /-- The integer significand. -/
  significand : Nat
  /-- The exponent of two that scales the significand. -/
  exponent : Int
  /-- The significand fits 53 bits. -/
  significand_lt : significand < Nat.pow 2 53
  /-- Spacing never falls below that of the least positive number. -/
  exponent_ge : -1074 ≤ exponent
  /-- Spacing never exceeds that of the greatest finite number. -/
  exponent_le : exponent ≤ 971
  /-- Above the least exponent the leading bit of the significand is set. -/
  normal : exponent = -1074 ∨ Nat.pow 2 52 ≤ significand
deriving DecidableEq

namespace Binary64

/-- The conditions on a significand and an exponent that make them the fields of a number. -/
abbrev Canonical (significand : Nat) (exponent : Int) : Prop :=
  significand < Nat.pow 2 53 ∧ -1074 ≤ exponent ∧ exponent ≤ 971 ∧
    (exponent = -1074 ∨ Nat.pow 2 52 ≤ significand)

/-- The number with these fields, if they are canonical. -/
def ofParts? (negative : Bool) (significand : Nat) (exponent : Int) : Option Binary64 :=
  if h : Canonical significand exponent then
    some ⟨negative, significand, exponent, h.1, h.2.1, h.2.2.1, h.2.2.2⟩
  else
    none

/-- Zero with the given sign. -/
def zero (negative : Bool) : Binary64 :=
  ⟨negative, 0, -1074, by decide, by decide, by decide, Or.inl rfl⟩

/-- Whether the number is one of the two zeros. -/
def isZero (x : Binary64) : Bool := x.significand == 0

/-- The significand with its sign. -/
def signedSignificand (x : Binary64) : Int :=
  if x.negative then -x.significand else x.significand

/-- The exact rational that the number stands for. -/
def toRat (x : Binary64) : Rat := x.signedSignificand * (2 : Rat) ^ x.exponent

/-- The magnitude as a fraction: a numerator above a power of two. -/
def magnitude (x : Binary64) : Nat × Nat :=
  (x.significand * Nat.pow 2 x.exponent.toNat, Nat.pow 2 (-x.exponent).toNat)

/-- Whether the number has no fraction. -/
def isWhole (x : Binary64) : Bool := x.magnitude.1 % x.magnitude.2 == 0

/-- The whole part of the number, its fraction cut off. -/
def whole (x : Binary64) : Int :=
  let magnitude : Int := (x.magnitude.1 / x.magnitude.2 : Nat)
  if x.negative then -magnitude else magnitude

/-- Whether two numbers have the same value: they are the same number or both are zeros. -/
def equals (x y : Binary64) : Bool := x == y || (x.isZero && y.isZero)

/-- A number equals itself: the undefined result, which would not, is left out. -/
@[simp]
theorem equals_self (x : Binary64) : x.equals x = true := by
  simp [equals]

/-- It does not matter which of two numbers comes first. -/
theorem equals_comm (x y : Binary64) : x.equals y = y.equals x := by
  simp only [equals, BEq.comm (a := x), Bool.and_comm]

/-- Fields that are canonical give a number. -/
theorem ofParts?_eq_some {significand : Nat} {exponent : Int}
    (h : Canonical significand exponent) (negative : Bool) :
    ofParts? negative significand exponent =
      some ⟨negative, significand, exponent, h.1, h.2.1, h.2.2.1, h.2.2.2⟩ := dif_pos h

/-- Both zeros stand for the rational zero. -/
theorem toRat_zero (negative : Bool) : (zero negative).toRat = 0 := by
  have signed : (zero negative).signedSignificand = 0 := by cases negative <;> rfl
  rw [toRat, signed]
  exact Rat.zero_mul _

end Binary64

end Concord
