import Concord.Binary64

/-!
# Rounding to the nearest number

Every arithmetic result is the exact rational rounded once. `Binary64.round` takes a fraction to
the nearest number of the format, a tie to the one with an even significand, and is absent when the
fraction rounds beyond the greatest finite number. Products, quotients and decimal literals are
each one call of it.
-/

namespace Concord

/-- The quotient rounded to the nearest integer, a tie to the even one. -/
def roundHalfEven (numerator denominator : Nat) : Nat :=
  let quotient := numerator / denominator
  let twice := 2 * (numerator % denominator)
  if twice < denominator then quotient
  else if denominator < twice then quotient + 1
  else quotient + quotient % 2

namespace Binary64

/-- The exponent `e` with `2 ^ e ≤ numerator / denominator < 2 ^ (e + 1)`, both being positive. -/
def floorLog2 (numerator denominator : Nat) : Int :=
  let guess : Int := (numerator.log2 : Int) - denominator.log2
  if numerator * Nat.pow 2 (-guess).toNat < denominator * Nat.pow 2 guess.toNat then guess - 1 else guess

/-- The exponent at which a positive fraction is rounded: its leading bit becomes the 53rd bit of
the significand, unless the spacing would fall below the least one. -/
def roundingExponent (numerator denominator : Nat) : Int :=
  max (-1074) (floorLog2 numerator denominator - 52)

/-- The number nearest to a fraction of the given sign, a tie to the even significand; absent beyond
the greatest finite number. -/
def round (negative : Bool) (numerator denominator : Nat) : Option Binary64 :=
  if numerator = 0 then
    some (zero negative)
  else
    let exponent := roundingExponent numerator denominator
    let significand :=
      roundHalfEven (numerator * Nat.pow 2 (-exponent).toNat)
        (denominator * Nat.pow 2 exponent.toNat)
    if significand = Nat.pow 2 53 then
      ofParts? negative (Nat.pow 2 52) (exponent + 1)
    else
      ofParts? negative significand exponent

/-- The number nearest to a natural number. -/
def ofNat (n : Nat) : Option Binary64 := round false n 1

/-- The number nearest to a power of ten. -/
def tenPow (n : Nat) : Option Binary64 := ofNat (Nat.pow 10 n)

/-- The number nearest to the exact product. -/
def mul (x y : Binary64) : Option Binary64 :=
  round (x.negative != y.negative) (x.magnitude.1 * y.magnitude.1) (x.magnitude.2 * y.magnitude.2)

/-- The number nearest to the exact sum of the magnitudes. -/
def addMagnitudes (x y : Binary64) : Option Binary64 :=
  round false
    (x.magnitude.1 * y.magnitude.2 + y.magnitude.1 * x.magnitude.2)
    (x.magnitude.2 * y.magnitude.2)

/-- The number nearest to the exact quotient; the divisor is not zero. -/
def div (x y : Binary64) : Option Binary64 :=
  round (x.negative != y.negative) (x.magnitude.1 * y.magnitude.2) (x.magnitude.2 * y.magnitude.1)

/-- The number nearest to `± digits * 10 ^ exponent`. -/
def ofDecimal (negative : Bool) (digits : Nat) (exponent : Int) : Option Binary64 :=
  round negative (digits * Nat.pow 10 exponent.toNat) (Nat.pow 10 (-exponent).toNat)

/-- The number with its sign bit set as given. -/
def withSign (x : Binary64) (negative : Bool) : Binary64 := { x with negative := negative }

end Binary64

end Concord
