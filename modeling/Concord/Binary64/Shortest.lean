import Concord.Binary64

/-!
# Shortest decimal digits

The text of a number needs only enough digits to single it out among its neighbours.
`Binary64.shortest` takes the reals that round to the number, tries the decimal grids of one, two,
up to seventeen digits in turn, and keeps the first grid that has a point among them; of two such
points it takes the nearer. Which of two equally near points is taken is a choice of the format
that prints the digits, so it is an argument.
-/

namespace Concord

/-- A positive decimal in scientific form: `d.ddd * 10 ^ exponent`, where the digits `dddd` are
those of the natural number `digits`. -/
structure Scientific where
  /-- All digits read as one number, without trailing zeros. -/
  digits : Nat
  /-- The exponent of ten of the leading digit. -/
  exponent : Int
deriving DecidableEq, Repr

namespace Scientific

/-- The digits from the most significant one. -/
def digitChars (s : Scientific) : List Char := Nat.toDigits 10 s.digits

/-- The decimal without an exponent: at least one digit on either side of the point. -/
def positional (s : Scientific) : List Char :=
  let digits := s.digitChars
  if s.exponent < 0 then
    '0' :: '.' :: List.replicate (-s.exponent - 1).toNat '0' ++ digits
  else
    let places := s.exponent.toNat + 1
    if digits.length ≤ places then
      digits ++ List.replicate (places - digits.length) '0' ++ ['.', '0']
    else
      digits.take places ++ '.' :: digits.drop places

/-- The decimal with an exponent: one digit before the point, no point after a lone digit, and a
sign on the exponent. -/
def exponential (s : Scientific) : List Char :=
  let mantissa :=
    match s.digitChars with
    | [] => []
    | [digit] => [digit]
    | digit :: more => digit :: '.' :: more
  let sign := if s.exponent < 0 then '-' else '+'
  mantissa ++ 'e' :: sign :: Nat.toDigits 10 s.exponent.natAbs

end Scientific

/-- The number of decimal digits of a natural number; zero has one. -/
def decimalLength (n : Nat) : Nat := (Nat.toDigits 10 n).length

/-- The natural number without its trailing decimal zeros, given at most `fuel` of them. -/
def dropTrailingZeros : (fuel : Nat) → Nat → Nat
  | 0, n => n
  | fuel + 1, n => if n % 10 = 0 then dropTrailingZeros fuel (n / 10) else n

/-- Which of two equally near decimals stands for the number. -/
inductive Tie where
  /-- The one whose last digit is even. -/
  | toEven
  /-- The greater one. -/
  | up
deriving DecidableEq

namespace Binary64

/-- The exponent of ten of the leading digit of a positive fraction. -/
def leadingExponent (numerator denominator : Nat) : Int :=
  if denominator ≤ numerator then
    (decimalLength (numerator / denominator) : Int) - 1
  else
    -(decimalLength ((denominator - 1) / numerator) : Int)

/-- The reals that round to a positive number, as numerators over one denominator. -/
structure Neighbourhood where
  /-- The midpoint to the next smaller number. -/
  lower : Nat
  /-- The number itself. -/
  value : Nat
  /-- The midpoint to the next greater number. -/
  upper : Nat
  /-- The common denominator. -/
  denominator : Nat
  /-- Whether the midpoints themselves round to the number. -/
  closed : Bool

/-- The reals that round to the number: half the spacing on either side, and only a quarter below
when the number is the least of its exponent. A midpoint rounds to the even significand. -/
def neighbourhood (x : Binary64) : Neighbourhood :=
  let scale := Nat.pow 2 x.exponent.toNat
  let below := if x.significand = Nat.pow 2 52 ∧ x.exponent ≠ -1074 then 1 else 2
  { lower := (4 * x.significand - below) * scale
    value := 4 * x.significand * scale
    upper := (4 * x.significand + 2) * scale
    denominator := 4 * Nat.pow 2 (-x.exponent).toNat
    closed := x.significand % 2 == 0 }

/-- Whether `point * unit` lies in the neighbourhood, the unit being a fraction. -/
def Neighbourhood.holds (hood : Neighbourhood) (point unitNumerator unitDenominator : Nat) :
    Bool :=
  let scaled := point * unitNumerator * hood.denominator
  let lower := hood.lower * unitDenominator
  let upper := hood.upper * unitDenominator
  if hood.closed then decide (lower ≤ scaled ∧ scaled ≤ upper)
  else decide (lower < scaled ∧ scaled < upper)

/-- The point of the decimal grid `10 ^ place` that stands for the number, if the grid has one that
rounds to it: one of the two grid points next to the number, the nearer if both do. -/
def gridPoint (tie : Tie) (hood : Neighbourhood) (place : Int) : Option Nat :=
  let unitNumerator := Nat.pow 10 place.toNat
  let unitDenominator := Nat.pow 10 (-place).toNat
  let numerator := hood.value * unitDenominator
  let denominator := hood.denominator * unitNumerator
  let floor := numerator / denominator
  let twice := 2 * (numerator % denominator)
  match hood.holds floor unitNumerator unitDenominator,
      hood.holds (floor + 1) unitNumerator unitDenominator with
  | false, false => none
  | true, false => some floor
  | false, true => some (floor + 1)
  | true, true =>
    if twice < denominator then some floor
    else if denominator < twice then some (floor + 1)
    else match tie with
      | .up => some (floor + 1)
      | .toEven => some (floor + floor % 2)

/-- The first grid, from `count` digits on, that has a point standing for the number. -/
def firstGrid (tie : Tie) (hood : Neighbourhood) (leading : Int) :
    (more : Nat) → (count : Nat) → Option Scientific
  | 0, _ => none
  | more + 1, count =>
    let place := leading - (count : Int) + 1
    match gridPoint tie hood place with
    | some point =>
      some ⟨dropTrailingZeros count point, place + (decimalLength point : Int) - 1⟩
    | none => firstGrid tie hood leading more (count + 1)

/-- The shortest decimal that reads back as the number's magnitude; absent only for zero. -/
def shortest (tie : Tie) (x : Binary64) : Option Scientific :=
  let hood := x.neighbourhood
  if x.significand = 0 then none
  else firstGrid tie hood (leadingExponent hood.value hood.denominator) 17 1

end Binary64

end Concord
