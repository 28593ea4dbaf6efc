import Concord.Binary64.Rounding

/-!
# Decimal literals

A `Decimal` is a number as it is written in decimal: a sign, digits and an exponent of ten. It is
read by the usual grammar of a fraction with an optional exponent and stands for an exact rational,
which `Decimal.nearest` rounds once.
-/

namespace Concord

/-- The decimal `± digits * 10 ^ exponent`. -/
structure Decimal where
  /-- Whether a minus sign stands in front. -/
  negative : Bool
  /-- All digits read as one number. -/
  digits : Nat
  /-- The exponent of ten. -/
  exponent : Int
deriving DecidableEq, Repr

namespace Decimal

/-- The number that decimal digits stand for. -/
def natOfDigits (digits : List Char) : Nat :=
  digits.foldl (fun n c => 10 * n + (c.toNat - '0'.toNat)) 0

/-- Splits off a sign: whether it is a minus sign, and the text after it. -/
def splitSign : List Char → Bool × List Char
  | '+' :: rest => (false, rest)
  | '-' :: rest => (true, rest)
  | cs => (false, cs)

/-- Reads an exponent that ends the text; an empty text is the exponent zero. -/
def readExponent : List Char → Option Int
  | [] => some 0
  | c :: rest =>
    if c = 'e' ∨ c = 'E' then
      let (negative, digits) := splitSign rest
      if digits.isEmpty || !digits.all Char.isDigit then none
      else
        let value : Int := natOfDigits digits
        some (if negative then -value else value)
    else none

/-- Reads a decimal: digits with a point before, among or after them, and an optional exponent. -/
def ofChars? (cs : List Char) : Option Decimal := do
  let (negative, cs) := splitSign cs
  let whole := cs.takeWhile Char.isDigit
  let rest := cs.dropWhile Char.isDigit
  let (fraction, rest) :=
    match rest with
    | '.' :: rest => (rest.takeWhile Char.isDigit, rest.dropWhile Char.isDigit)
    | _ => ([], rest)
  if whole.isEmpty && fraction.isEmpty then none
  else do
    let exponent ← readExponent rest
    some ⟨negative, natOfDigits (whole ++ fraction), exponent - fraction.length⟩

/-- Reads a decimal from a text. -/
def ofText? (text : String) : Option Decimal := ofChars? text.toList

/-- The number nearest to the decimal; absent beyond the greatest finite number. Exponents so
extreme that the digits cannot outweigh them are settled without computing the power of ten. -/
def nearest (d : Decimal) : Option Binary64 :=
  let length : Int := (Nat.toDigits 10 d.digits).length
  if d.digits = 0 then some (.zero d.negative)
  else if 400 < d.exponent + length then none
  else if d.exponent + length < -400 then some (.zero d.negative)
  else Binary64.ofDecimal d.negative d.digits d.exponent

end Decimal

end Concord
