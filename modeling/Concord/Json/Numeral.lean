import Concord.Json.ReadError
import Concord.Json.Value

/-!
# JSON numbers

A number is read in two steps. `Numeral.read` splits its digits by the grammar: a sign, a whole
part without needless zeros, a fraction and an exponent. `Numeral.number?` gives them a value. A
numeral without fraction and exponent that fits 64 bits is an integer. Any other is a floating
point number, computed in three roundings: as many leading digits as fit 64 bits make a
significand, it and the power of ten are rounded to numbers of the format, and so is their product
or quotient. A `WrittenNumber` keeps the digits together with the value.
-/

namespace Concord.Json

/-- The digits of a number as written. -/
structure Numeral where
  /-- Whether a minus sign stands in front. -/
  negative : Bool
  /-- The digits before the point. -/
  whole : List Char
  /-- The digits after the point, if there is one. -/
  fraction : Option (List Char)
  /-- The exponent, if there is one: whether it has a minus sign, and its digits. -/
  exponent : Option (Bool × List Char)
deriving DecidableEq, Repr

/-- The value of a decimal digit. -/
def digitValue (c : Char) : Nat := c.toNat - '0'.toNat

namespace Numeral

/-- Reads the whole part: one zero, or digits that start with another digit. -/
def readWhole : List Char → Reading (List Char)
  | [] => .error (.before .endInValue [])
  | c :: rest =>
    if c = '0' then
      if rest.head?.any Char.isDigit then .error (.within .badNumber rest) else .ok ([c], rest)
    else if c.isDigit then
      .ok (c :: rest.takeWhile Char.isDigit, rest.dropWhile Char.isDigit)
    else
      .error (.within .badNumber (c :: rest))

/-- Reads the fraction, if a point follows: at least one digit. -/
def readFraction : List Char → Reading (Option (List Char))
  | '.' :: rest =>
    match rest with
    | [] => .error (.within .endInValue [])
    | c :: _ =>
      if c.isDigit then .ok (some (rest.takeWhile Char.isDigit), rest.dropWhile Char.isDigit)
      else .error (.within .badNumber rest)
  | cs => .ok (none, cs)

/-- Reads the sign of an exponent, if there is one: whether it is a minus sign. -/
def readSign : List Char → Bool × List Char
  | '+' :: rest => (false, rest)
  | '-' :: rest => (true, rest)
  | cs => (false, cs)

/-- Reads the exponent, if its letter follows: a sign and at least one digit. -/
def readExponent : List Char → Reading (Option (Bool × List Char))
  | [] => .ok (none, [])
  | c :: rest =>
    if c = 'e' ∨ c = 'E' then
      let signed := readSign rest
      match signed.2 with
      | [] => .error (.before .endInValue [])
      | d :: _ =>
        if d.isDigit then
          .ok (some (signed.1, signed.2.takeWhile Char.isDigit),
            signed.2.dropWhile Char.isDigit)
        else
          .error (.within .badNumber signed.2)
    else
      .ok (none, c :: rest)

/-- Reads a number by the grammar. -/
def read (cs : List Char) : Except Stop (Numeral × List Char) := do
  let signed : Bool × List Char :=
    match cs with
    | '-' :: rest => (true, rest)
    | _ => (false, cs)
  let (whole, rest) ← readWhole signed.2
  let (fraction, rest) ← readFraction rest
  let (exponent, rest) ← readExponent rest
  .ok (⟨signed.1, whole, fraction, exponent⟩, rest)

/-- The greatest significand, the greatest number of 64 bits. -/
def greatestSignificand : Nat := Nat.pow 2 64 - 1

/-- Appends digits to a significand while it fits 64 bits; the digits left over come second. -/
def gather (significand : Nat) : List Char → Nat × List Char
  | [] => (significand, [])
  | d :: rest =>
    let next := significand * 10 + digitValue d
    if next ≤ greatestSignificand then gather next rest else (significand, d :: rest)

/-- The digits that count: a significand and the exponent of ten that goes with it. A whole digit
left over raises the exponent by one, a fraction digit that counts lowers it by one. -/
structure Leading where
  /-- The leading digits. -/
  significand : Nat
  /-- The exponent of ten. -/
  exponent : Int
  /-- Whether a digit of the whole part was left over. -/
  cut : Bool

/-- The digits of a numeral that count. -/
def leading (n : Numeral) : Leading :=
  let (significand, left) := gather 0 n.whole
  let fraction := n.fraction.getD []
  let (all, fractionLeft) := gather significand fraction
  ⟨all, left.length - (fraction.length - fractionLeft.length : Nat), !left.isEmpty⟩

/-- The greatest exponent that is read as a number, the greatest signed number of 32 bits. -/
def greatestExponent : Nat := Nat.pow 2 31 - 1

/-- The value of the digits of an exponent, or the digits after the one at which it becomes too
great. -/
def exponentValue (value : Nat) : List Char → Except (List Char) Nat
  | [] => .ok value
  | d :: rest =>
    let next := value * 10 + digitValue d
    if next ≤ greatestExponent then exponentValue next rest else .error rest

/-- The greatest power of ten that one scaling step multiplies or divides by. -/
def greatestPower : Nat := 308

/-- Divides by the greatest power of ten so many times, each time rounding; zero stays zero. -/
def lower : (times : Nat) → Binary64 → Option Binary64
  | 0, x => some x
  | times + 1, x =>
    if x.isZero then some x
    else do
      let power ← Binary64.tenPow greatestPower
      let quotient ← x.div power
      lower times quotient

/-- Multiplies a number by a power of ten, rounding; absent when the result is too great. A power
beyond the greatest is too great for any number but zero, one below its inverse is reached in
several steps. -/
def scale (x : Binary64) (exponent : Int) : Option Binary64 :=
  if 0 ≤ exponent then
    if exponent.toNat ≤ greatestPower then do x.mul (← Binary64.tenPow exponent.toNat)
    else if x.isZero then some x
    else none
  else
    let places := (-exponent).toNat
    let times := (places - 1) / greatestPower
    do
      let lowered ← lower times x
      if lowered.isZero then some lowered
      else lowered.div (← Binary64.tenPow (places - times * greatestPower))

/-- The floating point number with a significand and an exponent of ten. -/
def float (negative : Bool) (significand : Nat) (exponent : Int) : Option Binary64 := do
  let magnitude ← scale (← Binary64.ofNat significand) exponent
  some (magnitude.withSign negative)

/-- The value of a numeral; absent when it is too great. -/
def number? (n : Numeral) : Option Number :=
  let leading := n.leading
  match n.exponent with
  | some (lowering, digits) =>
    match exponentValue 0 digits with
    | .ok value =>
      (float n.negative leading.significand
        (leading.exponent + (if lowering then -(value : Int) else (value : Int)))).map .float
    | .error _ =>
      if leading.significand ≠ 0 ∧ lowering = false then none
      else some (.float (.zero n.negative))
  | none =>
    if n.fraction.isSome ∨ leading.cut then
      (float n.negative leading.significand leading.exponent).map .float
    else if n.negative then
      if 0 < leading.significand ∧ leading.significand ≤ Nat.pow 2 63 then
        some (.integer (-leading.significand))
      else
        (float n.negative leading.significand 0).map .float
    else
      some (.integer leading.significand)

/-- The digits of an exponent that are not looked at because it is too great without them. -/
def unreadDigits (n : Numeral) : List Char :=
  match n.exponent with
  | none => []
  | some (_, digits) =>
    match exponentValue 0 digits with
    | .ok _ => []
    | .error left => left

end Numeral

/-- A number of a text: its digits as written and the value they have. -/
structure WrittenNumber where
  /-- The digits. -/
  numeral : Numeral
  /-- The value. -/
  value : Number
  /-- The value is that of the digits. -/
  number?_eq : numeral.number? = some value

/-- Reads a number. -/
def readNumber (cs : List Char) : Except Stop (WrittenNumber × List Char) := do
  let (numeral, rest) ← Numeral.read cs
  match valued : numeral.number? with
  | some value => .ok (⟨numeral, value, valued⟩, rest)
  | none => .error (.before .numberTooGreat (numeral.unreadDigits ++ rest))

end Concord.Json
