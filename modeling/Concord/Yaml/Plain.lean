import Concord.Binary64.Shortest
import Concord.Decimal
import Concord.Text.Quoted
import Concord.Yaml.Token

/-!
# What a scalar is taken for

A plain scalar is taken for the null value, a boolean or a number if it is spelled like one; a
scalar in quotes is a text. A tag may ask for one of these kinds. `describe` says what a scalar is
in the words of an error message.
-/

namespace Concord.Yaml

/-- The tags of the kinds a plain scalar may be taken for. -/
def coreTag (name : String) : String := "tag:yaml.org,2002:" ++ name

/-- Whether the text spells the null value. -/
def isNull (text : String) : Bool := ["null", "Null", "NULL", "~"].contains text

/-- The boolean that the text spells. -/
def boolean? (text : String) : Option Bool :=
  if ["true", "True", "TRUE"].contains text then some true
  else if ["false", "False", "FALSE"].contains text then some false
  else none

/-- A whole number that a scalar spells. -/
inductive Whole where
  /-- One that fits 64 bits. -/
  | word (n : Int)
  /-- One that fits 128 bits without a sign. -/
  | unsignedWide (n : Int)
  /-- One that fits 128 bits with a sign. -/
  | signedWide (n : Int)
deriving DecidableEq, Repr

/-- The value of digits in a base up to sixteen. -/
def natOfDigits? (base : Nat) (digits : List Char) : Option Nat :=
  let value? (c : Char) : Option Nat :=
    let value :=
      if c.isDigit then some (c.toNat - '0'.toNat)
      else if 'a' ≤ c ∧ c ≤ 'f' then some (c.toNat - 'a'.toNat + 10)
      else if 'A' ≤ c ∧ c ≤ 'F' then some (c.toNat - 'A'.toNat + 10)
      else none
    value.filter fun value => value < base
  if digits.isEmpty then none
  else (digits.mapM value?).map fun values => values.foldl (fun n v => base * n + v) 0

/-- Whether the text is decimal digits with a needless zero in front, which make no number. -/
def hasNeedlessZero (text : List Char) : Bool :=
  match (Decimal.splitSign text).2 with
  | '0' :: c :: rest => (c :: rest).all Char.isDigit
  | _ => false

/-- Splits off the mark of a base other than ten. -/
def splitBase : List Char → Option (Nat × List Char)
  | '0' :: 'x' :: rest => some (16, rest)
  | '0' :: 'o' :: rest => some (8, rest)
  | '0' :: 'b' :: rest => some (2, rest)
  | _ => none

/-- The magnitude that unsigned text spells in one of the bases. -/
def magnitude? (text : List Char) : Option Nat :=
  match splitBase text with
  | some (base, digits) => natOfDigits? base digits
  | none => if hasNeedlessZero text then none else natOfDigits? 10 text

/-- The whole number that the text spells, whatever its size. -/
def integer? (text : List Char) : Option Int :=
  match text with
  | '-' :: rest => (magnitude? rest).map fun n => -(n : Int)
  | '+' :: rest => (magnitude? rest).map fun n => (n : Int)
  | _ => (magnitude? text).map fun n => (n : Int)

/-- The whole number that the text spells, if it fits 128 bits. -/
def whole? (text : List Char) : Option Whole := do
  let n ← integer? text
  let power (bits : Nat) : Int := Nat.pow 2 bits
  if -power 63 ≤ n ∧ n < power 64 then some (.word n)
  else if 0 ≤ n ∧ n < power 128 then some (.unsignedWide n)
  else if -power 127 ≤ n ∧ n < 0 then some (.signedWide n)
  else none

/-- A floating point number that a scalar spells. -/
inductive Floating where
  | finite (x : Binary64)
  | infinite (negative : Bool)
  | undefined

/-- The floating point number that the text spells. -/
def floating? (text : String) : Option Floating :=
  if [".nan", ".NaN", ".NAN"].contains text then some .undefined
  else if ["-.inf", "-.Inf", "-.INF"].contains text then some (.infinite true)
  else if [".inf", ".Inf", ".INF", "+.inf", "+.Inf", "+.INF"].contains text then
    some (.infinite false)
  else
    match text.toList with
    | '+' :: '+' :: _ => none
    | '+' :: '-' :: _ => none
    | _ => ((Decimal.ofText? text).bind Decimal.nearest).map .finite

/-- The text of a floating point number, never with an exponent. -/
def Floating.text : Floating → String
  | .undefined => "NaN"
  | .infinite negative => if negative then "-inf" else "inf"
  | .finite x =>
    let magnitude := match x.shortest .up with
      | none => ['0', '.', '0']
      | some s => s.positional
    String.ofList (if x.negative then '-' :: magnitude else magnitude)

/-- What a value is, in the words of an error message. -/
inductive Described where
  /-- A value of another kind than the expected one. -/
  | kind (text : String)
  /-- A text that does not spell the kind its tag asks for. -/
  | misspelled (text : String) (expected : String)
deriving DecidableEq, Repr

/-- The kind of a whole number. -/
def describeWhole : Whole → String
  | .word n => "integer `" ++ toString n ++ "`"
  | .unsignedWide n => "integer `" ++ toString n ++ "` as u128"
  | .signedWide n => "integer `" ++ toString n ++ "` as i128"

/-- The kind of a floating point number. -/
def describeFloating (x : Floating) : String := "floating point `" ++ x.text ++ "`"

/-- The kind of a boolean. -/
def describeBool (b : Bool) : String := "boolean `" ++ (if b then "true" else "false") ++ "`"

/-- The kind of a text. -/
def describeText (text : String) : String := "string " ++ Text.quote text

/-- The kind of a plain scalar without a tag. -/
def describePlain (text : String) : String :=
  if text.isEmpty || isNull text then "unit value"
  else
    match boolean? text with
    | some b => describeBool b
    | none =>
      match whole? text.toList with
      | some n => describeWhole n
      | none =>
        match if hasNeedlessZero text.toList then none else floating? text with
        | some x => describeFloating x
        | none => describeText text

/-- What a scalar is. -/
def describe (tag : Option String) (text : String) (style : ScalarStyle) : Described :=
  match tag with
  | none => .kind (if style = .plain then describePlain text else describeText text)
  | some tag =>
    if tag = coreTag "bool" then
      match boolean? text with
      | some b => .kind (describeBool b)
      | none => .misspelled text "a boolean"
    else if tag = coreTag "int" then
      match whole? text.toList with
      | some n => .kind (describeWhole n)
      | none => .misspelled text "an integer"
    else if tag = coreTag "float" then
      match floating? text with
      | some x => .kind (describeFloating x)
      | none => .misspelled text "a float"
    else if tag = coreTag "null" then
      if isNull text then .kind "unit value" else .misspelled text "null"
    else if tag.startsWith "!" && style = .plain then .kind (describePlain text)
    else .kind (describeText text)

end Concord.Yaml
