import Concord.Binary64.Shortest
import Concord.Json.Value

/-!
# Writing JSON

`Value.compact` writes a value without blanks, `Value.pretty` with one item or member a line,
indented by two spaces a level. Members are written in the order they stand in. A floating point
number is written with the fewest digits that read back as it, and always with a point or an
exponent, so that it never looks like an integer.
-/

namespace Concord.Json

/-- Floating point numbers whose leading digit stands between these powers of ten are written
without an exponent. -/
def positionalRange : Int × Int := (-5, 15)

/-- The text of a floating point number. Of two equally near decimals of the least length the one
with the even digit is written. -/
def floatChars (x : Binary64) : List Char :=
  let magnitude :=
    match x.shortest .toEven with
    | none => ['0', '.', '0']
    | some s =>
      if positionalRange.1 ≤ s.exponent ∧ s.exponent ≤ positionalRange.2 then s.positional
      else s.exponential
  if x.negative then '-' :: magnitude else magnitude

/-- The text of an integer. -/
def integerChars (n : Int) : List Char :=
  if n < 0 then '-' :: Nat.toDigits 10 n.natAbs else Nat.toDigits 10 n.natAbs

/-- The text of a number. -/
def Number.chars : Number → List Char
  | .integer n => integerChars n
  | .float x => floatChars x

/-- A digit in base sixteen, in lower case. -/
def hexDigit (n : Nat) : Char := Nat.digitChar n

/-- A character as it stands in a string: quotes, backslashes and controls are escaped. -/
def escapeChar (c : Char) : List Char :=
  if c = '"' then ['\\', '"']
  else if c = '\\' then ['\\', '\\']
  else if c = '\x08' then ['\\', 'b']
  else if c = '\x0c' then ['\\', 'f']
  else if c = '\n' then ['\\', 'n']
  else if c = '\r' then ['\\', 'r']
  else if c = '\t' then ['\\', 't']
  else if c.toNat < 0x20 then
    ['\\', 'u', '0', '0', hexDigit (c.toNat / 16), hexDigit (c.toNat % 16)]
  else [c]

/-- The text of a string. -/
def stringChars (s : String) : List Char := '"' :: s.toList.flatMap escapeChar ++ ['"']

/-- What stands around the items of an array or the members of an object. -/
structure Layout where
  /-- What stands before an item, and before the closing bracket, at a depth. -/
  lineBreak : (depth : Nat) → List Char
  /-- What stands between a key and its value. -/
  colon : List Char

/-- Nothing but the punctuation. -/
def Layout.compact : Layout := ⟨fun _ => [], [':']⟩

/-- Each item on a line of its own, indented by two spaces a level. -/
def Layout.pretty : Layout :=
  ⟨fun depth => '\n' :: List.replicate (2 * depth) ' ', [':', ' ']⟩

namespace Layout

/-- The pieces with a comma and a line break between them. -/
def join (layout : Layout) (depth : Nat) : List (List Char) → List Char
  | [] => []
  | [piece] => piece
  | piece :: rest => piece ++ ',' :: layout.lineBreak depth ++ layout.join depth rest

/-- The pieces between brackets that stand at a depth. -/
def enclose (layout : Layout) (depth : Nat) (opening closing : Char) (pieces : List (List Char)) :
    List Char :=
  if pieces.isEmpty then [opening, closing]
  else
    opening :: layout.lineBreak (depth + 1) ++ layout.join (depth + 1) pieces ++
      layout.lineBreak depth ++ [closing]

end Layout

mutual

/-- The text of a value that stands at a depth. -/
def Value.chars (layout : Layout) : (depth : Nat) → Value → List Char
  | _, .null => ['n', 'u', 'l', 'l']
  | _, .bool true => ['t', 'r', 'u', 'e']
  | _, .bool false => ['f', 'a', 'l', 's', 'e']
  | _, .number n => n.chars
  | _, .string s => stringChars s
  | depth, .array items => layout.enclose depth '[' ']' (itemPieces layout (depth + 1) items)
  | depth, .object members =>
    layout.enclose depth '\x7b' '\x7d' (memberPieces layout (depth + 1) members)

/-- The texts of the items of an array. -/
def itemPieces (layout : Layout) : (depth : Nat) → List Value → List (List Char)
  | _, [] => []
  | depth, value :: rest => value.chars layout depth :: itemPieces layout depth rest

/-- The texts of the members of an object. -/
def memberPieces (layout : Layout) : (depth : Nat) → List (String × Value) → List (List Char)
  | _, [] => []
  | depth, (key, value) :: rest =>
    (stringChars key ++ layout.colon ++ value.chars layout depth) ::
      memberPieces layout depth rest

end

/-- The value on one line without blanks. -/
def Value.compact (value : Value) : String := String.ofList (value.chars .compact 0)

/-- The value with one item or member a line. -/
def Value.pretty (value : Value) : String := String.ofList (value.chars .pretty 0)

end Concord.Json
