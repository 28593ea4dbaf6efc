import Concord.Text.Bytes

/-!
# Failures of reading JSON

A `Flaw` says what is wrong with a text, a `ReadError` where. While a text is read its start is no
longer at hand, so the reader reports a `Stop`: the flaw and how many bytes lay beyond the place it
points to. `Stop.locate` turns that into a line and a column of the whole text.
-/

namespace Concord.Json

/-- What is wrong with a text that is not JSON. -/
inductive Flaw where
  /-- The text ends inside an array. -/
  | endInArray
  /-- The text ends inside an object. -/
  | endInObject
  /-- The text ends inside a string. -/
  | endInString
  /-- The text ends where a value is expected or inside a literal. -/
  | endInValue
  /-- A key is not followed by a colon. -/
  | missingColon
  /-- An array item is followed by neither a comma nor the closing bracket. -/
  | missingArrayComma
  /-- An object member is followed by neither a comma nor the closing brace. -/
  | missingObjectComma
  /-- A word that starts like a literal is not one. -/
  | wrongWord
  /-- No value starts with the character found. -/
  | missingValue
  /-- An escape in a string is not one of the known ones. -/
  | badEscape
  /-- A number breaks the grammar of numbers. -/
  | badNumber
  /-- A number is too great for a finite floating point number. -/
  | numberTooGreat
  /-- Half of a surrogate pair stands alone. -/
  | loneSurrogate
  /-- The first half of a surrogate pair is not followed by another escape. -/
  | halfPair
  /-- A control character stands unescaped in a string. -/
  | controlInString
  /-- An object member does not start with a string. -/
  | keyNotString
  /-- A comma is followed by a closing bracket or brace. -/
  | trailingComma
  /-- Something other than blanks follows the value. -/
  | trailingText
  /-- Arrays and objects are nested too deeply. -/
  | tooDeep
deriving DecidableEq, Repr

/-- The wording of a flaw. -/
def Flaw.message : Flaw → String
  | .endInArray => "EOF while parsing a list"
  | .endInObject => "EOF while parsing an object"
  | .endInString => "EOF while parsing a string"
  | .endInValue => "EOF while parsing a value"
  | .missingColon => "expected `:`"
  | .missingArrayComma => "expected `,` or `]`"
  | .missingObjectComma => "expected `,` or `\x7d`"
  | .wrongWord => "expected ident"
  | .missingValue => "expected value"
  | .badEscape => "invalid escape"
  | .badNumber => "invalid number"
  | .numberTooGreat => "number out of range"
  | .loneSurrogate => "lone leading surrogate in hex escape"
  | .halfPair => "unexpected end of hex escape"
  | .controlInString => "control character (\\u0000-\\u001F) found while parsing a string"
  | .keyNotString => "key must be a string"
  | .trailingComma => "trailing comma"
  | .trailingText => "trailing characters"
  | .tooDeep => "recursion limit exceeded"

/-- A flaw with its place in the text. -/
structure ReadError where
  /-- What is wrong. -/
  flaw : Flaw
  /-- The line, counted from one. -/
  line : Nat
  /-- The number of bytes of the line up to and including the place. -/
  column : Nat
deriving DecidableEq, Repr

/-- The wording of an error with its place. -/
def ReadError.message (e : ReadError) : String :=
  e.flaw.message ++ " at line " ++ toString e.line ++ " column " ++ toString e.column

/-- A flaw found while reading, placed by the number of bytes that lie beyond it. -/
structure Stop where
  /-- What is wrong. -/
  flaw : Flaw
  /-- The size of the text beyond the place. -/
  unread : Nat
deriving DecidableEq, Repr

namespace Stop

/-- The flaw lies right before the rest of the text. -/
def before (flaw : Flaw) (rest : List Char) : Stop := ⟨flaw, Text.byteLength rest⟩

/-- The flaw lies in the first byte of the rest of the text, or at the end if nothing is left. -/
def within (flaw : Flaw) (rest : List Char) : Stop := ⟨flaw, Text.byteLength rest - 1⟩

/-- The line and the column of the place that lies `bytes` into the text; `line` and `column` are
those of its start. -/
def place (line column : Nat) : (bytes : Nat) → List Char → Nat × Nat
  | _, [] => (line, column)
  | bytes, c :: rest =>
    if bytes = 0 then (line, column)
    else if c = '\n' then place (line + 1) 0 (bytes - 1) rest
    else if bytes ≤ c.utf8Size then (line, column + bytes)
    else place line (column + c.utf8Size) (bytes - c.utf8Size) rest

/-- The error with its line and column in the whole text. -/
def locate (stop : Stop) (text : List Char) : ReadError :=
  let place := place 1 0 (Text.byteLength text - stop.unread) text
  ⟨stop.flaw, place.1, place.2⟩

end Stop

/-- A reader of a prefix of a text: what was read and the text after it, or why it cannot be
read. -/
abbrev Reading (α : Type) := Except Stop (α × List Char)

end Concord.Json
