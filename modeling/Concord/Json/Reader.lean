import Concord.Json.Literal
import Concord.Json.Source

/-!
# Reading JSON

`Source.parse` reads a whole text as one tree, `Value.parse` as the value of that tree. Arrays and
objects nest at most `nestingLimit` deep.
-/

namespace Concord.Json

/-- How deeply arrays and objects may be nested. -/
def nestingLimit : Nat := 127

/-- Whether a character may stand between the parts of a value. -/
def isBlank (c : Char) : Bool := c = ' ' || c = '\n' || c = '\t' || c = '\r'

/-- The text after any leading blanks. -/
def skipBlanks (cs : List Char) : List Char := cs.dropWhile isBlank

/-- Reads the items of an array that follow an item, up to the closing bracket. `item` reads one
item, and the fuel bounds their number. -/
def readMoreItems (item : List Char → Reading Source) :
    (fuel : Nat) → List Char → Except Stop (List Source × List Char)
  | 0, cs => .error (.within .endInArray cs)
  | fuel + 1, cs =>
    match skipBlanks cs with
    | [] => .error (.within .endInArray [])
    | ']' :: rest => .ok ([], rest)
    | ',' :: rest =>
      match skipBlanks rest with
      | [] => .error (.within .endInValue [])
      | ']' :: rest => .error (.within .trailingComma (']' :: rest))
      | cs => do
        let (value, rest) ← item cs
        let (values, rest) ← readMoreItems item fuel rest
        .ok (value :: values, rest)
    | cs => .error (.within .missingArrayComma cs)

/-- Reads the items of an array after its opening bracket; `size` is the size of the whole text,
which bounds their number. -/
def readItems (size : Nat) (item : List Char → Reading Source) (cs : List Char) :
    Except Stop (List Source × List Char) :=
  match skipBlanks cs with
  | [] => .error (.within .endInArray [])
  | ']' :: rest => .ok ([], rest)
  | cs => do
    let (value, rest) ← item cs
    let (values, rest) ← readMoreItems item size rest
    .ok (value :: values, rest)

/-- Reads the value of a member: a colon and the value. -/
def readMemberValue (item : List Char → Reading Source) (cs : List Char) : Reading Source :=
  match skipBlanks cs with
  | [] => .error (.within .endInObject [])
  | ':' :: rest => item rest
  | cs => .error (.within .missingColon cs)

/-- Reads a member after the opening quote of its key. -/
def readMember (item : List Char → Reading Source) (cs : List Char) :
    Except Stop ((String × Source) × List Char) := do
  let (key, rest) ← readString cs
  let (value, rest) ← readMemberValue item rest
  .ok ((key, value), rest)

/-- Reads the members of an object that follow a member, up to the closing brace, in the order of
the text. -/
def readMoreMembers (item : List Char → Reading Source) :
    (fuel : Nat) → List Char → Except Stop (List (String × Source) × List Char)
  | 0, cs => .error (.within .endInObject cs)
  | fuel + 1, cs =>
    match skipBlanks cs with
    | [] => .error (.within .endInObject [])
    | '\x7d' :: rest => .ok ([], rest)
    | ',' :: rest =>
      match skipBlanks rest with
      | [] => .error (.within .endInValue [])
      | '"' :: rest => do
        let (member, rest) ← readMember item rest
        let (members, rest) ← readMoreMembers item fuel rest
        .ok (member :: members, rest)
      | '\x7d' :: rest => .error (.within .trailingComma ('\x7d' :: rest))
      | cs => .error (.within .keyNotString cs)
    | cs => .error (.within .missingObjectComma cs)

/-- Reads the members of an object after its opening brace, in the order of the text; `size` is the
size of the whole text, which bounds their number. -/
def readMembers (size : Nat) (item : List Char → Reading Source) (cs : List Char) :
    Except Stop (List (String × Source) × List Char) :=
  match skipBlanks cs with
  | [] => .error (.within .endInObject [])
  | '\x7d' :: rest => .ok ([], rest)
  | '"' :: rest => do
    let (member, rest) ← readMember item rest
    let (members, rest) ← readMoreMembers item size rest
    .ok (member :: members, rest)
  | cs => .error (.within .keyNotString cs)

/-- Reads one value after any blanks; `levels` is how deeply it may be nested, and `size` the size
of the whole text. -/
def readValue (size : Nat) : (levels : Nat) → List Char → Except Stop (Source × List Char)
  | levels, cs =>
    match skipBlanks cs with
    | [] => .error (.within .endInValue [])
    | 'n' :: rest => do
      let rest ← readWord ['u', 'l', 'l'] rest
      .ok (.null, rest)
    | 't' :: rest => do
      let rest ← readWord ['r', 'u', 'e'] rest
      .ok (.bool true, rest)
    | 'f' :: rest => do
      let rest ← readWord ['a', 'l', 's', 'e'] rest
      .ok (.bool false, rest)
    | '"' :: rest => do
      let (text, rest) ← readString rest
      .ok (.string text, rest)
    | '[' :: rest =>
      match levels with
      | 0 => .error (.within .tooDeep ('[' :: rest))
      | levels + 1 => do
        let (items, rest) ← readItems size (readValue size levels) rest
        .ok (.array items, rest)
    | '\x7b' :: rest =>
      match levels with
      | 0 => .error (.within .tooDeep ('\x7b' :: rest))
      | levels + 1 => do
        let (members, rest) ← readMembers size (readValue size levels) rest
        .ok (.object members, rest)
    | c :: rest =>
      if c = '-' || c.isDigit then do
        let (number, rest) ← readNumber (c :: rest)
        .ok (.number number, rest)
      else
        .error (.within .missingValue (c :: rest))

/-- Reads a whole text: one value between blanks. -/
def readText (text : List Char) : Except Stop Source := do
  let (value, rest) ← readValue text.length nestingLimit text
  match skipBlanks rest with
  | [] => .ok value
  | rest => .error (.within .trailingText rest)

/-- Reads a text as the tree of one JSON value. -/
def Source.parse (text : String) : Except ReadError Source :=
  let chars := text.toList
  (readText chars).mapError (·.locate chars)

/-- Reads a text as one JSON value. -/
def Value.parse (text : String) : Except ReadError Value := (Source.parse text).map Source.value

end Concord.Json
