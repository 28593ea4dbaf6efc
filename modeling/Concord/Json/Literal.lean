import Concord.Json.ReadError

/-!
# JSON words and strings

`readWord` reads the rest of `null`, `true` or `false`. `readString` reads a string after its
opening quote: characters stand for themselves or are written as escapes, and a character beyond
the basic plane may be written as a pair of surrogate escapes.
-/

namespace Concord.Json

/-- Reads the characters of a word one by one. -/
def readWord : (word : List Char) → List Char → Except Stop (List Char)
  | [], cs => .ok cs
  | _ :: _, [] => .error (.before .endInValue [])
  | w :: word, c :: rest =>
    if c = w then readWord word rest else .error (.within .wrongWord (c :: rest))

/-- The value of a digit in base sixteen. -/
def hexValue? (c : Char) : Option Nat :=
  if '0' ≤ c ∧ c ≤ '9' then some (c.toNat - '0'.toNat)
  else if 'a' ≤ c ∧ c ≤ 'f' then some (c.toNat - 'a'.toNat + 10)
  else if 'A' ≤ c ∧ c ≤ 'F' then some (c.toNat - 'A'.toNat + 10)
  else none

/-- The value of four digits in base sixteen. -/
def hexUnit? (a b c d : Char) : Option Nat := do
  let a ← hexValue? a
  let b ← hexValue? b
  let c ← hexValue? c
  let d ← hexValue? d
  some (((a * 16 + b) * 16 + c) * 16 + d)

/-- Whether a 16-bit unit is the first half of a surrogate pair. -/
def isHighSurrogate (unit : Nat) : Bool := 0xD800 ≤ unit && unit ≤ 0xDBFF

/-- Whether a 16-bit unit is the second half of a surrogate pair. -/
def isLowSurrogate (unit : Nat) : Bool := 0xDC00 ≤ unit && unit ≤ 0xDFFF

/-- The code point that a surrogate pair stands for. -/
def pairCode (high low : Nat) : Nat := 0x10000 + (high - 0xD800) * 0x400 + (low - 0xDC00)

/-- The character that a one-letter escape stands for. -/
def escapedChar? (c : Char) : Option Char :=
  if c = '"' then some '"'
  else if c = '\\' then some '\\'
  else if c = '/' then some '/'
  else if c = 'b' then some '\x08'
  else if c = 'f' then some '\x0c'
  else if c = 'n' then some '\n'
  else if c = 'r' then some '\r'
  else if c = 't' then some '\t'
  else none

/-- Why the text after `\u` does not start with four digits. -/
def badUnit (rest : List Char) : Stop :=
  if Text.byteLength rest < 4 then .before .endInString []
  else ⟨.badEscape, Text.byteLength rest - 4⟩

/-- Why the text after the first half of a surrogate pair does not start with `\u`. -/
def missingHalf : List Char → Stop
  | [] => .before .endInString []
  | c :: rest =>
    if c = '\\' then
      match rest with
      | [] => .before .endInString []
      | _ :: _ => .within .halfPair rest
    else
      .within .halfPair (c :: rest)

/-- Puts a character in front of the characters read so far. -/
def Reading.consChar (c : Char) : Reading (List Char) → Reading (List Char)
  | .ok (cs, rest) => .ok (c :: cs, rest)
  | .error stop => .error stop

/-- Reads the characters of a string up to its closing quote. -/
def readChars : List Char → Reading (List Char)
  | [] => .error (.before .endInString [])
  | '"' :: rest => .ok ([], rest)
  | '\\' :: 'u' :: a :: b :: c :: d :: rest =>
    match hexUnit? a b c d with
    | none => .error (badUnit (a :: b :: c :: d :: rest))
    | some unit =>
      if isLowSurrogate unit then .error (.before .loneSurrogate rest)
      else if isHighSurrogate unit then
        match rest with
        | '\\' :: 'u' :: e :: f :: g :: h :: rest =>
          match hexUnit? e f g h with
          | none => .error (badUnit (e :: f :: g :: h :: rest))
          | some low =>
            if isLowSurrogate low then
              (readChars rest).consChar (Char.ofNat (pairCode unit low))
            else
              .error (.before .loneSurrogate rest)
        | '\\' :: 'u' :: rest => .error (badUnit rest)
        | rest => .error (missingHalf rest)
      else
        (readChars rest).consChar (Char.ofNat unit)
  | '\\' :: 'u' :: rest => .error (badUnit rest)
  | '\\' :: [] => .error (.before .endInString [])
  | '\\' :: c :: rest =>
    match escapedChar? c with
    | some char => (readChars rest).consChar char
    | none => .error (.within .badEscape (c :: rest))
  | c :: rest =>
    if c.toNat < 0x20 then .error (.before .controlInString rest)
    else (readChars rest).consChar c

/-- Reads a string after its opening quote. -/
def readString (cs : List Char) : Except Stop (String × List Char) := do
  let (chars, rest) ← readChars cs
  .ok (String.ofList chars, rest)

end Concord.Json
