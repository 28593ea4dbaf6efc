import Concord.Yaml.Fault

/-!
# Walking through a configuration text

A `Cursor` is a place in a text and the characters after it. A `Scan` moves a cursor forward or
fails. The classes of characters that the syntax distinguishes stand here too.
-/

namespace Concord.Yaml

/-- Whether the character ends a line. -/
def isBreak (c : Char) : Bool :=
  c = '\n' || c = '\r' || c = '\u0085' || c = '\u2028' || c = '\u2029'

/-- Whether the character is a space or a tab. -/
def isBlank (c : Char) : Bool := c = ' ' || c = '\t'

/-- Whether the character may stand in a name. -/
def isNameChar (c : Char) : Bool := c.isAlphanum || c = '_' || c = '-'

/-- Whether a place is the end of the text or of a line. -/
def endsLine (c : Option Char) : Bool := c.all isBreak

/-- Whether a place is the end of the text or of a line, or holds a blank. -/
def endsWord (c : Option Char) : Bool := c.all fun c => isBlank c || isBreak c

/-- The value of a digit in base sixteen. -/
def hexDigit? (c : Char) : Option Nat :=
  if c.isDigit then some (c.toNat - '0'.toNat)
  else if 'a' ≤ c ∧ c ≤ 'f' then some (c.toNat - 'a'.toNat + 10)
  else if 'A' ≤ c ∧ c ≤ 'F' then some (c.toNat - 'A'.toNat + 10)
  else none

/-- A place in a text. -/
structure Cursor where
  /-- The characters after the place. -/
  rest : List Char
  /-- Where the place lies. -/
  mark : Mark

/-- A walk that gives a result or stops at a fault. -/
abbrev Scan (α : Type) := StateT Cursor (Except Fault) α

namespace Scan

/-- The character at some distance; absent beyond the end. -/
def peek (ahead : Nat) : Scan (Option Char) := do return (← get).rest[ahead]?

/-- The current place. -/
def mark : Scan Mark := do return (← get).mark

/-- Whether the text at the place begins with these characters. -/
def startsWith (cs : List Char) : Scan Bool := do return cs.isPrefixOf (← get).rest

/-- Stops at the current place. -/
def fault {α : Type} (activity : Activity) (began : Mark) (problem : Problem) : Scan α := do
  throw ⟨problem, .mark (← mark), some (activity, began)⟩

/-- Steps over some characters, none of which ends a line. -/
def skip (count : Nat) : Scan Unit := modify fun c =>
  { rest := c.rest.drop count
    mark := { c.mark with index := c.mark.index + count, column := c.mark.column + count } }

/-- Takes the characters while they satisfy a condition, which no line end does. -/
def takeWhile (p : Char → Bool) : Scan (List Char) := do
  let taken := (← get).rest.takeWhile p
  skip taken.length
  return taken

/-- Steps over characters while they satisfy a condition, which no line end does. -/
def skipWhile (p : Char → Bool) : Scan Unit := do
  let _ ← takeWhile p

/-- Steps over a line end, if there is one, and gives it as text: the two separators stay what they
are, every other line end is a line feed. -/
def takeBreak : Scan (List Char) := do
  let cursor ← get
  let next (count : Nat) : Mark := ⟨cursor.mark.index + count, cursor.mark.line + 1, 0⟩
  match cursor.rest with
  | '\r' :: '\n' :: rest =>
    set (Cursor.mk rest (next 2))
    return ['\n']
  | c :: rest =>
    if isBreak c then
      set (Cursor.mk rest (next 1))
      return if c = '\u2028' || c = '\u2029' then [c] else ['\n']
    else
      return []
  | [] => return []

/-- Steps over a comment up to the end of its line, if there is one. -/
def skipComment : Scan Unit := do
  if (← peek 0) = some '#' then skipWhile fun c => !isBreak c

/-- Whether a line begins here with a document indicator. -/
def atDocumentIndicator : Scan Bool := do
  let indicated := (← startsWith ['-', '-', '-']) || (← startsWith ['.', '.', '.'])
  return (← mark).column == 0 && indicated && endsWord (← peek 3)

end Scan

end Concord.Yaml
