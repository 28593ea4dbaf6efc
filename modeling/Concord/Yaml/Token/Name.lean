import Concord.Yaml.Cursor
import Concord.Yaml.Token

/-!
# Name tokens

Anchors and aliases name nodes, tags name their types, and directives at the head of a document
set its version and abbreviations for tags.
-/

namespace Concord.Yaml.Scan

/-- Whether a place may follow the name of an anchor. -/
def endsAnchor (c : Option Char) : Bool :=
  endsWord c || c.any fun c => ['?', ':', ',', ']', '\x7d', '%', '@', '`'].contains c

/-- An anchor or an alias after its indicator. -/
def anchorOrAlias (isAlias : Bool) : Scan Token := do
  let began ← mark
  skip 1
  let name ← takeWhile isNameChar
  let stop ← mark
  if name.isEmpty || !endsAnchor (← peek 0) then
    fault (if isAlias then .alias else .anchor) began .missingAnchorName
  let name := String.ofList name
  return ⟨if isAlias then .alias name else .anchor name, began, stop⟩

/-- Whether the character may stand in a tag. A tag in angle brackets and the text that an
abbreviation stands for may also hold commas and brackets. -/
def isTagChar (bracketed : Bool) (c : Char) : Bool :=
  isNameChar c ||
    [';', '/', '?', ':', '@', '&', '=', '+', '$', '.', '%', '!', '~', '*', '\'', '(', ')'].contains
      c ||
    (bracketed && [',', '[', ']'].contains c)

/-- How many bytes a character takes whose first byte is given; absent if none starts so. -/
def octetCount? (octet : Nat) : Option Nat :=
  if octet < 0x80 then some 1
  else if octet / 0x20 = 0x6 then some 2
  else if octet / 0x10 = 0xe then some 3
  else if octet / 0x8 = 0x1e then some 4
  else none

/-- A byte written as a percent sign and two digits. -/
def octet (activity : Activity) (began : Mark) : Scan Nat := do
  match (← peek 0), (← peek 1).bind hexDigit?, (← peek 2).bind hexDigit? with
  | some '%', some high, some low => return high * 16 + low
  | _, _, _ => fault activity began .missingOctet

/-- The bytes of a character after the first, appended to the code that the first one starts. -/
def moreOctets (activity : Activity) (began : Mark) : (count : Nat) → Nat → Scan Nat
  | 0, code => return code
  | count + 1, code => do
    let next ← octet activity began
    if next / 0x40 ≠ 2 then fault activity began .badTrailingOctet
    skip 3
    moreOctets activity began count (code * 0x40 + next % 0x40)

/-- A character written as its bytes. -/
def escapedTagChar (activity : Activity) (began : Mark) : Scan Char := do
  let first ← octet activity began
  match octetCount? first with
  | none => fault activity began .badLeadingOctet
  | some count =>
    skip 3
    let lead := if count = 1 then first else first % Nat.pow 2 (7 - count)
    let code ← moreOctets activity began (count - 1) lead
    return Char.ofNat code

/-- The characters of a tag. -/
def tagChars (activity : Activity) (bracketed : Bool) (began : Mark) :
    (fuel : Nat) → List Char → Scan (List Char)
  | 0, text => return text
  | fuel + 1, text => do
    match ← peek 0 with
    | none => return text
    | some c =>
      if c = '%' then
        let char ← escapedTagChar activity began
        tagChars activity bracketed began fuel (text ++ [char])
      else if isTagChar bracketed c then
        skip 1
        tagChars activity bracketed began fuel (text ++ [c])
      else
        return text

/-- The text of a tag, after a beginning that has been read already. -/
def tagText (activity : Activity) (bracketed : Bool) (began : Mark) (head : List Char) :
    Scan (List Char) := do
  let text ← tagChars activity bracketed began ((← get).rest.length + 1) []
  if head.isEmpty && text.isEmpty then fault activity began .missingTagText
  return head.drop 1 ++ text

/-- The handle of a tag: names between exclamation marks; in a tag the second may be absent. -/
def tagHandle (inDirective : Bool) (began : Mark) : Scan (List Char) := do
  if (← peek 0) ≠ some '!' then
    fault (if inDirective then .scanningTagDirective else .scanningTag) began .missingTagMark
  skip 1
  let name ← takeWhile isNameChar
  if (← peek 0) = some '!' then
    skip 1
    return '!' :: name ++ ['!']
  else if inDirective && !name.isEmpty then
    fault .tagDirectiveHandle began .missingTagMark
  else
    return '!' :: name

/-- A tag: a text in angle brackets, or a handle with a text. -/
def tag (inFlow : Bool) : Scan Token := do
  let began ← mark
  let (handle, rest) ←
    if (← peek 1) = some '<' then do
      skip 2
      let text ← tagText .parsingTag true began []
      if (← peek 0) ≠ some '>' then fault .scanningTag began .missingTagEnd
      skip 1
      pure ([], text)
    else do
      let handle ← tagHandle false began
      if 2 ≤ handle.length && handle.getLast? = some '!' then do
        let text ← tagText .parsingTag false began []
        pure (handle, text)
      else do
        let text ← tagText .parsingTag false began handle
        pure (if text.isEmpty then ([], ['!']) else (['!'], text))
  if !(inFlow && (← peek 0) = some ',') && !endsWord (← peek 0) then
    fault .scanningTag began .missingBlankOrLineEnd
  return ⟨.tag (String.ofList handle) (String.ofList rest), began, ← mark⟩

/-- One of the two numbers of a version. -/
def versionNumber (began : Mark) : Scan Nat := do
  let digits := (← get).rest.takeWhile Char.isDigit
  if 9 < digits.length then
    skip 9
    fault .versionDirective began .longVersionNumber
  skip digits.length
  if digits.isEmpty then fault .versionDirective began .missingVersionNumber
  return digits.foldl (fun n c => 10 * n + (c.toNat - '0'.toNat)) 0

/-- The value of a version directive. -/
def versionValue (began : Mark) : Scan TokenKind := do
  skipWhile isBlank
  let major ← versionNumber began
  if (← peek 0) ≠ some '.' then fault .versionDirective began .missingVersionPoint
  skip 1
  let minor ← versionNumber began
  return .versionDirective major minor

/-- The value of a directive that abbreviates tags. -/
def tagDirectiveValue (began : Mark) : Scan TokenKind := do
  skipWhile isBlank
  let handle ← tagHandle true began
  if !(← peek 0).any isBlank then fault .tagDirective began .missingBlank
  skipWhile isBlank
  let text ← tagText .parsingTagDirective true began []
  if !endsWord (← peek 0) then fault .tagDirective began .missingBlankOrLineEnd
  return .tagDirective (String.ofList handle) (String.ofList text)

/-- A directive with the rest of its line. -/
def directive : Scan Token := do
  let began ← mark
  skip 1
  let name ← takeWhile isNameChar
  if name.isEmpty then fault .directive began .missingDirectiveName
  if !endsWord (← peek 0) then fault .directive began .oddDirectiveCharacter
  let kind ←
    if name = ['Y', 'A', 'M', 'L'] then versionValue began
    else if name = ['T', 'A', 'G'] then tagDirectiveValue began
    else fault .directive began .unknownDirective
  let stop ← mark
  skipWhile isBlank
  skipComment
  if !endsLine (← peek 0) then fault .directive began .missingLineEnd
  let _ ← takeBreak
  return ⟨kind, began, stop⟩

end Concord.Yaml.Scan
