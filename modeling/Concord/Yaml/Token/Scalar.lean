import Concord.Yaml.Cursor
import Concord.Yaml.Token

/-!
# Scalar tokens

Scalars are written plain, in quotes, or as an indented block. Line ends inside are folded: a
single one becomes a space, and of several the first is dropped. A literal block keeps them.
-/

namespace Concord.Yaml

/-- The blanks and line ends between two words of a scalar. -/
structure Gap where
  /-- The blanks, as long as no line end came. -/
  blanks : List Char
  /-- The first line end. -/
  firstBreak : List Char
  /-- The line ends after the first. -/
  moreBreaks : List Char
  /-- Whether a line end came. -/
  broken : Bool

namespace Gap

/-- Nothing between two words. -/
def empty : Gap := ⟨[], [], [], false⟩

/-- The gap after an escaped line end, which itself leaves nothing behind. -/
def escaped : Gap := ⟨[], [], [], true⟩

/-- What the gap stands for. -/
def fold (gap : Gap) : List Char :=
  if gap.broken then
    if gap.firstBreak.head? = some '\n' then
      if gap.moreBreaks.isEmpty then [' '] else gap.moreBreaks
    else gap.firstBreak ++ gap.moreBreaks
  else gap.blanks

end Gap

namespace Scan

/-- Extends a gap by the blanks and line ends that follow. A tab is refused where `isTabBad` says
so. -/
def extendGap (refuseTab : Scan Unit) (isTabBad : Mark → Bool) :
    (fuel : Nat) → Gap → Scan Gap
  | 0, gap => return gap
  | fuel + 1, gap => do
    match ← peek 0 with
    | none => return gap
    | some c =>
      if isBlank c then
        if gap.broken && c = '\t' && isTabBad (← mark) then refuseTab
        skip 1
        extendGap refuseTab isTabBad fuel
          (if gap.broken then gap else { gap with blanks := gap.blanks ++ [c] })
      else if isBreak c then
        let lineEnd ← takeBreak
        extendGap refuseTab isTabBad fuel
          (if gap.broken then { gap with moreBreaks := gap.moreBreaks ++ lineEnd }
          else { gap with blanks := [], firstBreak := lineEnd, broken := true })
      else
        return gap

/-- Whether the character ends a plain scalar inside brackets or braces. -/
def isFlowIndicator (c : Char) : Bool :=
  c = ',' || c = '[' || c = ']' || c = '\x7b' || c = '\x7d'

/-- A word of a plain scalar: characters up to a blank, a line end, or an indicator. -/
def plainWord (inFlow : Bool) (began : Mark) : (fuel : Nat) → List Char → Scan (List Char)
  | 0, word => return word
  | fuel + 1, word => do
    match ← peek 0 with
    | none => return word
    | some c =>
      let next ← peek 1
      if isBlank c || isBreak c then return word
      else if inFlow && c = ':' && next.any fun c => isFlowIndicator c || c = '?' then
        fault .plainScalar began .colonInFlow
      else if c = ':' && endsWord next then return word
      else if inFlow && isFlowIndicator c then return word
      else do
        skip 1
        plainWord inFlow began fuel (word ++ [c])

/-- A scalar that has been read: its text, where it ends, and whether a line end followed it. -/
structure PlainScalar where
  text : List Char
  stop : Mark
  broken : Bool

/-- The words of a plain scalar. -/
def plainWords (inFlow : Bool) (indent : Int) (began : Mark) :
    (fuel : Nat) → PlainScalar → Gap → Scan PlainScalar
  | 0, scalar, _ => return scalar
  | fuel + 1, scalar, gap => do
    if (← atDocumentIndicator) || (← peek 0) = some '#' then
      return { scalar with broken := gap.broken }
    let length := (← get).rest.length
    let word ← plainWord inFlow began length []
    let (scalar, gap) ←
      if word.isEmpty then pure (scalar, gap)
      else pure (⟨scalar.text ++ gap.fold ++ word, ← mark, false⟩, Gap.empty)
    if endsWord (← peek 0) && (← peek 0).isSome then
      let isTabBad (m : Mark) : Bool := (m.column : Int) < indent
      let refuseTab : Scan Unit := fault .plainScalar began .tabBreaksIndentation
      let gap ← extendGap refuseTab isTabBad length gap
      if !inFlow && ((← mark).column : Int) < indent then
        return { scalar with broken := gap.broken }
      plainWords inFlow indent began fuel scalar gap
    else
      return { scalar with broken := gap.broken }

/-- A plain scalar, and whether a line end followed it. -/
def plainScalar (inFlow : Bool) (indent : Int) : Scan (Token × Bool) := do
  let began ← mark
  let scalar ← plainWords inFlow (indent + 1) began ((← get).rest.length + 1)
    ⟨[], began, false⟩ Gap.empty
  return (⟨.scalar (String.ofList scalar.text) .plain, began, scalar.stop⟩, scalar.broken)

/-- What a one-letter escape stands for. -/
def escapedChar? (c : Char) : Option Char :=
  match c with
  | '0' => some '\x00'
  | 'a' => some '\x07'
  | 'b' => some '\x08'
  | 't' => some '\t'
  | '\t' => some '\t'
  | 'n' => some '\n'
  | 'v' => some '\x0b'
  | 'f' => some '\x0c'
  | 'r' => some '\r'
  | 'e' => some '\x1b'
  | ' ' => some ' '
  | '"' => some '"'
  | '/' => some '/'
  | '\\' => some '\\'
  | 'N' => some '\u0085'
  | '_' => some '\u00a0'
  | 'L' => some '\u2028'
  | 'P' => some '\u2029'
  | _ => none

/-- How many digits in base sixteen follow the letter of an escape by code point. -/
def escapeLength? (c : Char) : Option Nat :=
  match c with
  | 'x' => some 2
  | 'u' => some 4
  | 'U' => some 8
  | _ => none

/-- The character with a code point, if it is not a surrogate or too great. -/
def charOfCode? (code : Nat) : Option Char :=
  if h : code.isValidChar then some (Char.ofNatAux code h) else none

/-- An escape in a scalar in double quotes. -/
def escape (began : Mark) : Scan Char := do
  let letter := (← peek 1).getD '\x00'
  match escapedChar? letter, escapeLength? letter with
  | some c, _ =>
    skip 2
    return c
  | none, some length =>
    skip 2
    let digits := (← get).rest.take length
    match digits.mapM hexDigit? with
    | some values =>
      if values.length < length then fault .parsingQuoted began .missingHexDigit
      match charOfCode? (values.foldl (fun code digit => code * 16 + digit) 0) with
      | some c =>
        skip length
        return c
      | none => fault .parsingQuoted began .badCodePoint
    | none => fault .parsingQuoted began .missingHexDigit
  | none, none => fault .parsingQuoted began .unknownEscape

/-- A word of a quoted scalar: characters up to a blank, a line end or the closing quote, and
whether an escaped line end cut it off. -/
def quotedWord (quote : Char) (began : Mark) :
    (fuel : Nat) → List Char → Scan (List Char × Bool)
  | 0, word => return (word, false)
  | fuel + 1, word => do
    match ← peek 0 with
    | none => return (word, false)
    | some c =>
      let next ← peek 1
      if isBlank c || isBreak c then return (word, false)
      else if quote = '\'' && c = '\'' && next = some '\'' then
        skip 2
        quotedWord quote began fuel (word ++ ['\''])
      else if c = quote then return (word, false)
      else if quote = '"' && c = '\\' && next.any isBreak then
        skip 1
        let _ ← takeBreak
        return (word, true)
      else if quote = '"' && c = '\\' then
        let char ← escape began
        quotedWord quote began fuel (word ++ [char])
      else
        skip 1
        quotedWord quote began fuel (word ++ [c])

/-- The words of a quoted scalar after its opening quote. -/
def quotedWords (quote : Char) (began : Mark) : (fuel : Nat) → List Char → Scan (List Char)
  | 0, text => return text
  | fuel + 1, text => do
    if ← atDocumentIndicator then fault .scanningQuoted began .documentIndicatorInQuotes
    if (← peek 0).isNone then fault .scanningQuoted began .endInQuotes
    let length := (← get).rest.length
    let (word, escaped) ← quotedWord quote began length []
    let text := text ++ word
    if (← peek 0) = some quote then return text
    let gap ← extendGap (pure ()) (fun _ => false) length
      (if escaped then Gap.escaped else Gap.empty)
    quotedWords quote began fuel (text ++ gap.fold)

/-- A scalar in quotes. -/
def quotedScalar (quote : Char) : Scan Token := do
  let began ← mark
  skip 1
  let text ← quotedWords quote began ((← get).rest.length + 1) []
  skip 1
  let style : ScalarStyle := if quote = '"' then .doubleQuoted else .singleQuoted
  return ⟨.scalar (String.ofList text) style, began, ← mark⟩

/-- What is left of the line ends after a block scalar. -/
inductive Chomping where
  | strip
  | clip
  | keep
deriving DecidableEq, Repr

/-- The chomping indicator, if there is one. -/
def chomping? : Scan (Option Chomping) := do
  match ← peek 0 with
  | some '+' =>
    skip 1
    return some .keep
  | some '-' =>
    skip 1
    return some .strip
  | _ => return none

/-- The indentation indicator, if there is one. -/
def indentation? (began : Mark) : Scan (Option Nat) := do
  match ← peek 0 with
  | some c =>
    if c = '0' then fault .blockScalar began .zeroIndentation
    else if c.isDigit then
      skip 1
      return some (c.toNat - '0'.toNat)
    else
      return none
  | none => return none

/-- The indicators of a block scalar, in either order. -/
def blockIndicators (began : Mark) : Scan (Chomping × Option Nat) := do
  match ← chomping? with
  | some chomping => return (chomping, ← indentation? began)
  | none =>
    match ← indentation? began with
    | some increment => return ((← chomping?).getD .clip, some increment)
    | none => return (.clip, none)

/-- The empty lines in front of a line of a block scalar. -/
structure BlockBreaks where
  /-- The line ends. -/
  breaks : List Char
  /-- The greatest column reached. -/
  widest : Nat
  /-- Where the last line end stopped. -/
  stop : Mark

/-- Reads the empty lines in front of a line of a block scalar; without an indentation any number of
spaces is taken. -/
def blockBreaks (began : Mark) (indent : Option Nat) :
    (fuel : Nat) → BlockBreaks → Scan BlockBreaks
  | 0, found => return found
  | fuel + 1, found => do
    let column := (← mark).column
    let spaces := ((← get).rest.takeWhile fun c => c = ' ').length
    match indent with
    | none => skip spaces
    | some indent => skip (min spaces (indent - column))
    let column := (← mark).column
    let found := { found with widest := max found.widest column }
    let short := match indent with
      | none => true
      | some indent => decide (column < indent)
    if short && (← peek 0) = some '\t' then fault .blockScalar began .tabInIndentation
    if (← peek 0).any isBreak then
      let lineEnd ← takeBreak
      blockBreaks began indent fuel
        { found with breaks := found.breaks ++ lineEnd, stop := ← mark }
    else
      return found

/-- A block scalar whose lines so far have been read. -/
structure BlockText where
  /-- The text without the line ends after it. -/
  text : List Char
  /-- The line end after the last line. -/
  lineEnd : List Char
  /-- The line ends of the empty lines after it. -/
  breaks : List Char
  /-- Whether the last line begins with a blank. -/
  indented : Bool
  /-- Where the scalar ends. -/
  stop : Mark

/-- The lines of a block scalar with a known indentation. -/
def blockLines (literal : Bool) (began : Mark) (indent : Nat) :
    (fuel : Nat) → BlockText → Scan BlockText
  | 0, block => return block
  | fuel + 1, block => do
    if (← mark).column = indent && (← peek 0).isSome then
      let indented := (← peek 0).any isBlank
      let folded := !literal && block.lineEnd.head? = some '\n' && !block.indented && !indented
      let joint :=
        if folded then (if block.breaks.isEmpty then [' '] else []) else block.lineEnd
      let line ← takeWhile fun c => !isBreak c
      let lineEnd ← takeBreak
      let found ← blockBreaks began (some indent) ((← get).rest.length + 1) ⟨[], 0, ← mark⟩
      blockLines literal began indent fuel
        ⟨block.text ++ joint ++ block.breaks ++ line, lineEnd, found.breaks, indented, found.stop⟩
    else
      return block

/-- A block scalar; `outer` is the indentation of the block around it. -/
def blockScalar (literal : Bool) (outer : Int) : Scan Token := do
  let began ← mark
  skip 1
  let (chomping, increment) ← blockIndicators began
  skipWhile isBlank
  skipComment
  if !endsLine (← peek 0) then fault .blockScalar began .missingLineEnd
  let _ ← takeBreak
  let given := increment.map fun i => if 0 ≤ outer then outer.toNat + i else i
  let found ← blockBreaks began given ((← get).rest.length + 1) ⟨[], 0, ← mark⟩
  let indent := given.getD (max (max found.widest (outer + 1).toNat) 1)
  let block ← blockLines literal began indent ((← get).rest.length + 1)
    ⟨[], [], found.breaks, false, found.stop⟩
  let ending := match chomping with
    | .strip => []
    | .clip => block.lineEnd
    | .keep => block.lineEnd ++ block.breaks
  return ⟨.scalar (String.ofList (block.text ++ ending)) (if literal then .literal else .folded),
    began, block.stop⟩

end Scan

end Concord.Yaml
