import Concord.Yaml.Token.Name
import Concord.Yaml.Token.Scalar

/-!
# Cutting a configuration text into tokens

A colon may turn what stands in front of it on the line into a key, so a token that may still become
a key is *pending*: it and the tokens after it are held back until that is settled. `tokens` cuts a
text into the tokens that are settled before the first fault.
-/

namespace Concord.Yaml

/-- What may still turn out to be a key. -/
structure PossibleKey where
  /-- Whether it must turn out to be one. -/
  required : Bool
  /-- The number of its first token. -/
  number : Nat
  /-- Where it begins. -/
  mark : Mark
deriving Repr

/-- A text that has been cut into tokens up to a place. -/
structure Lexer where
  /-- The place. -/
  cursor : Cursor
  /-- The settled tokens, the latest first. -/
  settled : List Token
  /-- How many tokens are settled. -/
  count : Nat
  /-- The tokens held back, in order. -/
  held : List Token
  /-- The column of the innermost block; no block is less than zero. -/
  indent : Int
  /-- The columns of the blocks around it. -/
  indents : List Int
  /-- Whether a key may begin here. -/
  keyAllowed : Bool
  /-- The possible keys, one place for each open bracket or brace and one for the text itself. -/
  keys : List (Option PossibleKey)
  /-- Whether the end of the text has been reached. -/
  ended : Bool

/-- A step of cutting a text into tokens. -/
abbrev Lex (α : Type) := StateT Lexer (Except Fault) α

namespace Lex

/-- Walks through the text. -/
def walk {α : Type} (scan : Scan α) : Lex α := do
  let lexer ← get
  let (a, cursor) ← scan.run lexer.cursor
  set { lexer with cursor := cursor }
  return a

/-- The current place. -/
def mark : Lex Mark := do return (← get).cursor.mark

/-- The character at some distance. -/
def peek (ahead : Nat) : Lex (Option Char) := walk (Scan.peek ahead)

/-- Whether the place is inside brackets or braces. -/
def inFlow : Lex Bool := do return 1 < (← get).keys.length

/-- Stops at the current place. -/
def fault {α : Type} (problem : Problem) : Lex α := do
  throw ⟨problem, .mark (← mark), none⟩

/-- Stops because a required key turned out to be none. -/
def missingColon {α : Type} (key : PossibleKey) : Lex α := do
  throw ⟨.missingColon, .mark (← mark), some (.simpleKey, key.mark)⟩

/-- Appends a token. -/
def push (token : Token) : Lex Unit := modify fun l => { l with held := l.held ++ [token] }

/-- Inserts a token in front of the token with a number. -/
def insertAt (number : Nat) (token : Token) : Lex Unit := modify fun l =>
  { l with held := l.held.insertIdx (number - l.count) token }

/-- Allows or forbids a key to begin here. -/
def allowKey (allowed : Bool) : Lex Unit := modify fun l => { l with keyAllowed := allowed }

/-- Puts a possible key in the innermost place. -/
def setKey (key : Option PossibleKey) : Lex Unit := modify fun l =>
  { l with keys := key :: l.keys.drop 1 }

/-- Gives up the innermost possible key. -/
def dropKey : Lex Unit := do
  match (← get).keys with
  | some key :: _ =>
    if key.required then missingColon key
    setKey none
  | _ => setKey none

/-- Notes that a key may begin here. It must be one where a key of the innermost block stands. -/
def saveKey : Lex Unit := do
  let lexer ← get
  if lexer.keyAllowed then
    let required := !(← inFlow) && lexer.indent == lexer.cursor.mark.column
    dropKey
    setKey (some ⟨required, lexer.count + lexer.held.length, lexer.cursor.mark⟩)

/-- The possible keys that still are possible at a place: a key stays on its line and is at most
1024 characters long. -/
def dropStaleKeys (now : Mark) : List (Option PossibleKey) → Lex (List (Option PossibleKey))
  | [] => return []
  | none :: rest => return none :: (← dropStaleKeys now rest)
  | some key :: rest => do
    -- The outermost place counts first.
    let rest ← dropStaleKeys now rest
    if key.mark.line < now.line || key.mark.index + 1024 < now.index then
      if key.required then missingColon key
      return none :: rest
    else
      return some key :: rest

/-- Gives up the possible keys that are possible no longer. -/
def staleKeys : Lex Unit := do
  let keys ← dropStaleKeys (← mark) (← get).keys
  modify fun l => { l with keys := keys }

/-- Opens a block if the column lies deeper than the innermost one. Its token goes in front of the
token with a number, or at the end. -/
def openBlock (column : Nat) (number : Option Nat) (kind : TokenKind) (m : Mark) : Lex Unit := do
  let lexer ← get
  if !(← inFlow) && lexer.indent < column then
    set { lexer with indent := (column : Int), indents := lexer.indent :: lexer.indents }
    match number with
    | some number => insertAt number ⟨kind, m, m⟩
    | none => push ⟨kind, m, m⟩

/-- Closes the blocks deeper than a column, of at most so many. -/
def closeBlocksFrom (column : Int) (m : Mark) : List Int → Lex Unit
  | [] => return
  | outer :: rest => do
    if column < (← get).indent then
      push ⟨.blockEnd, m, m⟩
      modify fun l => { l with indent := outer, indents := rest }
      closeBlocksFrom column m rest

/-- Closes the blocks deeper than a column; inside brackets and braces there are none. -/
def closeBlocks (column : Int) : Lex Unit := do
  if !(← inFlow) then closeBlocksFrom column (← mark) (← get).indents

/-- Steps over blanks, comments and line ends. -/
def toNextToken : (fuel : Nat) → Lex Unit
  | 0 => return
  | fuel + 1 => do
    if (← mark).column = 0 && (← peek 0) = some '\ufeff' then walk (Scan.skip 1)
    let tabs := (← inFlow) || !(← get).keyAllowed
    walk (Scan.skipWhile fun c => c = ' ' || (tabs && c = '\t'))
    walk Scan.skipComment
    if (← peek 0).any isBreak then
      let _ ← walk Scan.takeBreak
      if !(← inFlow) then allowKey true
      toNextToken fuel

/-- A token made of the next characters. -/
def pushIndicator (length : Nat) (kind : TokenKind) : Lex Unit := do
  let start ← mark
  walk (Scan.skip length)
  push ⟨kind, start, ← mark⟩

/-- The end of the text, on a line of its own. -/
def pushStreamEnd : Lex Unit := do
  modify fun l =>
    let m := l.cursor.mark
    if m.column = 0 then l
    else { l with cursor := { l.cursor with mark := { m with line := m.line + 1, column := 0 } } }
  closeBlocks (-1)
  dropKey
  allowKey false
  let m ← mark
  push ⟨.streamEnd, m, m⟩
  modify fun l => { l with ended := true }

/-- A directive. -/
def pushDirective : Lex Unit := do
  closeBlocks (-1)
  dropKey
  allowKey false
  push (← walk Scan.directive)

/-- The start or the end of a document. -/
def pushDocumentIndicator (kind : TokenKind) : Lex Unit := do
  closeBlocks (-1)
  dropKey
  allowKey false
  pushIndicator 3 kind

/-- An opening bracket or brace. -/
def pushFlowStart (kind : TokenKind) : Lex Unit := do
  saveKey
  modify fun l => { l with keys := none :: l.keys }
  allowKey true
  pushIndicator 1 kind

/-- A closing bracket or brace. -/
def pushFlowEnd (kind : TokenKind) : Lex Unit := do
  dropKey
  if ← inFlow then modify fun l => { l with keys := l.keys.drop 1 }
  allowKey false
  pushIndicator 1 kind

/-- A comma inside brackets or braces. -/
def pushFlowEntry : Lex Unit := do
  dropKey
  allowKey true
  pushIndicator 1 .flowEntry

/-- The dash of an entry. -/
def pushBlockEntry : Lex Unit := do
  if !(← inFlow) then
    if !(← get).keyAllowed then fault .entryNotAllowed
    let m ← mark
    openBlock m.column none .blockSequenceStart m
  dropKey
  allowKey true
  pushIndicator 1 .blockEntry

/-- The question mark of a key. -/
def pushKey : Lex Unit := do
  if !(← inFlow) then
    if !(← get).keyAllowed then fault .keyNotAllowed
    let m ← mark
    openBlock m.column none .blockMappingStart m
  dropKey
  allowKey (!(← inFlow))
  pushIndicator 1 .key

/-- The colon of a value. What stood in front of it becomes a key if it still may. -/
def pushValue : Lex Unit := do
  match (← get).keys with
  | some key :: _ =>
    insertAt key.number ⟨.key, key.mark, key.mark⟩
    openBlock key.mark.column (some key.number) .blockMappingStart key.mark
    setKey none
    allowKey false
  | _ =>
    if !(← inFlow) then
      if !(← get).keyAllowed then fault .valueNotAllowed
      let m ← mark
      openBlock m.column none .blockMappingStart m
    allowKey (!(← inFlow))
  pushIndicator 1 .value

/-- A token that may begin a key. -/
def pushKeyStart (scan : Scan Token) : Lex Unit := do
  saveKey
  allowKey false
  push (← walk scan)

/-- A plain scalar. A line end after it allows a key. -/
def pushPlain : Lex Unit := do
  saveKey
  allowKey false
  let (token, broken) ← walk (Scan.plainScalar (← inFlow) (← get).indent)
  push token
  if broken then allowKey true

/-- A block scalar. -/
def pushBlockScalar (literal : Bool) : Lex Unit := do
  dropKey
  allowKey true
  push (← walk (Scan.blockScalar literal (← get).indent))

/-- Whether the character is an indicator, with which no plain scalar begins. -/
def isIndicator (c : Char) : Bool :=
  ['-', '?', ':', ',', '[', ']', '\x7b', '\x7d', '#', '&', '*', '!', '|', '>', '\'', '"', '%', '@',
    '`'].contains c

/-- Whether a plain scalar begins with a character. A dash, a question mark or a colon may begin one
too, if no blank follows. -/
def startsPlain (inFlow : Bool) (c : Char) (next : Option Char) : Bool :=
  !(isBlank c || isBreak c || isIndicator c) ||
    (c = '-' && !next.any isBlank) ||
    (!inFlow && (c = '?' || c = ':') && !endsWord next)

/-- The token that begins with a character. -/
def pushFrom (c : Char) : Lex Unit := do
  let flow ← inFlow
  let next ← peek 1
  let column := (← mark).column
  let indicated := column == 0 && endsWord (← peek 3)
  if column = 0 && c = '%' then pushDirective
  else if indicated && (← walk (Scan.startsWith ['-', '-', '-'])) then
    pushDocumentIndicator .documentStart
  else if indicated && (← walk (Scan.startsWith ['.', '.', '.'])) then
    pushDocumentIndicator .documentEnd
  else if c = '[' then pushFlowStart .flowSequenceStart
  else if c = '\x7b' then pushFlowStart .flowMappingStart
  else if c = ']' then pushFlowEnd .flowSequenceEnd
  else if c = '\x7d' then pushFlowEnd .flowMappingEnd
  else if c = ',' then pushFlowEntry
  else if c = '-' && endsWord next then pushBlockEntry
  else if c = '?' && (flow || endsWord next) then pushKey
  else if c = ':' && (flow || endsWord next) then pushValue
  else if c = '*' then pushKeyStart (Scan.anchorOrAlias true)
  else if c = '&' then pushKeyStart (Scan.anchorOrAlias false)
  else if c = '!' then pushKeyStart (Scan.tag flow)
  else if c = '|' && !flow then pushBlockScalar true
  else if c = '>' && !flow then pushBlockScalar false
  else if c = '\'' then pushKeyStart (Scan.quotedScalar '\'')
  else if c = '"' then pushKeyStart (Scan.quotedScalar '"')
  else if startsPlain flow c next then pushPlain
  else walk (do Scan.fault .nextToken (← Scan.mark) .cannotStartToken)

/-- The next token. -/
def next : Lex Unit := do
  toNextToken ((← get).cursor.rest.length + 1)
  staleKeys
  closeBlocks (← mark).column
  match ← peek 0 with
  | none => pushStreamEnd
  | some c => pushFrom c

/-- Settles the tokens in front of the first possible key. -/
def settle : Lex Unit := do
  staleKeys
  modify fun l =>
    let pending := l.keys.filterMap fun key => key.map PossibleKey.number
    let free := pending.foldl (fun free number => min free (number - l.count)) l.held.length
    { l with
      settled := (l.held.take free).reverse ++ l.settled
      count := l.count + free
      held := l.held.drop free }

end Lex

namespace Lexer

/-- The whole text, with the token that starts it. -/
def start (text : List Char) : Lexer where
  cursor := ⟨text, .start⟩
  settled := [⟨.streamStart, .start, .start⟩]
  count := 1
  held := []
  indent := -1
  indents := []
  keyAllowed := true
  keys := [none]
  ended := false

/-- Cuts the text into tokens up to its end or the first fault. -/
def run : (fuel : Nat) → Lexer → Sequenced Token
  | 0, lexer => ⟨lexer.settled.reverse, none⟩
  | fuel + 1, lexer =>
    if lexer.ended then ⟨lexer.settled.reverse, none⟩
    else
      match (Lex.next *> Lex.settle).run lexer with
      | .ok (_, lexer) => run fuel lexer
      | .error fault => ⟨lexer.settled.reverse, some fault⟩

end Lexer

/-- Whether a configuration text may hold the character. -/
def isAllowed (c : Char) : Bool :=
  let code := c.toNat
  code = 0x9 || code = 0xa || code = 0xd || (0x20 ≤ code && code ≤ 0x7e) || code = 0x85 ||
    (0xa0 ≤ code && code ≤ 0xd7ff) || (0xe000 ≤ code && code ≤ 0xfffd) || 0x10000 ≤ code

/-- The number of bytes in front of the first character that a text may not hold. -/
def forbiddenOffset? (offset : Nat) : List Char → Option Nat
  | [] => none
  | c :: rest => if isAllowed c then forbiddenOffset? (offset + c.utf8Size) rest else some offset

/-- The tokens of a text. -/
def tokens (text : List Char) : Sequenced Token :=
  match forbiddenOffset? 0 text with
  | some offset => ⟨[], some ⟨.controlCharacter, .offset offset, none⟩⟩
  | none => Lexer.run (text.length + 2) (.start text)

end Concord.Yaml
