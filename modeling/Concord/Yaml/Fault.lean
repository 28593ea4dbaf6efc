/-!
# Places and faults in a configuration text

A `Mark` is a place in a text. A `Fault` says what breaks the syntax there and, for most faults,
what was being read and where that began.
-/

namespace Concord.Yaml

/-- A place in a text, counted in characters from zero. -/
structure Mark where
  /-- The characters in front. -/
  index : Nat
  /-- The line breaks in front. -/
  line : Nat
  /-- The characters in front on the same line. -/
  column : Nat
deriving DecidableEq, Repr

namespace Mark

/-- The start of the text. -/
def start : Mark := ⟨0, 0, 0⟩

/-- Whether the place is the start of the first line, which messages leave out. -/
def isOrigin (m : Mark) : Bool := m.line == 0 && m.column == 0

/-- The place as it is named in messages, counted from one. -/
def text (m : Mark) : String :=
  "line " ++ toString (m.line + 1) ++ " column " ++ toString (m.column + 1)

/-- The place as the end of a message, left out at the origin. -/
def suffix (m : Mark) : String := if m.isOrigin then "" else " at " ++ m.text

end Mark

/-- What breaks the syntax. -/
inductive Problem where
  | controlCharacter
  | missingColon
  | entryNotAllowed
  | keyNotAllowed
  | valueNotAllowed
  | cannotStartToken
  | unknownDirective
  | missingLineEnd
  | missingDirectiveName
  | oddDirectiveCharacter
  | missingVersionPoint
  | missingVersionNumber
  | longVersionNumber
  | missingBlank
  | missingBlankOrLineEnd
  | missingAnchorName
  | missingTagEnd
  | missingTagMark
  | missingTagText
  | missingOctet
  | badLeadingOctet
  | badTrailingOctet
  | zeroIndentation
  | tabInIndentation
  | tabBreaksIndentation
  | documentIndicatorInQuotes
  | endInQuotes
  | unknownEscape
  | missingHexDigit
  | badCodePoint
  | colonInFlow
  | missingDocumentStart
  | duplicateVersion
  | wrongVersion
  | duplicateTagDirective
  | undefinedTagHandle
  | missingContent
  | missingDash
  | missingKey
  | missingSequenceComma
  | missingMappingComma
deriving DecidableEq, Repr

/-- The wording of a problem. -/
def Problem.message : Problem → String
  | .controlCharacter => "control characters are not allowed"
  | .missingColon => "could not find expected ':'"
  | .entryNotAllowed => "block sequence entries are not allowed in this context"
  | .keyNotAllowed => "mapping keys are not allowed in this context"
  | .valueNotAllowed => "mapping values are not allowed in this context"
  | .cannotStartToken => "found character that cannot start any token"
  | .unknownDirective => "found unknown directive name"
  | .missingLineEnd => "did not find expected comment or line break"
  | .missingDirectiveName => "could not find expected directive name"
  | .oddDirectiveCharacter => "found unexpected non-alphabetical character"
  | .missingVersionPoint => "did not find expected digit or '.' character"
  | .missingVersionNumber => "did not find expected version number"
  | .longVersionNumber => "found extremely long version number"
  | .missingBlank => "did not find expected whitespace"
  | .missingBlankOrLineEnd => "did not find expected whitespace or line break"
  | .missingAnchorName => "did not find expected alphabetic or numeric character"
  | .missingTagEnd => "did not find the expected '>'"
  | .missingTagMark => "did not find expected '!'"
  | .missingTagText => "did not find expected tag URI"
  | .missingOctet => "did not find URI escaped octet"
  | .badLeadingOctet => "found an incorrect leading UTF-8 octet"
  | .badTrailingOctet => "found an incorrect trailing UTF-8 octet"
  | .zeroIndentation => "found an indentation indicator equal to 0"
  | .tabInIndentation => "found a tab character where an indentation space is expected"
  | .tabBreaksIndentation => "found a tab character that violates indentation"
  | .documentIndicatorInQuotes => "found unexpected document indicator"
  | .endInQuotes => "found unexpected end of stream"
  | .unknownEscape => "found unknown escape character"
  | .missingHexDigit => "did not find expected hexdecimal number"
  | .badCodePoint => "found invalid Unicode character escape code"
  | .colonInFlow => "found unexpected ':'"
  | .missingDocumentStart => "did not find expected <document start>"
  | .duplicateVersion => "found duplicate %YAML directive"
  | .wrongVersion => "found incompatible YAML document"
  | .duplicateTagDirective => "found duplicate %TAG directive"
  | .undefinedTagHandle => "found undefined tag handle"
  | .missingContent => "did not find expected node content"
  | .missingDash => "did not find expected '-' indicator"
  | .missingKey => "did not find expected key"
  | .missingSequenceComma => "did not find expected ',' or ']'"
  | .missingMappingComma => "did not find expected ',' or '\x7d'"

/-- What was being read. -/
inductive Activity where
  | simpleKey
  | nextToken
  | directive
  | versionDirective
  | scanningTagDirective
  | tagDirectiveHandle
  | parsingTagDirective
  | tagDirective
  | anchor
  | alias
  | scanningTag
  | parsingTag
  | blockScalar
  | scanningQuoted
  | parsingQuoted
  | plainScalar
  | node
  | blockNode
  | flowNode
  | blockCollection
  | blockMapping
  | flowSequence
  | flowMapping
deriving DecidableEq, Repr

/-- The wording of what was being read. -/
def Activity.message : Activity → String
  | .simpleKey => "while scanning a simple key"
  | .nextToken => "while scanning for the next token"
  | .directive => "while scanning a directive"
  | .versionDirective => "while scanning a %YAML directive"
  | .scanningTagDirective => "while scanning a tag directive"
  | .tagDirectiveHandle => "while parsing a tag directive"
  | .parsingTagDirective => "while parsing a %TAG directive"
  | .tagDirective => "while scanning a %TAG directive"
  | .anchor => "while scanning an anchor"
  | .alias => "while scanning an alias"
  | .scanningTag => "while scanning a tag"
  | .parsingTag => "while parsing a tag"
  | .blockScalar => "while scanning a block scalar"
  | .scanningQuoted => "while scanning a quoted scalar"
  | .parsingQuoted => "while parsing a quoted scalar"
  | .plainScalar => "while scanning a plain scalar"
  | .node => "while parsing a node"
  | .blockNode => "while parsing a block node"
  | .flowNode => "while parsing a flow node"
  | .blockCollection => "while parsing a block collection"
  | .blockMapping => "while parsing a block mapping"
  | .flowSequence => "while parsing a flow sequence"
  | .flowMapping => "while parsing a flow mapping"

/-- Where a problem lies. -/
inductive Place where
  /-- At a mark. -/
  | mark (m : Mark)
  /-- At a number of bytes from the start of the text. -/
  | offset (bytes : Nat)
deriving DecidableEq, Repr

/-- A problem with its place and, if known, what was being read and where that began. -/
structure Fault where
  /-- What breaks the syntax. -/
  problem : Problem
  /-- Where it lies. -/
  place : Place
  /-- What was being read, and the place where it began. -/
  context : Option (Activity × Mark)
deriving DecidableEq, Repr

namespace Fault

/-- The end of the message that says where the problem lies. -/
def placeSuffix : Place → String
  | .mark m => m.suffix
  | .offset 0 => ""
  | .offset bytes => " at position " ++ toString bytes

/-- The end of the message that says where the reading began, unless it began at the problem. -/
def contextSuffix (place : Place) (began : Mark) : String :=
  match place with
  | .mark m =>
    if began.line = m.line ∧ began.column = m.column then "" else began.suffix
  | .offset _ => began.suffix

/-- The wording of a fault. -/
def message (fault : Fault) : String :=
  fault.problem.message ++ placeSuffix fault.place ++
    match fault.context with
    | none => ""
    | some (activity, began) =>
      ", " ++ activity.message ++ contextSuffix fault.place began

end Fault

end Concord.Yaml
