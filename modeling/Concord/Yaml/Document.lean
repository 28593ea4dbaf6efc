import Concord.Yaml.Event.Grammar

/-!
# Documents of a configuration text

A `Document` is what a reader of the configuration walks over: the events of the first document of a
text with every alias traced to the node it refers to. A document that a fault cut short is read as
far as it reaches.
-/

namespace Concord.Yaml

/-- Why a document cannot be read to its end. -/
inductive Interruption where
  /-- The text breaks the syntax. -/
  | syntaxFault (fault : Fault)
  /-- An alias refers to no node. -/
  | unknownAnchor (m : Mark)
  /-- The text ends early. -/
  | endOfText
deriving DecidableEq, Repr

/-- The wording of an interruption. -/
def Interruption.message : Interruption → String
  | .syntaxFault fault => fault.message
  | .unknownAnchor m => "unknown anchor" ++ m.suffix
  | .endOfText => "EOF while parsing a value"

/-- A part of a document as a reader meets it. -/
inductive Part where
  /-- The node of an anchor once more. -/
  | alias (number : Nat)
  /-- A scalar. -/
  | scalar (tag : Option String) (text : String) (style : ScalarStyle)
  /-- The start of a sequence. -/
  | sequenceStart (tag : Option String)
  /-- The end of a sequence. -/
  | sequenceEnd
  /-- The start of a mapping. -/
  | mappingStart (tag : Option String)
  /-- The end of a mapping. -/
  | mappingEnd
  /-- The content of a text without documents. -/
  | nothing
deriving DecidableEq, Repr

/-- The first document of a text. -/
structure Document where
  /-- The parts in order, each with the place where it begins. -/
  parts : List (Part × Mark)
  /-- The position of the node of each anchor number, the latest first. -/
  targets : List (Nat × Nat)
  /-- Why the document ends early, if it does. -/
  interruption : Option Interruption
  /-- Whether anything but the end of the text follows the document. -/
  more : Bool

/-- The anchors met so far while events become parts. -/
structure Anchors where
  /-- The number of each name, the latest first; a name met again gets a new one. -/
  numbers : List (String × Nat)
  /-- The position of the node of each number, the latest first. -/
  targets : List (Nat × Nat)

namespace Anchors

/-- Notes the node at a position under its anchor. An anchor is numbered by the distinct names met
before it, so a name used twice shares its number with the next new name. -/
def note (anchors : Anchors) (position : Nat) : Option String → Anchors
  | none => anchors
  | some name =>
    let number := (anchors.numbers.map Prod.fst).eraseDups.length
    ⟨(name, number) :: anchors.numbers, (number, position) :: anchors.targets⟩

end Anchors

namespace Document

/-- The parts of events up to an alias that refers to nothing. -/
def partsOf (position : Nat) (anchors : Anchors) :
    List (Event × Mark) → List (Part × Mark) × Anchors × Option Mark
  | [] => ([], anchors, none)
  | (event, m) :: rest =>
    let reach (part : Part) (anchor : Option String) :=
      let (parts, anchors, unknown) := partsOf (position + 1) (anchors.note position anchor) rest
      ((part, m) :: parts, anchors, unknown)
    match event with
    | .alias name =>
      match anchors.numbers.lookup name with
      | some number => reach (.alias number) none
      | none => ([], anchors, some m)
    | .scalar properties text style =>
      reach (.scalar properties.tag text style) properties.anchor
    | .sequenceStart properties => reach (.sequenceStart properties.tag) properties.anchor
    | .sequenceEnd => reach .sequenceEnd none
    | .mappingStart properties => reach (.mappingStart properties.tag) properties.anchor
    | .mappingEnd => reach .mappingEnd none

/-- The first document of a text. A text without documents has one that holds nothing. -/
def ofText (text : String) : Document :=
  let read := firstDocument text.toList
  let (parts, anchors, unknown) := partsOf 0 ⟨[], []⟩ read.events
  match unknown, read.ending with
  | some m, _ => ⟨parts, anchors.targets, some (.unknownAnchor m), false⟩
  | none, .broken fault =>
    ⟨parts, anchors.targets, some ((fault.map .syntaxFault).getD .endOfText), false⟩
  | none, .complete more =>
    ⟨if parts.isEmpty then [(.nothing, .start)] else parts, anchors.targets, none, more⟩

end Document

end Concord.Yaml
