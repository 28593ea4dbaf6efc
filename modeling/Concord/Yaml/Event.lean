import Concord.Yaml.Token

/-!
# Events of a configuration text

The tokens of a document spell a tree, which is told as a sequence of events: scalars and aliases,
and the start and the end of each sequence and mapping.
-/

namespace Concord.Yaml

/-- The name and the type given to a node. -/
structure NodeProperties where
  /-- The name by which aliases refer to the node. -/
  anchor : Option String
  /-- The full tag of the node. -/
  tag : Option String
deriving DecidableEq, Repr

/-- A part of the tree that a document spells. -/
inductive Event where
  | alias (name : String)
  | scalar (properties : NodeProperties) (text : String) (style : ScalarStyle)
  | sequenceStart (properties : NodeProperties)
  | sequenceEnd
  | mappingStart (properties : NodeProperties)
  | mappingEnd
deriving DecidableEq, Repr

/-- How a document ended. -/
inductive Ending where
  /-- The document is complete. Whether anything but the end of the text follows it. -/
  | complete (more : Bool)
  /-- A fault ended it early. -/
  | broken (fault : Option Fault)
deriving DecidableEq, Repr

/-- The events of a document in order, each with the place where it begins, and how it ended. -/
structure DocumentEvents where
  /-- The events. -/
  events : List (Event × Mark)
  /-- How the document ended. -/
  ending : Ending
deriving Repr

end Concord.Yaml
