import Concord.Yaml.Fault

/-!
# Tokens of a configuration text

A text is cut into tokens: indicators, names, scalars, and tokens without characters that mark
where an indented block begins and ends.
-/

namespace Concord.Yaml

/-- How a scalar is written. -/
inductive ScalarStyle where
  | plain
  | singleQuoted
  | doubleQuoted
  | literal
  | folded
deriving DecidableEq, Repr

/-- What a token is. -/
inductive TokenKind where
  | streamStart
  | streamEnd
  | versionDirective (major minor : Nat)
  | tagDirective (handle replacement : String)
  | documentStart
  | documentEnd
  | blockSequenceStart
  | blockMappingStart
  | blockEnd
  | flowSequenceStart
  | flowSequenceEnd
  | flowMappingStart
  | flowMappingEnd
  | blockEntry
  | flowEntry
  | key
  | value
  | alias (name : String)
  | anchor (name : String)
  | tag (handle rest : String)
  | scalar (text : String) (style : ScalarStyle)
deriving DecidableEq, Repr

/-- A token with the places where it begins and ends. -/
structure Token where
  /-- What it is. -/
  kind : TokenKind
  /-- Where it begins. -/
  start : Mark
  /-- Where it ends. -/
  stop : Mark
deriving DecidableEq, Repr

/-- Items that come one after the other, and the fault that ended them early, if any. -/
structure Sequenced (α : Type) where
  /-- The items in order. -/
  items : List α
  /-- Why there are no more. -/
  failure : Option Fault
deriving Repr

end Concord.Yaml
