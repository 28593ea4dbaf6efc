import Concord.TestCase

/-!
# Log events

A run tells what it did in events. Each is one line: a level, a message and named values. Texts
among the values are quoted, so no operation can break a line or imitate a field, and the message
that names a file has its control characters escaped.
-/

namespace Concord

/-- How much an event matters. -/
inductive LogLevel where
  | debug
  | info
  | warn
deriving DecidableEq, Repr

/-- A level as it stands at the start of a line, right-aligned. -/
def LogLevel.label : LogLevel → String
  | .debug => "DEBUG"
  | .info => " INFO"
  | .warn => " WARN"

/-- Something worth telling about a run. -/
inductive LogEvent where
  /-- A case lacks results from one of the implementations. -/
  | dropped (suite : Suite) (index : Nat) (operation : String)
  /-- Two lists to be compared case by case are not equally long. -/
  | lengthsDiffer (suite : Suite) (a b : Nat)
  /-- The two cases at an index differ. -/
  | mismatched (suite : Suite) (index : Nat)
  /-- One of the two cases at an index has no output. -/
  | missing (suite : Suite) (index : Nat)
  /-- Cases were skipped. -/
  | skipped (suite : Suite) (mismatched missing : Nat)
  /-- A suite was compared. -/
  | compared (suite : Suite) (records split compared differences : Nat)
  /-- The report was written. -/
  | saved (path : String)
deriving DecidableEq, Repr

namespace LogEvent

/-- How much the event matters. -/
def level : LogEvent → LogLevel
  | .dropped .. => .debug
  | .compared .. => .debug
  | .saved .. => .info
  | .lengthsDiffer .. => .warn
  | .mismatched .. => .warn
  | .missing .. => .warn
  | .skipped .. => .warn

/-- A character of a message: control characters that could steer a terminal are escaped. -/
def messageChar (c : Char) : List Char :=
  if c = '\x1b' || c = '\x07' || c = '\x08' || c = '\x0c' || c = '\x7f' then
    ['\\', 'x', Nat.digitChar (c.toNat / 16), Nat.digitChar (c.toNat % 16)]
  else if 0x80 ≤ c.toNat ∧ c.toNat ≤ 0x9f then Text.codePointEscape c
  else [c]

/-- The message of the event. -/
def message : LogEvent → String
  | .dropped .. => "dropping record without results from both implementations"
  | .lengthsDiffer .. => "record collections differ in length; comparing common prefix only"
  | .mismatched _ index => "Mismatched test case at index " ++ toString index
  | .missing _ index => "Missing output for case " ++ toString index
  | .skipped _ unlike absent => toString (unlike + absent) ++ " aligned case(s) skipped"
  | .compared .. => "suite compared"
  | .saved path =>
    "Detailed comparison results saved to: " ++ String.ofList (path.toList.flatMap messageChar)

/-- The value that names a suite. -/
def suiteField (suite : Suite) : String × String := ("suite", Text.quote suite.key)

/-- The named values of the event. -/
def fields : LogEvent → List (String × String)
  | .dropped suite index operation =>
    [suiteField suite, ("index", toString index), ("operation", Text.quote operation)]
  | .lengthsDiffer suite a b => [suiteField suite, ("a", toString a), ("b", toString b)]
  | .mismatched suite index => [suiteField suite, ("index", toString index)]
  | .missing suite index => [suiteField suite, ("index", toString index)]
  | .skipped suite unlike absent =>
    [suiteField suite, ("mismatched", toString unlike), ("missing", toString absent)]
  | .compared suite records kept examined differences =>
    [suiteField suite, ("records", toString records), ("split", toString kept),
      ("compared", toString examined), ("differences", toString differences)]
  | .saved _ => []

/-- A named value with the blank in front of it. -/
def fieldText (field : String × String) : String := " " ++ field.1 ++ "=" ++ field.2

/-- The event as a line. -/
def line (event : LogEvent) : String :=
  event.level.label ++ " " ++ event.message ++ String.join (event.fields.map fieldText) ++ "\n"

/-- Whether the event is told when debugging is off. -/
def isNotice (event : LogEvent) : Bool := event.level != .debug

end LogEvent

/-- The lines of several events. -/
def logText (events : List LogEvent) : String := String.join (events.map LogEvent.line)

end Concord
