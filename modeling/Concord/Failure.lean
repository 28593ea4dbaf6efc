import Concord.Configuration
import Concord.Document
import Concord.Files.Replace

/-!
# Failures

A run fails when it cannot read what it compares or cannot save its report. A `Failure` keeps why:
its message is one line, and the causes below it lead to the innermost one.
-/

namespace Concord

open Files

/-- Why a run fails. -/
inductive Failure where
  /-- The configuration file cannot be read. -/
  | unreadableConfiguration (path : String) (error : FileError)
  /-- The configuration is not valid. -/
  | badConfiguration (error : ConfigurationError)
  /-- The results file cannot be read. -/
  | unreadableDocument (path : String) (error : FileError)
  /-- The results file holds no results document. -/
  | badDocument (error : LoadError)
  /-- The report cannot be saved. -/
  | unsavedReport (path : String) (error : ReplaceError)

namespace Failure

/-- The wording of a failure. -/
def message : Failure → String
  | .unreadableConfiguration path e =>
    "Invalid configuration: cannot read " ++ path ++ ": " ++ e.message
  | .badConfiguration e => "Invalid configuration: " ++ e.message
  | .unreadableDocument path e => "Could not read results file " ++ path ++ ": " ++ e.message
  | .badDocument e => e.message
  | .unsavedReport path _ => "Failed to write " ++ path

/-- The causes of a failure, from the outermost to the innermost. What is wrong with a configuration
is told in the message alone. -/
def causes : Failure → List String
  | .unreadableConfiguration .. => []
  | .badConfiguration _ => []
  | .unreadableDocument _ e => [e.message]
  | .badDocument e => e.cause?.toList
  | .unsavedReport _ e => e.causes

/-- The line of a cause in a list of several. -/
def numberedCause (item : String × Nat) : String :=
  "    " ++ toString item.2 ++ ": " ++ item.1 ++ "\n"

/-- The text of a failure: its message and its causes, numbered if they are several. -/
def text (failure : Failure) : String :=
  "Error: " ++ failure.message ++ "\n" ++
    match failure.causes with
    | [] => ""
    | [cause] => "\nCaused by:\n    " ++ cause ++ "\n"
    | several => "\nCaused by:\n" ++ String.join (several.zipIdx.map numberedCause)

end Failure

end Concord
