import Concord.Failure
import Concord.Files.Access
import Concord.Report

/-!
# Stored configurations, documents and reports

Configurations and results documents are read from files, and reports are saved in files. A file
that cannot be read or replaced makes the run fail.
-/

namespace Concord

open Files

section

variable {m : Type → Type} [Monad m]

/-- The set of implementations that a configuration file describes. -/
def loadConfiguration (files : FileAccess m) (path : String) :
    ExceptT Failure m ImplementationSet := do
  match ← files.read path with
  | .error e => throw (.unreadableConfiguration path e)
  | .ok text => MonadExcept.ofExcept ((Configuration.parse text).mapError .badConfiguration)

/-- The results document in a file. -/
def loadDocument (files : FileAccess m) (path : String) : ExceptT Failure m Document := do
  match ← files.read path with
  | .error e => throw (.unreadableDocument path e)
  | .ok text => MonadExcept.ofExcept ((Document.load text).mapError .badDocument)

/-- Saves a report in a file, with a line break at its end. -/
def saveReport (files : FileAccess m) (path : String) (report : Report) :
    ExceptT Failure m Unit := do
  match ← files.replace path (report.text ++ "\n") with
  | .error e => throw (.unsavedReport path e)
  | .ok () => return

end

end Concord
