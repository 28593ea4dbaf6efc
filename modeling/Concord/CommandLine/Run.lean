import Concord.CommandLine.Reading
import Concord.Display.Details
import Concord.Display.Summary
import Concord.Storage

/-!
# Running the program

A run reads its command line, loads the configuration and the results document, compares both
suites, shows what it found and saves the report. The report is saved also when cases diverge; a
failure ends the run at once. What a run does to files goes through a `FileAccess`; everything else
it leaves behind is its `Outcome`.
-/

namespace Concord.CommandLine

open Files

/-- How a run ends. -/
inductive Ending where
  /-- The implementations agree, or only a text was asked for. -/
  | success
  /-- Cases diverge, or the run failed. -/
  | failure
  /-- The command line is refused. -/
  | misuse
deriving DecidableEq, Repr

/-- The exit code of an ending. -/
def Ending.code : Ending → UInt32
  | .success => 0
  | .failure => 1
  | .misuse => 2

/-- What a run leaves behind besides files. -/
structure Outcome where
  /-- How the run ends. -/
  ending : Ending
  /-- What it shows. -/
  shown : String
  /-- What it tells on the way, and why it fails if it does. -/
  told : String
deriving DecidableEq, Repr

namespace Outcome

/-- A run that ends before anything is requested. -/
def ofStop (color : Bool) : Stop → Outcome
  | .help => ⟨.success, render color helpText, ""⟩
  | .version => ⟨.success, versionText, ""⟩
  | .refused error => ⟨.misuse, "", render color error.message⟩

/-- A run that fails after some text was shown and some events were told. -/
def ofFailure (shown told : String) (failure : Failure) : Outcome :=
  ⟨.failure, shown, told ++ failure.text⟩

end Outcome

namespace Request

/-- The events that are told. -/
def told (request : Request) (events : List LogEvent) : String :=
  logText (if request.verbose then events else events.filter LogEvent.isNotice)

/-- What is shown of a report: the summary, and the details if they are asked for and there are
any. -/
def shown (request : Request) (color : Bool) (set : ImplementationSet) (report : Report) : String :=
  "\n" ++ Display.summary color report ++
    if request.verbose && !Display.detailsEmpty report then
      "\n" ++ Display.details color set request.maxDetails report
    else ""

section

variable {m : Type → Type} [Monad m]

/-- The implementations under comparison: those of the configuration file, or the default ones. -/
def implementations (request : Request) (files : FileAccess m) :
    ExceptT Failure m ImplementationSet := do
  let configured ←
    match request.config with
    | some path => loadConfiguration files path
    | none => pure .default
  return match request.baseline with
    | some side => configured.withBaseline side
    | none => configured

/-- What is compared. -/
def load (request : Request) (files : FileAccess m) :
    ExceptT Failure m (ImplementationSet × Document) := do
  let set ← request.implementations files
  let document ← loadDocument files request.input
  return (set, document)

/-- Compares a document and saves the report. -/
def compare (request : Request) (files : FileAccess m) (color : Bool) (set : ImplementationSet)
    (document : Document) : m Outcome := do
  let run := document.run set
  let report := Report.ofOutcome run
  let shown := request.shown color set report
  let events := document.events set
  match ← (saveReport files request.output report).run with
  | .error failure => return .ofFailure shown (request.told events) failure
  | .ok () =>
    return ⟨if run.hasDivergences then .failure else .success, shown,
      request.told (events ++ [.saved request.output])⟩

/-- Does what is requested. -/
def execute (request : Request) (files : FileAccess m) (color : Bool) : m Outcome := do
  match ← (request.load files).run with
  | .error failure => return .ofFailure "" "" failure
  | .ok (set, document) => request.compare files color set document

end

end Request

/-- Runs the program on the words of a command line. -/
def run {m : Type → Type} [Monad m] (files : FileAccess m) (color : Bool) (words : List String) :
    m Outcome :=
  match readRequest words with
  | .error stop => return .ofStop color stop
  | .ok request => request.execute files color

end Concord.CommandLine
