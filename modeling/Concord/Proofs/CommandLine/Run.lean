import Concord.CommandLine.Run

/-!
# The course of a run

A run that a command line requests takes one of four courses: the configuration fails it, or the
input does, or the report cannot be saved, or it ends with a saved report. `Request.Course` says
what each of them leaves behind. Which of them it takes depends on what the files hold when the run
starts, as it reads them before it writes.
-/

namespace Concord.CommandLine

open Files

namespace Request

/-- What a reader makes of the text in a file. -/
def readIn {α : Type} (tree : FileTree) (path : String) (unreadable : FileError → Failure)
    (reader : String → Except Failure α) : Except Failure α :=
  match tree.read path with
  | .error e => .error (unreadable e)
  | .ok text => reader text

/-- The implementations that a configuration file describes. -/
def configurationIn (tree : FileTree) (path : String) : Except Failure ImplementationSet :=
  readIn tree path (.unreadableConfiguration path)
    fun text => (Configuration.parse text).mapError .badConfiguration

/-- The implementations that a request configures: those of its file or the default ones, with the
baseline of the request if it has one. -/
def configuration (request : Request) (tree : FileTree) : Except Failure ImplementationSet :=
  let configured :=
    match request.config with
    | some path => configurationIn tree path
    | none => .ok .default
  match request.baseline with
  | some side => configured.map fun set => set.withBaseline side
  | none => configured

/-- The results document in a file. -/
def documentIn (tree : FileTree) (path : String) : Except Failure Document :=
  readIn tree path (.unreadableDocument path)
    fun text => (Document.load text).mapError .badDocument

/-- The report on a document, as it is saved. -/
def savedText (set : ImplementationSet) (document : Document) : String :=
  (Report.ofOutcome (document.run set)).text ++ "\n"

/-- What a run that is requested leaves behind, and how. -/
inductive Course (request : Request) (color : Bool) (tree : FileTree) : Outcome → FileTree → Prop
  /-- The configuration is not loaded. -/
  | unconfigured {failure : Failure} (fault : request.configuration tree = .error failure) :
      Course request color tree ⟨.failure, "", failure.text⟩ tree
  /-- The configuration is loaded, but the document is not. -/
  | unread {set : ImplementationSet} {failure : Failure}
      (configured : request.configuration tree = .ok set)
      (fault : documentIn tree request.input = .error failure) :
      Course request color tree ⟨.failure, "", failure.text⟩ tree
  /-- The document is compared, but the report is not saved. -/
  | unsaved {set : ImplementationSet} {document : Document} {e : ReplaceError} {after : FileTree}
      (configured : request.configuration tree = .ok set)
      (loaded : documentIn tree request.input = .ok document)
      (failed : tree.replace request.output (savedText set document).toUTF8 = (.error e, after)) :
      Course request color tree
        ⟨.failure, request.shown color set (.ofOutcome (document.run set)),
          request.told (document.events set) ++ (Failure.unsavedReport request.output e).text⟩ after
  /-- The document is compared and the report is saved. -/
  | saved {set : ImplementationSet} {document : Document} {after : FileTree}
      (configured : request.configuration tree = .ok set)
      (loaded : documentIn tree request.input = .ok document)
      (written : tree.replace request.output (savedText set document).toUTF8 = (.ok (), after)) :
      Course request color tree
        ⟨if (document.run set).hasDivergences then .failure else .success,
          request.shown color set (.ofOutcome (document.run set)),
          request.told (document.events set ++ [.saved request.output])⟩ after

end Request

section Stepping

/-- A computation that may fail and works on a tree. -/
abbrev Step (α : Type) := ExceptT Failure (StateM FileTree) α

/-- What a step gives on a tree, and the tree after it. -/
def Step.on {α : Type} (step : Step α) (tree : FileTree) : Except Failure α × FileTree :=
  step.run.run tree

variable {α β : Type} {step : Step α} {tree after : FileTree}

/-- After a step that gives a result the others go on. -/
theorem Step.bind_ok {a : α} (done : step.on tree = (.ok a, after)) (next : α → Step β) :
    (step >>= next).on tree = (next a).on after := by
  unfold Step.on at done ⊢
  rw [ExceptT.run_bind, StateT.run_bind, done]
  rfl

/-- After a step that fails nothing else is done. -/
theorem Step.bind_error {failure : Failure} (failed : step.on tree = (.error failure, after))
    (next : α → Step β) : (step >>= next).on tree = (.error failure, after) := by
  unfold Step.on at failed ⊢
  rw [ExceptT.run_bind, StateT.run_bind, failed]
  rfl

/-- After an action on a tree the others go on. -/
theorem run_bind_of_run {action : StateM FileTree α} {a : α} (done : action.run tree = (a, after))
    (next : α → StateM FileTree β) : (action >>= next).run tree = (next a).run after := by
  rw [StateT.run_bind, done]
  rfl

/-- A result that is at hand, or a failure, leaves the tree. -/
theorem Step.on_ofExcept (result : Except Failure α) (tree : FileTree) :
    (MonadExcept.ofExcept result : Step α).on tree = (result, tree) := by
  cases result <;> rfl

/-- What an action on a tree gives is the result of a step. -/
theorem Step.on_lift (action : StateM FileTree α) (tree : FileTree) :
    (liftM action : Step α).on tree = (.ok (action.run tree).1, (action.run tree).2) := rfl

/-- Reading a file leaves the tree. -/
theorem on_reading (path : String) (unreadable : FileError → Failure)
    (reader : String → Except Failure α) (tree : FileTree) :
    Step.on (do
      match ← FileTree.access.read path with
      | .error e => throw (unreadable e)
      | .ok text => MonadExcept.ofExcept (reader text)) tree =
      (Request.readIn tree path unreadable reader, tree) := by
  rw [Step.bind_ok (Step.on_lift (FileTree.access.read path) tree)]
  show Step.on (match tree.read path with
    | .error e => throw (unreadable e)
    | .ok text => MonadExcept.ofExcept (reader text)) tree = _
  rw [Request.readIn]
  cases tree.read path with
  | error e => rfl
  | ok text => exact Step.on_ofExcept (reader text) tree

/-- Loading a configuration reads its file. -/
theorem on_loadConfiguration (path : String) (tree : FileTree) :
    Step.on (loadConfiguration FileTree.access path) tree =
      (Request.configurationIn tree path, tree) :=
  on_reading path (.unreadableConfiguration path) _ tree

/-- Loading a document reads its file. -/
theorem on_loadDocument (path : String) (tree : FileTree) :
    Step.on (loadDocument FileTree.access path) tree = (Request.documentIn tree path, tree) :=
  on_reading path (.unreadableDocument path) _ tree

/-- Replacing a file through the access to a tree is replacing it in the tree. -/
theorem run_replace (path text : String) (tree : FileTree) :
    (FileTree.access.replace path text).run tree = tree.replace path text.toUTF8 := by
  simp only [FileTree.access, StateT.run_bind, StateT.run_get, pure_bind]
  -- Whatever the replacement gives is passed on; it need not be unfolded.
  generalize tree.replace path text.toUTF8 = replaced
  rfl

/-- Saving a report fails as replacing its file does, and leaves the same tree. -/
theorem on_saveReport_of_replace {files : FileAccess (StateM FileTree)} {path : String}
    {report : Report} {result : Except ReplaceError Unit}
    (replaced : (files.replace path (report.text ++ "\n")).run tree = (result, after)) :
    Step.on (saveReport files path report) tree =
      (result.mapError (.unsavedReport path), after) := by
  rw [saveReport]
  generalize report.text ++ "\n" = text at replaced ⊢
  have step := Step.on_lift (files.replace path text) tree
  rw [replaced] at step
  rw [Step.bind_ok step]
  cases result <;> rfl

/-- Saving a report replaces its file. -/
theorem on_saveReport (path : String) (report : Report) (tree : FileTree) :
    Step.on (saveReport FileTree.access path report) tree =
      ((tree.replace path (report.text ++ "\n").toUTF8).1.mapError (.unsavedReport path),
        (tree.replace path (report.text ++ "\n").toUTF8).2) :=
  on_saveReport_of_replace ((run_replace path _ tree).trans (Prod.eta _).symm)

end Stepping

namespace Request

variable {request : Request} {tree : FileTree}

/-- Finding the implementations of a request reads its configuration. -/
theorem on_implementations (request : Request) (tree : FileTree) :
    Step.on (request.implementations FileTree.access) tree =
      (request.configuration tree, tree) := by
  unfold implementations configuration
  cases config : request.config with
  | none => cases baseline : request.baseline <;> rfl
  | some path =>
    have loading := on_loadConfiguration path tree
    cases found : configurationIn tree path with
    | error failure =>
      rw [found] at loading
      rw [Step.bind_error loading]
      simp only [found]
      cases request.baseline <;> rfl
    | ok configured =>
      rw [found] at loading
      rw [Step.bind_ok loading]
      simp only [found]
      cases request.baseline <;> rfl

/-- Comparing a document saves the report and ends as the outcome says. -/
theorem compare_course {set : ImplementationSet} {document : Document}
    (configured : request.configuration tree = .ok set)
    (loaded : documentIn tree request.input = .ok document) (color : Bool) :
    request.Course color tree ((request.compare FileTree.access color set document).run tree).1
      ((request.compare FileTree.access color set document).run tree).2 := by
  have saving := on_saveReport request.output (.ofOutcome (document.run set)) tree
  rw [← savedText] at saving
  cases replaced : tree.replace request.output (savedText set document).toUTF8 with
  | mk result after =>
    rw [replaced] at saving
    rw [compare, run_bind_of_run saving]
    cases result with
    | error e => exact .unsaved configured loaded replaced
    | ok done => exact .saved configured loaded replaced

/-- A failure before anything is shown or told leaves its text. -/
theorem ofFailure_empty (failure : Failure) :
    Outcome.ofFailure "" "" failure = ⟨.failure, "", failure.text⟩ := by
  rw [Outcome.ofFailure, String.empty_append]

/-- A request that is executed takes one of its courses. -/
theorem execute_course (request : Request) (color : Bool) (tree : FileTree) :
    request.Course color tree ((request.execute FileTree.access color).run tree).1
      ((request.execute FileTree.access color).run tree).2 := by
  -- The steps are followed up to the first one that fails.
  have configuring := on_implementations request tree
  have loading := on_loadDocument request.input tree
  cases configured : request.configuration tree with
  | error failure =>
    rw [configured] at configuring
    have load : Step.on (request.load FileTree.access) tree = (.error failure, tree) :=
      Step.bind_error configuring _
    rw [execute, run_bind_of_run load]
    show request.Course color tree (.ofFailure "" "" failure) tree
    rw [ofFailure_empty]
    exact .unconfigured configured
  | ok set =>
    rw [configured] at configuring
    cases loaded : documentIn tree request.input with
    | error failure =>
      rw [loaded] at loading
      have load : Step.on (request.load FileTree.access) tree = (.error failure, tree) :=
        (Step.bind_ok configuring _).trans (Step.bind_error loading _)
      rw [execute, run_bind_of_run load]
      show request.Course color tree (.ofFailure "" "" failure) tree
      rw [ofFailure_empty]
      exact .unread configured loaded
    | ok document =>
      rw [loaded] at loading
      have load : Step.on (request.load FileTree.access) tree = (.ok (set, document), tree) :=
        (Step.bind_ok configuring _).trans (Step.bind_ok loading _)
      rw [execute, run_bind_of_run load]
      exact compare_course configured loaded color

end Request

/-- The run that a command line requests takes one of the courses of its request. -/
theorem run_course {words : List String} {request : Request}
    (accepted : readRequest words = .ok request) (color : Bool) (tree : FileTree) :
    request.Course color tree ((run FileTree.access color words).run tree).1
      ((run FileTree.access color words).run tree).2 := by
  rw [run, accepted]
  exact request.execute_course color tree

end Concord.CommandLine
