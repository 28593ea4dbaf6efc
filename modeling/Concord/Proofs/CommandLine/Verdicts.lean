import Concord.Proofs.CommandLine.Run
import Concord.Proofs.Display.Summary
import Concord.Proofs.Files.Replace
import Concord.Proofs.Suite.Loading
import Concord.Proofs.Suite.Reference

/-!
# The verdicts of a run

A run gives its verdict several times: in its exit code, in what it shows and in the report that it
saves. They come from one outcome along different ways, and each way may end early. Here the ways
are compared: whatever course a run takes, its verdicts agree.
-/

namespace Concord

open Files Json

/-- The value that a path of keys leads to in nested objects. -/
def Json.Value.under? : List String → Value → Option Value
  | [], value => some value
  | key :: keys, .object members => (find? key members).bind (under? keys)
  | _ :: _, _ => none

/-- A written report lists so many divergences of a suite, and its summary tells this number. -/
def Json.Value.Counts (report : Value) (suite list : String) (differences : Nat) : Prop :=
  ∃ divergences, report.under? [list] = some (.array divergences) ∧
    divergences.length = differences ∧
    report.under? ["summary", suite, "differences"] = some (.number (.integer differences))

/-- The counts of a report are those of the divergences that it lists. -/
structure Report.Counts (report : Report) : Prop where
  /-- The count of the first suite. -/
  binary : report.binarySummary.differences = report.binaryDifferences.length
  /-- The count of the second suite. -/
  atSuite : report.atSummary.differences = report.atDifferences.length

namespace Report

/-- The report of an outcome counts what it lists. -/
theorem counts_ofOutcome (outcome : RunOutcome) : (Report.ofOutcome outcome).Counts :=
  ⟨rfl, rfl⟩

variable {report : Report}

/-- A report that counts the divergences of the first suite is written so. -/
theorem Counts.toValue_binary (counted : report.Counts) :
    report.toValue.Counts "binary_operations" "binary_differences"
      report.binaryDifferences.length := by
  rw [← counted.binary]
  exact ⟨report.binaryDifferences.map Divergence.toValue, rfl,
    by rw [List.length_map, counted.binary], rfl⟩

/-- A report that counts the divergences of the second suite is written so. -/
theorem Counts.toValue_at (counted : report.Counts) :
    report.toValue.Counts "at_operations" "at_differences" report.atDifferences.length := by
  rw [← counted.atSuite]
  exact ⟨report.atDifferences.map Divergence.toValue, rfl,
    by rw [List.length_map, counted.atSuite], rfl⟩

end Report

/-- No case diverges when a report lists none. -/
theorem RunOutcome.hasDivergences_eq_false_iff {outcome : RunOutcome} :
    outcome.hasDivergences = false ↔
      outcome.binary.divergences = [] ∧ outcome.atSuite.divergences = [] := by
  rw [hasDivergences, Bool.or_eq_false_iff, decide_eq_false_iff_not, decide_eq_false_iff_not,
    SuiteOutcome.differences, SuiteOutcome.differences, List.length_pos_iff, List.length_pos_iff,
    not_not, not_not]

namespace CommandLine

namespace Request

section Showing

/-- What is shown of a report agrees with what the report lists. -/
structure Displays (request : Request) (color : Bool) (set : ImplementationSet) (report : Report)
    (shown : String) : Prop where
  /-- The number of divergences of each suite stands on a line of its own. -/
  counts : (shown.toList.splitOn '\n')[4]? =
      some (Display.differencesLine color report.binaryDifferences.length).toList ∧
    (shown.toList.splitOn '\n')[9]? =
      some (Display.differencesLine color report.atDifferences.length).toList
  /-- The implementations are said to agree exactly when no divergence is listed. -/
  agrees : (shown.toList.splitOn '\n')[13]? = some (Display.passLine color).toList ↔
    report.binaryDifferences = [] ∧ report.atDifferences = []
  /-- Else the number of all divergences is shown. -/
  diverges : ¬ (report.binaryDifferences = [] ∧ report.atDifferences = []) →
    (shown.toList.splitOn '\n')[13]? = some (Display.failLine color
      (report.binaryDifferences.length + report.atDifferences.length)).toList
  /-- Details follow the summary if they are asked for and a divergence is listed. -/
  detailed : request.verbose = true →
    0 < report.binaryDifferences.length + report.atDifferences.length →
      shown = "\n" ++ (Display.summary color report ++
        ("\n" ++ Display.details color set request.maxDetails report)) ∧
      Display.details color set request.maxDetails report ≠ ""
  /-- Else nothing follows the summary. -/
  plain : ¬ (request.verbose = true ∧
      0 < report.binaryDifferences.length + report.atDifferences.length) →
    shown = "\n" ++ Display.summary color report

/-- There are details to be shown exactly when a report lists a divergence. -/
theorem detailsEmpty_eq_false_iff {report : Report} :
    Display.detailsEmpty report = false ↔
      0 < report.binaryDifferences.length + report.atDifferences.length := by
  simp only [Display.detailsEmpty, Bool.and_eq_false_iff, List.isEmpty_eq_false_iff,
    ← List.length_pos_iff]
  omega

/-- What a request shows of a report that counts what it lists. -/
theorem displays_shown (request : Request) (color : Bool) (set : ImplementationSet)
    {report : Report} (counted : report.Counts) :
    request.Displays color set report (request.shown color set report) := by
  obtain ⟨rest, whole⟩ : ∃ rest,
      request.shown color set report = "\n" ++ (Display.summary color report ++ rest) :=
    ⟨_, String.append_assoc⟩
  have lines := Display.splitOn_summaryOf color report.binarySummary report.atSummary rest
  rw [← Display.summary, ← whole] at lines
  have verdict : ((request.shown color set report).toList.splitOn '\n')[13]? =
      some (if report.binarySummary.differences + report.atSummary.differences = 0 then
        Display.passLine color else Display.failLine color
          (report.binarySummary.differences + report.atSummary.differences)).toList := by
    rw [lines]
    rfl
  have none : report.binaryDifferences.length + report.atDifferences.length = 0 ↔
      report.binaryDifferences = [] ∧ report.atDifferences = [] := by
    simp
  rw [counted.binary, counted.atSuite] at verdict
  constructor
  case counts =>
    rw [lines, ← counted.binary, ← counted.atSuite]
    exact ⟨rfl, rfl⟩
  case agrees =>
    rw [verdict, Option.some_inj, String.toList_inj, ← none]
    split
    · next zero => exact ⟨fun _ => zero, fun _ => rfl⟩
    · next many =>
      exact ⟨fun same => (Display.passLine_ne_failLine _ _ same.symm).elim, (absurd · many)⟩
  case diverges =>
    intro some
    rw [verdict, if_neg (none.not.mpr some)]
  case detailed =>
    intro verbose listed
    have filled := detailsEmpty_eq_false_iff.mpr listed
    rw [ne_eq, Display.details_eq_empty_iff, Bool.not_eq_true]
    refine ⟨?_, filled⟩
    rw [shown, verbose, filled, ← String.append_assoc]
    rfl
  case plain =>
    intro unasked
    rw [← detailsEmpty_eq_false_iff] at unasked
    rw [shown, if_neg (by simpa using unasked), String.append_empty]

end Showing

section Ending

variable {request : Request} {color : Bool} {tree after : FileTree} {outcome : Outcome}
variable {set : ImplementationSet} {document : Document}

/-- The report on a document can be saved where the request wants it. -/
def Saves (request : Request) (tree : FileTree) (set : ImplementationSet) (document : Document) :
    Prop :=
  (tree.replace request.output (savedText set document).toUTF8).1 = .ok ()

/-- A run that a command line requests ends well or fails; its command line is not refused. -/
theorem Course.ending (course : request.Course color tree outcome after) :
    outcome.ending = .success ∨ outcome.ending = .failure := by
  cases course with
  | unconfigured | unread | unsaved => exact .inr rfl
  | @saved set document after configured loaded written =>
    cases (document.run set).hasDivergences
    · exact .inl rfl
    · exact .inr rfl

/-- Whether a configuration cannot be loaded is decided before the input is read. -/
theorem Course.of_configuration_error (course : request.Course color tree outcome after)
    {failure : Failure} (fault : request.configuration tree = .error failure) :
    outcome = ⟨.failure, "", failure.text⟩ ∧ after = tree := by
  cases course with
  | unconfigured found =>
    rw [found, Except.error.injEq] at fault
    exact ⟨by rw [fault], rfl⟩
  | unread configured => simp [configured] at fault
  | unsaved configured => simp [configured] at fault
  | saved configured => simp [configured] at fault

/-- With a configuration that is loaded, the input fails a run if it cannot be loaded. -/
theorem Course.of_input_error (course : request.Course color tree outcome after)
    (configured : request.configuration tree = .ok set) {failure : Failure}
    (fault : documentIn tree request.input = .error failure) :
    outcome = ⟨.failure, "", failure.text⟩ ∧ after = tree := by
  cases course with
  | unconfigured found => simp [configured] at found
  | unread _ found =>
    rw [found, Except.error.injEq] at fault
    exact ⟨by rw [fault], rfl⟩
  | unsaved _ loaded => simp [loaded] at fault
  | saved _ loaded => simp [loaded] at fault

/-- What a run leaves behind of a document that is loaded. -/
theorem Course.of_loaded (course : request.Course color tree outcome after)
    (configured : request.configuration tree = .ok set)
    (loaded : documentIn tree request.input = .ok document) :
    outcome.shown = request.shown color set (.ofOutcome (document.run set)) ∧
      after = (tree.replace request.output (savedText set document).toUTF8).2 ∧
      (outcome.ending = .success ↔
        request.Saves tree set document ∧ (document.run set).hasDivergences = false) := by
  cases course with
  | unconfigured found => simp [configured] at found
  | unread _ found => simp [loaded] at found
  | unsaved configured' loaded' failed =>
    obtain rfl := Except.ok.inj (configured.symm.trans configured')
    obtain rfl := Except.ok.inj (loaded.symm.trans loaded')
    rw [Saves, failed]
    exact ⟨rfl, rfl, by simp⟩
  | saved configured' loaded' written =>
    obtain rfl := Except.ok.inj (configured.symm.trans configured')
    obtain rfl := Except.ok.inj (loaded.symm.trans loaded')
    rw [Saves, written]
    refine ⟨rfl, rfl, ?_⟩
    cases (document.run set).hasDivergences <;> simp

/-- A run ends well exactly when everything is loaded, the report is saved and no case diverges. -/
theorem Course.ending_eq_success_iff (course : request.Course color tree outcome after) :
    outcome.ending = .success ↔ ∃ set document, request.configuration tree = .ok set ∧
      documentIn tree request.input = .ok document ∧ request.Saves tree set document ∧
      (document.run set).hasDivergences = false := by
  constructor
  · intro success
    cases configured : request.configuration tree with
    | error failure => simp [(course.of_configuration_error configured).1] at success
    | ok set =>
      cases loaded : documentIn tree request.input with
      | error failure => simp [(course.of_input_error configured loaded).1] at success
      | ok document =>
        obtain ⟨-, -, ends⟩ := course.of_loaded configured loaded
        exact ⟨set, document, rfl, rfl, ends.mp success⟩
  · rintro ⟨set, document, configured, loaded, well⟩
    exact (course.of_loaded configured loaded).2.2.mpr well

/-- A report that can be saved is what its file holds when the run has ended. -/
theorem Course.read_output (course : request.Course color tree outcome after)
    (configured : request.configuration tree = .ok set)
    (loaded : documentIn tree request.input = .ok document)
    (saves : request.Saves tree set document) :
    after.read request.output = .ok (savedText set document) := by
  obtain ⟨-, rfl, -⟩ := course.of_loaded configured loaded
  exact FileTree.read_of_replace (Prod.ext saves rfl)

/-- Two requests with the same files and the same baseline. -/
structure SameTask (request other : Request) : Prop where
  /-- The results come from the same file. -/
  input : other.input = request.input
  /-- The report goes to the same file. -/
  output : other.output = request.output
  /-- The configuration comes from the same file, or there is none. -/
  config : other.config = request.config
  /-- The same baseline is asked for, or none. -/
  baseline : other.baseline = request.baseline

/-- How much is shown and in which colours has no influence on how a run ends and on the files. -/
theorem Course.alike (course : request.Course color tree outcome after) {other : Request}
    {color' : Bool} {outcome' : Outcome} {after' : FileTree}
    (course' : other.Course color' tree outcome' after') (same : request.SameTask other) :
    outcome'.ending = outcome.ending ∧ after' = after := by
  -- What is loaded decides both courses, and nothing that differs has a part in it.
  have configuration : other.configuration tree = request.configuration tree := by
    rw [Request.configuration, Request.configuration, same.config, same.baseline]
  have input : documentIn tree other.input = documentIn tree request.input := by
    rw [same.input]
  cases configured : request.configuration tree with
  | error failure =>
    obtain ⟨rfl, rfl⟩ := course.of_configuration_error configured
    obtain ⟨rfl, rfl⟩ := course'.of_configuration_error (configuration.trans configured)
    exact ⟨rfl, rfl⟩
  | ok set =>
    cases loaded : documentIn tree request.input with
    | error failure =>
      obtain ⟨rfl, rfl⟩ := course.of_input_error configured loaded
      obtain ⟨rfl, rfl⟩ := course'.of_input_error (configuration.trans configured)
        (input.trans loaded)
      exact ⟨rfl, rfl⟩
    | ok document =>
      obtain ⟨-, rfl, ends⟩ := course.of_loaded configured loaded
      obtain ⟨-, rfl, ends'⟩ := course'.of_loaded (configuration.trans configured)
        (input.trans loaded)
      rw [Saves, same.output, ← Saves, ← ends] at ends'
      refine ⟨?_, by rw [same.output]⟩
      rcases course.ending with success | failure
      · rw [success, ends'.mpr success]
      · rcases course'.ending with success' | failure'
        · rw [success', ends'.mp success']
        · rw [failure, failure']

/-- The baseline that a request asks for takes the place of the configured one. -/
theorem configuration_baseline {side : Side} (asked : request.baseline = some side)
    (tree : FileTree) :
    request.configuration tree =
      ({ request with baseline := none }.configuration tree).map
        (ImplementationSet.withBaseline · side) := by
  rw [configuration, asked]
  rfl

/-- The implementations that a request configures have the baseline that it asks for. -/
theorem baseline_eq_of_configuration {side : Side} (asked : request.baseline = some side)
    (configured : request.configuration tree = .ok set) : set.baseline = side := by
  rw [configuration_baseline asked, map_eq_ok] at configured
  obtain ⟨_, -, rfl⟩ := configured
  rfl

end Ending

end Request

/-- The verdicts of a run that a command line requests agree. It ends well exactly when the
configuration and the document are loaded, the report is saved and no case diverges, and fails
otherwise. A configuration that cannot be loaded fails it whatever the input, a document next, and
nothing is shown then. What is shown of a document agrees with its report, which is saved whenever
it can be, also if cases diverge. How much is shown, and in which colours, has no influence on the
ending and on the files, and the baseline of the command line takes the place of the configured
one. -/
theorem verdicts_agree {words : List String} {request : Request}
    (accepted : readRequest words = .ok request) {color : Bool} {tree after : FileTree}
    {outcome : Outcome} (ran : (run FileTree.access color words).run tree = (outcome, after)) :
    (outcome.ending.code = 0 ↔ ∃ set document, request.configuration tree = .ok set ∧
      Request.documentIn tree request.input = .ok document ∧ request.Saves tree set document ∧
      (document.run set).binary.divergences = [] ∧
      (document.run set).atSuite.divergences = []) ∧
    (outcome.ending.code = 0 ∨ outcome.ending.code = 1) ∧
    (∀ failure, request.configuration tree = .error failure →
      outcome = ⟨.failure, "", failure.text⟩ ∧ after = tree) ∧
    (∀ set failure, request.configuration tree = .ok set →
      Request.documentIn tree request.input = .error failure →
        outcome = ⟨.failure, "", failure.text⟩ ∧ after = tree) ∧
    (∀ set document, request.configuration tree = .ok set →
      Request.documentIn tree request.input = .ok document →
        (Report.ofOutcome (document.run set)).toValue.Counts "binary_operations"
          "binary_differences" (document.run set).binary.divergences.length ∧
        (Report.ofOutcome (document.run set)).toValue.Counts "at_operations"
          "at_differences" (document.run set).atSuite.divergences.length ∧
        request.Displays color set (.ofOutcome (document.run set)) outcome.shown ∧
        (request.Saves tree set document → after.read request.output =
          .ok ((Report.ofOutcome (document.run set)).text ++ "\n"))) ∧
    (∀ (words' : List String) (request' : Request) (color' : Bool),
      readRequest words' = .ok request' → request.SameTask request' →
        ((run FileTree.access color' words').run tree).1.ending = outcome.ending ∧
        ((run FileTree.access color' words').run tree).2 = after) ∧
    ∀ side, request.baseline = some side →
      request.configuration tree =
        ({ request with baseline := none }.configuration tree).map
          (ImplementationSet.withBaseline · side) ∧
      ∀ (set : ImplementationSet) (document : Document), request.configuration tree = .ok set →
        (∀ d ∈ (document.run set).binary.divergences,
          d.baselineOutput = if side = .a then d.outputA else d.outputB) ∧
        ∀ d ∈ (document.run set).atSuite.divergences,
          d.baselineOutput = if side = .a then d.outputA else d.outputB := by
  have course : request.Course color tree outcome after := by
    have taken := run_course accepted color tree
    rwa [ran] at taken
  have code : outcome.ending.code = 0 ↔ outcome.ending = .success := by
    cases outcome.ending <;> simp [Ending.code]
  refine ⟨?_, ?_, fun _ => course.of_configuration_error,
    fun _ _ configured => course.of_input_error configured,
    fun set document configured loaded => ?_, fun words' request' color' accepted' same => ?_,
    fun side asked => ⟨Request.configuration_baseline asked tree,
      fun set document configured => ?_⟩⟩
  · rw [code, course.ending_eq_success_iff]
    simp only [RunOutcome.hasDivergences_eq_false_iff]
  · rcases course.ending with success | failure
    · exact .inl (code.mpr success)
    · exact .inr (by rw [failure]; rfl)
  · have counted := Report.counts_ofOutcome (document.run set)
    rw [(course.of_loaded configured loaded).1]
    exact ⟨counted.toValue_binary, counted.toValue_at, request.displays_shown color set counted,
      course.read_output configured loaded⟩
  · exact course.alike (run_course accepted' color' tree) same
  · rw [← Request.baseline_eq_of_configuration asked configured]
    exact ⟨fun _ => baselineOutput_of_mem_runSuite, fun _ => baselineOutput_of_mem_runSuite⟩

/-- In a tree with one file at the root another one can be put beside it. -/
theorem replace_beside (content other : ByteArray) :
    ((FileTree.mk [] [(["in.json"], .file content)]).replace "out.json" other).1 = .ok () := by
  have parts : segments "out.json" = ["out.json"] := by decide +kernel
  have inside : parent "out.json" = "." := by decide +kernel
  have here : segments "." = ["."] := by decide +kernel
  have idle : isIdle "." = true := by decide
  have short : ¬ FileTree.greatestName < "out.json".utf8ByteSize := by decide
  have fresh : ".tmp" ++ String.ofList (List.replicate "in.json".length '_') = ".tmp_______" := by
    decide
  simp [FileTree.replace, inside, here, FileTree.createTemporary, FileTree.locateDirectory,
    FileTree.locate, FileTree.walkPath, FileTree.walk, FileTree.find?, idle, bind, Except.bind,
    FileTree.rename, FileTree.placeOf, parts, FileTree.freshName, FileTree.insert, FileTree.erase,
    short, fresh, List.lookup_cons]

/-- The document in a file at the root is loaded by its name. -/
theorem documentIn_beside {text : String} {document : Document}
    (loaded : Document.load text = .ok document) :
    Request.documentIn ⟨[], [(["in.json"], .file text.toUTF8)]⟩ "in.json" = .ok document := by
  have parts : segments "in.json" = ["in.json"] := by decide +kernel
  have idle : isIdle "in.json" = false := by decide
  have short : ¬ FileTree.greatestName < "in.json".utf8ByteSize := by decide
  have located : (FileTree.mk [] [(["in.json"], .file text.toUTF8)]).locate "in.json" =
      .ok ["in.json"] := by
    simp [FileTree.locate, parts, FileTree.walkPath, FileTree.walk, FileTree.find?, idle, short]
  rw [Request.documentIn, Request.readIn, FileTree.read_of_locate located rfl]
  simp only [loaded, Except.mapError]

/-- One case diverges: the run fails, does not say that the implementations agree and saves its
report all the same. -/
theorem verdicts_agree_one_case :
    let text := String.ofList (oneCaseText "1" "2")
    let tree : FileTree := ⟨[], [(["in.json"], .file text.toUTF8)]⟩
    let ran := (run FileTree.access true ["in.json", "-o", "out.json", "-v"]).run tree
    ∃ document, Document.load text = .ok document ∧
      ran.1.ending.code = 1 ∧
      (ran.1.shown.toList.splitOn '\n')[9]? = some (Display.differencesLine true 1).toList ∧
      (ran.1.shown.toList.splitOn '\n')[13]? ≠ some (Display.passLine true).toList ∧
      ran.2.read "out.json" =
        .ok ((Report.ofOutcome (document.run .default)).text ++ "\n") := by
  intro text tree ran
  obtain ⟨document, loaded, diverges⟩ := exists_diverging_oneCase
  have accepted : readRequest ["in.json", "-o", "out.json", "-v"] =
      .ok ⟨"in.json", "out.json", true, 10, none, none⟩ := rfl
  obtain ⟨ends, codes, -, -, compared, -⟩ := verdicts_agree accepted (Prod.eta ran).symm
  have input : Request.documentIn tree "in.json" = .ok document := documentIn_beside loaded
  obtain ⟨-, -, displays, written⟩ := compared .default document rfl input
  have listed : (document.run .default).atSuite.divergences ≠ [] := by
    intro none
    simp [SuiteOutcome.differences, none] at diverges
  refine ⟨document, loaded, ?_, ?_, ?_, written (replace_beside _ _)⟩
  · refine codes.resolve_left fun zero => ?_
    obtain ⟨set, other, configured, loaded', -, -, agrees⟩ := ends.mp zero
    obtain rfl := Except.ok.inj configured
    obtain rfl := Except.ok.inj (input.symm.trans loaded')
    exact listed agrees
  · rw [← diverges]
    exact displays.counts.2
  · exact fun pass => listed (displays.agrees.mp pass).2

end CommandLine

end Concord
