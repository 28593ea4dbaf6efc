import Concord.Display.Details
import Concord.Display.Summary
import Concord.Proofs.Text.Lines

/-!
# Lines of the summary

The summary has fourteen lines, whatever the counts and with colour or without. So the counts of
each suite and the verdict stand on fixed lines, and what follows the summary cannot be taken for a
part of it.
-/

namespace Concord.Display

open Text

section Lines

/-- Styling puts no line break into a text. -/
theorem Style.oneLine_apply (style : Style) (color : Bool) {text : String} (single : OneLine text) :
    OneLine (style.apply color text) := by
  have opening : '\n' ∉ style.opening := by cases style <;> decide
  have reopened (cs : List Char) (unbroken : '\n' ∉ cs) : '\n' ∉ reopen style.opening cs := by
    fun_induction reopen style.opening cs with
    | case1 rest ih =>
      simp only [List.mem_cons, not_or] at unbroken
      simp [reset, opening, ih unbroken.2.2.2.2]
    | case2 c rest _ ih =>
      rw [List.mem_cons, not_or] at unbroken ⊢
      exact ⟨unbroken.1, ih unbroken.2⟩
    | case3 => exact unbroken
  cases color with
  | false => exact single
  | true => simp [OneLine, apply, reset, opening, reopened text.toList single]

/-- A percentage stands on one line. -/
theorem oneLine_rateText (rate : Option Binary64) : OneLine (rateText rate) := by
  cases rate with
  | none => exact oneLine_of_basic (by decide)
  | some rate =>
    have sign : OneLine (if rate.negative then "-" else "") := by
      cases rate.negative <;> exact oneLine_of_basic (by decide)
    have number (n : Nat) : OneLine (toString n) := (shows_toString n).oneLine
    exact (((sign.append (number _)).append (oneLine_of_basic (by decide))).append
      (number _)).append (oneLine_of_basic (by decide))

/-- The line with the number of a suite's divergences. -/
def differencesLine (color : Bool) (differences : Nat) : String :=
  "  Differences: " ++
    (if differences = 0 then Style.green else Style.red).apply color (toString differences)

/-- The line that says that the implementations agree. -/
def passLine (color : Bool) : String :=
  "  " ++ Style.green.apply color "PASS" ++ " implementations agree"

/-- The line that says how many cases diverge. -/
def failLine (color : Bool) (failed : Nat) : String :=
  "  " ++ Style.red.apply color "FAIL" ++ " " ++ Style.red.apply color (toString failed) ++
    " divergent case(s)"

/-- The lines of the counts of one suite. -/
def suiteLines (color : Bool) (title : String) (summary : SuiteSummary) : List String :=
  [Style.bold.apply color title, "  Total cases: " ++ toString summary.totalCases,
    differencesLine color summary.differences,
    "  Success rate: " ++ rateText summary.successRate]

/-- The lines of a summary. -/
def summaryLines (color : Bool) (binary atSuite : SuiteSummary) : List String :=
  let failed := binary.differences + atSuite.differences
  [Style.bold.apply color "=== Comparison Results ==="] ++
    suiteLines color "Binary Operations:" binary ++ [""] ++
    suiteLines color "At Operations:" atSuite ++ ["", rule,
      if failed = 0 then passLine color else failLine color failed, rule]

/-- The counts of a suite in front of a text put their lines there. -/
theorem suiteSummary_append (color : Bool) (title : String) (summary : SuiteSummary)
    (rest : String) :
    suiteSummary color title summary ++ rest = putLines (suiteLines color title summary) rest := by
  simp only [suiteSummary, suiteLines, putLines_cons, putLines_nil, differencesLine,
    String.append_assoc]

/-- The verdict in front of a text puts a line there. -/
theorem verdictText_append (color : Bool) (failed : Nat) (rest : String) :
    verdictText color failed ++ rest =
      putLines [if failed = 0 then passLine color else failLine color failed] rest := by
  have pass : " implementations agree\n" = " implementations agree" ++ "\n" := by decide
  have fail : " divergent case(s)\n" = " divergent case(s)" ++ "\n" := by decide
  rw [putLines_cons, putLines_nil]
  unfold verdictText
  split
  · rw [pass]
    simp only [passLine, String.append_assoc]
  · rw [fail]
    simp only [failLine, String.append_assoc]

/-- A summary in front of a text puts its lines there. -/
theorem summaryOf_append (color : Bool) (binary atSuite : SuiteSummary) (rest : String) :
    summaryOf color binary atSuite ++ rest = putLines (summaryLines color binary atSuite) rest := by
  have verdict (rest : String) := verdictText_append color
    (binary.differences + atSuite.differences) rest
  simp only [putLines_cons, putLines_nil] at verdict
  simp only [summaryOf, summaryLines, putLines_append, ← suiteSummary_append, putLines_cons,
    putLines_nil, String.append_assoc, String.empty_append, verdict]

/-- Every line of a summary is one. -/
theorem oneLine_of_mem_summaryLines {color : Bool} {binary atSuite : SuiteSummary} {line : String}
    (there : line ∈ summaryLines color binary atSuite) : OneLine line := by
  have number (n : Nat) : OneLine (toString n) := (shows_toString n).oneLine
  have counts (title : String) (titled : OneLine title) (summary : SuiteSummary) :
      ∀ line ∈ suiteLines color title summary, OneLine line := by
    simp only [suiteLines, List.forall_mem_cons]
    refine ⟨Style.oneLine_apply _ color titled, (oneLine_of_basic (by decide)).append (number _),
      (oneLine_of_basic (by decide)).append (Style.oneLine_apply _ color (number _)),
      (oneLine_of_basic (by decide)).append (oneLine_rateText _), by simp⟩
  have across : OneLine rule := oneLine_of_basic (by decide)
  have verdict : OneLine (if binary.differences + atSuite.differences = 0 then passLine color
      else failLine color (binary.differences + atSuite.differences)) := by
    have styled (style : Style) (text : String) (single : OneLine text) :
        OneLine ("  " ++ style.apply color text) :=
      (oneLine_of_basic (by decide)).append (style.oneLine_apply color single)
    split
    · exact (styled .green "PASS" (oneLine_of_basic (by decide))).append
        (oneLine_of_basic (by decide))
    · exact (((styled .red "FAIL" (oneLine_of_basic (by decide))).append
        (oneLine_of_basic (by decide))).append (Style.oneLine_apply _ color (number _))).append
        (oneLine_of_basic (by decide))
  simp only [summaryLines, List.mem_append, List.mem_cons, List.not_mem_nil,
    or_false] at there
  rcases there with ((((rfl | first) | rfl) | second) | rfl | rfl | rfl | rfl)
  · exact Style.oneLine_apply _ color (oneLine_of_basic (by decide))
  · exact counts _ (oneLine_of_basic (by decide)) binary line first
  · exact oneLine_of_basic (by decide)
  · exact counts _ (oneLine_of_basic (by decide)) atSuite line second
  · exact oneLine_of_basic (by decide)
  · exact across
  · exact verdict
  · exact across

/-- The lines of a text that shows a summary after an empty line. -/
theorem splitOn_summaryOf (color : Bool) (binary atSuite : SuiteSummary) (rest : String) :
    ("\n" ++ (summaryOf color binary atSuite ++ rest)).toList.splitOn '\n' =
      ("" :: summaryLines color binary atSuite).map String.toList ++ rest.toList.splitOn '\n' := by
  have single : ∀ line ∈ "" :: summaryLines color binary atSuite, OneLine line := by
    rw [List.forall_mem_cons]
    exact ⟨oneLine_of_basic (by decide), fun line there => oneLine_of_mem_summaryLines there⟩
  rw [← splitOn_putLines single, putLines_cons, String.empty_append, summaryOf_append]

/-- The implementations are not said both to agree and to diverge. -/
theorem passLine_ne_failLine (color : Bool) (failed : Nat) :
    passLine color ≠ failLine color failed := by
  -- With colour the lines differ in their styles, without it in their words.
  have start (front rest : String) (long : 6 ≤ front.toList.length) :
      (front ++ rest).toList.take 6 = front.toList.take 6 := by
    rw [String.toList_append, List.take_append_of_le_length long]
  have pass : (passLine color).toList.take 6 =
      ("  " ++ Style.green.apply color "PASS").toList.take 6 :=
    start _ _ (by cases color <;> decide)
  have fail : (failLine color failed).toList.take 6 =
      ("  " ++ Style.red.apply color "FAIL").toList.take 6 := by
    rw [failLine, String.append_assoc, String.append_assoc]
    exact start _ _ (by cases color <;> decide)
  intro same
  rw [same, fail] at pass
  cases color <;> exact absurd pass (by decide)

end Lines

section Details

variable {I : Type} [CaseInputs I]

/-- Details of a suite that has divergences start with a title. -/
theorem suiteDetails_eq_empty_iff {color : Bool} {set : ImplementationSet} {limit : Nat}
    {title : String} {divergences : List (Divergence I)} :
    suiteDetails color set limit title divergences = "" ↔ divergences.isEmpty = true := by
  cases divergences with
  | nil => exact ⟨fun _ => rfl, fun _ => rfl⟩
  | cons d rest => simp [suiteDetails]

/-- There are details exactly when a case diverges. -/
theorem details_eq_empty_iff {color : Bool} {set : ImplementationSet} {limit : Nat}
    {report : Report} :
    details color set limit report = "" ↔ detailsEmpty report = true := by
  rw [details, String.append_eq_empty_iff, suiteDetails_eq_empty_iff, suiteDetails_eq_empty_iff,
    detailsEmpty, Bool.and_eq_true]

end Details

end Concord.Display
