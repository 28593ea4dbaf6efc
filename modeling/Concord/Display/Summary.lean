import Concord.Binary64.Fixed
import Concord.Display.Style
import Concord.Report

/-!
# The summary of a report

The summary shows the counts of each suite and the verdict: the implementations agree exactly when
no case of either suite diverges.
-/

namespace Concord.Display

/-- A percentage with one decimal place. -/
def rateText : Option Binary64 → String
  | some rate => rate.oneDecimal ++ "%"
  | none => "N/A"

/-- The counts of one suite under a title. -/
def suiteSummary (color : Bool) (title : String) (summary : SuiteSummary) : String :=
  let style : Style := if summary.differences = 0 then .green else .red
  Style.bold.apply color title ++ "\n" ++
    "  Total cases: " ++ toString summary.totalCases ++ "\n" ++
    "  Differences: " ++ style.apply color (toString summary.differences) ++ "\n" ++
    "  Success rate: " ++ rateText summary.successRate ++ "\n"

/-- A line across the page. -/
def rule : String := String.ofList (List.replicate 60 '=')

/-- Whether the implementations agree, or how many cases diverge. -/
def verdictText (color : Bool) (failed : Nat) : String :=
  if failed = 0 then
    "  " ++ Style.green.apply color "PASS" ++ " implementations agree\n"
  else
    "  " ++ Style.red.apply color "FAIL" ++ " " ++ Style.red.apply color (toString failed) ++
      " divergent case(s)\n"

/-- The summary of two suites. -/
def summaryOf (color : Bool) (binary atSuite : SuiteSummary) : String :=
  Style.bold.apply color "=== Comparison Results ===" ++ "\n" ++
    suiteSummary color "Binary Operations:" binary ++ "\n" ++
    suiteSummary color "At Operations:" atSuite ++ "\n" ++
    rule ++ "\n" ++
    verdictText color (binary.differences + atSuite.differences) ++
    rule ++ "\n"

/-- The summary of a report. -/
def summary (color : Bool) (report : Report) : String :=
  summaryOf color report.binarySummary report.atSummary

end Concord.Display
