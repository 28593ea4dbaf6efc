import Concord.SuiteRun

/-!
# Comparison reports

The report of a run holds the counts of each suite and its divergences. `Report.text` is the JSON
document that is saved: readable layout, members in their order of declaration.
-/

namespace Concord

open Json

/-- The percentage of compared cases that agreed; absent when none was compared. The quotient and
the product are each rounded once. -/
def successRate (totalCases differences : Nat) : Option Binary64 :=
  if totalCases = 0 then none
  else do
    let agreed ← Binary64.ofNat (totalCases - differences)
    let total ← Binary64.ofNat totalCases
    let hundred ← Binary64.ofNat 100
    let quotient ← agreed.div total
    quotient.mul hundred

/-- The counts of one suite. -/
structure SuiteSummary where
  /-- How many cases were compared. -/
  totalCases : Nat
  /-- How many of them diverge. -/
  differences : Nat
  /-- The percentage that agreed; absent when no case was compared. -/
  successRate : Option Binary64
deriving DecidableEq

namespace SuiteSummary

/-- The counts of an outcome. -/
def ofOutcome {I : Type} (outcome : SuiteOutcome I) : SuiteSummary :=
  ⟨outcome.totalCases, outcome.differences,
    Concord.successRate outcome.totalCases outcome.differences⟩

/-- The counts as a value. -/
def toValue (s : SuiteSummary) : Value :=
  .object [("total_cases", .number (.integer s.totalCases)),
    ("differences", .number (.integer s.differences)),
    ("success_rate",
      match s.successRate with
      | some rate => .number (.float rate)
      | none => .null)]

end SuiteSummary

/-- The report of a run. -/
structure Report where
  /-- The counts of the first suite. -/
  binarySummary : SuiteSummary
  /-- The counts of the second suite. -/
  atSummary : SuiteSummary
  /-- The divergences of the first suite. -/
  binaryDifferences : List (Divergence BinaryInputs)
  /-- The divergences of the second suite. -/
  atDifferences : List (Divergence AtInputs)

namespace Report

/-- The report of an outcome. -/
def ofOutcome (outcome : RunOutcome) : Report where
  binarySummary := .ofOutcome outcome.binary
  atSummary := .ofOutcome outcome.atSuite
  binaryDifferences := outcome.binary.divergences
  atDifferences := outcome.atSuite.divergences

/-- The report as a value. -/
def toValue (report : Report) : Value :=
  .object [
    ("summary", .object [
      ("binary_operations", report.binarySummary.toValue),
      ("at_operations", report.atSummary.toValue)]),
    ("binary_differences", .array (report.binaryDifferences.map Divergence.toValue)),
    ("at_differences", .array (report.atDifferences.map Divergence.toValue))]

/-- The text of the report. -/
def text (report : Report) : String := report.toValue.pretty

end Report

end Concord
