import Concord.Alignment
import Concord.Document
import Concord.Split

/-!
# Comparing suites

A suite is compared by splitting its cases and comparing the two sides. `runSuite` gives the
outcome and `suiteEvents` what is told on the way: the cases dropped, the positions skipped, and
the counts. `Document.run` does this for both suites of a document.
-/

namespace Concord

section

variable {I : Type} [CaseInputs I]

/-- The outcome of comparing a suite. -/
def runSuite (set : ImplementationSet) (cases : List (TestCase I)) : SuiteOutcome I :=
  let split := splitSuite set cases
  compareAligned set split.a split.b

/-- What comparing a suite tells. -/
def suiteEvents (set : ImplementationSet) (cases : List (TestCase I)) : List LogEvent :=
  let suite := CaseInputs.suite I
  let split := splitSuite set cases
  let outcome := compareAligned set split.a split.b
  splitEvents set cases ++ alignmentEvents set split.a split.b ++
    (if 0 < outcome.skipped then
      [.skipped suite outcome.mismatched.length outcome.missing.length]
    else []) ++
    [.compared suite cases.length split.a.length outcome.totalCases outcome.differences]

end

/-- The outcomes of both suites. -/
structure RunOutcome where
  /-- The outcome of the first suite. -/
  binary : SuiteOutcome BinaryInputs
  /-- The outcome of the second suite. -/
  atSuite : SuiteOutcome AtInputs

/-- Whether any case diverges. -/
def RunOutcome.hasDivergences (outcome : RunOutcome) : Bool :=
  0 < outcome.binary.differences || 0 < outcome.atSuite.differences

namespace Document

/-- The outcome of comparing both suites of a document. -/
def run (set : ImplementationSet) (document : Document) : RunOutcome :=
  ⟨runSuite set document.binaryCases, runSuite set document.atCases⟩

/-- What comparing both suites tells. -/
def events (set : ImplementationSet) (document : Document) : List LogEvent :=
  suiteEvents set document.binaryCases ++ suiteEvents set document.atCases

end Document

end Concord
