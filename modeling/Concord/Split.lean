import Concord.Implementation
import Concord.LogEvent

/-!
# Splitting cases by implementation

A recorded case carries results of both implementations. Splitting gives each implementation a copy
with its own results only; a case that one of them did not answer is dropped. Both sides of a split
suite come from the same list in the same order, so cases at one position belong together.
-/

namespace Concord

/-- The results that belong to an implementation. -/
def resultsOf (tag : Tag) (results : List TaggedResult) : List TaggedResult :=
  results.filter fun result => tag.claims result.method

section

variable {I : Type} [CaseInputs I]

/-- The copies of a case for the two implementations, if both answered it. -/
def splitCase (set : ImplementationSet) (testCase : TestCase I) :
    Option (TestCase I × TestCase I) :=
  let a := resultsOf set.a testCase.results
  let b := resultsOf set.b testCase.results
  if a.isEmpty || b.isEmpty then none
  else some (testCase.withResults a, testCase.withResults b)

/-- The cases of a suite by implementation. -/
structure SplitSuite (I : Type) where
  /-- The cases with the results of the first implementation. -/
  a : List (TestCase I)
  /-- The cases with the results of the second implementation. -/
  b : List (TestCase I)

/-- Splits the cases that both implementations answered. -/
def splitSuite (set : ImplementationSet) (cases : List (TestCase I)) : SplitSuite I :=
  let pairs := cases.filterMap (splitCase set)
  ⟨pairs.map Prod.fst, pairs.map Prod.snd⟩

/-- What splitting tells: each case that was dropped, with its position. -/
def splitEvents (set : ImplementationSet) (cases : List (TestCase I)) : List LogEvent :=
  cases.zipIdx.filterMap fun (testCase, index) =>
    match splitCase set testCase with
    | none => some (.dropped (CaseInputs.suite I) index testCase.operation)
    | some _ => none

end

end Concord
