import Concord.Proofs.Suite.Reference

/-!
# What comparing a suite tells

The sides of a split suite are equally long, their cases describe the same operations, and no output
is absent. So a suite is compared without a warning: what is told are the cases that were dropped
and, at the end, the counts.
-/

namespace Concord

variable {I : Type}

/-- A verdict that compared outputs is not told. -/
theorem event?_comparison {set : ImplementationSet} {c : TestCase I} (suite : Suite) (index : Nat)
    (answered : c.answered set = true) :
    (Verdict.examined (c.comparison set index)).event? suite index = none := by
  have compared := comparison_ne_missing set index answered
  cases found : c.comparison set index with
  | agreed => rfl
  | diverged d => rfl
  | missing => exact absurd found compared

variable [CaseInputs I] [LawfulInputs I]

/-- Nothing is told about aligning the sides of a split suite. -/
theorem alignmentEvents_splitSuite (set : ImplementationSet) (cases : List (TestCase I)) :
    alignmentEvents set (splitSuite set cases).a (splitSuite set cases).b = [] := by
  have sizes : (splitSuite set cases).a.length = (splitSuite set cases).b.length := by
    rw [splitSuite_eq, List.length_map, List.length_map]
  have quiet : ((verdicts set (splitSuite set cases).a (splitSuite set cases).b).filterMap
      fun v => v.1.event? (CaseInputs.suite I) v.2) = [] := by
    rw [verdicts_splitSuite, List.filterMap_map, List.filterMap_eq_nil_iff]
    rintro ⟨c, index⟩ there
    have answered := (List.mem_filter.mp (List.fst_mem_of_mem_zipIdx there)).2
    exact event?_comparison (CaseInputs.suite I) index answered
  simp only [alignmentEvents, sizes, if_true, quiet, List.append_nil]

/-- Comparing a suite tells which cases are dropped, then the counts: all cases kept are
compared. -/
theorem suiteEvents_eq (set : ImplementationSet) (cases : List (TestCase I)) :
    suiteEvents set cases = splitEvents set cases ++
      [.compared (CaseInputs.suite I) cases.length (cases.filter (TestCase.answered set)).length
        (runSuite set cases).totalCases (runSuite set cases).differences] := by
  have skipped : (runSuite set cases).skipped = 0 := by
    rw [runSuite_eq_direct]
    rfl
  have kept : (splitSuite set cases).a.length =
      (cases.filter (TestCase.answered set)).length := by
    rw [splitSuite_eq, List.length_map]
  unfold runSuite at skipped ⊢
  simp only [suiteEvents, alignmentEvents_splitSuite, skipped, kept, Nat.lt_irrefl, if_false,
    List.append_nil]

end Concord
