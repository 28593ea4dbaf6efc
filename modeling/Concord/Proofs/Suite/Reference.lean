import Concord.Proofs.Suite.Split

/-!
# Suites compared without splitting

`directOutcome` says what comparing a suite amounts to, on the cases as they were recorded: keep
the cases with a first output of either implementation, number them, and report those whose first
outputs differ. The main statement is that the run of a suite, which splits every case in two and
pairs the copies again by position, has exactly this outcome.
-/

namespace Concord

section

variable {I : Type}

/-- The divergence of a recorded case at a position, read off its own results. -/
def directDivergence? (set : ImplementationSet) (position : Nat) (c : TestCase I) :
    Option (Divergence I) :=
  match firstOutput c.results set.a, firstOutput c.results set.b with
  | some outputA, some outputB =>
    if outputA.agrees outputB then none
    else some {
      caseNumber := position
      operation := c.operation
      inputs := c.inputs
      outputA := outputA
      outputB := outputB
      baselineOutput := if set.baseline = .a then outputA else outputB
      method := (if set.baseline = .a then set.b.name else set.a.name) ++ "_" ++ c.operation }
  | _, _ => none

/-- The outcome of a suite, read off its recorded cases. -/
def directOutcome (set : ImplementationSet) (cases : List (TestCase I)) : SuiteOutcome I :=
  let kept := cases.filter fun c =>
    (firstOutput c.results set.a).isSome && (firstOutput c.results set.b).isSome
  { totalCases := kept.length
    divergences := kept.zipIdx.filterMap fun (c, position) => directDivergence? set position c
    mismatched := []
    missing := [] }

/-- The outcome of a suite is that of its answered cases. -/
theorem directOutcome_eq (set : ImplementationSet) (cases : List (TestCase I)) :
    directOutcome set cases =
      let kept := cases.filter (TestCase.answered set)
      ⟨kept.length, kept.zipIdx.filterMap fun entry => directDivergence? set entry.2 entry.1, [],
        []⟩ :=
  rfl

/-- The divergences of a suite are those of the answered cases, each at its position among them. -/
theorem mem_divergences_directOutcome {set : ImplementationSet} {cases : List (TestCase I)}
    {d : Divergence I} :
    d ∈ (directOutcome set cases).divergences ↔ ∃ position c,
      (cases.filter (TestCase.answered set))[position]? = some c ∧
        directDivergence? set position c = some d := by
  rw [directOutcome, List.mem_filterMap]
  constructor
  · rintro ⟨⟨c, position⟩, member, found⟩
    exact ⟨position, c, List.mem_zipIdx_iff_getElem?.mp member, found⟩
  · rintro ⟨position, c, there, found⟩
    exact ⟨(c, position), List.mem_zipIdx_iff_getElem?.mpr there, found⟩

/-- What a divergence holds was read off its case. -/
theorem directDivergence?_eq_some {set : ImplementationSet} {position : Nat} {c : TestCase I}
    {d : Divergence I} (found : directDivergence? set position c = some d) :
    d.caseNumber = position ∧ d.inputs = c.inputs ∧
      firstOutput c.results set.a = some d.outputA ∧
      firstOutput c.results set.b = some d.outputB ∧
      (d.baselineOutput = d.outputA ∨ d.baselineOutput = d.outputB) := by
  unfold directDivergence? at found
  split at found
  · next outputA outputB first second =>
    split at found
    · contradiction
    · obtain rfl := Option.some.inj found
      refine ⟨rfl, rfl, first, second, ?_⟩
      by_cases baseline : set.baseline = .a
      · exact .inl (if_pos baseline)
      · exact .inr (if_neg baseline)
  · contradiction

/-- The baseline of a divergence is the output of the implementation that the set names as such. -/
theorem baselineOutput_of_directDivergence? {set : ImplementationSet} {position : Nat}
    {c : TestCase I} {d : Divergence I} (found : directDivergence? set position c = some d) :
    d.baselineOutput = if set.baseline = .a then d.outputA else d.outputB := by
  unfold directDivergence? at found
  split at found
  · split at found
    · contradiction
    · obtain rfl := Option.some.inj found
      rfl
  · contradiction

/-- A first output is the output of one of the results. -/
theorem exists_mem_of_firstOutput {results : List TaggedResult} {tag : Tag} {output : Json.Value}
    (first : firstOutput results tag = some output) :
    ∃ result ∈ results, result.output = output := by
  obtain ⟨result, found, rfl⟩ := Option.map_eq_some_iff.mp first
  exact ⟨result, List.mem_of_find?_eq_some found, rfl⟩

/-- Comparing the first outputs of an answered case does not find one absent. -/
theorem comparison_ne_missing (set : ImplementationSet) (index : Nat) {c : TestCase I}
    (answered : c.answered set = true) : c.comparison set index ≠ .missing := by
  obtain ⟨first, second⟩ := Bool.and_eq_true_iff.mp answered
  obtain ⟨outputA, foundA⟩ := Option.isSome_iff_exists.mp first
  obtain ⟨outputB, foundB⟩ := Option.isSome_iff_exists.mp second
  rw [TestCase.comparison, foundA, foundB, compareCase]
  split <;> simp

/-- A comparison that found both outputs counts its case and reports none absent. -/
theorem counted_of_ne_missing {comparison : Comparison I} (present : comparison ≠ .missing) :
    (Verdict.examined comparison).isCompared = true ∧
      (Verdict.examined comparison).isMissing = false := by
  cases comparison with
  | agreed => exact ⟨rfl, rfl⟩
  | diverged d => exact ⟨rfl, rfl⟩
  | missing => contradiction

/-- The divergence found between the sides of a case is the one read off the case itself. -/
theorem divergence?_comparison (set : ImplementationSet) (index : Nat) (c : TestCase I) :
    (Verdict.examined (c.comparison set index)).divergence? = directDivergence? set index c := by
  unfold TestCase.comparison directDivergence?
  cases firstOutput c.results set.a with
  | none => rfl
  | some outputA =>
    cases firstOutput c.results set.b with
    | none => rfl
    | some outputB =>
      cases agree : outputA.agrees outputB with
      | true => simp [compareCase, Verdict.divergence?, agree]
      | false =>
        cases baseline : set.baseline <;>
          simp [compareCase, Verdict.divergence?, agree, baseline, ImplementationSet.subject,
            ImplementationSet.tag, Side.other, TestCase.side, TestCase.withResults]

/-- The run of a suite has the outcome read off its recorded cases. -/
theorem runSuite_eq_direct [CaseInputs I] [LawfulInputs I] (set : ImplementationSet)
    (cases : List (TestCase I)) : runSuite set cases = directOutcome set cases := by
  let kept := cases.filter (TestCase.answered set)
  have run : runSuite set cases = .ofVerdicts
      (kept.zipIdx.map fun (c, index) => (.examined (c.comparison set index), index)) :=
    congrArg SuiteOutcome.ofVerdicts (verdicts_splitSuite set cases)
  -- Every case that reaches the comparison was kept because both outputs are there.
  have counted (entry : TestCase I × Nat) (member : entry ∈ kept.zipIdx) :
      (Verdict.examined (entry.1.comparison set entry.2)).isCompared = true ∧
        (Verdict.examined (entry.1.comparison set entry.2)).isMissing = false :=
    have answered := (List.mem_filter.mp (List.fst_mem_of_mem_zipIdx member)).2
    counted_of_ne_missing (comparison_ne_missing set entry.2 answered)
  have total : (kept.zipIdx.countP fun entry =>
      (Verdict.examined (entry.1.comparison set entry.2)).isCompared) = kept.length := by
    rw [List.countP_eq_length.mpr fun entry member => (counted entry member).1,
      List.length_zipIdx]
  have missing : (kept.zipIdx.filter fun entry =>
      (Verdict.examined (entry.1.comparison set entry.2)).isMissing) = [] :=
    List.filter_eq_nil_iff.mpr fun entry member => by simp [(counted entry member).2]
  have direct : directOutcome set cases = ⟨kept.length,
      kept.zipIdx.filterMap fun (c, position) => directDivergence? set position c, [], []⟩ := rfl
  rw [run, direct]
  simp only [SuiteOutcome.ofVerdicts, List.countP_map, List.filterMap_map, List.filter_map,
    Function.comp_def, total, missing, divergence?_comparison]
  simp [Verdict.isMismatched]

/-- Each divergence of a suite takes the output of the baseline as its reference. -/
theorem baselineOutput_of_mem_runSuite [CaseInputs I] [LawfulInputs I] {set : ImplementationSet}
    {cases : List (TestCase I)} {d : Divergence I} (listed : d ∈ (runSuite set cases).divergences) :
    d.baselineOutput = if set.baseline = .a then d.outputA else d.outputB := by
  rw [runSuite_eq_direct, mem_divergences_directOutcome] at listed
  obtain ⟨position, c, -, found⟩ := listed
  exact baselineOutput_of_directDivergence? found

end

/-- Splitting, pairing by position and checking identity change nothing: for either suite and any
implementations the run has the outcome read off the cases as they were recorded. -/
theorem runSuite_reads_recorded_cases (set : ImplementationSet) :
    (∀ cases : List (TestCase BinaryInputs), runSuite set cases = directOutcome set cases) ∧
      ∀ cases : List (TestCase AtInputs), runSuite set cases = directOutcome set cases :=
  ⟨runSuite_eq_direct set, runSuite_eq_direct set⟩

end Concord
