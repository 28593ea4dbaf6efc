import Concord.Proofs.Suite.Reference
import Mathlib.Data.List.Basic

/-!
# Suites put together

A suite made of two parts has the divergences of the first part and then those of the second one,
whose numbers go on where those of the first part end. So a case that one implementation did not
answer may stand anywhere without effect, and the order of the cases decides the order and the
numbers of the divergences alone.
-/

namespace Concord

variable {I : Type}

namespace Divergence

/-- The divergence with its number raised. -/
def shifted (offset : Nat) (d : Divergence I) : Divergence I :=
  { d with caseNumber := offset + d.caseNumber }

/-- The divergence without its number. -/
def unnumbered (d : Divergence I) : Divergence I := { d with caseNumber := 0 }

end Divergence

/-- The position of a case has an influence on the number of its divergence only. -/
theorem directDivergence?_add (set : ImplementationSet) (offset position : Nat) (c : TestCase I) :
    directDivergence? set (offset + position) c =
      (directDivergence? set position c).map (Divergence.shifted offset) := by
  unfold directDivergence?
  cases firstOutput c.results set.a with
  | none => rfl
  | some outputA =>
    cases firstOutput c.results set.b with
    | none => rfl
    | some outputB =>
      cases agree : outputA.agrees outputB with
      | true => simp only [agree, if_true, Option.map_none]
      | false => simp [agree, Divergence.shifted]

/-- Without its number the divergence of a case is the one it has at the first position. -/
theorem directDivergence?_unnumbered (set : ImplementationSet) (position : Nat) (c : TestCase I) :
    (directDivergence? set position c).map Divergence.unnumbered = directDivergence? set 0 c := by
  have atFirst := directDivergence?_add set position 0 c
  rw [Nat.add_zero] at atFirst
  rw [atFirst, Option.map_map]
  cases found : directDivergence? set 0 c with
  | none => rfl
  | some d =>
    obtain ⟨number, -⟩ := directDivergence?_eq_some found
    simp [Divergence.unnumbered, Divergence.shifted, ← number]

/-- The outcome of a suite and of another one after it, whose cases are numbered further. -/
def SuiteOutcome.followedBy (first second : SuiteOutcome I) : SuiteOutcome I where
  totalCases := first.totalCases + second.totalCases
  divergences := first.divergences ++
    second.divergences.map (Divergence.shifted first.totalCases)
  mismatched := first.mismatched ++ second.mismatched.map (first.totalCases + ·)
  missing := first.missing ++ second.missing.map (first.totalCases + ·)

/-- The divergences of numbered cases do not depend on where numbering starts, except for their
numbers. -/
theorem filterMap_directDivergence?_zipIdx (set : ImplementationSet) (cases : List (TestCase I))
    (start : Nat) :
    ((cases.zipIdx start).filterMap fun entry => directDivergence? set entry.2 entry.1) =
      (cases.zipIdx.filterMap fun entry => directDivergence? set entry.2 entry.1).map
        (Divergence.shifted start) := by
  rw [List.zipIdx_eq_map_add, List.filterMap_map, List.map_filterMap]
  exact List.filterMap_congr fun entry _ => directDivergence?_add set start entry.2 entry.1

/-- The outcome of two suites put together. -/
theorem directOutcome_append (set : ImplementationSet) (x y : List (TestCase I)) :
    directOutcome set (x ++ y) = (directOutcome set x).followedBy (directOutcome set y) := by
  have numbered := filterMap_directDivergence?_zipIdx set (y.filter (TestCase.answered set))
    (x.filter (TestCase.answered set)).length
  simp only [directOutcome_eq, SuiteOutcome.followedBy, List.filter_append, List.length_append,
    List.zipIdx_append, List.filterMap_append, Nat.zero_add, numbered, List.map_nil,
    List.append_nil]

/-- Cases that are not answered have no part in the outcome, wherever they stand. -/
theorem directOutcome_insert (set : ImplementationSet) {inserted : List (TestCase I)}
    (dropped : ∀ c ∈ inserted, c.answered set = false) (x y : List (TestCase I)) :
    directOutcome set (x ++ inserted ++ y) = directOutcome set (x ++ y) := by
  have none : inserted.filter (TestCase.answered set) = [] :=
    List.filter_eq_nil_iff.mpr fun c there => by simp [dropped c there]
  have kept : (x ++ inserted ++ y).filter (TestCase.answered set) =
      (x ++ y).filter (TestCase.answered set) := by
    rw [List.filter_append, List.filter_append, List.filter_append, none, List.append_nil]
  rw [directOutcome_eq, directOutcome_eq, kept]

/-- The divergences of a suite without their numbers, case by case. -/
theorem map_unnumbered_divergences (set : ImplementationSet) (cases : List (TestCase I)) :
    (directOutcome set cases).divergences.map Divergence.unnumbered =
      (cases.filter (TestCase.answered set)).filterMap (directDivergence? set 0) := by
  rw [directOutcome_eq]
  generalize cases.filter (TestCase.answered set) = kept
  -- Both sides take the cases one by one; only the left side has numbered them before.
  conv_rhs => rw [← List.zipIdx_map_fst 0 kept, List.filterMap_map]
  rw [List.map_filterMap]
  exact List.filterMap_congr fun entry _ => directDivergence?_unnumbered set entry.2 entry.1

variable [CaseInputs I] [LawfulInputs I]

/-- Comparing suites put together adds up. The totals are added, and the divergences of the second
suite come after those of the first one, with numbers that go on from its total. Cases without
results of one of the implementations change nothing, wherever they are inserted. Cases in another
order have the same divergences, but for their order and their numbers. -/
theorem comparing_adds_up (set : ImplementationSet) :
    (∀ x y : List (TestCase I),
      (runSuite set (x ++ y)).totalCases =
        (runSuite set x).totalCases + (runSuite set y).totalCases ∧
      (runSuite set (x ++ y)).divergences = (runSuite set x).divergences ++
        (runSuite set y).divergences.map (Divergence.shifted (runSuite set x).totalCases) ∧
      (runSuite set (x ++ y)).skipped = 0) ∧
    (∀ x inserted y : List (TestCase I),
      (∀ c ∈ inserted, ∃ side, resultsOf (set.tag side) c.results = []) →
        runSuite set (x ++ inserted ++ y) = runSuite set (x ++ y)) ∧
    ∀ x y : List (TestCase I), x.Perm y →
      (runSuite set x).totalCases = (runSuite set y).totalCases ∧
      ((runSuite set x).divergences.map Divergence.unnumbered).Perm
        ((runSuite set y).divergences.map Divergence.unnumbered) ∧
      (runSuite set x).skipped = (runSuite set y).skipped := by
  simp only [runSuite_eq_direct]
  refine ⟨fun x y => ?_, fun x inserted y lacking => ?_, fun x y reordered => ?_⟩
  · rw [directOutcome_append]
    exact ⟨rfl, rfl, rfl⟩
  · exact directOutcome_insert set
      (fun c there => TestCase.answered_eq_false_iff.mpr (lacking c there)) x y
  · have kept := reordered.filter (TestCase.answered set)
    refine ⟨kept.length_eq, ?_, rfl⟩
    rw [map_unnumbered_divergences, map_unnumbered_divergences]
    exact kept.filterMap (directDivergence? set 0)

/-- A case on which the implementations agree, one that only the first of them answered, and one on
which they diverge: the second one has no number, so the divergence has number one, and number zero
if its case comes first. -/
theorem comparing_adds_up_three_cases :
    let case (results : List TaggedResult) : TestCase AtInputs :=
      ⟨"contains", ⟨⟨.integer 0, .integer 1, false, []⟩, .null⟩, results, []⟩
    let rust : TaggedResult := ⟨"Rust_contains", .bool true, []⟩
    let agreed := case [rust, ⟨"CPP_contains", .bool true, []⟩]
    let lone := case [rust]
    let diverging := case [rust, ⟨"CPP_contains", .bool false, []⟩]
    (runSuite .default ([agreed] ++ [lone] ++ [diverging])).divergences.map Divergence.caseNumber =
        [1] ∧
      (runSuite .default [diverging, agreed]).divergences.map Divergence.caseNumber = [0] ∧
      ((runSuite .default [agreed, diverging]).divergences.map Divergence.unnumbered).Perm
        ((runSuite .default [diverging, agreed]).divergences.map Divergence.unnumbered) := by
  intro case rust agreed lone diverging
  obtain ⟨-, inserted, reordered⟩ := comparing_adds_up (I := AtInputs) .default
  have lacking : ∀ c ∈ [lone], ∃ side,
      resultsOf (ImplementationSet.default.tag side) c.results = [] := by
    intro c there
    obtain rfl := List.mem_singleton.mp there
    exact ⟨.b, List.filter_eq_nil_iff.mpr (by decide +kernel)⟩
  have numbers : (runSuite .default ([agreed] ++ [diverging])).divergences.map
      Divergence.caseNumber = [1] := by
    decide +kernel
  refine ⟨?_, by decide +kernel, ?_⟩
  · rw [inserted [agreed] [lone] [diverging] lacking]
    exact numbers
  · exact (reordered [agreed, diverging] [diverging, agreed] (.swap diverging agreed [])).2.1

end Concord
