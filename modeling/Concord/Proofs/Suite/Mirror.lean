import Concord.Proofs.Attribution
import Concord.Proofs.Json.Meaning
import Concord.Proofs.Json.ReadValues
import Concord.Proofs.Suite.Events
import Concord.Proofs.Suite.Loading
import Concord.Proofs.Suite.Outcome

/-!
# Comparisons with the sides exchanged

Nothing in a comparison favours one side: exchanging the implementations, and the lists that belong
to them, exchanges the outputs in every divergence and changes nothing else. The baseline only says
which output a divergence repeats as the reference, and whose name its method begins with.
-/

namespace Concord

open Json

namespace ImplementationSet

/-- The set with its sides exchanged; the baseline stays the same implementation. -/
def swap (set : ImplementationSet) : ImplementationSet where
  a := set.b
  b := set.a
  baseline := set.baseline.other
  apart := by
    rw [Tag.overlaps, Bool.or_comm]
    exact set.apart

/-- The tags of a set, exchanged, make a set. -/
theorem new_swap (set : ImplementationSet) :
    new set.b set.a set.baseline.other = .ok set.swap := by
  obtain ⟨first, second⟩ := set.methodPrefix_ne_empty
  have apart := set.swap.apart
  simp only [swap] at apart
  simp [new, first, second, apart, swap]

end ImplementationSet

/-- It does not matter which of two cases comes first when their inputs are compared. -/
class SymmetricInputs (I : Type) [CaseInputs I] : Prop extends LawfulInputs I where
  /-- Inputs are the same from either side. -/
  same_comm : ∀ inputs others : I, CaseInputs.same inputs others = CaseInputs.same others inputs

/-- Intervals are the same from either side. -/
theorem Interval.same_comm (i j : Interval) : i.same j = j.same i := by
  simp only [Interval.same, Number.same_comm i.start, Number.same_comm i.finish,
    BEq.comm (a := i.isBottom), sameMembers_comm i.extra]

instance : SymmetricInputs BinaryInputs where
  same_comm inputs others := by
    simp only [CaseInputs.same, Interval.same_comm inputs.left, Interval.same_comm inputs.right]

instance : SymmetricInputs AtInputs where
  same_comm inputs others := by
    simp only [CaseInputs.same, Interval.same_comm inputs.interval, Value.same_comm inputs.value]

variable {I : Type}

/-- A first output is well formed when all outputs are. -/
theorem TestCase.OutputsWellFormed.firstOutput {c : TestCase I} (form : c.OutputsWellFormed)
    {tag : Tag} {output : Value} (found : firstOutput c.results tag = some output) :
    output.WellFormed := by
  obtain ⟨result, there, rfl⟩ := exists_mem_of_firstOutput found
  exact form result there

namespace Divergence

/-- The divergence with its outputs exchanged. -/
def exchanged (d : Divergence I) : Divergence I :=
  { d with outputA := d.outputB, outputB := d.outputA }

/-- The divergence as it is reported when the baseline is that of the set. -/
def rebased (set : ImplementationSet) (d : Divergence I) : Divergence I :=
  { d with
    baselineOutput :=
      match set.baseline with
      | .a => d.outputA
      | .b => d.outputB
    method := (set.tag set.subject).name ++ "_" ++ d.operation }

/-- The second divergence is the first one seen from the other side: its inputs are those of the
other case at the position, which are the same. -/
def Mirrors [CaseInputs I] (d e : Divergence I) : Prop :=
  CaseInputs.same d.inputs e.inputs = true ∧ e = { d.exchanged with inputs := e.inputs }

end Divergence

section Baseline

/-- With another baseline the verdict on a position changes in its divergence only. -/
theorem verdict_withBaseline [CaseInputs I] (set : ImplementationSet) (side : Side) (index : Nat)
    (a b : TestCase I) :
    (verdict set index a b).Related (fun d e => d.rebased (set.withBaseline side) = e)
      (verdict (set.withBaseline side) index a b) := by
  unfold verdict compareCase
  by_cases same : a.same b = true
  · rw [if_pos same, if_pos same]
    simp only [ImplementationSet.withBaseline]
    cases firstOutput a.results set.a with
    | none => exact .missing
    | some outputA =>
      cases firstOutput b.results set.b with
      | none => exact .missing
      | some outputB =>
        cases agree : outputA.agrees outputB with
        | true =>
          simp only [agree, if_true]
          exact .agreed
        | false =>
          simp only [agree, Bool.false_eq_true, if_false]
          exact .diverged rfl
  · rw [if_neg same, if_neg same]
    exact .mismatched

/-- With another baseline an aligned comparison reports the same divergences, each rebased. -/
theorem compareAligned_withBaseline [CaseInputs I] (set : ImplementationSet) (side : Side)
    (a b : List (TestCase I)) :
    compareAligned (set.withBaseline side) a b =
      (compareAligned set a b).mapDivergences (Divergence.rebased (set.withBaseline side)) := by
  apply SuiteOutcome.Related.eq_mapDivergences
  apply SuiteOutcome.related_ofVerdicts
  unfold verdicts
  rw [List.forall₂_map_left_iff, List.forall₂_map_right_iff, List.forall₂_same]
  rintro ⟨⟨left, right⟩, index⟩ -
  exact ⟨verdict_withBaseline set side index left right, rfl⟩

/-- With another baseline a suite has the same divergences, each rebased. -/
theorem runSuite_withBaseline [CaseInputs I] (set : ImplementationSet) (side : Side)
    (cases : List (TestCase I)) :
    runSuite (set.withBaseline side) cases =
      (runSuite set cases).mapDivergences (Divergence.rebased (set.withBaseline side)) :=
  compareAligned_withBaseline set side (splitSuite set cases).a (splitSuite set cases).b

/-- The baseline has no part in what comparing a suite tells. -/
theorem suiteEvents_withBaseline [CaseInputs I] [LawfulInputs I] (set : ImplementationSet)
    (side : Side) (cases : List (TestCase I)) :
    suiteEvents (set.withBaseline side) cases = suiteEvents set cases := by
  have dropped : splitEvents (set.withBaseline side) cases = splitEvents set cases := rfl
  have kept : TestCase.answered (I := I) (set.withBaseline side) = TestCase.answered set := rfl
  rw [suiteEvents_eq, suiteEvents_eq, dropped, kept, runSuite_withBaseline]
  simp only [SuiteOutcome.mapDivergences, SuiteOutcome.differences, List.length_map]

end Baseline

section Sides

/-- The other implementation is the first exactly when the implementation is not. -/
theorem Side.other_eq_a_iff (side : Side) : side.other = .a ↔ side ≠ .a := by
  cases side <;> simp [other]

/-- The implementation under test is the same when the sides are exchanged. -/
theorem ImplementationSet.swap_subject (set : ImplementationSet) :
    set.swap.tag set.swap.subject = set.tag set.subject := by
  cases baseline : set.baseline <;> simp [swap, subject, tag, Side.other, baseline]

/-- Comparing the outputs of one case from the other side exchanges them in its divergence. -/
theorem compareCase_swap [CaseInputs I] (set : ImplementationSet) (index : Nat) {a b : TestCase I}
    (same : a.same b = true) {outputA outputB : Option Value}
    (first : ∀ output ∈ outputA, output.WellFormed)
    (second : ∀ output ∈ outputB, output.WellFormed) :
    (Verdict.examined (compareCase set index a outputA outputB)).Related Divergence.Mirrors
      (.examined (compareCase set.swap index b outputB outputA)) := by
  obtain ⟨operation, inputs⟩ := Bool.and_eq_true_iff.mp same
  cases outputA with
  | none => cases outputB <;> exact .missing
  | some outputA =>
    cases outputB with
    | none => exact .missing
    | some outputB =>
      have agree := Value.agrees_comm (first outputA rfl) (second outputB rfl)
      unfold compareCase
      simp only [← agree]
      cases outputA.agrees outputB with
      | true =>
        simp only [if_true]
        exact .agreed
      | false =>
        simp only [Bool.false_eq_true, if_false]
        refine .diverged ⟨inputs, ?_⟩
        rw [ImplementationSet.swap_subject]
        cases baseline : set.baseline <;>
          simp [Divergence.exchanged, ImplementationSet.swap, Side.other, baseline,
            eq_of_beq operation]

/-- The divergence of a case, seen from the other side. -/
theorem directDivergence?_swap (set : ImplementationSet) (position : Nat) {c : TestCase I}
    (form : c.OutputsWellFormed) :
    directDivergence? set.swap position c =
      (directDivergence? set position c).map Divergence.exchanged := by
  unfold directDivergence?
  simp only [ImplementationSet.swap]
  cases first : firstOutput c.results set.a with
  | none => cases firstOutput c.results set.b <;> rfl
  | some outputA =>
    cases second : firstOutput c.results set.b with
    | none => rfl
    | some outputB =>
      have agree := Value.agrees_comm (form.firstOutput first) (form.firstOutput second)
      simp only [← agree]
      cases outputA.agrees outputB with
      | true => rfl
      | false =>
        by_cases baseline : set.baseline = .a
        · simp [Divergence.exchanged, Side.other_eq_a_iff, baseline]
        · simp [Divergence.exchanged, Side.other_eq_a_iff, baseline]

variable [CaseInputs I] [SymmetricInputs I]

/-- Cases describe the same operation on the same inputs from either side. -/
theorem TestCase.same_comm (c d : TestCase I) : c.same d = d.same c := by
  rw [TestCase.same, TestCase.same, BEq.comm (a := c.operation), SymmetricInputs.same_comm]

/-- The verdict on a position, seen from the other side. -/
theorem verdict_swap (set : ImplementationSet) (index : Nat) {a b : TestCase I}
    (first : a.OutputsWellFormed) (second : b.OutputsWellFormed) :
    (verdict set index a b).Related Divergence.Mirrors (verdict set.swap index b a) := by
  unfold verdict
  rw [TestCase.same_comm b a]
  by_cases same : a.same b = true
  · rw [if_pos same, if_pos same]
    exact compareCase_swap set index same (fun _ found => first.firstOutput found)
      fun _ found => second.firstOutput found
  · rw [if_neg same, if_neg same]
    exact .mismatched

/-- An aligned comparison, seen from the other side. -/
theorem compareAligned_swap (set : ImplementationSet) {a b : List (TestCase I)}
    (first : ∀ c ∈ a, c.OutputsWellFormed) (second : ∀ c ∈ b, c.OutputsWellFormed) :
    (compareAligned set a b).Related Divergence.Mirrors (compareAligned set.swap b a) := by
  apply SuiteOutcome.related_ofVerdicts
  unfold verdicts
  rw [← List.zip_swap a b, List.zipIdx_map, List.map_map, List.forall₂_map_left_iff,
    List.forall₂_map_right_iff, List.forall₂_same]
  rintro ⟨⟨left, right⟩, index⟩ there
  obtain ⟨leftThere, rightThere⟩ := List.of_mem_zip (List.fst_mem_of_mem_zipIdx there)
  exact ⟨verdict_swap set index (first left leftThere) (second right rightThere), rfl⟩

/-- A suite compared with its sides exchanged has the same divergences, with their outputs
exchanged. -/
theorem runSuite_swap (set : ImplementationSet) {cases : List (TestCase I)}
    (form : ∀ c ∈ cases, c.OutputsWellFormed) :
    runSuite set.swap cases = (runSuite set cases).mapDivergences Divergence.exchanged := by
  have answered : TestCase.answered (I := I) set.swap = TestCase.answered set := by
    funext c
    exact Bool.and_comm _ _
  rw [runSuite_eq_direct, runSuite_eq_direct]
  show SuiteOutcome.mk (cases.filter (TestCase.answered set.swap)).length
      ((cases.filter (TestCase.answered set.swap)).zipIdx.filterMap _) [] [] =
    SuiteOutcome.mk (cases.filter (TestCase.answered set)).length
      (((cases.filter (TestCase.answered set)).zipIdx.filterMap _).map Divergence.exchanged) [] []
  rw [answered, List.map_filterMap]
  congr 1
  apply List.filterMap_congr
  rintro ⟨c, position⟩ there
  have kept := List.mem_of_mem_filter (List.fst_mem_of_mem_zipIdx there)
  exact directDivergence?_swap set position (form c kept)

end Sides

/-- Exchanging the sides is a symmetry: a suite, and any two lists of cases, have the same counts
and skip the same positions, and each divergence has its outputs exchanged and all else kept.
Another baseline changes the reference output and the method of each divergence, and nothing
else. -/
theorem sides_are_symmetric [CaseInputs I] [SymmetricInputs I] (set : ImplementationSet) :
    ImplementationSet.new set.b set.a set.baseline.other = .ok set.swap ∧
    (∀ cases : List (TestCase I), (∀ c ∈ cases, c.OutputsWellFormed) →
      runSuite set.swap cases = (runSuite set cases).mapDivergences Divergence.exchanged) ∧
    (∀ a b : List (TestCase I), (∀ c ∈ a, c.OutputsWellFormed) → (∀ c ∈ b, c.OutputsWellFormed) →
      (compareAligned set a b).Related Divergence.Mirrors (compareAligned set.swap b a)) ∧
    ∀ side : Side,
      (∀ cases : List (TestCase I),
        runSuite (set.withBaseline side) cases =
          (runSuite set cases).mapDivergences (Divergence.rebased (set.withBaseline side)) ∧
        suiteEvents (set.withBaseline side) cases = suiteEvents set cases) ∧
      ∀ a b : List (TestCase I),
        compareAligned (set.withBaseline side) a b =
          (compareAligned set a b).mapDivergences (Divergence.rebased (set.withBaseline side)) :=
  ⟨set.new_swap, fun _ form => runSuite_swap set form,
    fun _ _ first second => compareAligned_swap set first second,
    fun side => ⟨fun cases => ⟨runSuite_withBaseline set side cases,
      suiteEvents_withBaseline set side cases⟩, compareAligned_withBaseline set side⟩⟩

/-- A document with one case, on which the outputs `1` and `2` diverge: seen from the other side the
same case diverges. -/
theorem sides_are_symmetric_one_divergence :
    ∃ document, Document.load (.ofList (oneCaseText "1" "2")) = .ok document ∧
      (∀ c ∈ document.atCases, c.OutputsWellFormed) ∧
      (runSuite .default document.atCases).differences = 1 ∧
      runSuite (ImplementationSet.swap .default) document.atCases =
        (runSuite .default document.atCases).mapDivergences Divergence.exchanged := by
  obtain ⟨document, loaded, diverges⟩ := exists_diverging_oneCase
  obtain ⟨root, parsed, -, readAt⟩ := Document.load_eq_ok.mp loaded
  have form := Document.outputsWellFormed_of_casesOf (wellFormed_of_parse parsed) readAt
  exact ⟨document, loaded, form, diverges,
    (sides_are_symmetric .default).2.1 document.atCases form⟩

end Concord
