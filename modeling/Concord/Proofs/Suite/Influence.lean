import Concord.Proofs.Attribution
import Concord.Proofs.Suite.Events
import Concord.Proofs.Suite.Outcome
import Concord.Report
import Mathlib.Logic.Relation

/-!
# What has an influence on a run

Of a case a run takes the operation, the inputs as they are written, and the first output of either
implementation; whether the case is dropped depends on the same outputs. So cases that agree in these
give one outcome and one log, and whatever else is changed in a document, such as timings, results
of other implementations or the order in which the results of the two were recorded, leaves no trace
in the report.
-/

namespace Concord

open Json

section Parts

variable {I : Type} [CaseInputs I]

/-- The divergence with its inputs as they stand in a report. -/
def Divergence.written (d : Divergence I) : Divergence Members where
  caseNumber := d.caseNumber
  operation := d.operation
  inputs := CaseInputs.members Interval.toValue d.inputs
  outputA := d.outputA
  outputB := d.outputB
  baselineOutput := d.baselineOutput
  method := d.method

/-- Divergences that are written alike are one value. -/
theorem Divergence.toValue_congr {d e : Divergence I} (alike : d.written = e.written) :
    d.toValue = e.toValue := by
  simp only [written, mk.injEq] at alike
  obtain ⟨caseNumber, operation, inputs, outputA, outputB, baselineOutput, method⟩ := alike
  simp only [toValue, caseNumber, operation, inputs, outputA, outputB, baselineOutput, method]

/-- The outcome with the inputs of its divergences as they stand in a report. -/
def SuiteOutcome.written (outcome : SuiteOutcome I) : SuiteOutcome Members :=
  outcome.mapDivergences Divergence.written

/-- Two cases agree in what is compared: the operation, the inputs as they are written, and the
first output of either implementation, which both have or both lack. -/
structure TestCase.ComparedAlike (set : ImplementationSet) (c d : TestCase I) : Prop where
  /-- The operation is the same. -/
  operation : c.operation = d.operation
  /-- The inputs are written alike. -/
  inputs : c.inputMembers = d.inputMembers
  /-- The first implementation gave the same first output. -/
  firstOutputA : firstOutput c.results set.a = firstOutput d.results set.a
  /-- The second implementation gave the same first output. -/
  firstOutputB : firstOutput c.results set.b = firstOutput d.results set.b

namespace TestCase.ComparedAlike

variable {set : ImplementationSet} {c d : TestCase I}

/-- Either both cases are kept or both are dropped. -/
theorem answered_eq (alike : c.ComparedAlike set d) : c.answered set = d.answered set := by
  rw [answered, answered, alike.firstOutputA, alike.firstOutputB]

/-- At one position both cases get the same verdict, and a divergence that is written alike. -/
theorem related_comparison (alike : c.ComparedAlike set d) (index : Nat) :
    (Verdict.examined (c.comparison set index)).Related (fun d e => d.written = e.written)
      (.examined (d.comparison set index)) := by
  unfold comparison
  rw [alike.firstOutputA, alike.firstOutputB]
  unfold compareCase
  cases firstOutput d.results set.a with
  | none => exact .missing
  | some outputA =>
    cases firstOutput d.results set.b with
    | none => exact .missing
    | some outputB =>
      cases agree : outputA.agrees outputB with
      | true =>
        simp only [agree, if_true]
        exact .agreed
      | false =>
        simp only [agree, Bool.false_eq_true, if_false]
        have operation : (c.side set.a).operation = (d.side set.a).operation := alike.operation
        have inputs : CaseInputs.members Interval.toValue (c.side set.a).inputs =
            CaseInputs.members Interval.toValue (d.side set.a).inputs := alike.inputs
        refine .diverged ?_
        simp only [Divergence.written, operation, inputs]

end TestCase.ComparedAlike

/-- Lists that are related item by item stay so when the items are numbered. -/
theorem forall₂_zipIdx {α β : Type} {related : α → β → Prop} {xs : List α} {ys : List β}
    (all : List.Forall₂ related xs ys) (start : Nat) :
    List.Forall₂ (fun x y => related x.1 y.1 ∧ x.2 = y.2) (xs.zipIdx start) (ys.zipIdx start) := by
  induction all generalizing start with
  | nil => exact .nil
  | cons first _ ih => exact .cons ⟨first, rfl⟩ (ih (start + 1))

section Suites

variable {set : ImplementationSet} {cases others : List (TestCase I)}
  (alike : List.Forall₂ (TestCase.ComparedAlike set) cases others)

include alike

/-- The cases that are kept correspond. -/
theorem forall₂_filter_answered :
    List.Forall₂ (TestCase.ComparedAlike set) (cases.filter (TestCase.answered set))
      (others.filter (TestCase.answered set)) := by
  apply List.rel_filter _ alike
  intro c d same
  exact Bool.eq_iff_iff.mp same.answered_eq

/-- Suites whose cases agree in what is compared have outcomes that are written alike. -/
theorem related_runSuite [LawfulInputs I] :
    (runSuite set cases).Related (fun d e => d.written = e.written) (runSuite set others) := by
  apply SuiteOutcome.related_ofVerdicts
  rw [verdicts_splitSuite, verdicts_splitSuite, List.forall₂_map_left_iff,
    List.forall₂_map_right_iff]
  refine (forall₂_zipIdx (forall₂_filter_answered alike) 0).imp ?_
  rintro ⟨c, index⟩ ⟨d, position⟩ ⟨same, rfl⟩
  exact ⟨same.related_comparison index, rfl⟩

/-- The same positions are dropped, with the same operations. -/
theorem splitEvents_congr : splitEvents set cases = splitEvents set others := by
  unfold splitEvents
  rw [← List.forall₂_eq_eq_eq]
  refine List.rel_filterMap ?_ (forall₂_zipIdx alike 0)
  rintro ⟨c, index⟩ ⟨d, position⟩ ⟨same, rfl⟩
  simp only [splitCase_eq, same.answered_eq]
  cases d.answered set with
  | true => exact .none
  | false => exact .some (congrArg _ same.operation)

/-- Comparing the suites tells the same. -/
theorem suiteEvents_congr [LawfulInputs I] : suiteEvents set cases = suiteEvents set others := by
  have size := alike.length_eq
  have kept := (forall₂_filter_answered alike).length_eq
  obtain ⟨total, divergences, -, -⟩ := related_runSuite alike
  have differences : (runSuite set cases).differences = (runSuite set others).differences :=
    divergences.length_eq
  rw [suiteEvents_eq, suiteEvents_eq, splitEvents_congr alike, size, kept, total, differences]

end Suites

end Parts

section Edits

/-- One change to the results of a case that no comparison notices. -/
inductive ResultsEdit (set : ImplementationSet) : List TaggedResult → List TaggedResult → Prop
  /-- A result gets other members besides its method and output. -/
  | metadata (before after : List TaggedResult) (result : TaggedResult) (extra : Members) :
      ResultsEdit set (before ++ result :: after) (before ++ { result with extra := extra } :: after)
  /-- A result of neither implementation is removed. -/
  | unclaimed (before after : List TaggedResult) (result : TaggedResult)
      (neither : ∀ side, (set.tag side).claims result.method = false) :
      ResultsEdit set (before ++ result :: after) (before ++ after)
  /-- A result is removed that comes after another one of the same implementation. -/
  | later (before after : List TaggedResult) (result earlier : TaggedResult) (side : Side)
      (first : earlier ∈ before) (claimed : (set.tag side).claims earlier.method = true)
      (again : (set.tag side).claims result.method = true) :
      ResultsEdit set (before ++ result :: after) (before ++ after)
  /-- Results of different implementations that stand side by side change places. -/
  | exchange (before after : List TaggedResult) (left right : TaggedResult) (side : Side)
      (ofSide : (set.tag side).claims left.method = true)
      (ofOther : (set.tag side.other).claims right.method = true) :
      ResultsEdit set (before ++ left :: right :: after) (before ++ right :: left :: after)

/-- The first output among results is that among the first of them, if there is one. -/
theorem firstOutput_append (before after : List TaggedResult) (tag : Tag) :
    firstOutput (before ++ after) tag = (firstOutput before tag).or (firstOutput after tag) := by
  rw [firstOutput, List.find?_append]
  cases found : before.find? fun result => tag.claims result.method <;>
    simp [firstOutput, found]

/-- The first output of a list is that of its first result or among the others. -/
theorem firstOutput_cons (result : TaggedResult) (after : List TaggedResult) (tag : Tag) :
    firstOutput (result :: after) tag =
      if tag.claims result.method then some result.output else firstOutput after tag := by
  cases claimed : tag.claims result.method <;> simp [firstOutput, claimed]

/-- A result of an implementation gives it a first output. -/
theorem isSome_firstOutput {results : List TaggedResult} {result : TaggedResult} {tag : Tag}
    (there : result ∈ results) (claimed : tag.claims result.method = true) :
    (firstOutput results tag).isSome = true := by
  rw [firstOutput, Option.isSome_map, List.find?_isSome]
  exact ⟨result, there, claimed⟩

/-- A change that no comparison notices keeps the first outputs. -/
theorem ResultsEdit.firstOutput_eq {set : ImplementationSet} {results others : List TaggedResult}
    (edit : ResultsEdit set results others) (side : Side) :
    firstOutput results (set.tag side) = firstOutput others (set.tag side) := by
  cases edit with
  | metadata before after result extra =>
    rw [firstOutput_append, firstOutput_append, firstOutput_cons, firstOutput_cons]
  | unclaimed before after result neither =>
    rw [firstOutput_append, firstOutput_append, firstOutput_cons, neither side]
    rfl
  | later before after result earlier owner first claimed again =>
    rw [firstOutput_append, firstOutput_append, firstOutput_cons]
    by_cases same : side = owner
    · obtain ⟨output, found⟩ :=
        Option.isSome_iff_exists.mp (isSome_firstOutput first claimed)
      rw [same, found]
      rfl
    · rw [set.claims_eq_false_of_ne same again]
      rfl
  | exchange before after left right owner ofSide ofOther =>
    rw [firstOutput_append, firstOutput_append]
    by_cases same : side = owner
    · have notRight : (set.tag side).claims right.method = false :=
        set.claims_eq_false_of_ne (by cases owner <;> simp [same, Side.other]) ofOther
      simp only [firstOutput_cons, notRight, Bool.false_eq_true, if_false]
    · have notLeft : (set.tag side).claims left.method = false :=
        set.claims_eq_false_of_ne same ofSide
      simp only [firstOutput_cons, notLeft, Bool.false_eq_true, if_false]

/-- Any number of such changes, made or undone, keeps the first outputs. -/
theorem firstOutput_eq_of_edits {set : ImplementationSet} {results others : List TaggedResult}
    (edits : Relation.EqvGen (ResultsEdit set) results others) (side : Side) :
    firstOutput results (set.tag side) = firstOutput others (set.tag side) := by
  induction edits with
  | rel _ _ edit => exact edit.firstOutput_eq side
  | refl => rfl
  | symm _ _ _ ih => exact ih.symm
  | trans _ _ _ _ _ first second => exact first.trans second

/-- The second case is the first one with other metadata, and with other results of which the
comparison notices nothing. -/
structure TestCase.EditedAside {I : Type} (set : ImplementationSet) (c d : TestCase I) : Prop where
  /-- The operation is kept. -/
  operation : c.operation = d.operation
  /-- The inputs are kept. -/
  inputs : c.inputs = d.inputs
  /-- The results are changed without notice. -/
  results : Relation.EqvGen (ResultsEdit set) c.results d.results

/-- A case that is changed without notice agrees in what is compared. -/
theorem TestCase.EditedAside.comparedAlike {I : Type} [CaseInputs I] {set : ImplementationSet}
    {c d : TestCase I} (edited : c.EditedAside set d) : c.ComparedAlike set d where
  operation := edited.operation
  inputs := by rw [inputMembers, inputMembers, edited.inputs]
  firstOutputA := firstOutput_eq_of_edits edited.results .a
  firstOutputB := firstOutput_eq_of_edits edited.results .b

/-- The cases of the second document are those of the first, changed without notice. -/
structure Document.EditedAside (set : ImplementationSet) (x y : Document) : Prop where
  /-- The cases of the first suite. -/
  binaryCases : List.Forall₂ (TestCase.EditedAside set) x.binaryCases y.binaryCases
  /-- The cases of the second suite. -/
  atCases : List.Forall₂ (TestCase.EditedAside set) x.atCases y.atCases

end Edits

section Reports

variable {I : Type} [CaseInputs I]

/-- Outcomes whose divergences are written alike are written alike. -/
theorem SuiteOutcome.Related.written_eq {first second : SuiteOutcome I}
    (related : first.Related (fun d e => d.written = e.written) second) :
    first.written = second.written := by
  have divergences : first.divergences.map Divergence.written =
      second.divergences.map Divergence.written := by
    rw [← List.forall₂_eq_eq_eq, List.forall₂_map_left_iff, List.forall₂_map_right_iff]
    exact related.divergences
  simp only [written, mapDivergences, related.totalCases, divergences, related.mismatched,
    related.missing]

/-- Outcomes whose divergences are written alike have the same summary, and their divergences are
the same values. -/
theorem SuiteOutcome.Related.toValue_eq {first second : SuiteOutcome I}
    (related : first.Related (fun d e => d.written = e.written) second) :
    SuiteSummary.ofOutcome first = SuiteSummary.ofOutcome second ∧
      first.divergences.map Divergence.toValue = second.divergences.map Divergence.toValue := by
  have differences : first.differences = second.differences := related.divergences.length_eq
  constructor
  · rw [SuiteSummary.ofOutcome, SuiteSummary.ofOutcome, related.totalCases, differences]
  · rw [← List.forall₂_eq_eq_eq, List.forall₂_map_left_iff, List.forall₂_map_right_iff]
    exact related.divergences.imp fun _ _ alike => Divergence.toValue_congr alike

/-- Runs whose divergences are written alike have one report. -/
theorem Report.text_congr {first second : RunOutcome}
    (binary : first.binary.Related (fun d e => d.written = e.written) second.binary)
    (atSuite : first.atSuite.Related (fun d e => d.written = e.written) second.atSuite) :
    (Report.ofOutcome first).text = (Report.ofOutcome second).text := by
  obtain ⟨binarySummary, binaryDifferences⟩ := binary.toValue_eq
  obtain ⟨atSummary, atDifferences⟩ := atSuite.toValue_eq
  simp only [text, toValue, ofOutcome, binarySummary, binaryDifferences, atSummary, atDifferences]

end Reports

/-- Only what is compared has an influence: suites whose cases agree pairwise in operation, written
inputs and the first output of either implementation have one outcome and one log. So a document
whose cases get other metadata, other results of neither implementation, other later results, or
their results in another interleaving has the same report and the same log. -/
theorem only_compared_parts_matter (set : ImplementationSet) :
    (∀ cases others : List (TestCase BinaryInputs),
      List.Forall₂ (TestCase.ComparedAlike set) cases others →
        (runSuite set cases).written = (runSuite set others).written ∧
          logText (suiteEvents set cases) = logText (suiteEvents set others)) ∧
    (∀ cases others : List (TestCase AtInputs),
      List.Forall₂ (TestCase.ComparedAlike set) cases others →
        (runSuite set cases).written = (runSuite set others).written ∧
          logText (suiteEvents set cases) = logText (suiteEvents set others)) ∧
    ∀ document other : Document, document.EditedAside set other →
      (Report.ofOutcome (document.run set)).text = (Report.ofOutcome (other.run set)).text ∧
        logText (document.events set) = logText (other.events set) := by
  refine ⟨fun cases others alike => ?_, fun cases others alike => ?_,
    fun document other edited => ?_⟩
  · exact ⟨(related_runSuite alike).written_eq, congrArg logText (suiteEvents_congr alike)⟩
  · exact ⟨(related_runSuite alike).written_eq, congrArg logText (suiteEvents_congr alike)⟩
  · have binary := edited.binaryCases.imp fun _ _ aside => aside.comparedAlike
    have atSuite := edited.atCases.imp fun _ _ aside => aside.comparedAlike
    constructor
    · exact Report.text_congr (related_runSuite binary) (related_runSuite atSuite)
    · rw [Document.events, Document.events, suiteEvents_congr binary, suiteEvents_congr atSuite]

/-- A case with given results. -/
def caseWith (results : List TaggedResult) : TestCase AtInputs where
  operation := "contains"
  inputs := ⟨⟨.integer 0, .integer 1, false, []⟩, .number (.integer 0)⟩
  results := results
  extra := []

/-- A case that diverges, recorded with a timing, with a result of a third implementation and with
the results of the two in one order, then without these and in the other order. -/
theorem only_compared_parts_matter_one_case :
    let rust : TaggedResult := ⟨"Rust_contains", .bool true, []⟩
    let timed : TaggedResult := { rust with extra := [("avg_time_ns", .number (.integer 12))] }
    let cpp : TaggedResult := ⟨"CPP_contains", .bool false, []⟩
    let third : TaggedResult := ⟨"Go_contains", .null, []⟩
    let full : Document := ⟨[], [caseWith [third, cpp, timed]]⟩
    let bare : Document := ⟨[], [caseWith [rust, cpp]]⟩
    full.EditedAside .default bare ∧
      List.Forall₂ (TestCase.ComparedAlike .default) full.atCases bare.atCases ∧
      (runSuite .default full.atCases).differences = 1 ∧
      (runSuite .default full.atCases).written = (runSuite .default bare.atCases).written ∧
      (Report.ofOutcome (full.run .default)).text = (Report.ofOutcome (bare.run .default)).text := by
  intro rust timed cpp third full bare
  have noThird : ∀ side, (ImplementationSet.default.tag side).claims third.method = false := by
    intro side
    cases side <;> decide +kernel
  have withoutThird : ResultsEdit .default [third, cpp, timed] [cpp, timed] :=
    .unclaimed [] [cpp, timed] third noThird
  have untimed : ResultsEdit .default [cpp, timed] [cpp, rust] :=
    .metadata [cpp] [] timed []
  have exchanged : ResultsEdit .default [cpp, rust] [rust, cpp] :=
    .exchange [] [] cpp rust .b (by decide +kernel) (by decide +kernel)
  have results : Relation.EqvGen (ResultsEdit .default) [third, cpp, timed] [rust, cpp] :=
    .trans _ _ _ (.rel _ _ withoutThird) (.trans _ _ _ (.rel _ _ untimed) (.rel _ _ exchanged))
  have aside : (caseWith [third, cpp, timed]).EditedAside .default (caseWith [rust, cpp]) :=
    ⟨rfl, rfl, results⟩
  have edited : full.EditedAside .default bare := ⟨.nil, .cons aside .nil⟩
  have alike := edited.atCases.imp fun _ _ one => one.comparedAlike
  have diverges : (runSuite .default full.atCases).differences = 1 := by decide +kernel
  obtain ⟨-, atSuite, report⟩ := only_compared_parts_matter .default
  exact ⟨edited, alike, diverges, (atSuite _ _ alike).1, (report full bare edited).1⟩

end Concord
