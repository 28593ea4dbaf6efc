import Concord.Proofs.Json.Sameness
import Concord.SuiteRun

/-!
# The sides of a split suite

Splitting keeps exactly the cases that both implementations answered, and the two copies of a kept
case differ in their results only. So at every position of a split suite the identity check passes
and both first outputs are there: they are the first outputs of the case that was split.
-/

namespace Concord

/-- Checking identity never refuses a case beside a copy of itself. -/
class LawfulInputs (I : Type) [CaseInputs I] : Prop where
  /-- Inputs are the same as themselves. -/
  same_self : ∀ inputs : I, CaseInputs.same inputs inputs = true

/-- An interval is the same as itself. -/
@[simp]
theorem Interval.same_self (i : Interval) : i.same i = true := by
  simp [Interval.same, Json.sameMembers_self]

instance : LawfulInputs BinaryInputs where
  same_self inputs := by simp [CaseInputs.same]

instance : LawfulInputs AtInputs where
  same_self inputs := by simp [CaseInputs.same]

/-- Keeping the results of an implementation keeps its first output. -/
theorem firstOutput_resultsOf (tag : Tag) (results : List TaggedResult) :
    firstOutput (resultsOf tag results) tag = firstOutput results tag := by
  simp [firstOutput, resultsOf]

/-- An implementation has results exactly when it has a first output. -/
theorem resultsOf_isEmpty (tag : Tag) (results : List TaggedResult) :
    (resultsOf tag results).isEmpty = !(firstOutput results tag).isSome := by
  induction results with
  | nil => rfl
  | cons result rest ih =>
    cases claimed : tag.claims result.method with
    | true => simp [resultsOf, firstOutput, claimed]
    | false => simpa [resultsOf, firstOutput, claimed] using ih

variable {I : Type}

namespace TestCase

/-- Whether both implementations answered the case. -/
def answered (set : ImplementationSet) (c : TestCase I) : Bool :=
  (firstOutput c.results set.a).isSome && (firstOutput c.results set.b).isSome

/-- The copy of the case with the results of one implementation. -/
def side (tag : Tag) (c : TestCase I) : TestCase I := c.withResults (resultsOf tag c.results)

/-- The comparison of the first outputs of the case, at a position of the split suite. -/
def comparison (set : ImplementationSet) (index : Nat) (c : TestCase I) : Comparison I :=
  compareCase set index (c.side set.a) (firstOutput c.results set.a) (firstOutput c.results set.b)

/-- The copies of one case for any two implementations describe the same operation on the same
inputs. -/
theorem same_side [CaseInputs I] [LawfulInputs I] (left right : Tag) (c : TestCase I) :
    (c.side left).same (c.side right) = true := by
  simp [same, side, withResults, LawfulInputs.same_self]

end TestCase

/-- A case without results of one of the implementations is not answered. -/
theorem TestCase.answered_eq_false_iff {set : ImplementationSet} {c : TestCase I} :
    c.answered set = false ↔ ∃ side, resultsOf (set.tag side) c.results = [] := by
  have lacks (tag : Tag) :
      resultsOf tag c.results = [] ↔ (firstOutput c.results tag).isSome = false := by
    rw [← List.isEmpty_iff, resultsOf_isEmpty, Bool.not_eq_true']
  rw [answered, Bool.and_eq_false_iff]
  constructor
  · rintro (absent | absent)
    · exact ⟨.a, (lacks set.a).mpr absent⟩
    · exact ⟨.b, (lacks set.b).mpr absent⟩
  · rintro ⟨_ | _, empty⟩
    · exact .inl ((lacks set.a).mp empty)
    · exact .inr ((lacks set.b).mp empty)

/-- A case is split into its two sides if both implementations answered it, and dropped else. -/
theorem splitCase_eq (set : ImplementationSet) (c : TestCase I) :
    splitCase set c = if c.answered set then some (c.side set.a, c.side set.b) else none := by
  unfold splitCase TestCase.answered TestCase.side
  simp only [resultsOf_isEmpty]
  by_cases first : (firstOutput c.results set.a).isSome
  · by_cases second : (firstOutput c.results set.b).isSome
    · simp [first, second]
    · simp [second]
  · simp [first]

/-- The pairs of a split suite are the sides of the cases that both implementations answered. -/
theorem filterMap_splitCase (set : ImplementationSet) (cases : List (TestCase I)) :
    cases.filterMap (splitCase set) =
      (cases.filter (TestCase.answered set)).map fun c => (c.side set.a, c.side set.b) := by
  induction cases with
  | nil => rfl
  | cons c rest ih =>
    cases answered : c.answered set <;> simp [splitCase_eq, answered, ← ih]

/-- Both lists of a split suite come from the same answered cases, in their order. -/
theorem splitSuite_eq (set : ImplementationSet) (cases : List (TestCase I)) :
    splitSuite set cases =
      ⟨(cases.filter (TestCase.answered set)).map (TestCase.side set.a),
        (cases.filter (TestCase.answered set)).map (TestCase.side set.b)⟩ := by
  simp [splitSuite, filterMap_splitCase, Function.comp_def]

variable [CaseInputs I] [LawfulInputs I]

/-- The sides of a case are compared by the first outputs of the case itself. -/
theorem verdict_side (set : ImplementationSet) (index : Nat) (c : TestCase I) :
    verdict set index (c.side set.a) (c.side set.b) = .examined (c.comparison set index) := by
  have outputs (tag : Tag) : firstOutput (c.side tag).results tag = firstOutput c.results tag :=
    firstOutput_resultsOf tag c.results
  simp [verdict, TestCase.same_side, TestCase.comparison, outputs]

/-- The verdicts on a split suite, one for each answered case. -/
theorem verdicts_splitSuite (set : ImplementationSet) (cases : List (TestCase I)) :
    verdicts set (splitSuite set cases).a (splitSuite set cases).b =
      (cases.filter (TestCase.answered set)).zipIdx.map fun (c, index) =>
        (.examined (c.comparison set index), index) := by
  simp [splitSuite_eq, verdicts, List.zip_map', List.zipIdx_map, verdict_side,
    Function.comp_def]

end Concord
