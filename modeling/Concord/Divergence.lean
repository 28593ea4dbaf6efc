import Concord.Implementation
import Concord.TestCase

/-!
# Divergences

Two outputs of one case either agree or diverge. A `Divergence` records a case on which the
implementations disagree: what was computed from which inputs, both outputs, and which of them
counts as the reference.
-/

namespace Concord

open Json

/-- The output of the first result whose method begins with the prefix of the tag. -/
def firstOutput (results : List TaggedResult) (tag : Tag) : Option Value :=
  (results.find? fun result => tag.claims result.method).map TaggedResult.output

/-- A case on which the two implementations disagree. -/
structure Divergence (I : Type) where
  /-- The position of the case among those that both implementations answered. -/
  caseNumber : Nat
  /-- The operation. -/
  operation : String
  /-- Its inputs. -/
  inputs : I
  /-- The output of the first implementation. -/
  outputA : Value
  /-- The output of the second implementation. -/
  outputB : Value
  /-- The output of the baseline. -/
  baselineOutput : Value
  /-- The name of the implementation that is checked, and the operation. -/
  method : String

/-- The divergence as a value, its members in their order of declaration. -/
def Divergence.toValue {I : Type} [CaseInputs I] (d : Divergence I) : Value :=
  .object ([("case_number", .number (.integer d.caseNumber)), ("operation", .string d.operation)] ++
    CaseInputs.members Interval.toValue d.inputs ++
    [("output_a", d.outputA), ("output_b", d.outputB), ("baseline_output", d.baselineOutput),
      ("method", .string d.method)])

/-- The result of comparing the outputs of one case. -/
inductive Comparison (I : Type) where
  /-- Both implementations gave the same output. -/
  | agreed
  /-- The outputs differ. -/
  | diverged (divergence : Divergence I)
  /-- An implementation gave no output. -/
  | missing

/-- Compares the outputs that the implementations gave for one case. -/
def compareCase {I : Type} (set : ImplementationSet) (caseNumber : Nat) (testCase : TestCase I)
    (outputA outputB : Option Value) : Comparison I :=
  match outputA, outputB with
  | some outputA, some outputB =>
    if outputA.agrees outputB then .agreed
    else .diverged {
      caseNumber := caseNumber
      operation := testCase.operation
      inputs := testCase.inputs
      outputA := outputA
      outputB := outputB
      baselineOutput :=
        match set.baseline with
        | .a => outputA
        | .b => outputB
      method := (set.tag set.subject).name ++ "_" ++ testCase.operation }
  | _, _ => .missing

end Concord
