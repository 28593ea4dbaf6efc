import Concord.Divergence
import Concord.LogEvent

/-!
# Aligned comparison

Two lists of cases are compared position by position, as far as both reach. Before the outputs at a
position are compared the two cases must describe the same operation on the same inputs. The
`Verdict` on each position determines both the outcome and what is told about it.
-/

namespace Concord

open Json

/-- What became of one position. -/
inductive Verdict (I : Type) where
  /-- The cases at the position differ. -/
  | mismatched
  /-- The outputs were compared, or one was absent. -/
  | examined (comparison : Comparison I)

/-- The outcome of comparing one suite. -/
structure SuiteOutcome (I : Type) where
  /-- How many cases had their outputs compared. -/
  totalCases : Nat
  /-- The cases whose outputs differ, in order. -/
  divergences : List (Divergence I)
  /-- The positions where the cases differ. -/
  mismatched : List Nat
  /-- The positions where an output is absent. -/
  missing : List Nat

namespace SuiteOutcome

variable {I : Type}

/-- How many cases diverge. -/
def differences (outcome : SuiteOutcome I) : Nat := outcome.divergences.length

/-- How many positions were not compared. -/
def skipped (outcome : SuiteOutcome I) : Nat :=
  outcome.mismatched.length + outcome.missing.length

end SuiteOutcome

namespace Verdict

variable {I : Type}

/-- Whether outputs were compared. -/
def isCompared : Verdict I → Bool
  | .examined .agreed => true
  | .examined (.diverged _) => true
  | _ => false

/-- The divergence found, if any. -/
def divergence? : Verdict I → Option (Divergence I)
  | .examined (.diverged d) => some d
  | _ => none

/-- Whether the cases differ. -/
def isMismatched : Verdict I → Bool
  | .mismatched => true
  | _ => false

/-- Whether an output is absent. -/
def isMissing : Verdict I → Bool
  | .examined .missing => true
  | _ => false

/-- What is told about a position. -/
def event? (suite : Suite) (index : Nat) : Verdict I → Option LogEvent
  | .mismatched => some (.mismatched suite index)
  | .examined .missing => some (.missing suite index)
  | _ => none

end Verdict

variable {I : Type} [CaseInputs I]

/-- The verdict on the cases at a position. -/
def verdict (set : ImplementationSet) (index : Nat) (a b : TestCase I) : Verdict I :=
  if a.same b then
    .examined (compareCase set index a (firstOutput a.results set.a) (firstOutput b.results set.b))
  else
    .mismatched

/-- The verdicts on all positions that both lists reach, with the positions. -/
def verdicts (set : ImplementationSet) (a b : List (TestCase I)) : List (Verdict I × Nat) :=
  (a.zip b).zipIdx.map fun (pair, index) => (verdict set index pair.1 pair.2, index)

/-- The outcome that verdicts amount to. -/
def SuiteOutcome.ofVerdicts (verdicts : List (Verdict I × Nat)) : SuiteOutcome I where
  totalCases := verdicts.countP fun v => v.1.isCompared
  divergences := verdicts.filterMap fun v => v.1.divergence?
  mismatched := (verdicts.filter fun v => v.1.isMismatched).map Prod.snd
  missing := (verdicts.filter fun v => v.1.isMissing).map Prod.snd

/-- Compares two lists of cases position by position. -/
def compareAligned (set : ImplementationSet) (a b : List (TestCase I)) : SuiteOutcome I :=
  .ofVerdicts (verdicts set a b)

/-- What the comparison tells: whether one list is longer, then each position it skips. -/
def alignmentEvents (set : ImplementationSet) (a b : List (TestCase I)) : List LogEvent :=
  let suite := CaseInputs.suite I
  (if a.length = b.length then [] else [.lengthsDiffer suite a.length b.length]) ++
    (verdicts set a b).filterMap fun v => v.1.event? suite v.2

end Concord
