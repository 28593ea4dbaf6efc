import Concord.Alignment
import Mathlib.Data.List.Forall2

/-!
# Outcomes of two comparisons

Two comparisons that give verdicts of the same kind at every position have the same totals and skip
the same positions; their divergences correspond one by one. So whatever relates two comparisons is
shown for one position, and holds of their outcomes.
-/

namespace Concord

variable {I J : Type}

/-- Two verdicts of one kind; if both are divergences these are related. -/
inductive Verdict.Related (related : Divergence I → Divergence J → Prop) :
    Verdict I → Verdict J → Prop
  | mismatched : Related related .mismatched .mismatched
  | agreed : Related related (.examined .agreed) (.examined .agreed)
  | diverged {d : Divergence I} {e : Divergence J} (both : related d e) :
      Related related (.examined (.diverged d)) (.examined (.diverged e))
  | missing : Related related (.examined .missing) (.examined .missing)

namespace SuiteOutcome

/-- Two outcomes with the same totals that skip the same positions, and whose divergences are
related one by one. -/
structure Related (related : Divergence I → Divergence J → Prop) (first : SuiteOutcome I)
    (second : SuiteOutcome J) : Prop where
  /-- As many cases were compared. -/
  totalCases : first.totalCases = second.totalCases
  /-- The divergences are related in order. -/
  divergences : List.Forall₂ related first.divergences second.divergences
  /-- The cases differ at the same positions. -/
  mismatched : first.mismatched = second.mismatched
  /-- Outputs are absent at the same positions. -/
  missing : first.missing = second.missing

/-- The outcome with every divergence changed. -/
def mapDivergences (change : Divergence I → Divergence J) (outcome : SuiteOutcome I) :
    SuiteOutcome J :=
  ⟨outcome.totalCases, outcome.divergences.map change, outcome.mismatched, outcome.missing⟩

/-- Outcomes whose divergences are changed one by one. -/
theorem Related.eq_mapDivergences {change : Divergence I → Divergence J} {first : SuiteOutcome I}
    {second : SuiteOutcome J} (all : first.Related (fun d e => change d = e) second) :
    second = first.mapDivergences change := by
  have divergences : first.divergences.map change = second.divergences := by
    rw [← List.forall₂_eq_eq_eq, List.forall₂_map_left_iff]
    exact all.divergences
  cases second
  simp only [mapDivergences, mk.injEq]
  exact ⟨all.totalCases.symm, divergences.symm, all.mismatched.symm, all.missing.symm⟩

/-- Verdicts that are related position by position amount to related outcomes. -/
theorem related_ofVerdicts {related : Divergence I → Divergence J → Prop}
    {verdicts : List (Verdict I × Nat)} {others : List (Verdict J × Nat)}
    (all : List.Forall₂ (fun v w => v.1.Related related w.1 ∧ v.2 = w.2) verdicts others) :
    (ofVerdicts verdicts).Related related (ofVerdicts others) := by
  induction all with
  | nil => exact ⟨rfl, .nil, rfl, rfl⟩
  | @cons v w verdicts others first _ ih =>
    obtain ⟨verdict, position⟩ := v
    obtain ⟨other, place⟩ := w
    obtain ⟨kind, rfl⟩ := first
    obtain ⟨totalCases, divergences, mismatched, missing⟩ := ih
    simp only [ofVerdicts] at totalCases divergences mismatched missing
    -- Whatever the kind, both verdicts add to the same parts of their outcomes.
    cases kind
    all_goals
      constructor <;> simp_all [ofVerdicts, Verdict.isCompared, Verdict.divergence?,
        Verdict.isMismatched, Verdict.isMissing]

end SuiteOutcome

end Concord
