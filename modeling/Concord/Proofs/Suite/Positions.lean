import Concord.Alignment
import Concord.Proofs.LogText
import Mathlib.Data.List.Range

/-!
# The positions of an aligned comparison

Any two lists of cases can be compared, whether or not they come from one split suite. Each position
that both lists reach falls into one of three classes: the cases differ, or they do not and an
output is absent, or both outputs are there and are compared. Every part of the outcome lists or
counts the positions whose verdict is of some kind, so all parts follow from one description of the
verdicts. The warnings name the positions of the first two classes, in their order.
-/

namespace Concord

open Json

variable {I : Type}

/-- The positions whose verdict is of a kind, in their order. -/
def positionsOf (kind : Verdict I → Bool) (verdicts : List (Verdict I × Nat)) : List Nat :=
  (verdicts.filter fun v => kind v.1).map Prod.snd

namespace Verdict

/-- Whether the outputs were compared and differ. -/
def isDiverged (v : Verdict I) : Bool := v.divergence?.isSome

/-- Whether nothing was compared. -/
def isSkipped (v : Verdict I) : Bool := v.isMismatched || v.isMissing

/-- What is told about a position that was skipped: that the cases differ if they do, and that an
output is absent otherwise. -/
theorem event?_eq (suite : Suite) (index : Nat) (v : Verdict I) :
    v.event? suite index =
      if v.isSkipped then
        some (if v.isMismatched then .mismatched suite index else .missing suite index)
      else none := by
  cases v with
  | mismatched => rfl
  | examined comparison => cases comparison <;> rfl

/-- Outputs were compared exactly when the position was not skipped. -/
theorem isCompared_eq (v : Verdict I) : v.isCompared = !v.isSkipped := by
  cases v with
  | mismatched => rfl
  | examined comparison => cases comparison <;> rfl

/-- An output is absent exactly when the position was skipped though the cases do not differ. -/
theorem isMissing_eq (v : Verdict I) : v.isMissing = (v.isSkipped && !v.isMismatched) := by
  cases v with
  | mismatched => rfl
  | examined comparison => cases comparison <;> rfl

end Verdict

section Kinds

variable {verdicts : List (Verdict I × Nat)} {kind other : Verdict I → Bool}

/-- The positions of a kind are in order if all positions are. -/
theorem pairwise_positionsOf (ordered : (verdicts.map Prod.snd).Pairwise (· < ·)) :
    (positionsOf kind verdicts).Pairwise (· < ·) :=
  ordered.sublist (List.filter_sublist.map Prod.snd)

/-- A position of a kind bears a verdict of that kind. -/
theorem mem_positionsOf {index : Nat} :
    index ∈ positionsOf kind verdicts ↔ ∃ v, (v, index) ∈ verdicts ∧ kind v = true := by
  simp only [positionsOf, List.mem_map, List.mem_filter, Prod.exists, exists_eq_right]

/-- The positions of a kind and of its opposite are all positions. -/
theorem positionsOf_append_perm (kind : Verdict I → Bool) (verdicts : List (Verdict I × Nat)) :
    (positionsOf kind verdicts ++ positionsOf (fun v => !kind v) verdicts).Perm
      (verdicts.map Prod.snd) := by
  have halves := List.filter_append_perm (fun v : Verdict I × Nat => kind v.1) verdicts
  have positions := halves.map Prod.snd
  rw [List.map_append] at positions
  exact positions

/-- The positions that were skipped are those where the cases differ and those where an output is
absent. -/
theorem skipped_perm (verdicts : List (Verdict I × Nat)) :
    (positionsOf Verdict.isMismatched verdicts ++ positionsOf Verdict.isMissing verdicts).Perm
      (positionsOf Verdict.isSkipped verdicts) := by
  -- Among the skipped positions alone, the two kinds are opposite.
  let skipped := verdicts.filter fun v => v.1.isSkipped
  have differing : positionsOf Verdict.isMismatched skipped =
      positionsOf Verdict.isMismatched verdicts := by
    rw [positionsOf, positionsOf, List.filter_filter]
    refine congrArg (List.map Prod.snd) (List.filter_congr fun v _ => ?_)
    cases differs : v.1.isMismatched <;> simp [Verdict.isSkipped, differs]
  have absent : positionsOf (fun v => !v.isMismatched) skipped =
      positionsOf Verdict.isMissing verdicts := by
    rw [positionsOf, positionsOf, List.filter_filter]
    refine congrArg (List.map Prod.snd) (List.filter_congr fun v _ => ?_)
    rw [Verdict.isMissing_eq, Bool.and_comm]
  have both := positionsOf_append_perm Verdict.isMismatched skipped
  rw [differing, absent] at both
  exact both

/-- Every position was skipped or compared. -/
theorem classes_perm (verdicts : List (Verdict I × Nat)) :
    (positionsOf Verdict.isMismatched verdicts ++ positionsOf Verdict.isMissing verdicts ++
      positionsOf Verdict.isCompared verdicts).Perm (verdicts.map Prod.snd) := by
  have compared : positionsOf Verdict.isCompared verdicts =
      positionsOf (fun v => !v.isSkipped) verdicts := by
    simp only [positionsOf, Verdict.isCompared_eq]
  rw [compared]
  exact ((skipped_perm verdicts).append_right _).trans
    (positionsOf_append_perm Verdict.isSkipped verdicts)

end Kinds

section Verdicts

variable [CaseInputs I]

/-- The verdicts stand at the positions that both lists reach. -/
theorem map_snd_verdicts (set : ImplementationSet) (a b : List (TestCase I)) :
    (verdicts set a b).map Prod.snd = List.range (min a.length b.length) := by
  have positions : (verdicts set a b).map Prod.snd = (a.zip b).zipIdx.map Prod.snd := by
    rw [verdicts, List.map_map]
    rfl
  rw [positions, List.zipIdx_map_snd, List.length_zip, List.range_eq_range']

/-- The verdicts stand in the order of their positions. -/
theorem pairwise_verdicts (set : ImplementationSet) (a b : List (TestCase I)) :
    ((verdicts set a b).map Prod.snd).Pairwise (· < ·) := by
  rw [map_snd_verdicts]
  exact List.pairwise_lt_range

/-- The cases of two lists at a position, related in some way. -/
def RelatedAt (related : TestCase I → TestCase I → Prop) (a b : List (TestCase I)) (index : Nat) :
    Prop :=
  ∃ c d, a[index]? = some c ∧ b[index]? = some d ∧ related c d

/-- The verdict at a position is the verdict on the cases there. -/
theorem mem_verdicts {set : ImplementationSet} {a b : List (TestCase I)} {v : Verdict I}
    {index : Nat} :
    (v, index) ∈ verdicts set a b ↔ RelatedAt (fun c d => verdict set index c d = v) a b index := by
  simp only [verdicts, List.mem_map, Prod.exists, Prod.mk.injEq, List.mem_zipIdx_iff_getElem?,
    RelatedAt, List.getElem?_zip_eq_some]
  constructor
  · rintro ⟨c, d, position, ⟨first, second⟩, judged, rfl⟩
    exact ⟨c, d, first, second, judged⟩
  · rintro ⟨c, d, first, second, judged⟩
    exact ⟨c, d, index, ⟨first, second⟩, judged, rfl⟩

/-- A position bears a verdict of a kind exactly when the verdict on its cases is of that kind. -/
theorem mem_positionsOf_verdicts {set : ImplementationSet} {a b : List (TestCase I)}
    {kind : Verdict I → Bool} {index : Nat} :
    index ∈ positionsOf kind (verdicts set a b) ↔
      RelatedAt (fun c d => kind (verdict set index c d) = true) a b index := by
  rw [mem_positionsOf]
  constructor
  · rintro ⟨v, there, isKind⟩
    obtain ⟨c, d, first, second, rfl⟩ := mem_verdicts.mp there
    exact ⟨c, d, first, second, isKind⟩
  · rintro ⟨c, d, first, second, isKind⟩
    exact ⟨_, mem_verdicts.mpr ⟨c, d, first, second, rfl⟩, isKind⟩

end Verdicts

section Classes

variable [CaseInputs I] {set : ImplementationSet} {index : Nat} {c d : TestCase I}

/-- Two cases do not describe the same operation on the same inputs. -/
def Unlike (c d : TestCase I) : Prop := c.same d = false

/-- Two cases describe the same operation on the same inputs, and an output is absent. -/
def LacksOutput (set : ImplementationSet) (c d : TestCase I) : Prop :=
  c.same d = true ∧ (firstOutput c.results set.a = none ∨ firstOutput d.results set.b = none)

/-- Two cases describe the same operation on the same inputs, and their outputs are there and
related in some way. -/
def HasOutputs (set : ImplementationSet) (related : Value → Value → Prop) (c d : TestCase I) :
    Prop :=
  c.same d = true ∧ ∃ x y, firstOutput c.results set.a = some x ∧
    firstOutput d.results set.b = some y ∧ related x y

/-- Two cases describe the same operation on the same inputs, and both outputs are there. -/
def Comparable (set : ImplementationSet) : TestCase I → TestCase I → Prop :=
  HasOutputs set fun _ _ => True

/-- Two cases describe the same operation on the same inputs, and their outputs do not agree. -/
def Disagree (set : ImplementationSet) : TestCase I → TestCase I → Prop :=
  HasOutputs set fun x y => x.agrees y = false

/-- The cases differ exactly when they do not describe the same operation on the same inputs. -/
theorem isMismatched_verdict : (verdict set index c d).isMismatched = true ↔ Unlike c d := by
  cases same : c.same d <;> simp [verdict, Verdict.isMismatched, Unlike, same]

/-- Any other kind of verdict is for cases that do not differ, and depends on their outputs. -/
theorem kind_verdict {kind : Verdict I → Bool} (other : kind .mismatched = false) :
    kind (verdict set index c d) = true ↔ c.same d = true ∧
      kind (.examined (compareCase set index c (firstOutput c.results set.a)
        (firstOutput d.results set.b))) = true := by
  cases same : c.same d <;> simp [verdict, same, other]

/-- An output counts as absent exactly when the cases do not differ and one has no first output. -/
theorem isMissing_verdict : (verdict set index c d).isMissing = true ↔ LacksOutput set c d := by
  rw [kind_verdict rfl, LacksOutput]
  refine and_congr_right fun _ => ?_
  cases firstOutput c.results set.a with
  | none => simp [compareCase, Verdict.isMissing]
  | some x =>
    cases firstOutput d.results set.b with
    | none => simp [compareCase, Verdict.isMissing]
    | some y => cases agree : x.agrees y <;> simp [compareCase, Verdict.isMissing, agree]

/-- Outputs are compared exactly when the cases do not differ and both outputs are there. -/
theorem isCompared_verdict : (verdict set index c d).isCompared = true ↔ Comparable set c d := by
  rw [kind_verdict rfl, Comparable, HasOutputs]
  refine and_congr_right fun _ => ?_
  cases firstOutput c.results set.a with
  | none => simp [compareCase, Verdict.isCompared]
  | some x =>
    cases firstOutput d.results set.b with
    | none => simp [compareCase, Verdict.isCompared]
    | some y => cases agree : x.agrees y <;> simp [compareCase, Verdict.isCompared, agree]

/-- There is a divergence exactly when the outputs are compared and do not agree. -/
theorem isDiverged_verdict : (verdict set index c d).isDiverged = true ↔ Disagree set c d := by
  rw [kind_verdict rfl, Disagree, HasOutputs, Verdict.isDiverged]
  refine and_congr_right fun _ => ?_
  cases firstOutput c.results set.a with
  | none => simp [compareCase, Verdict.divergence?]
  | some x =>
    cases firstOutput d.results set.b with
    | none => simp [compareCase, Verdict.divergence?]
    | some y => cases agree : x.agrees y <;> simp [compareCase, Verdict.divergence?, agree]

/-- A divergence bears its position and the outputs that it is about. -/
theorem divergence?_verdict {found : Divergence I}
    (diverged : (verdict set index c d).divergence? = some found) :
    found.caseNumber = index ∧ firstOutput c.results set.a = some found.outputA ∧
      firstOutput d.results set.b = some found.outputB := by
  have isDiverged : (verdict set index c d).isDiverged = true := by
    rw [Verdict.isDiverged, diverged, Option.isSome_some]
  obtain ⟨same, x, y, first, second, apart⟩ := isDiverged_verdict.mp isDiverged
  simp only [verdict, same, if_true, first, second, compareCase, apart, Bool.false_eq_true,
    if_false, Verdict.divergence?, Option.some.injEq] at diverged
  subst diverged
  exact ⟨rfl, first, second⟩

end Classes

section Outcome

variable [CaseInputs I] {set : ImplementationSet} {a b : List (TestCase I)}

/-- A divergence of the outcome comes from the cases at its position. -/
theorem exists_of_mem_divergences {d : Divergence I}
    (diverged : d ∈ (compareAligned set a b).divergences) :
    RelatedAt (fun c e => firstOutput c.results set.a = some d.outputA ∧
      firstOutput e.results set.b = some d.outputB) a b d.caseNumber := by
  obtain ⟨⟨v, index⟩, there, found⟩ := List.mem_filterMap.mp diverged
  obtain ⟨c, e, first, second, rfl⟩ := mem_verdicts.mp there
  obtain ⟨rfl, outputs⟩ := divergence?_verdict found
  exact ⟨c, e, first, second, outputs⟩

/-- The numbers of the divergences are the positions whose outputs do not agree. -/
theorem map_caseNumber_divergences (set : ImplementationSet) (a b : List (TestCase I)) :
    (compareAligned set a b).divergences.map Divergence.caseNumber =
      positionsOf Verdict.isDiverged (verdicts set a b) := by
  show ((verdicts set a b).filterMap fun v => v.1.divergence?).map Divergence.caseNumber = _
  rw [List.map_filterMap, positionsOf, ← List.filterMap_eq_map, ← List.filterMap_eq_filter,
    List.filterMap_filterMap]
  refine List.filterMap_congr fun entry there => ?_
  obtain ⟨v, index⟩ := entry
  obtain ⟨c, d, -, -, rfl⟩ := mem_verdicts.mp there
  cases found : (verdict set index c d).divergence? with
  | none => simp [Verdict.isDiverged, found, Option.guard]
  | some divergence =>
    have number : divergence.caseNumber = index := (divergence?_verdict found).1
    simp [Verdict.isDiverged, found, Option.guard, number]

/-- As many cases are compared as there are positions where outputs were compared. -/
theorem totalCases_eq (set : ImplementationSet) (a b : List (TestCase I)) :
    (compareAligned set a b).totalCases =
      (positionsOf Verdict.isCompared (verdicts set a b)).length := by
  show (verdicts set a b).countP (fun v => v.1.isCompared) = _
  rw [positionsOf, List.length_map, List.countP_eq_length_filter]

/-- The warnings name the positions that were skipped, after one about lists of unequal length. -/
theorem alignmentEvents_eq (set : ImplementationSet) (a b : List (TestCase I)) :
    alignmentEvents set a b =
      (if a.length = b.length then []
        else [.lengthsDiffer (CaseInputs.suite I) a.length b.length]) ++
      (positionsOf Verdict.isSkipped (verdicts set a b)).map fun index =>
        if index ∈ (compareAligned set a b).mismatched then
          .mismatched (CaseInputs.suite I) index
        else .missing (CaseInputs.suite I) index := by
  simp only [alignmentEvents, List.append_cancel_left_eq]
  rw [positionsOf, List.map_map, ← List.filterMap_eq_map, ← List.filterMap_eq_filter,
    List.filterMap_filterMap]
  refine List.filterMap_congr fun entry there => ?_
  obtain ⟨v, index⟩ := entry
  obtain ⟨c, d, first, second, rfl⟩ := mem_verdicts.mp there
  have differing : index ∈ (compareAligned set a b).mismatched ↔
      (verdict set index c d).isMismatched = true := by
    show index ∈ positionsOf Verdict.isMismatched (verdicts set a b) ↔ _
    rw [mem_positionsOf_verdicts]
    simp [RelatedAt, first, second]
  cases skipped : (verdict set index c d).isSkipped <;>
    simp [Verdict.event?_eq, skipped, differing, Option.guard]

/-- Cases at positions that only one of the lists reaches do not count. -/
theorem compareAligned_append (set : ImplementationSet) (a b : List (TestCase I))
    {longer other : List (TestCase I)} (beyond : longer.zip other = []) :
    compareAligned set (a.take (min a.length b.length) ++ longer)
      (b.take (min a.length b.length) ++ other) = compareAligned set a b := by
  have sizes : (a.take (min a.length b.length)).length =
      (b.take (min a.length b.length)).length := by
    simp only [List.length_take]
    omega
  have pairs : (a.take (min a.length b.length) ++ longer).zip
      (b.take (min a.length b.length) ++ other) = a.zip b := by
    rw [List.zip_append sizes, beyond, List.append_nil, ← List.zip_eq_zip_take_min]
  rw [compareAligned, compareAligned, verdicts, verdicts, pairs]

end Outcome

/-- Relations that exclude each other do not hold at one position. -/
theorem RelatedAt.exclude {related other : TestCase I → TestCase I → Prop}
    (apart : ∀ c d, related c d → ¬ other c d) {a b : List (TestCase I)} {index : Nat}
    (first : RelatedAt related a b index) : ¬ RelatedAt other a b index := by
  rintro ⟨c, d, atC, atD, holds⟩
  obtain ⟨c', d', atC', atD', holds'⟩ := first
  obtain rfl := Option.some.inj (atC'.symm.trans atC)
  obtain rfl := Option.some.inj (atD'.symm.trans atD)
  exact apart c' d' holds' holds

section Classified

variable [CaseInputs I]

/-- What the outcome of comparing two lists says of their positions: each is in one of three
classes, and the divergences are in the last one. -/
structure Classified (set : ImplementationSet) (a b : List (TestCase I)) (examined : List Nat) :
    Prop where
  /-- The cases differ at the positions listed so, whether or not an output is absent. -/
  mismatched : ∀ index, index ∈ (compareAligned set a b).mismatched ↔ RelatedAt Unlike a b index
  /-- An output is absent at the positions listed so, and the cases do not differ there. -/
  missing : ∀ index,
    index ∈ (compareAligned set a b).missing ↔ RelatedAt (LacksOutput set) a b index
  /-- The other positions are those where both outputs are there, of cases that do not differ. -/
  compared : ∀ index, index ∈ examined ↔ RelatedAt (Comparable set) a b index
  /-- Every position that both lists reach is in one class, once. -/
  partition : ((compareAligned set a b).mismatched ++ (compareAligned set a b).missing ++
    examined).Perm (List.range (min a.length b.length))
  /-- The positions where outputs were compared are counted. -/
  counted : (compareAligned set a b).totalCases = examined.length
  /-- The divergences are at the positions where the outputs were compared and do not agree. -/
  diverged : ∀ index, index ∈ (compareAligned set a b).divergences.map Divergence.caseNumber ↔
    RelatedAt (Disagree set) a b index
  /-- A divergence holds the outputs at its position. -/
  outputs : ∀ d ∈ (compareAligned set a b).divergences,
    RelatedAt (fun c e => firstOutput c.results set.a = some d.outputA ∧
      firstOutput e.results set.b = some d.outputB) a b d.caseNumber
  /-- The positions of each class are in order, and so are the numbers of the divergences. -/
  ordered : (compareAligned set a b).mismatched.Pairwise (· < ·) ∧
    (compareAligned set a b).missing.Pairwise (· < ·) ∧ examined.Pairwise (· < ·) ∧
    ((compareAligned set a b).divergences.map Divergence.caseNumber).Pairwise (· < ·)
  /-- No position is in two of the lists of the outcome. -/
  disjoint : (compareAligned set a b).mismatched.Disjoint (compareAligned set a b).missing ∧
    (compareAligned set a b).mismatched.Disjoint
      ((compareAligned set a b).divergences.map Divergence.caseNumber) ∧
    (compareAligned set a b).missing.Disjoint
      ((compareAligned set a b).divergences.map Divergence.caseNumber)

/-- The positions of the outcome and those where outputs were compared are classified. -/
theorem classified_positionsOf (set : ImplementationSet) (a b : List (TestCase I)) :
    Classified set a b (positionsOf Verdict.isCompared (verdicts set a b)) := by
  have mismatched (index : Nat) :
      index ∈ (compareAligned set a b).mismatched ↔ RelatedAt Unlike a b index := by
    show index ∈ positionsOf Verdict.isMismatched (verdicts set a b) ↔ _
    simp only [mem_positionsOf_verdicts, isMismatched_verdict]
  have missing (index : Nat) :
      index ∈ (compareAligned set a b).missing ↔ RelatedAt (LacksOutput set) a b index := by
    show index ∈ positionsOf Verdict.isMissing (verdicts set a b) ↔ _
    simp only [mem_positionsOf_verdicts, isMissing_verdict]
  have diverged (index : Nat) :
      index ∈ (compareAligned set a b).divergences.map Divergence.caseNumber ↔
        RelatedAt (Disagree set) a b index := by
    rw [map_caseNumber_divergences]
    simp only [mem_positionsOf_verdicts, isDiverged_verdict]
  have inOrder (kind : Verdict I → Bool) :
      (positionsOf kind (verdicts set a b)).Pairwise (· < ·) :=
    pairwise_positionsOf (pairwise_verdicts set a b)
  refine ⟨mismatched, missing, fun index => ?_, ?_, totalCases_eq set a b, diverged,
    fun d there => exists_of_mem_divergences there, ⟨inOrder _, inOrder _, inOrder _, ?_⟩,
    ⟨fun index first second => ?_, fun index first second => ?_, fun index first second => ?_⟩⟩
  · simp only [mem_positionsOf_verdicts, isCompared_verdict]
  · have classes := classes_perm (verdicts set a b)
    rw [map_snd_verdicts] at classes
    exact classes
  · rw [map_caseNumber_divergences]
    exact inOrder _
  · refine ((mismatched index).mp first).exclude (fun c d unlike lacks => ?_)
      ((missing index).mp second)
    exact Bool.false_ne_true (unlike.symm.trans lacks.1)
  · refine ((mismatched index).mp first).exclude (fun c d unlike disagree => ?_)
      ((diverged index).mp second)
    exact Bool.false_ne_true (unlike.symm.trans disagree.1)
  · refine ((missing index).mp first).exclude (fun c d lacks disagree => ?_)
      ((diverged index).mp second)
    obtain ⟨-, x, y, hasX, hasY, -⟩ := disagree
    rcases lacks.2 with absent | absent <;> simp_all

/-- What the warnings about two lists say: one that the lists are not equally long, and only then,
and one for each position that was skipped, in their order. -/
structure Warned (set : ImplementationSet) (a b : List (TestCase I)) (named : List Nat) :
    Prop where
  /-- The positions are in order. -/
  ordered : named.Pairwise (· < ·)
  /-- They are the positions that were skipped. -/
  skipped : ∀ index, index ∈ named ↔ index ∈ (compareAligned set a b).mismatched ∨
    index ∈ (compareAligned set a b).missing
  /-- As many are skipped as the outcome says. -/
  counted : named.length = (compareAligned set a b).skipped
  /-- The warnings tell of the lengths first and then of each position, what became of it. -/
  events : alignmentEvents set a b =
    (if a.length = b.length then []
      else [.lengthsDiffer (CaseInputs.suite I) a.length b.length]) ++
    named.map fun index =>
      if index ∈ (compareAligned set a b).mismatched then .mismatched (CaseInputs.suite I) index
      else .missing (CaseInputs.suite I) index
  /-- Each takes one line, marked as a warning, in which every character shows. -/
  lines : ∀ event ∈ alignmentEvents set a b, event.level = .warn ∧
    event.line = event.body ++ "\n" ∧ Text.Shows event.body.toList
  /-- The text of the log has these lines and no other. -/
  text : (logText (alignmentEvents set a b)).toList.splitOn '\n' =
    (alignmentEvents set a b).map (fun event => event.body.toList) ++ [[]]

/-- Everything that is told about aligning two lists is a warning. -/
theorem level_of_mem_alignmentEvents {set : ImplementationSet} {a b : List (TestCase I)}
    {event : LogEvent} (told : event ∈ alignmentEvents set a b) : event.level = .warn := by
  rw [alignmentEvents_eq, List.mem_append] at told
  rcases told with lengths | position
  · by_cases equal : a.length = b.length
    · simp [equal] at lengths
    · rw [if_neg equal, List.mem_singleton] at lengths
      rw [lengths]
      rfl
  · obtain ⟨index, -, rfl⟩ := List.mem_map.mp position
    by_cases differ : index ∈ (compareAligned set a b).mismatched
    · rw [if_pos differ]
      rfl
    · rw [if_neg differ]
      rfl

/-- The warnings name the positions that were skipped. -/
theorem warned_positionsOf (set : ImplementationSet) (a b : List (TestCase I)) :
    Warned set a b (positionsOf Verdict.isSkipped (verdicts set a b)) := by
  have classes := skipped_perm (verdicts set a b)
  have fileless (event : LogEvent) (told : event ∈ alignmentEvents set a b) :
      event.level ≠ .info := by
    rw [level_of_mem_alignmentEvents told]
    decide
  refine ⟨pairwise_positionsOf (pairwise_verdicts set a b), fun index => ?_, ?_,
    alignmentEvents_eq set a b, fun event told => ?_, splitOn_logText_of_fileless fileless⟩
  · rw [← classes.mem_iff, List.mem_append]
    rfl
  · rw [← classes.length_eq, List.length_append]
    rfl
  · exact ⟨level_of_mem_alignmentEvents told, LogEvent.line_eq event,
      LogEvent.shows_body_of_fileless (fileless event told)⟩

/-- Comparing any two lists of cases puts each position that both reach into one class: the cases
differ, or an output is absent, or the outputs are compared, and of the latter those that do not
agree are the divergences. The counts of the outcome add up. What one list holds beyond the other
does not matter to it. The warnings tell whether the lists are equally long and name the positions
that were skipped. -/
theorem aligned_comparison_classifies (set : ImplementationSet) (a b : List (TestCase I)) :
    (∃ examined, Classified set a b examined) ∧
    (compareAligned set a b).totalCases + (compareAligned set a b).skipped =
      min a.length b.length ∧
    (compareAligned set a b).differences ≤ (compareAligned set a b).totalCases ∧
    (∃ named, Warned set a b named) ∧
    ∀ longer,
      compareAligned set (a.take (min a.length b.length) ++ longer)
        (b.take (min a.length b.length)) = compareAligned set a b ∧
      compareAligned set (a.take (min a.length b.length))
        (b.take (min a.length b.length) ++ longer) = compareAligned set a b := by
  have classes := classified_positionsOf set a b
  have sizes := classes.partition.length_eq
  refine ⟨⟨_, classes⟩, ?_, ?_, ⟨_, warned_positionsOf set a b⟩, fun longer => ⟨?_, ?_⟩⟩
  · rw [List.length_append, List.length_append, List.length_range, ← classes.counted] at sizes
    rw [SuiteOutcome.skipped]
    omega
  · -- The numbers of the divergences are different positions where outputs were compared.
    have different : ((compareAligned set a b).divergences.map Divergence.caseNumber).Nodup :=
      classes.ordered.2.2.2.imp Nat.ne_of_lt
    have among : (compareAligned set a b).divergences.map Divergence.caseNumber ⊆
        positionsOf Verdict.isCompared (verdicts set a b) := by
      intro index there
      obtain ⟨c, d, atC, atD, same, x, y, first, second, -⟩ := (classes.diverged index).mp there
      exact (classes.compared index).mpr ⟨c, d, atC, atD, same, x, y, first, second, trivial⟩
    have fewer := (different.subperm among).length_le
    rw [List.length_map, ← classes.counted] at fewer
    exact fewer
  · have same := compareAligned_append set a b (List.zip_nil_right (l := longer))
    rw [List.append_nil] at same
    exact same
  · have same := compareAligned_append set a b (List.zip_nil_left (l := longer))
    rw [List.append_nil] at same
    exact same

end Classified

/-- Lists of five and of four cases: the first operations differ, though an output is absent too;
the second output is absent from the second list; then outputs agree, and then they differ. -/
theorem aligned_comparison_classifies_five_cases :
    let case (operation : String) (results : List TaggedResult) : TestCase AtInputs :=
      ⟨operation, ⟨⟨.integer 0, .integer 1, false, []⟩, .null⟩, results, []⟩
    let rust (answer : Bool) : TaggedResult := ⟨"Rust_at", .bool answer, []⟩
    let cpp (answer : Bool) : TaggedResult := ⟨"CPP_at", .bool answer, []⟩
    let a := [case "at" [], case "at" [rust true], case "at" [rust true], case "at" [rust true],
      case "at" [rust true]]
    let b := [case "join" [cpp true], case "at" [], case "at" [cpp true], case "at" [cpp false]]
    (∃ examined, Classified .default a b examined) ∧ (∃ named, Warned .default a b named) ∧
      (compareAligned .default a b).mismatched = [0] ∧
      (compareAligned .default a b).missing = [1] ∧
      (compareAligned .default a b).totalCases = 2 ∧
      (compareAligned .default a b).divergences.map Divergence.caseNumber = [3] ∧
      alignmentEvents .default a b = [.lengthsDiffer .atOperations 5 4,
        .mismatched .atOperations 0, .missing .atOperations 1] := by
  intro case rust cpp a b
  obtain ⟨classes, -, -, warnings, -⟩ :=
    aligned_comparison_classifies (I := AtInputs) .default a b
  exact ⟨classes, warnings, by decide +kernel, by decide +kernel, by decide +kernel,
    by decide +kernel, by decide +kernel⟩

end Concord
