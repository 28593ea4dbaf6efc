import Concord.Proofs.Attribution
import Concord.Proofs.Suite.Trace

/-!
# Splitting is a lossless partition

A case is kept when both implementations answered it. Its two copies carry its results apart, each
in the recorded order, and what neither of them carries belongs to neither implementation. Since no
method belongs to both implementations, splitting the results of the two copies again, one after the
other, gives the same copies, and no copy alone can be split.
-/

namespace Concord

variable {I : Type}

section Results

/-- The results that belong to neither implementation. -/
def unclaimedResults (set : ImplementationSet) (results : List TaggedResult) : List TaggedResult :=
  results.filter fun result => !set.a.claims result.method && !set.b.claims result.method

/-- Results one after the other are attributed one after the other. -/
theorem resultsOf_append (tag : Tag) (results others : List TaggedResult) :
    resultsOf tag (results ++ others) = resultsOf tag results ++ resultsOf tag others :=
  List.filter_append results others

/-- All results of an implementation belong to it. -/
theorem resultsOf_resultsOf (tag : Tag) (results : List TaggedResult) :
    resultsOf tag (resultsOf tag results) = resultsOf tag results := by
  simp only [resultsOf, List.filter_filter, Bool.and_self]

/-- No result of one implementation belongs to another one. -/
theorem resultsOf_resultsOf_of_ne (set : ImplementationSet) {side owner : Side}
    (differ : side ≠ owner) (results : List TaggedResult) :
    resultsOf (set.tag side) (resultsOf (set.tag owner) results) = [] := by
  refine List.filter_eq_nil_iff.mpr fun result there => ?_
  have owned : (set.tag owner).claims result.method = true := (List.mem_filter.mp there).2
  rw [set.claims_eq_false_of_ne differ owned]
  decide

/-- Results parted by the implementation they belong to, each part in their order. -/
structure PartedInto (set : ImplementationSet) (results left right rest : List TaggedResult) :
    Prop where
  /-- Each result is in one part, as often as it was recorded. -/
  whole : (left ++ right ++ rest).Perm results
  /-- Every part keeps the order of the results. -/
  ordered : left.Sublist results ∧ right.Sublist results ∧ rest.Sublist results
  /-- The first part belongs to the first implementation only. -/
  first : ∀ result ∈ left,
    set.a.claims result.method = true ∧ set.b.claims result.method = false
  /-- The second part belongs to the second implementation only. -/
  second : ∀ result ∈ right,
    set.a.claims result.method = false ∧ set.b.claims result.method = true
  /-- The remainder belongs to neither. -/
  neither : ∀ result ∈ rest,
    set.a.claims result.method = false ∧ set.b.claims result.method = false

/-- Attribution parts the results. -/
theorem partedInto_resultsOf (set : ImplementationSet) (results : List TaggedResult) :
    PartedInto set results (resultsOf set.a results) (resultsOf set.b results)
      (unclaimedResults set results) where
  whole := by
    -- What the first implementation does not claim is parted by the second one.
    let others := results.filter fun result => !set.a.claims result.method
    have second : others.filter (fun result => set.b.claims result.method) =
        resultsOf set.b results := by
      rw [List.filter_filter]
      refine List.filter_congr fun result _ => ?_
      have notBoth := set.not_claimed_by_both result.method
      cases claimed : set.a.claims result.method <;>
        cases claimedToo : set.b.claims result.method <;> simp_all
    have neither : others.filter (fun result => !set.b.claims result.method) =
        unclaimedResults set results := by
      rw [List.filter_filter]
      exact List.filter_congr fun result _ => Bool.and_comm _ _
    have halves : (resultsOf set.a results ++ others).Perm results :=
      List.filter_append_perm _ results
    have quarters : (resultsOf set.b results ++ unclaimedResults set results).Perm others := by
      rw [← second, ← neither]
      exact List.filter_append_perm _ others
    rw [List.append_assoc]
    exact (quarters.append_left _).trans halves
  ordered := ⟨List.filter_sublist, List.filter_sublist, List.filter_sublist⟩
  first result there := by
    have claimed : set.a.claims result.method = true := (List.mem_filter.mp there).2
    have other : Side.b ≠ Side.a := by decide
    exact ⟨claimed, set.claims_eq_false_of_ne other claimed⟩
  second result there := by
    have claimed : set.b.claims result.method = true := (List.mem_filter.mp there).2
    have other : Side.a ≠ Side.b := by decide
    exact ⟨set.claims_eq_false_of_ne other claimed, claimed⟩
  neither result there := by
    have unclaimed := (List.mem_filter.mp there).2
    simp only [Bool.and_eq_true, Bool.not_eq_true'] at unclaimed
    exact unclaimed

end Results

section Cases

variable {set : ImplementationSet} {c left right : TestCase I}

/-- Splitting a case gives its two sides if both implementations have results for it. -/
theorem splitCase_eq_some_iff :
    splitCase set c = some (left, right) ↔
      resultsOf set.a c.results ≠ [] ∧ resultsOf set.b c.results ≠ [] ∧
        left = c.side set.a ∧ right = c.side set.b := by
  simp only [splitCase, Option.ite_none_left_eq_some, Bool.or_eq_true, List.isEmpty_iff, not_or,
    Option.some.injEq, Prod.mk.injEq, and_assoc]
  exact and_congr_right fun _ => and_congr_right fun _ => and_congr eq_comm eq_comm

/-- A case cannot be split if one of the implementations has no results for it. -/
theorem splitCase_eq_none (side : Side) (empty : resultsOf (set.tag side) c.results = []) :
    splitCase set c = none := by
  rw [splitCase_eq, TestCase.answered_eq_false_iff.mpr ⟨side, empty⟩, if_neg Bool.false_ne_true]

/-- How two cases come from splitting a third one. -/
structure SplitFrom (set : ImplementationSet) (c left right : TestCase I) : Prop where
  /-- Only the results are replaced. -/
  replaced : left = c.withResults left.results ∧ right = c.withResults right.results
  /-- Both cases have results. -/
  answered : left.results ≠ [] ∧ right.results ≠ []
  /-- The results of the case are parted into theirs and those of neither implementation. -/
  parted : ∃ rest, PartedInto set c.results left.results right.results rest
  /-- Putting the results of the case back restores it. -/
  restored : left.withResults c.results = c ∧ right.withResults c.results = c
  /-- Splitting the results of both cases again, in either order, gives both cases. -/
  again : splitCase set (c.withResults (left.results ++ right.results)) = some (left, right) ∧
    splitCase set (c.withResults (right.results ++ left.results)) = some (left, right)
  /-- Neither case alone can be split. -/
  alone : splitCase set left = none ∧ splitCase set right = none

/-- The sides of an answered case come from splitting it. -/
theorem splitFrom_sides (answered : c.answered set = true) :
    SplitFrom set c (c.side set.a) (c.side set.b) := by
  let a := resultsOf set.a c.results
  let b := resultsOf set.b c.results
  have split : splitCase set c = some (c.side set.a, c.side set.b) := by
    rw [splitCase_eq, if_pos answered]
  obtain ⟨someA, someB, -, -⟩ := splitCase_eq_some_iff.mp split
  -- Neither side adds results to the other one when they are attributed once more.
  have ownA : resultsOf set.a a = a := resultsOf_resultsOf set.a c.results
  have ownB : resultsOf set.b b = b := resultsOf_resultsOf set.b c.results
  have apart : Side.a ≠ Side.b := by decide
  have noneA : resultsOf set.a b = [] := resultsOf_resultsOf_of_ne set apart c.results
  have noneB : resultsOf set.b a = [] := resultsOf_resultsOf_of_ne set apart.symm c.results
  have rejoined {results : List TaggedResult} (toA : resultsOf set.a results = a)
      (toB : resultsOf set.b results = b) :
      splitCase set (c.withResults results) = some (c.side set.a, c.side set.b) := by
    refine splitCase_eq_some_iff.mpr ⟨?_, ?_, ?_, ?_⟩
    · exact toA.trans_ne someA
    · exact toB.trans_ne someB
    · exact congrArg c.withResults toA.symm
    · exact congrArg c.withResults toB.symm
  refine ⟨⟨rfl, rfl⟩, ⟨someA, someB⟩, ⟨_, partedInto_resultsOf set c.results⟩, ⟨rfl, rfl⟩,
    ⟨?_, ?_⟩, splitCase_eq_none .b noneB, splitCase_eq_none .a noneA⟩
  · have toA : resultsOf set.a (a ++ b) = a := by
      rw [resultsOf_append, ownA, noneA, List.append_nil]
    have toB : resultsOf set.b (a ++ b) = b := by
      rw [resultsOf_append, ownB, noneB, List.nil_append]
    exact rejoined toA toB
  · have toA : resultsOf set.a (b ++ a) = a := by
      rw [resultsOf_append, ownA, noneA, List.nil_append]
    have toB : resultsOf set.b (b ++ a) = b := by
      rw [resultsOf_append, ownB, noneB, List.append_nil]
    exact rejoined toA toB

end Cases

/-- The positions of the cases that both implementations answered. -/
def keptPositions (set : ImplementationSet) (cases : List (TestCase I)) : List Nat :=
  positionsOutside (droppedPositions set cases) cases.length

/-- The kept positions are in order. -/
theorem pairwise_keptPositions (set : ImplementationSet) (cases : List (TestCase I)) :
    (keptPositions set cases).Pairwise (· < ·) :=
  List.pairwise_lt_range.filter _

/-- There is a kept position for each answered case. -/
theorem length_keptPositions (set : ImplementationSet) (cases : List (TestCase I)) :
    (keptPositions set cases).length = (cases.filter (TestCase.answered set)).length := by
  rw [keptPositions, positionsOutside_droppedPositions, List.length_map, ← map_fst_filter_zipIdx,
    List.length_map]

/-- A case is answered exactly when both implementations have a result for it. -/
theorem TestCase.answered_iff_exists_claimed {set : ImplementationSet} {c : TestCase I} :
    c.answered set = true ↔
      ∀ side, ∃ result ∈ c.results, (set.tag side).claims result.method = true := by
  rw [← Bool.not_eq_false, TestCase.answered_eq_false_iff, not_exists]
  refine forall_congr' fun side => ?_
  simp only [resultsOf, List.filter_eq_nil_iff, not_forall, not_not, exists_prop]

/-- A position is kept exactly when both implementations have a result for the case there. -/
theorem mem_keptPositions {set : ImplementationSet} {cases : List (TestCase I)} {index : Nat} :
    index ∈ keptPositions set cases ↔ ∃ c, cases[index]? = some c ∧
      ∀ side, ∃ result ∈ c.results, (set.tag side).claims result.method = true := by
  rw [keptPositions, positionsOutside_droppedPositions]
  simp only [List.mem_map, List.mem_filter, Prod.exists, exists_eq_right,
    List.mem_zipIdx_iff_getElem?, TestCase.answered_iff_exists_claimed]

/-- Splitting keeps the cases that both implementations have results for, in their order, and drops
the others from both lists. The two lists are equally long, and at each position they hold the cases
that come from splitting the recorded case at the kept position: its results are parted without loss
into theirs and those of neither implementation. -/
theorem splitting_partitions (set : ImplementationSet) (cases : List (TestCase I)) :
    (splitSuite set cases).a.length = (splitSuite set cases).b.length ∧
    ∃ kept : List Nat, kept.Pairwise (· < ·) ∧
      kept.length = (splitSuite set cases).a.length ∧
      (∀ index, index ∈ kept ↔ ∃ c, cases[index]? = some c ∧
        ∀ side, ∃ result ∈ c.results, (set.tag side).claims result.method = true) ∧
      ∀ number index : Nat, kept[number]? = some index → ∃ c left right,
        cases[index]? = some c ∧ (splitSuite set cases).a[number]? = some left ∧
          (splitSuite set cases).b[number]? = some right ∧ SplitFrom set c left right := by
  rw [splitSuite_eq]
  refine ⟨?_, keptPositions set cases, pairwise_keptPositions set cases, ?_,
    fun index => mem_keptPositions, fun number index there => ?_⟩
  · rw [List.length_map, List.length_map]
  · rw [length_keptPositions, List.length_map]
  · obtain ⟨c, recorded, -⟩ := mem_keptPositions.mp (List.mem_of_getElem? there)
    have kept : (cases.filter (TestCase.answered set))[number]? = some c :=
      getElem?_answered.mpr ⟨index, there, recorded⟩
    have answered : c.answered set = true := (List.mem_filter.mp (List.mem_of_getElem? kept)).2
    refine ⟨c, c.side set.a, c.side set.b, recorded, ?_, ?_, splitFrom_sides answered⟩
    · rw [List.getElem?_map, kept]
      rfl
    · rw [List.getElem?_map, kept]
      rfl

/-- Of three cases the second one is kept: the results of the first implementation stand around that
of the second one and one that belongs to neither. -/
theorem splitting_partitions_three_cases :
    let case (results : List TaggedResult) : TestCase AtInputs :=
      ⟨"at", ⟨⟨.integer 0, .integer 1, false, []⟩, .null⟩, results, []⟩
    let result (method : String) : TaggedResult := ⟨method, .bool true, []⟩
    let kept := case [result "Rust_at", result "Other_at", result "CPP_at", result "Rust_at"]
    let cases := [case [result "Rust_at"], kept, case [result "Other_at"]]
    let methods (c : TestCase AtInputs) : List String := c.results.map TaggedResult.method
    (splitSuite .default cases).a.map methods = [["Rust_at", "Rust_at"]] ∧
      (splitSuite .default cases).b.map methods = [["CPP_at"]] ∧
      ∃ left right, (splitSuite .default cases).a[0]? = some left ∧
        (splitSuite .default cases).b[0]? = some right ∧ SplitFrom .default kept left right := by
  intro case result kept cases methods
  obtain ⟨-, positions, -, counted, members, splits⟩ :=
    splitting_partitions (I := AtInputs) .default cases
  have single : (splitSuite .default cases).a.length = 1 := by decide +kernel
  obtain ⟨index, rfl⟩ := List.length_eq_one_iff.mp (counted.trans single)
  have second : 1 ∈ [index] := by
    refine (members 1).mpr ⟨kept, rfl, fun side => ?_⟩
    cases side with
    | a => exact ⟨result "Rust_at", by simp [kept, case], by decide +kernel⟩
    | b => exact ⟨result "CPP_at", by simp [kept, case], by decide +kernel⟩
  obtain rfl := List.mem_singleton.mp second
  obtain ⟨c, left, right, recorded, atLeft, atRight, split⟩ := splits 0 1 rfl
  obtain rfl : kept = c := Option.some.inj recorded
  exact ⟨by decide +kernel, by decide +kernel, left, right, atLeft, atRight, split⟩

end Concord
