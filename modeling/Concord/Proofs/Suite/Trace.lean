import Concord.Proofs.LogText
import Concord.Proofs.Suite.Events
import Mathlib.Data.List.Basic

/-!
# Tracing divergences

A divergence bears the position of its case among the answered ones; the log names the positions of
the others. The answered cases stand, in their order, at the positions that the log does not name.
So the log leads from a divergence back to the recorded case: the number of the divergence counts
the positions left over. The text of the log is as good as the log, as its lines determine its
events.
-/

namespace Concord

variable {I : Type}

/-- The positions of the cases that one of the implementations did not answer. -/
def droppedPositions (set : ImplementationSet) (cases : List (TestCase I)) : List Nat :=
  (cases.zipIdx.filter fun entry => !entry.1.answered set).map Prod.snd

/-- The positions of a list that are not among some positions. -/
def positionsOutside (dropped : List Nat) (length : Nat) : List Nat :=
  (List.range length).filter fun index => index ∉ dropped

/-- Numbering cases before they are filtered does not change which of them are kept. -/
theorem map_fst_filter_zipIdx (cases : List (TestCase I)) (keep : TestCase I → Bool) :
    (cases.zipIdx.filter fun entry => keep entry.1).map Prod.fst = cases.filter keep := by
  conv_rhs => rw [← List.zipIdx_map_fst 0 cases, List.filter_map]
  rfl

/-- The positions of dropped cases are those of cases that are not answered. -/
theorem mem_droppedPositions {set : ImplementationSet} {cases : List (TestCase I)} {index : Nat} :
    index ∈ droppedPositions set cases ↔
      ∃ c, cases[index]? = some c ∧ c.answered set = false := by
  simp only [droppedPositions, List.mem_map, List.mem_filter, Bool.not_eq_true', Prod.exists,
    List.mem_zipIdx_iff_getElem?, exists_eq_right]

/-- The positions of dropped cases come in their order. -/
theorem pairwise_droppedPositions (set : ImplementationSet) (cases : List (TestCase I)) :
    (droppedPositions set cases).Pairwise (· < ·) := by
  have all : (cases.zipIdx.map Prod.snd).Pairwise (· < ·) := by
    rw [List.zipIdx_map_snd]
    exact List.pairwise_lt_range'
  exact all.sublist (List.filter_sublist.map Prod.snd)

/-- The positions that are not dropped are those of the answered cases. -/
theorem positionsOutside_droppedPositions (set : ImplementationSet) (cases : List (TestCase I)) :
    positionsOutside (droppedPositions set cases) cases.length =
      (cases.zipIdx.filter fun entry => entry.1.answered set).map Prod.snd := by
  have all : List.range cases.length = cases.zipIdx.map Prod.snd := by
    rw [List.zipIdx_map_snd, List.range_eq_range']
  rw [positionsOutside, all, List.filter_map]
  refine congrArg (List.map Prod.snd) (List.filter_congr fun entry there => ?_)
  obtain ⟨c, index⟩ := entry
  have found := List.mem_zipIdx_iff_getElem?.mp there
  have dropped : index ∈ droppedPositions set cases ↔ c.answered set = false := by
    rw [mem_droppedPositions, found]
    simp
  cases answered : c.answered set <;> simp [dropped, answered]

/-- The answered cases, each at the position that is left over for it. -/
theorem getElem?_answered {set : ImplementationSet} {cases : List (TestCase I)} {number : Nat}
    {c : TestCase I} :
    (cases.filter (TestCase.answered set))[number]? = some c ↔
      ∃ index, (positionsOutside (droppedPositions set cases) cases.length)[number]? = some index ∧
        cases[index]? = some c := by
  -- The numbered cases that are kept hold both the answered cases and their positions, in step.
  let kept := cases.zipIdx.filter fun entry => entry.1.answered set
  have numbered : cases.filter (TestCase.answered set) = kept.map Prod.fst :=
    (map_fst_filter_zipIdx cases (TestCase.answered set)).symm
  have placed {entry : TestCase I × Nat} (found : kept[number]? = some entry) :
      cases[entry.2]? = some entry.1 :=
    List.mem_zipIdx_iff_getElem?.mp (List.mem_filter.mp (List.mem_of_getElem? found)).1
  rw [positionsOutside_droppedPositions, numbered, List.getElem?_map]
  constructor
  · intro there
    obtain ⟨entry, found, rfl⟩ := Option.map_eq_some_iff.mp there
    exact ⟨entry.2, by rw [List.getElem?_map, found]; rfl, placed found⟩
  · rintro ⟨index, left, there⟩
    rw [List.getElem?_map] at left
    obtain ⟨entry, found, rfl⟩ := Option.map_eq_some_iff.mp left
    rw [placed found] at there
    rw [found, ← there]
    rfl

/-- Every case is dropped or answered. -/
theorem length_eq_dropped_add (set : ImplementationSet) (cases : List (TestCase I)) :
    cases.length = (droppedPositions set cases).length + (directOutcome set cases).totalCases := by
  have dropped : (droppedPositions set cases).length =
      (cases.filter fun c => !c.answered set).length := by
    rw [← map_fst_filter_zipIdx, droppedPositions, List.length_map, List.length_map]
  rw [dropped, Nat.add_comm]
  exact List.length_eq_length_filter_add (TestCase.answered set)

/-- The divergences of a suite are those of the cases at the positions left over. -/
theorem mem_divergences_iff_positionsOutside {set : ImplementationSet} {cases : List (TestCase I)}
    {d : Divergence I} :
    d ∈ (directOutcome set cases).divergences ↔ ∃ index c,
      (positionsOutside (droppedPositions set cases) cases.length)[d.caseNumber]? = some index ∧
        cases[index]? = some c ∧ directDivergence? set d.caseNumber c = some d := by
  rw [mem_divergences_directOutcome]
  constructor
  · rintro ⟨number, c, there, found⟩
    obtain ⟨rfl, -⟩ := directDivergence?_eq_some found
    obtain ⟨index, left, recorded⟩ := getElem?_answered.mp there
    exact ⟨index, c, left, recorded, found⟩
  · rintro ⟨index, c, left, recorded, found⟩
    exact ⟨d.caseNumber, c, getElem?_answered.mpr ⟨index, left, recorded⟩, found⟩

section

variable [CaseInputs I]

/-- What is told about the case at a position when it is dropped. -/
def droppedEvent? (cases : List (TestCase I)) (index : Nat) : Option LogEvent :=
  cases[index]?.map fun c => .dropped (CaseInputs.suite I) index c.operation

/-- Splitting tells the positions of the dropped cases in their order, each with the operation of
its case. -/
theorem splitEvents_eq (set : ImplementationSet) (cases : List (TestCase I)) :
    splitEvents set cases = (droppedPositions set cases).filterMap (droppedEvent? cases) := by
  rw [splitEvents, droppedPositions, List.filterMap_map, List.filterMap_filter]
  refine List.filterMap_congr fun entry there => ?_
  obtain ⟨c, index⟩ := entry
  have found := List.mem_zipIdx_iff_getElem?.mp there
  cases answered : c.answered set <;> simp [splitCase_eq, answered, droppedEvent?, found]

/-- How positions trace the divergences of a suite: they are those of the cases that lack results,
the log names them, and it leaves over the positions of the divergences. -/
structure TracedBy (set : ImplementationSet) (cases : List (TestCase I)) (dropped : List Nat) :
    Prop where
  /-- The positions come in their order. -/
  ordered : dropped.Pairwise (· < ·)
  /-- They are those of the cases without results of one of the implementations. -/
  lacking : ∀ index, index ∈ dropped ↔
    ∃ c, cases[index]? = some c ∧ ∃ side, resultsOf (set.tag side) c.results = []
  /-- The log tells each of them with the operation of its case; then it tells the counts, and as
  many cases are compared as are kept. -/
  events : suiteEvents set cases = dropped.filterMap (droppedEvent? cases) ++
    [.compared (CaseInputs.suite I) cases.length (runSuite set cases).totalCases
      (runSuite set cases).totalCases (runSuite set cases).divergences.length]
  /-- Every case is dropped or compared. -/
  counted : cases.length = dropped.length + (runSuite set cases).totalCases
  /-- The number of a divergence counts the positions left over, up to that of its case. -/
  divergences : ∀ d, d ∈ (runSuite set cases).divergences ↔
    ∃ index c, (positionsOutside dropped cases.length)[d.caseNumber]? = some index ∧
      cases[index]? = some c ∧ directDivergence? set d.caseNumber c = some d

variable [LawfulInputs I]

/-- The positions of dropped cases trace the divergences. -/
theorem tracedBy_droppedPositions (set : ImplementationSet) (cases : List (TestCase I)) :
    TracedBy set cases (droppedPositions set cases) where
  ordered := pairwise_droppedPositions set cases
  lacking index := by
    simp only [mem_droppedPositions, TestCase.answered_eq_false_iff]
  events := by
    rw [suiteEvents_eq, splitEvents_eq, runSuite_eq_direct]
    rfl
  counted := by
    rw [runSuite_eq_direct]
    exact length_eq_dropped_add set cases
  divergences d := by
    rw [runSuite_eq_direct]
    exact mem_divergences_iff_positionsOutside

/-- Comparing a suite tells nothing but what is told for debugging. -/
theorem level_of_mem_suiteEvents {set : ImplementationSet} {cases : List (TestCase I)}
    {event : LogEvent} (told : event ∈ suiteEvents set cases) : event.level = .debug := by
  rw [(tracedBy_droppedPositions set cases).events, List.mem_append] at told
  rcases told with dropped | last
  · obtain ⟨index, -, found⟩ := List.mem_filterMap.mp dropped
    obtain ⟨c, -, rfl⟩ := Option.map_eq_some_iff.mp found
    rfl
  · rw [List.mem_singleton.mp last]
    rfl

/-- Every divergence can be traced to its recorded case by the log. The log names the positions of
the cases that lack results, in their order, and then the counts; the number of a divergence is
that of its case among the positions left over. There is no warning. Each event takes one line of
the text of the log, in which every character shows, and the line of a dropped case ends with its
operation, quoted so that it can be taken back; two logs with one text tell the same events. -/
theorem divergences_are_traced (set : ImplementationSet) (cases : List (TestCase I)) :
    (∃ dropped, TracedBy set cases dropped) ∧
    (∀ event ∈ suiteEvents set cases, event.level = .debug ∧ event.line = event.body ++ "\n" ∧
      Text.Shows event.body.toList) ∧
    (logText (suiteEvents set cases)).toList.splitOn '\n' =
      (suiteEvents set cases).map (fun event => event.body.toList) ++ [[]] ∧
    (∀ suite index operation, .dropped suite index operation ∈ suiteEvents set cases →
      ∃ front, (LogEvent.dropped suite index operation).body.toList =
          front ++ (Text.quote operation).toList ∧
        ∀ rest, Text.unquote? ((Text.quote operation).toList ++ rest) = some (operation, rest)) ∧
    ∀ (other : ImplementationSet) (others : List (TestCase I)),
      logText (suiteEvents set cases) = logText (suiteEvents other others) →
        suiteEvents set cases = suiteEvents other others := by
  have quiet (set : ImplementationSet) (cases : List (TestCase I)) :
      ∀ event ∈ suiteEvents set cases, event.level = .debug :=
    fun _ told => level_of_mem_suiteEvents told
  refine ⟨⟨_, tracedBy_droppedPositions set cases⟩, fun event told => ?_,
    splitOn_logText (quiet set cases), fun suite index operation _ => ?_,
    fun other others => logText_inj (quiet set cases) (quiet other others)⟩
  · have debug := level_of_mem_suiteEvents told
    exact ⟨debug, LogEvent.line_eq event, LogEvent.shows_body debug⟩
  · exact ⟨_, LogEvent.toList_body_dropped suite index operation, Text.unquote?_quote operation⟩

end

/-- Cases of which the first and the third are dropped: the operation of the first has characters
that could break its line, and the divergence of the fourth case has number one. -/
theorem divergences_are_traced_four_cases :
    let hostile := "at\n\"\\\x1b[2J"
    let case (operation : String) (results : List TaggedResult) : TestCase AtInputs :=
      ⟨operation, ⟨⟨.integer 0, .integer 1, false, []⟩, .null⟩, results, []⟩
    let rust : TaggedResult := ⟨"Rust_at", .bool true, []⟩
    let cases := [case hostile [rust], case "at" [rust, ⟨"CPP_at", .bool true, []⟩],
      case "at" [rust], case "at" [rust, ⟨"CPP_at", .bool false, []⟩]]
    (∃ dropped, TracedBy .default cases dropped) ∧
      (runSuite .default cases).divergences.map Divergence.caseNumber = [1] ∧
      (logText (suiteEvents .default cases)).toList.splitOn '\n' =
        (suiteEvents .default cases).map (fun event => event.body.toList) ++ [[]] ∧
      (suiteEvents .default cases).length = 3 ∧
      ∀ rest, Text.unquote? ((Text.quote hostile).toList ++ rest) = some (hostile, rest) := by
  intro hostile case rust cases
  obtain ⟨traced, -, lines, taken, -⟩ := divergences_are_traced (I := AtInputs) .default cases
  have told : .dropped .atOperations 0 hostile ∈ suiteEvents .default cases := by decide +kernel
  obtain ⟨-, -, back⟩ := taken .atOperations 0 hostile told
  exact ⟨traced, by decide +kernel, lines, by decide +kernel, back⟩

end Concord
