import Concord.Proofs.Json.ReadValues
import Concord.Proofs.Suite.Loading
import Concord.Proofs.Suite.Reference
import Concord.Report

/-!
# Reports that are read again

A report holds what the results document held, no deeper than it stood there: inputs and outputs of
cases, besides counts, names and rates. So the report of every document that loads can be written
and read, and what is read is the report.

The bound on the length of a text is that of the texts that can be held: a length has 64 bits. It
bounds the number of cases, and with it every count in the report.
-/

namespace Concord

open Json

/-- An interval that was read fits where it stood: its numbers and other members were there. -/
theorem Interval.fits_toValue {value : Value} {interval : Interval} {levels : Nat}
    (read : Interval.ofValue value = .ok interval) (fits : value.Fits levels) :
    interval.toValue.Fits levels := by
  obtain ⟨members, rfl, start, finish, -, others⟩ := Interval.ofValue_eq_ok.mp read
  cases levels with
  | zero => exact fits.elim
  | succ inner =>
    have each := fits.2
    refine ⟨(keysIncrease_sortMembers _).nodup, fun member there => ?_⟩
    rcases List.mem_append.mp (mem_of_mem_sortMembers there) with own | extra
    · simp only [Interval.ownMembers, List.mem_cons, List.not_mem_nil, or_false] at own
      rcases own with rfl | rfl | rfl
      · exact each _ (mem_of_find?_eq_some start)
      · exact each _ (mem_of_find?_eq_some finish)
      · have scalar : (Value.bool interval.isBottom).Fits 0 := trivial
        exact scalar.of_scalar inner
    · rw [others] at extra
      exact each member (List.mem_of_mem_filter extra)

/-- A natural number of 64 bits fits. -/
theorem fits_natural {n : Nat} (small : n < 2 ^ 64) : (Value.number (.integer n)).Fits 0 := by
  have least : -(Nat.pow 2 63 : Int) ≤ n := by
    have below : (0 : Int) ≤ Nat.pow 2 63 := Int.natCast_nonneg _
    omega
  exact ⟨least, Int.ofNat_lt.mpr small⟩

/-- The names of the members of a divergence. -/
def Divergence.keys (I : Type) [CaseInputs I] : List String :=
  ["case_number", "operation"] ++ CaseInputs.keys I ++
    ["output_a", "output_b", "baseline_output", "method"]

/-- The inputs of a suite are written under the names they are read from, which are no other members
of a divergence, and no deeper than they stood. -/
class WritableInputs (I : Type) [CaseInputs I] : Prop where
  /-- The names of the inputs, however their intervals are written. -/
  keys_members : ∀ (write : Interval → Value) (inputs : I),
    (CaseInputs.members write inputs).map Prod.fst = CaseInputs.keys I
  /-- The members of a divergence have different names. -/
  nodup_keys : (Divergence.keys I).Nodup
  /-- Inputs that were read fit among the members they were read from. -/
  fits_members : ∀ {members : Members} {inputs : I} {levels : Nat},
    CaseInputs.read members = .ok (.ok inputs) → (∀ member ∈ members, member.2.Fits levels) →
      ∀ member ∈ CaseInputs.members Interval.toValue inputs, member.2.Fits levels

instance : WritableInputs BinaryInputs where
  keys_members _ _ := rfl
  nodup_keys := by decide
  fits_members := by
    intro members inputs levels read each member there
    obtain ⟨⟨left, foundLeft, readLeft⟩, right, foundRight, readRight⟩ :=
      BinaryInputs.read_eq_ok.mp read
    have leftFits : left.Fits levels := each _ (mem_of_find?_eq_some foundLeft)
    have rightFits : right.Fits levels := each _ (mem_of_find?_eq_some foundRight)
    simp only [CaseInputs.members, List.mem_cons, List.not_mem_nil, or_false] at there
    rcases there with rfl | rfl
    · exact Interval.fits_toValue readLeft leftFits
    · exact Interval.fits_toValue readRight rightFits

instance : WritableInputs AtInputs where
  keys_members _ _ := rfl
  nodup_keys := by decide
  fits_members := by
    intro members inputs levels read each member there
    obtain ⟨⟨interval, foundInterval, readInterval⟩, foundValue⟩ := AtInputs.read_eq_ok.mp read
    have intervalFits : interval.Fits levels := each _ (mem_of_find?_eq_some foundInterval)
    have valueFits : inputs.value.Fits levels := each _ (mem_of_find?_eq_some foundValue)
    simp only [CaseInputs.members, List.mem_cons, List.not_mem_nil, or_false] at there
    rcases there with rfl | rfl
    · exact Interval.fits_toValue readInterval intervalFits
    · exact valueFits

section Cases

variable {I : Type} [CaseInputs I]

/-- What a case gives to a report fits: its inputs as they are written, and its outputs. -/
structure TestCase.Fits (levels : Nat) (c : TestCase I) : Prop where
  /-- The inputs fit. -/
  inputs : ∀ member ∈ c.inputMembers, member.2.Fits levels
  /-- Every output fits. -/
  outputs : ∀ result ∈ c.results, result.output.Fits levels

/-- An output fits where its result stood. -/
theorem TaggedResult.fits_output {value : Value} {result : TaggedResult} {levels : Nat}
    (read : TaggedResult.ofValue value = .ok result) (fits : value.Fits levels) :
    result.output.Fits levels := by
  obtain ⟨members, rfl, -, found, -⟩ := TaggedResult.ofValue_eq_ok.mp read
  cases levels with
  | zero => exact fits.elim
  | succ inner => exact (fits.2 _ (mem_of_find?_eq_some found)).mono (Nat.le_succ inner)

/-- What a case gives to a report fits one level below the case. -/
theorem TestCase.fits_of_ofValue [WritableInputs I] {value : Value} {c : TestCase I} {levels : Nat}
    (read : TestCase.ofValue value = .ok c) (fits : value.Fits (levels + 1)) : c.Fits levels := by
  obtain ⟨members, rfl, readInputs, -, ⟨items, found, all⟩, -⟩ := TestCase.ofValue_eq_ok.mp read
  have each := fits.2
  have listed : (Value.array items).Fits levels := each _ (mem_of_find?_eq_some found)
  refine ⟨WritableInputs.fits_members readInputs each, fun result there => ?_⟩
  obtain ⟨item, inside, readResult⟩ := exists_related_of_mem all there
  cases levels with
  | zero => exact listed.elim
  | succ inner =>
    exact (TaggedResult.fits_output readResult (listed.2 item inside)).mono (Nat.le_succ inner)

/-- The names of the members of a divergence as it is written. -/
theorem Divergence.keys_members [WritableInputs I] (d : Divergence I) :
    ∃ members, d.toValue = .object members ∧ members.map Prod.fst = Divergence.keys I := by
  refine ⟨_, rfl, ?_⟩
  simp [Divergence.keys, WritableInputs.keys_members]

/-- The divergence of a case fits when what the case gives to it does, and its number. -/
theorem Divergence.fits_toValue [WritableInputs I] {set : ImplementationSet} {position : Nat}
    {c : TestCase I} {d : Divergence I} {levels : Nat}
    (found : directDivergence? set position c = some d) (number : position < 2 ^ 64)
    (fits : c.Fits levels) : d.toValue.Fits (levels + 1) := by
  obtain ⟨rfl, inputs, first, second, baseline⟩ := directDivergence?_eq_some found
  have outputFits {tag : Tag} {output : Value}
      (taken : firstOutput c.results tag = some output) : output.Fits levels := by
    obtain ⟨result, there, rfl⟩ := exists_mem_of_firstOutput taken
    exact fits.outputs result there
  have baselineFits : d.baselineOutput.Fits levels := by
    rcases baseline with same | same
    · exact same ▸ outputFits first
    · exact same ▸ outputFits second
  have numberFits : (Value.number (.integer d.caseNumber)).Fits 0 := fits_natural number
  have textFits (text : String) : (Value.string text).Fits levels := by
    have scalar : (Value.string text).Fits 0 := trivial
    exact scalar.of_scalar levels
  constructor
  · simpa [Divergence.keys, WritableInputs.keys_members] using WritableInputs.nodup_keys (I := I)
  · intro member there
    simp only [List.mem_append, List.mem_cons, List.not_mem_nil, or_false] at there
    rcases there with ((rfl | rfl) | input) | rfl | rfl | rfl | rfl
    · exact numberFits.of_scalar levels
    · exact textFits d.operation
    · exact fits.inputs member (by rwa [TestCase.inputMembers, ← inputs])
    · exact outputFits first
    · exact outputFits second
    · exact baselineFits
    · exact textFits d.method

/-- The divergences of a suite fit, one level above what its cases give to them. -/
theorem fits_divergences [LawfulInputs I] [WritableInputs I] {set : ImplementationSet}
    {cases : List (TestCase I)} {levels : Nat} (few : cases.length < 2 ^ 64)
    (each : ∀ c ∈ cases, c.Fits levels) {d : Divergence I}
    (there : d ∈ (runSuite set cases).divergences) : d.toValue.Fits (levels + 1) := by
  rw [runSuite_eq_direct, mem_divergences_directOutcome] at there
  obtain ⟨position, c, present, found⟩ := there
  have kept := List.mem_of_getElem? present
  have below : position < (cases.filter (TestCase.answered set)).length :=
    (List.getElem?_eq_some_iff.mp present).1
  have fewer : (cases.filter (TestCase.answered set)).length ≤ cases.length :=
    List.length_filter_le _ cases
  exact Divergence.fits_toValue found (by omega) (each c (List.mem_of_mem_filter kept))

/-- A suite compares no more cases than it has. -/
theorem totalCases_le [LawfulInputs I] (set : ImplementationSet) (cases : List (TestCase I)) :
    (runSuite set cases).totalCases ≤ cases.length := by
  rw [runSuite_eq_direct]
  exact List.length_filter_le _ cases

/-- No more cases diverge than are compared. -/
theorem differences_le [LawfulInputs I] (set : ImplementationSet) (cases : List (TestCase I)) :
    (runSuite set cases).differences ≤ (runSuite set cases).totalCases := by
  rw [runSuite_eq_direct]
  have filtered := List.length_filterMap_le
    (fun entry : TestCase I × Nat => directDivergence? set entry.2 entry.1)
    (cases.filter (TestCase.answered set)).zipIdx
  rwa [List.length_zipIdx] at filtered

/-- Counts that fit 64 bits can be written. -/
theorem SuiteSummary.fits_toValue {s : SuiteSummary} (total : s.totalCases < 2 ^ 64)
    (differences : s.differences < 2 ^ 64) : s.toValue.Fits 1 := by
  have totalFits := fits_natural total
  have differencesFits := fits_natural differences
  constructor
  · show ["total_cases", "differences", "success_rate"].Nodup
    decide
  · intro member there
    simp only [List.mem_cons, List.not_mem_nil, or_false] at there
    rcases there with rfl | rfl | rfl
    · exact totalFits
    · exact differencesFits
    · cases s.successRate with
      | none => trivial
      | some rate => trivial

end Cases

section Documents

variable {I : Type} [CaseInputs I]

/-- The cases of a suite in a value that was read are few enough to be counted, and what they give
to a report fits three levels below the value. -/
theorem Document.fits_casesOf [WritableInputs I] {root : Value} {cases : List (TestCase I)}
    {levels : Nat} (read : casesOf I root = .ok cases) (fits : root.Fits (levels + 3)) :
    cases.length < 2 ^ 64 ∧ ∀ c ∈ cases, c.Fits levels := by
  obtain ⟨items, present, all⟩ := casesOf_eq_ok.mp read
  cases root with
  | object members =>
    have listed : (Value.array items).Fits (levels + 2) := fits.2 _ (mem_of_find?_eq_some present)
    refine ⟨all.length_eq ▸ listed.1, fun c there => ?_⟩
    obtain ⟨item, inside, readCase⟩ := exists_related_of_mem all there
    exact TestCase.fits_of_ofValue readCase (listed.2 item inside)
  | _ => contradiction

/-- What a report says of a suite fits: its counts, and the array of its divergences. -/
theorem fits_suite [LawfulInputs I] [WritableInputs I] {cases : List (TestCase I)} {levels : Nat}
    (few : cases.length < 2 ^ 64) (each : ∀ c ∈ cases, c.Fits levels) (set : ImplementationSet) :
    (SuiteSummary.ofOutcome (runSuite set cases)).toValue.Fits 1 ∧
      (Value.array ((runSuite set cases).divergences.map Divergence.toValue)).Fits
        (levels + 2) := by
  have total := totalCases_le set cases
  have differences := differences_le set cases
  have size : (runSuite set cases).divergences.length = (runSuite set cases).differences := rfl
  constructor
  · apply SuiteSummary.fits_toValue
    · show (runSuite set cases).totalCases < 2 ^ 64
      omega
    · show (runSuite set cases).differences < 2 ^ 64
      omega
  · refine ⟨?_, fun entry there => ?_⟩
    · rw [List.length_map]
      omega
    · obtain ⟨d, inside, rfl⟩ := List.mem_map.mp there
      exact fits_divergences few each inside

/-- The report of a document that was loaded is no deeper than a document may be, and its integers
fit 64 bits. -/
theorem Report.fits_toValue {text : String} {document : Document}
    (loaded : Document.load text = .ok document) (held : text.length < 2 ^ 64)
    (set : ImplementationSet) :
    (Report.ofOutcome (document.run set)).toValue.Fits nestingLimit := by
  obtain ⟨root, parsed, readBinary, readAt⟩ := Document.load_eq_ok.mp loaded
  have rootFits : root.Fits (124 + 3) := fits_of_parse parsed held
  obtain ⟨fewBinary, binaryFits⟩ := Document.fits_casesOf readBinary rootFits
  obtain ⟨fewAt, atFits⟩ := Document.fits_casesOf readAt rootFits
  obtain ⟨binaryCounts, binaryEntries⟩ := fits_suite fewBinary binaryFits set
  obtain ⟨atCounts, atEntries⟩ := fits_suite fewAt atFits set
  have counts : (Value.object [
      ("binary_operations", (SuiteSummary.ofOutcome (runSuite set document.binaryCases)).toValue),
      ("at_operations", (SuiteSummary.ofOutcome (runSuite set document.atCases)).toValue)]).Fits
      2 := by
    constructor
    · show ["binary_operations", "at_operations"].Nodup
      decide
    · intro member there
      simp only [List.mem_cons, List.not_mem_nil, or_false] at there
      rcases there with rfl | rfl
      · exact binaryCounts
      · exact atCounts
  have sections : (Report.ofOutcome (document.run set)).toValue.Fits (126 + 1) := by
    constructor
    · show ["summary", "binary_differences", "at_differences"].Nodup
      decide
    · intro member there
      simp only [List.mem_cons, List.not_mem_nil, or_false] at there
      rcases there with rfl | rfl | rfl
      · exact counts.mono (by decide)
      · exact binaryEntries
      · exact atEntries
  exact sections

/-- The value is an object with exactly the given keys. -/
def Json.Value.HasKeys (keys : List String) (value : Value) : Prop :=
  ∃ members, value = .object members ∧ (members.map Prod.fst).Perm keys

/-- A written divergence is read with its own members. -/
theorem hasKeys_of_reread [WritableInputs I] {d : Divergence I} {entry : Value}
    (reread : d.toValue.RereadsAs entry) : entry.HasKeys (Divergence.keys I) := by
  obtain ⟨members, written, names⟩ := d.keys_members
  rw [written] at reread
  obtain ⟨ordered, rfl, same, -⟩ := reread.of_object
  exact ⟨ordered, rfl, names ▸ same⟩

/-- Written divergences are read as an array of as many entries, each with its own members. -/
theorem exists_entries_of_reread [WritableInputs I] {divergences : List (Divergence I)}
    {other : Value} (reread : (Value.array (divergences.map Divergence.toValue)).RereadsAs other) :
    ∃ entries, other = .array entries ∧ entries.length = divergences.length ∧
      ∀ entry ∈ entries, entry.HasKeys (Divergence.keys I) := by
  obtain ⟨entries, rfl, all⟩ := reread.of_array
  refine ⟨entries, rfl, ?_, fun entry there => ?_⟩
  · rw [← all.length_eq, List.length_map]
  · obtain ⟨written, inside, entryReread⟩ := exists_related_of_mem all there
    obtain ⟨d, -, rfl⟩ := List.mem_map.mp inside
    exact hasKeys_of_reread entryReread

end Documents

/-- The report of every document that loads, for any implementations, is a text that is read again,
as the report: only the members of objects are ordered, and each floating point number is the one
that is read for its text. Every entry of the two arrays of divergences has exactly the members that
describe a divergence of its suite. -/
theorem report_text_rereads {text : String} {document : Document}
    (loaded : Document.load text = .ok document) (held : text.length < 2 ^ 64)
    (set : ImplementationSet) :
    ∃ members, Value.parse (Report.ofOutcome (document.run set)).text = .ok (.object members) ∧
      (Report.ofOutcome (document.run set)).toValue.RereadsAs (.object members) ∧
      (∃ entries, find? "binary_differences" members = some (.array entries) ∧
        entries.length = (document.run set).binary.differences ∧
        ∀ entry ∈ entries, entry.HasKeys ["case_number", "operation", "input_a", "input_b",
          "output_a", "output_b", "baseline_output", "method"]) ∧
      ∃ entries, find? "at_differences" members = some (.array entries) ∧
        entries.length = (document.run set).atSuite.differences ∧
        ∀ entry ∈ entries, entry.HasKeys ["case_number", "operation", "input_interval",
          "input_value", "output_a", "output_b", "baseline_output", "method"] := by
  obtain ⟨value, parsed, reread⟩ := exists_parse_pretty (Report.fits_toValue loaded held set)
  obtain ⟨members, rfl, -, each⟩ := reread.of_object
  obtain ⟨binary, foundBinary, binaryReread⟩ := each "binary_differences" _ (.tail _ (.head _))
  obtain ⟨atSuite, foundAt, atReread⟩ := each "at_differences" _ (.tail _ (.tail _ (.head _)))
  obtain ⟨binaryEntries, rfl, binaryCount, binaryKeys⟩ := exists_entries_of_reread binaryReread
  obtain ⟨atEntries, rfl, atCount, atKeys⟩ := exists_entries_of_reread atReread
  exact ⟨members, parsed, reread, ⟨binaryEntries, foundBinary, binaryCount, binaryKeys⟩,
    atEntries, foundAt, atCount, atKeys⟩

/-- The report of a document with one case, on which the outputs `1` and `2` diverge, is read with
one entry. -/
theorem report_text_rereads_one_divergence :
    ∃ document members entries,
      Document.load (.ofList (oneCaseText "1" "2")) = .ok document ∧
      Value.parse (Report.ofOutcome (document.run .default)).text = .ok (.object members) ∧
      find? "at_differences" members = some (.array entries) ∧ entries.length = 1 ∧
      ∀ entry ∈ entries, entry.HasKeys ["case_number", "operation", "input_interval",
          "input_value", "output_a", "output_b", "baseline_output", "method"] := by
  obtain ⟨document, loaded, diverges⟩ := exists_diverging_oneCase
  have held : (String.ofList (oneCaseText "1" "2")).length < 2 ^ 64 := by
    rw [String.length_ofList]
    decide +kernel
  obtain ⟨members, parsed, -, -, entries, found, count, keys⟩ :=
    report_text_rereads loaded held .default
  exact ⟨document, members, entries, loaded, parsed, found, count.trans diverges, keys⟩

end Concord
