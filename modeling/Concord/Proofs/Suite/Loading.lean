import Concord.Proofs.Json.Shape
import Concord.Proofs.Json.Source
import Concord.SuiteRun

/-!
# What a results document is made of

The readers of intervals, results, cases and documents, each stated as what they find: the members
that must be present, their shapes, and the other members, which are kept.
-/

namespace Concord

open Json

/-- An interval is an object with two numbers as its ends and a boolean. -/
theorem Interval.ofValue_eq_ok {value : Value} {interval : Interval} :
    Interval.ofValue value = .ok interval ↔
      ∃ members, value = .object members ∧
        find? "start" members = some (.number interval.start) ∧
        find? "end" members = some (.number interval.finish) ∧
        find? "is_bottom" members = some (.bool interval.isBottom) ∧
        interval.extra = without Interval.keys members := by
  simp only [Interval.ofValue, bind_eq_ok, pure_eq_ok, require_eq_ok, asRecord_eq_ok]
  constructor
  · rintro ⟨members, rfl, end?, readEnd, bottom?, readBottom, start?, readStart, start, rfl, finish,
      rfl, isBottom, rfl, rfl⟩
    simp only [readMember?_eq_some, asNumber_eq_ok, asBool_eq_ok, exists_eq_right] at *
    exact ⟨members, rfl, readStart, readEnd, readBottom, rfl⟩
  · rintro ⟨members, rfl, readStart, readEnd, readBottom, others⟩
    refine ⟨members, rfl, some interval.finish, ?_, some interval.isBottom, ?_,
      some interval.start, ?_, interval.start, rfl, interval.finish, rfl, interval.isBottom, rfl,
      ?_⟩
    · simpa [readMember?_eq_some, asNumber_eq_ok] using readEnd
    · simpa [readMember?_eq_some, asBool_eq_ok] using readBottom
    · simpa [readMember?_eq_some, asNumber_eq_ok] using readStart
    · rw [← others]

/-- A result is an object with the name of a method and an output. -/
theorem TaggedResult.ofValue_eq_ok {value : Value} {result : TaggedResult} :
    TaggedResult.ofValue value = .ok result ↔
      ∃ members, value = .object members ∧
        find? "method" members = some (.string result.method) ∧
        find? "output" members = some result.output ∧
        result.extra = without ["method", "output"] members := by
  simp only [TaggedResult.ofValue, bind_eq_ok, pure_eq_ok, require_eq_ok, asRecord_eq_ok]
  constructor
  · rintro ⟨members, rfl, method?, readMethod, output?, readOutput, method, rfl, output, rfl, rfl⟩
    simp only [readMember?_eq_some, asString_eq_ok, exists_eq_right, Except.ok.injEq] at *
    exact ⟨members, rfl, readMethod, readOutput, rfl⟩
  · rintro ⟨members, rfl, readMethod, readOutput, others⟩
    refine ⟨members, rfl, some result.method, ?_, some result.output, ?_, result.method, rfl,
      result.output, rfl, ?_⟩
    · simpa [readMember?_eq_some, asString_eq_ok] using readMethod
    · simpa [readMember?_eq_some] using readOutput
    · rw [← others]

/-- The inputs of a case of the first suite are two intervals. -/
theorem BinaryInputs.read_eq_ok {members : Members} {inputs : BinaryInputs} :
    CaseInputs.read members = .ok (.ok inputs) ↔
      (∃ value, find? "input_a" members = some value ∧ Interval.ofValue value = .ok inputs.left) ∧
      (∃ value, find? "input_b" members = some value ∧
        Interval.ofValue value = .ok inputs.right) := by
  simp only [CaseInputs.read, bind_eq_ok, pure_eq_ok, require_eq_ok, ← readMember?_eq_some]
  constructor
  · rintro ⟨left?, readLeft, right?, readRight, left, rfl, right, rfl, rfl⟩
    exact ⟨readLeft, readRight⟩
  · rintro ⟨readLeft, readRight⟩
    exact ⟨_, readLeft, _, readRight, _, rfl, _, rfl, rfl⟩

/-- The inputs of a case of the second suite are an interval and any value. -/
theorem AtInputs.read_eq_ok {members : Members} {inputs : AtInputs} :
    CaseInputs.read members = .ok (.ok inputs) ↔
      (∃ value, find? "input_interval" members = some value ∧
        Interval.ofValue value = .ok inputs.interval) ∧
      find? "input_value" members = some inputs.value := by
  have read : find? "input_value" members = some inputs.value ↔
      readMember? "input_value" .ok members = .ok (some inputs.value) := by
    simp [readMember?_eq_some]
  simp only [CaseInputs.read, bind_eq_ok, pure_eq_ok, require_eq_ok, ← readMember?_eq_some, read]
  constructor
  · rintro ⟨interval?, readInterval, value?, readValue, interval, rfl, value, rfl, rfl⟩
    exact ⟨readInterval, readValue⟩
  · rintro ⟨readInterval, readValue⟩
    exact ⟨_, readInterval, _, readValue, _, rfl, _, rfl, rfl⟩

variable {I : Type} [CaseInputs I]

/-- A case is an object with an operation, inputs and an array of results. -/
theorem TestCase.ofValue_eq_ok {value : Value} {testCase : TestCase I} :
    TestCase.ofValue value = .ok testCase ↔
      ∃ members, value = .object members ∧
        CaseInputs.read members = .ok (.ok testCase.inputs) ∧
        find? "operation" members = some (.string testCase.operation) ∧
        (∃ items, find? "results" members = some (.array items) ∧
          List.Forall₂ (fun item result => TaggedResult.ofValue item = .ok result) items
            testCase.results) ∧
        testCase.extra = without ("operation" :: "results" :: CaseInputs.keys I) members := by
  simp only [TestCase.ofValue, bind_eq_ok, pure_eq_ok, require_eq_ok, asRecord_eq_ok]
  constructor
  · rintro ⟨members, rfl, inputs?, readInputs, operation?, readOperation, results?, readResults,
      operation, rfl, inputs, rfl, results, rfl, rfl⟩
    simp only [readMember?_eq_some, asString_eq_ok, exists_eq_right] at readOperation
    obtain ⟨_, present, list⟩ := readMember?_eq_some.mp readResults
    obtain ⟨items, rfl, all⟩ := asList_eq_ok.mp list
    exact ⟨members, rfl, readInputs, readOperation, ⟨items, present, all⟩, rfl⟩
  · rintro ⟨members, rfl, readInputs, readOperation, ⟨items, present, all⟩, others⟩
    refine ⟨members, rfl, .ok testCase.inputs, readInputs, some testCase.operation, ?_,
      some testCase.results, ?_, testCase.operation, rfl, testCase.inputs, rfl, testCase.results,
      rfl, ?_⟩
    · simpa [readMember?_eq_some, asString_eq_ok] using readOperation
    · exact readMember?_eq_some.mpr ⟨_, present, asList_eq_ok.mpr ⟨items, rfl, all⟩⟩
    · rw [← others]

namespace Document

/-- The cases of a suite are read from the array in its section. -/
theorem casesOf_eq_ok {root : Value} {cases : List (TestCase I)} :
    casesOf I root = .ok cases ↔
      ∃ items, sectionOf (CaseInputs.suite I) root = some (.array items) ∧
        List.Forall₂ (fun item testCase => TestCase.ofValue item = .ok testCase) items cases := by
  rw [casesOf]
  cases sectionOf (CaseInputs.suite I) root with
  | none => simp
  | some value => simp [mapError_eq_ok, asList_eq_ok]

/-- A text that loads is one JSON value that holds the cases of both suites. -/
theorem load_eq_ok {text : String} {document : Document} :
    load text = .ok document ↔
      ∃ root, Value.parse text = .ok root ∧
        casesOf BinaryInputs root = .ok document.binaryCases ∧
        casesOf AtInputs root = .ok document.atCases := by
  simp only [load, ofValue, bind_eq_ok, mapError_eq_ok, pure_eq_ok]
  constructor
  · rintro ⟨root, parsed, binaryCases, readBinary, atCases, readAt, rfl⟩
    exact ⟨root, parsed, readBinary, readAt⟩
  · rintro ⟨root, parsed, readBinary, readAt⟩
    exact ⟨root, parsed, _, readBinary, _, readAt, rfl⟩

end Document

/-- What is found in a well formed object is well formed. -/
theorem Json.wellFormed_of_find? {members : Members} (form : (Value.object members).WellFormed)
    {key : String} {value : Value} (found : find? key members = some value) :
    value.WellFormed :=
  wellFormedMembers_iff.mp form.2 _ (mem_of_find?_eq_some found)

/-- Every output recorded for the case is well formed. -/
def TestCase.OutputsWellFormed {I : Type} (c : TestCase I) : Prop :=
  ∀ result ∈ c.results, result.output.WellFormed

/-- The outputs of a case that is read out of a well formed value are well formed. -/
theorem TestCase.outputsWellFormed_of_ofValue {value : Value} (form : value.WellFormed)
    {c : TestCase I} (read : TestCase.ofValue value = .ok c) : c.OutputsWellFormed := by
  obtain ⟨members, rfl, -, -, ⟨items, found, all⟩, -⟩ := TestCase.ofValue_eq_ok.mp read
  have listed : WellFormedItems items := wellFormed_of_find? form found
  intro result there
  obtain ⟨item, inside, readResult⟩ := exists_related_of_mem all there
  obtain ⟨fields, rfl, -, output, -⟩ := TaggedResult.ofValue_eq_ok.mp readResult
  exact wellFormed_of_find? (wellFormedItems_iff.mp listed _ inside) output

/-- A section of a well formed value is well formed. -/
theorem Document.wellFormed_sectionOf {root : Value} (form : root.WellFormed) {suite : Suite}
    {value : Value} (present : sectionOf suite root = some value) : value.WellFormed := by
  cases root with
  | object members => exact wellFormed_of_find? form present
  | _ => contradiction

/-- The outputs of all cases of a suite that is read out of a well formed value are well formed. -/
theorem Document.outputsWellFormed_of_casesOf {root : Value} (form : root.WellFormed)
    {cases : List (TestCase I)} (read : casesOf I root = .ok cases) :
    ∀ c ∈ cases, c.OutputsWellFormed := by
  obtain ⟨items, present, all⟩ := casesOf_eq_ok.mp read
  have itemForms := wellFormedItems_iff.mp (wellFormed_sectionOf form present)
  intro c there
  obtain ⟨item, inside, readCase⟩ := exists_related_of_mem all there
  exact TestCase.outputsWellFormed_of_ofValue (itemForms item inside) readCase

/-- The text of a document with one case, whose outputs are two given texts. -/
def oneCaseText (p q : String) : List Char :=
  ["\x7b\"binary_operations\":[],", "\"at_operations\":[\x7b", "\"operation\":\"contains\",",
    "\"input_interval\":\x7b", "\"start\":0,\"end\":1,", "\"is_bottom\":false\x7d,",
    "\"input_value\":0,\"results\":[", "\x7b\"method\":\"Rust_contains\",", "\"output\":", p,
    "\x7d,", "\x7b\"method\":\"CPP_contains\",", "\"output\":", q, "\x7d]\x7d]\x7d"].flatMap
      String.toList

/-- The document whose outputs are `1` and `2` is loaded, and its case diverges. -/
theorem exists_diverging_oneCase :
    ∃ document, Document.load (.ofList (oneCaseText "1" "2")) = .ok document ∧
      (document.run .default).atSuite.differences = 1 := by
  have diverges : ((Document.load (.ofList (oneCaseText "1" "2"))).map fun document =>
      (document.run .default).atSuite.differences).toOption = some 1 := by
    rw [Document.load, Value.parse, parse_ofList]
    decide +kernel
  exact map_eq_ok.mp (toOption_eq_some.mp diverges)

end Concord
