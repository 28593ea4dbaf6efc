import Concord.Proofs.Json.Ordered
import Concord.Proofs.Suite.ReportText

/-!
# Which values are results documents

The shape of a document is said here by the members that its objects must have, whatever others
they have. A value is read as a document exactly when it has that shape, and reading loses nothing:
each case, written as a record with its members in order, is the value that it was read from. If a
value is no document the error is about the first suite that is at fault.
-/

namespace Concord

open Json

namespace Json.Value

/-- The value is an object with a member that has the key, and whose value is as described. -/
def HasMember (key : String) (described : Value → Prop) (value : Value) : Prop :=
  ∃ members part, value = .object members ∧ (key, part) ∈ members ∧ described part

/-- The value is an array, and each of its items is as described. -/
def IsArrayOf (described : Value → Prop) (value : Value) : Prop :=
  ∃ items, value = .array items ∧ ∀ item ∈ items, described item

/-- The value is a number. -/
def IsNumber (value : Value) : Prop := ∃ n, value = .number n

/-- The value is a boolean. -/
def IsBool (value : Value) : Prop := ∃ b, value = .bool b

/-- The value is a string. -/
def IsString (value : Value) : Prop := ∃ s, value = .string s

/-- Any value, also null. -/
def IsAny (_ : Value) : Prop := True

/-- The value is an interval: two ends that are numbers, and whether it is empty. -/
def IsInterval (value : Value) : Prop :=
  value.HasMember "start" IsNumber ∧ value.HasMember "end" IsNumber ∧
    value.HasMember "is_bottom" IsBool

/-- The value is a result: the name of a method and an output. -/
def IsResult (value : Value) : Prop :=
  value.HasMember "method" IsString ∧ value.HasMember "output" IsAny

/-- The value has the inputs of a case of the suite. -/
def HasInputs : Suite → Value → Prop
  | .binaryOperations, value =>
    value.HasMember "input_a" IsInterval ∧ value.HasMember "input_b" IsInterval
  | .atOperations, value =>
    value.HasMember "input_interval" IsInterval ∧ value.HasMember "input_value" IsAny

/-- The value is a case of the suite: an operation, inputs and results. -/
def IsCase (suite : Suite) (value : Value) : Prop :=
  value.HasMember "operation" IsString ∧ value.HasInputs suite ∧
    value.HasMember "results" (IsArrayOf IsResult)

/-- The value has a section of cases for the suite. -/
def HasCases (suite : Suite) (value : Value) : Prop :=
  value.HasMember suite.key (IsArrayOf (IsCase suite))

end Json.Value

open Json.Value

section Shapes

/-- With distinct keys the only member that has the key is the one found. -/
theorem hasMember_iff {members : Members} (form : (Value.object members).WellFormed) {key : String}
    {described : Value → Prop} :
    (Value.object members).HasMember key described ↔
      ∃ part, find? key members = some part ∧ described part := by
  constructor
  · rintro ⟨_, part, same, there, fits⟩
    obtain rfl := Value.object.inj same
    exact ⟨part, find?_eq_some_of_mem form.1.nodup there, fits⟩
  · rintro ⟨part, found, fits⟩
    exact ⟨members, part, rfl, mem_of_find?_eq_some found, fits⟩

/-- A member as described is also as described by less. -/
theorem Json.Value.HasMember.imp {key : String} {described weaker : Value → Prop} {value : Value}
    (has : value.HasMember key described) (less : ∀ part, described part → weaker part) :
    value.HasMember key weaker := by
  obtain ⟨members, part, same, there, fits⟩ := has
  exact ⟨members, part, same, there, less part fits⟩

/-- Items can all be read exactly when each of them can. -/
theorem exists_forall₂_iff {α β : Type} {related : α → β → Prop} {xs : List α} :
    (∃ ys, List.Forall₂ related xs ys) ↔ ∀ x ∈ xs, ∃ y, related x y := by
  constructor
  · rintro ⟨ys, all⟩ x there
    obtain ⟨y, -, found⟩ := exists_related_of_mem all.flip there
    exact ⟨y, found⟩
  · exact exists_forall₂

/-- An interval is read exactly from values of its shape. -/
theorem exists_interval_iff {value : Value} (form : value.WellFormed) :
    (∃ interval, Interval.ofValue value = .ok interval) ↔ value.IsInterval := by
  simp only [Interval.ofValue_eq_ok, IsInterval]
  constructor
  · rintro ⟨interval, members, rfl, start, finish, bottom, -⟩
    simp only [hasMember_iff form]
    exact ⟨⟨_, start, _, rfl⟩, ⟨_, finish, _, rfl⟩, _, bottom, _, rfl⟩
  · rintro ⟨start, finish, bottom⟩
    obtain ⟨members, _, rfl, -⟩ := id start
    simp only [hasMember_iff form] at start finish bottom
    obtain ⟨_, start, first, rfl⟩ := start
    obtain ⟨_, finish, last, rfl⟩ := finish
    obtain ⟨_, bottom, empty, rfl⟩ := bottom
    exact ⟨⟨first, last, empty, without Interval.keys members⟩, members, rfl, start, finish, bottom,
      rfl⟩

/-- A result is read exactly from values of its shape. -/
theorem exists_result_iff {value : Value} (form : value.WellFormed) :
    (∃ result, TaggedResult.ofValue value = .ok result) ↔ value.IsResult := by
  simp only [TaggedResult.ofValue_eq_ok, IsResult]
  constructor
  · rintro ⟨result, members, rfl, method, output, -⟩
    simp only [hasMember_iff form]
    exact ⟨⟨_, method, _, rfl⟩, _, output, trivial⟩
  · rintro ⟨method, output⟩
    obtain ⟨members, _, rfl, -⟩ := id method
    simp only [hasMember_iff form] at method output
    obtain ⟨_, method, name, rfl⟩ := method
    obtain ⟨part, output, -⟩ := output
    exact ⟨⟨name, part, without ["method", "output"] members⟩, members, rfl, method, output, rfl⟩

end Shapes

section Records

/-- What is read item by item and written back item by item is the same. -/
theorem map_eq_of_forall₂ {α β : Type} {read : α → β → Prop} {write : β → α} {xs : List α}
    {ys : List β} (all : List.Forall₂ read xs ys) (back : ∀ x ∈ xs, ∀ y, read x y → write y = x) :
    ys.map write = xs := by
  induction all with
  | nil => rfl
  | cons first _ ih =>
    rw [List.map_cons, back _ List.mem_cons_self _ first,
      ih fun x there => back x (List.mem_cons_of_mem _ there)]

/-- An interval, written as a record, is the value that it was read from. -/
theorem Interval.ordered_toRecord {value : Value} (form : value.WellFormed) {interval : Interval}
    (read : Interval.ofValue value = .ok interval) : interval.toRecord.ordered = value := by
  obtain ⟨members, rfl, start, finish, bottom, others⟩ := Interval.ofValue_eq_ok.mp read
  rw [toRecord, others]
  apply ordered_record form
  · show ["start", "end", "is_bottom"].Nodup
    decide
  · exact fun _ => Iff.rfl
  · intro member there
    simp only [ownMembers, List.mem_cons, List.not_mem_nil, or_false] at there
    rcases there with rfl | rfl | rfl
    · exact start
    · exact finish
    · exact bottom

/-- A result, written as a record, is the value that it was read from. -/
theorem TaggedResult.ordered_toRecord {value : Value} (form : value.WellFormed)
    {result : TaggedResult} (read : TaggedResult.ofValue value = .ok result) :
    result.toRecord.ordered = value := by
  obtain ⟨members, rfl, method, output, others⟩ := TaggedResult.ofValue_eq_ok.mp read
  have outputForm := wellFormed_of_find? form output
  rw [toRecord, others]
  apply ordered_record form
  · show ["method", "output"].Nodup
    decide
  · exact fun _ => Iff.rfl
  · intro member there
    simp only [List.mem_cons, List.not_mem_nil, or_false] at there
    rcases there with rfl | rfl
    · exact method
    · rw [outputForm.ordered_eq]
      exact output

/-- The inputs of a suite are read exactly when they have their shapes, and written back as the
members they were read from. -/
class RecordedInputs (I : Type) [CaseInputs I] : Prop extends WritableInputs I where
  /-- The inputs have other names than the operation and the results. -/
  nodup_recordKeys : (["operation"] ++ CaseInputs.keys I ++ ["results"]).Nodup
  /-- Inputs of the right shapes, and no others, are read. -/
  exists_read_iff : ∀ {members : Members}, (Value.object members).WellFormed →
    ((∃ inputs : I, CaseInputs.read members = .ok (.ok inputs)) ↔
      (Value.object members).HasInputs (CaseInputs.suite I))
  /-- The inputs, written as records, are the members they were read from. -/
  find?_members : ∀ {members : Members} {inputs : I}, (Value.object members).WellFormed →
    CaseInputs.read members = .ok (.ok inputs) →
      ∀ member ∈ CaseInputs.members Interval.toRecord inputs,
        find? member.1 members = some member.2.ordered

/-- A member that is an interval is read exactly when it has the shape of one. -/
theorem exists_intervalMember_iff {members : Members} (form : (Value.object members).WellFormed)
    (key : String) :
    (∃ interval value, find? key members = some value ∧ Interval.ofValue value = .ok interval) ↔
      (Value.object members).HasMember key IsInterval := by
  rw [hasMember_iff form, exists_comm]
  refine exists_congr fun value => ?_
  rw [exists_and_left]
  refine and_congr_right fun found => ?_
  exact exists_interval_iff (wellFormed_of_find? form found)

instance : RecordedInputs BinaryInputs where
  nodup_recordKeys := by decide
  exists_read_iff := by
    intro members form
    show _ ↔ (Value.object members).HasMember "input_a" IsInterval ∧
      (Value.object members).HasMember "input_b" IsInterval
    rw [← exists_intervalMember_iff form, ← exists_intervalMember_iff form]
    simp only [BinaryInputs.read_eq_ok]
    constructor
    · rintro ⟨inputs, left, right⟩
      exact ⟨⟨_, left⟩, _, right⟩
    · rintro ⟨⟨left, readLeft⟩, right, readRight⟩
      exact ⟨⟨left, right⟩, readLeft, readRight⟩
  find?_members := by
    intro members inputs form read member there
    obtain ⟨⟨left, foundLeft, readLeft⟩, right, foundRight, readRight⟩ :=
      BinaryInputs.read_eq_ok.mp read
    simp only [CaseInputs.members, List.mem_cons, List.not_mem_nil, or_false] at there
    rcases there with rfl | rfl
    · rw [Interval.ordered_toRecord (wellFormed_of_find? form foundLeft) readLeft, foundLeft]
    · rw [Interval.ordered_toRecord (wellFormed_of_find? form foundRight) readRight, foundRight]

instance : RecordedInputs AtInputs where
  nodup_recordKeys := by decide
  exists_read_iff := by
    intro members form
    show _ ↔ (Value.object members).HasMember "input_interval" IsInterval ∧
      (Value.object members).HasMember "input_value" IsAny
    rw [← exists_intervalMember_iff form, hasMember_iff form]
    simp only [AtInputs.read_eq_ok]
    constructor
    · rintro ⟨inputs, interval, value⟩
      exact ⟨⟨_, interval⟩, _, value, trivial⟩
    · rintro ⟨⟨interval, readInterval⟩, value, found, -⟩
      exact ⟨⟨interval, value⟩, readInterval, found⟩
  find?_members := by
    intro members inputs form read member there
    obtain ⟨⟨interval, foundInterval, readInterval⟩, foundValue⟩ := AtInputs.read_eq_ok.mp read
    simp only [CaseInputs.members, List.mem_cons, List.not_mem_nil, or_false] at there
    rcases there with rfl | rfl
    · rw [Interval.ordered_toRecord (wellFormed_of_find? form foundInterval) readInterval,
        foundInterval]
    · rw [(wellFormed_of_find? form foundValue).ordered_eq, foundValue]

variable {I : Type} [CaseInputs I] [RecordedInputs I]

/-- A case is read exactly from values of the shape of its suite. -/
theorem exists_case_iff {value : Value} (form : value.WellFormed) :
    (∃ c : TestCase I, TestCase.ofValue value = .ok c) ↔ value.IsCase (CaseInputs.suite I) := by
  simp only [TestCase.ofValue_eq_ok, IsCase]
  constructor
  · rintro ⟨c, members, rfl, inputs, operation, ⟨items, found, all⟩, -⟩
    have itemForms := wellFormedItems_iff.mp (wellFormed_of_find? form found)
    refine ⟨(hasMember_iff form).mpr ⟨_, operation, _, rfl⟩,
      (RecordedInputs.exists_read_iff form).mp ⟨_, inputs⟩,
      (hasMember_iff form).mpr ⟨_, found, items, rfl, fun item there => ?_⟩⟩
    exact (exists_result_iff (itemForms item there)).mp (exists_forall₂_iff.mp ⟨_, all⟩ item there)
  · rintro ⟨operation, inputs, results⟩
    obtain ⟨members, _, rfl, -⟩ := id operation
    rw [hasMember_iff form] at operation results
    obtain ⟨_, operation, name, rfl⟩ := operation
    obtain ⟨_, found, items, rfl, each⟩ := results
    obtain ⟨read, inputs⟩ := (RecordedInputs.exists_read_iff (I := I) form).mpr inputs
    have itemForms := wellFormedItems_iff.mp (wellFormed_of_find? form found)
    obtain ⟨all, readAll⟩ := exists_forall₂_iff.mpr fun item there =>
      (exists_result_iff (itemForms item there)).mpr (each item there)
    exact ⟨⟨name, read, all, without ("operation" :: "results" :: CaseInputs.keys I) members⟩,
      members, rfl, inputs, operation, ⟨items, found, readAll⟩, rfl⟩

/-- A case, written as a record, is the value that it was read from. -/
theorem TestCase.ordered_toRecord {value : Value} (form : value.WellFormed) {c : TestCase I}
    (read : TestCase.ofValue value = .ok c) : c.toRecord.ordered = value := by
  obtain ⟨members, rfl, inputs, operation, ⟨items, found, all⟩, others⟩ :=
    TestCase.ofValue_eq_ok.mp read
  have itemForms := wellFormedItems_iff.mp (wellFormed_of_find? form found)
  have results : (Value.array (c.results.map TaggedResult.toRecord)).ordered = .array items := by
    rw [Value.ordered, orderedItems_eq_map, List.map_map]
    congr 1
    exact map_eq_of_forall₂ all fun item there result readResult =>
      TaggedResult.ordered_toRecord (itemForms item there) readResult
  have keys := WritableInputs.keys_members Interval.toRecord c.inputs
  rw [toRecord, others]
  apply ordered_record form
  · simpa [keys] using RecordedInputs.nodup_recordKeys (I := I)
  · intro key
    simp only [List.map_append, keys, List.map_cons, List.map_nil, List.mem_append, List.mem_cons,
      List.not_mem_nil, or_false]
    tauto
  · intro member there
    simp only [List.mem_append, List.mem_cons, List.not_mem_nil, or_false] at there
    rcases there with (rfl | input) | rfl
    · exact operation
    · exact RecordedInputs.find?_members form inputs member input
    · rw [results]
      exact found

end Records

namespace Document

/-- The section of a suite is as described when the document has it as a member. -/
theorem hasMember_section_iff {root : Value} (form : root.WellFormed) (suite : Suite)
    {described : Value → Prop} :
    root.HasMember suite.key described ↔
      ∃ part, sectionOf suite root = some part ∧ described part := by
  cases root with
  | object members => exact hasMember_iff form
  | _ => simp [HasMember, sectionOf]

section Suites

variable {I : Type} [CaseInputs I] [RecordedInputs I]

/-- A section is read exactly when it holds cases of its suite. -/
theorem exists_casesOf_iff {root : Value} (form : root.WellFormed) :
    (∃ cases : List (TestCase I), casesOf I root = .ok cases) ↔
      root.HasCases (CaseInputs.suite I) := by
  rw [HasCases, hasMember_section_iff form]
  simp only [casesOf_eq_ok]
  constructor
  · rintro ⟨cases, items, present, all⟩
    have itemForms := wellFormedItems_iff.mp (wellFormed_sectionOf form present)
    refine ⟨_, present, items, rfl, fun item there => ?_⟩
    exact (exists_case_iff (itemForms item there)).mp (exists_forall₂_iff.mp ⟨cases, all⟩ item there)
  · rintro ⟨_, present, items, rfl, each⟩
    have itemForms := wellFormedItems_iff.mp (wellFormed_sectionOf form present)
    obtain ⟨cases, all⟩ := exists_forall₂_iff.mpr fun item there =>
      (exists_case_iff (I := I) (itemForms item there)).mpr (each item there)
    exact ⟨cases, items, present, all⟩

/-- The cases that are read from a section are its items, in order: each of them, written as a
record, is the item. -/
theorem hasMember_of_casesOf {root : Value} (form : root.WellFormed) {cases : List (TestCase I)}
    (read : casesOf I root = .ok cases) :
    root.HasMember (CaseInputs.suite I).key
      (· = .array (cases.map fun c => c.toRecord.ordered)) := by
  obtain ⟨items, present, all⟩ := casesOf_eq_ok.mp read
  have itemForms := wellFormedItems_iff.mp (wellFormed_sectionOf form present)
  refine (hasMember_section_iff form _).mpr ⟨_, present, congrArg Value.array ?_⟩
  exact (map_eq_of_forall₂ all fun item there _ readCase =>
    TestCase.ordered_toRecord (itemForms item there) readCase).symm

omit [RecordedInputs I] in
/-- A section is missing exactly when the document has no such member; any other error is about
what the section holds. -/
theorem casesOf_error {root : Value} (form : root.WellFormed) {e : LoadError}
    (failed : casesOf I root = .error e) :
    (¬ root.HasMember (CaseInputs.suite I).key IsAny ∧ e = .missingSection (CaseInputs.suite I)) ∨
      (root.HasMember (CaseInputs.suite I).key IsAny ∧
        ∃ shape, e = .malformedRecord (CaseInputs.suite I) shape) := by
  rw [hasMember_section_iff form]
  rw [casesOf] at failed
  cases present : sectionOf (CaseInputs.suite I) root with
  | none =>
    rw [present] at failed
    exact .inl ⟨by simp, (Except.error.inj failed).symm⟩
  | some value =>
    simp only [present] at failed
    cases listed : value.asList (TestCase.ofValue (I := I)) with
    | ok cases =>
      rw [listed] at failed
      contradiction
    | error shape =>
      rw [listed] at failed
      exact .inr ⟨⟨value, rfl, trivial⟩, shape, (Except.error.inj failed).symm⟩

/-- What reading a section gives. -/
theorem casesOf_cases {root : Value} (form : root.WellFormed) :
    (¬ root.HasMember (CaseInputs.suite I).key IsAny ∧ ¬ root.HasCases (CaseInputs.suite I) ∧
        casesOf I root = .error (.missingSection (CaseInputs.suite I))) ∨
      (root.HasMember (CaseInputs.suite I).key IsAny ∧ ¬ root.HasCases (CaseInputs.suite I) ∧
        ∃ shape, casesOf I root = .error (.malformedRecord (CaseInputs.suite I) shape)) ∨
      (root.HasCases (CaseInputs.suite I) ∧ ∃ cases, casesOf I root = .ok cases) := by
  cases read : casesOf I root with
  | ok cases =>
    exact .inr (.inr ⟨(exists_casesOf_iff form).mp ⟨cases, read⟩, cases, rfl⟩)
  | error e =>
    have noCases : ¬ root.HasCases (CaseInputs.suite I) := by
      intro has
      obtain ⟨cases, found⟩ := (exists_casesOf_iff form).mpr has
      rw [read] at found
      contradiction
    rcases casesOf_error form read with ⟨absent, rfl⟩ | ⟨present, shape, rfl⟩
    · exact .inl ⟨absent, noCases, rfl⟩
    · exact .inr (.inl ⟨present, noCases, shape, rfl⟩)

end Suites

/-- A text of one JSON value is loaded as the document that the value stands for. -/
theorem load_eq_ofValue {text : String} {root : Value} (parsed : Value.parse text = .ok root) :
    load text = ofValue root := by
  rw [load, parsed]
  rfl

/-- A text of one JSON value is a document exactly when the value has a section of cases for either
suite. What is loaded are the items of the sections, in order, and each case, written as a record
with its members in order, is its item. Any other text fails for the first section if that is
absent or malformed, and for the second one only if the first holds cases. -/
theorem load_accepts_documents {text : String} {root : Value}
    (parsed : Value.parse text = .ok root) :
    ((∃ document, load text = .ok document) ↔
      root.HasCases .binaryOperations ∧ root.HasCases .atOperations) ∧
    (∀ document, load text = .ok document →
      root.HasMember "binary_operations"
        (· = .array (document.binaryCases.map fun c => c.toRecord.ordered)) ∧
      root.HasMember "at_operations"
        (· = .array (document.atCases.map fun c => c.toRecord.ordered))) ∧
    (load text = .error (.missingSection .binaryOperations) ↔
      ¬ root.HasMember "binary_operations" IsAny) ∧
    ((∃ e, load text = .error (.malformedRecord .binaryOperations e)) ↔
      root.HasMember "binary_operations" IsAny ∧ ¬ root.HasCases .binaryOperations) ∧
    (load text = .error (.missingSection .atOperations) ↔
      root.HasCases .binaryOperations ∧ ¬ root.HasMember "at_operations" IsAny) ∧
    ((∃ e, load text = .error (.malformedRecord .atOperations e)) ↔
      root.HasCases .binaryOperations ∧ root.HasMember "at_operations" IsAny ∧
        ¬ root.HasCases .atOperations) := by
  have form := wellFormed_of_parse parsed
  have kept (document : Document) (loaded : load text = .ok document) :
      root.HasMember "binary_operations"
          (· = .array (document.binaryCases.map fun c => c.toRecord.ordered)) ∧
        root.HasMember "at_operations"
          (· = .array (document.atCases.map fun c => c.toRecord.ordered)) := by
    rw [load_eq_ofValue parsed] at loaded
    obtain ⟨binaryCases, readBinary, rest⟩ := bind_eq_ok.mp loaded
    obtain ⟨atCases, readAt, rest⟩ := bind_eq_ok.mp rest
    obtain rfl := pure_eq_ok.mp rest
    exact ⟨hasMember_of_casesOf form readBinary, hasMember_of_casesOf form readAt⟩
  have binaryThere (has : root.HasCases .binaryOperations) :
      root.HasMember "binary_operations" IsAny := has.imp fun _ _ => trivial
  have atThere (has : root.HasCases .atOperations) :
      root.HasMember "at_operations" IsAny := has.imp fun _ _ => trivial
  have binary := casesOf_cases (I := BinaryInputs) form
  have atSuite := casesOf_cases (I := AtInputs) form
  simp only [CaseInputs.suite, Suite.key] at binary atSuite
  refine ⟨?_, kept, ?_⟩
  all_goals
    rw [load_eq_ofValue parsed, ofValue]
    rcases binary with ⟨absent, noCases, failed⟩ | ⟨present, noCases, shape, failed⟩ |
        ⟨hasBinary, binaryCases, readBinary⟩
    · simp [failed, bind, Except.bind, absent, noCases]
    · simp [failed, bind, Except.bind, present, noCases]
    · rcases atSuite with ⟨absent, noCases, failed⟩ | ⟨present, noCases, shape, failed⟩ |
        ⟨hasAt, atCases, readAt⟩
      · simp [readBinary, failed, bind, Except.bind, hasBinary, binaryThere, absent, noCases]
      · simp [readBinary, failed, bind, Except.bind, hasBinary, binaryThere, present, noCases]
      · simp [readBinary, readAt, bind, Except.bind, pure, Except.pure, hasBinary, binaryThere,
          hasAt, atThere]

/-- The text of a document with further members at every level, a null input and a null output. -/
def furtherMembersText : List Char :=
  ["\x7b\"binary_operations\":[],\"at_operations\":[\x7b", "\"operation\":\"at\",\"case_id\":7,",
    "\"input_interval\":\x7b\"start\":0,\"end\":8.0,", "\"is_bottom\":false,\"bitwidth\":64\x7d,",
    "\"input_value\":null,\"results\":[", "\x7b\"method\":\"Rust_at\",\"output\":null,",
    "\"avg_time_ns\":12.5\x7d]\x7d],\"format\":1\x7d"].flatMap String.toList

/-- Further members and nulls are no fault, and the case that is loaded holds them all. -/
theorem load_accepts_documents_further_members :
    ∃ root document, Value.parse (.ofList furtherMembersText) = .ok root ∧
      load (.ofList furtherMembersText) = .ok document ∧ document.atCases.length = 1 ∧
      root.HasCases .atOperations ∧
      root.HasMember "at_operations"
        (· = .array (document.atCases.map fun c => c.toRecord.ordered)) := by
  have loads : ((load (.ofList furtherMembersText)).map fun document =>
      document.atCases.length).toOption = some 1 := by
    rw [load, Value.parse, parse_ofList]
    decide +kernel
  obtain ⟨document, loaded, one⟩ := map_eq_ok.mp (toOption_eq_some.mp loads)
  obtain ⟨root, parsed, -, -⟩ := load_eq_ok.mp loaded
  obtain ⟨accepted, kept, -⟩ := load_accepts_documents parsed
  exact ⟨root, document, parsed, loaded, one, (accepted.mp ⟨document, loaded⟩).2,
    (kept document loaded).2⟩

end Document

end Concord
