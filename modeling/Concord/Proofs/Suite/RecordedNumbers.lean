import Concord.Proofs.Json.Meaning
import Concord.Proofs.Json.ShortNumeral
import Concord.Proofs.Json.Source
import Concord.Proofs.Suite.Loading
import Concord.Proofs.Suite.Reference

/-!
# Numbers that a document records

The outputs of a case are compared after they have been read. `recordedNumbers` finds the two
numbers that stand in the text of a document as the outputs of a case, with their digits. The case
counts as agreeing exactly when the numbers read for them have the same value. Where both are read
exactly, as all integers of 64 bits are, and where both have at most fifteen digits and a moderate
power of ten, that is whether the digits denote one rational. Elsewhere it is not: rounding can
separate two spellings of one number and can merge different numbers.
-/

namespace Concord

open Json

section Trees

namespace Json.Source

/-- Whether the tree of a result names a method of an implementation. -/
def claimedBy (tag : Tag) (result : Source) : Bool :=
  match result.member? "method" with
  | some (.string method) => tag.claims method
  | _ => false

/-- The output in the tree of a case that stands in its first result of an implementation. -/
def recordedOutput (tag : Tag) (testCase : Source) : Option Source := do
  let results ← testCase.member? "results"
  let result ← results.items.find? (claimedBy tag)
  result.member? "output"

/-- The cases in the tree of a document. -/
def recordedCases (suite : Suite) (root : Source) : List Source :=
  ((root.member? suite.key).map items).getD []

end Json.Source

variable {I : Type} [CaseInputs I]

/-- The first output among results is the value of the first output among their trees. -/
theorem firstOutput_eq_value (tag : Tag) {trees : List Source} {results : List TaggedResult}
    (read : List.Forall₂ (fun tree result => TaggedResult.ofValue tree.value = .ok result) trees
      results) :
    firstOutput results tag =
      ((trees.find? (Source.claimedBy tag)).bind (Source.member? "output")).map Source.value := by
  induction read with
  | nil => rfl
  | @cons tree result trees results head _ ih =>
    obtain ⟨members, object, method, output, -⟩ := TaggedResult.ofValue_eq_ok.mp head
    rw [Source.find?_eq_member? object] at method output
    obtain ⟨name, isMember, isString⟩ := Option.map_eq_some_iff.mp method
    obtain rfl := Source.eq_string_of_value isString
    have claimed : tree.claimedBy tag = tag.claims result.method := by
      rw [Source.claimedBy, isMember]
    cases claims : tag.claims result.method with
    | true => simp [firstOutput, claimed, claims, output]
    | false => simpa [firstOutput, List.find?_cons, claimed, claims] using ih

/-- The first output of a case is the value of the output recorded in its tree. -/
theorem firstOutput_eq_recordedOutput (tag : Tag) {tree : Source} {testCase : TestCase I}
    (read : TestCase.ofValue tree.value = .ok testCase) :
    firstOutput testCase.results tag = (tree.recordedOutput tag).map Source.value := by
  obtain ⟨members, object, -, -, ⟨items, present, results⟩, -⟩ := TestCase.ofValue_eq_ok.mp read
  rw [Source.find?_eq_member? object] at present
  obtain ⟨list, isMember, isArray⟩ := Option.map_eq_some_iff.mp present
  rw [Source.eq_map_items isArray, List.forall₂_map_left_iff] at results
  rw [firstOutput_eq_value tag results, Source.recordedOutput, isMember]
  rfl

/-- The cases of a suite are read from the trees of its cases, one from each. -/
theorem casesOf_eq_recordedCases {root : Source} {cases : List (TestCase I)}
    (read : Document.casesOf I root.value = .ok cases) :
    List.Forall₂ (fun tree testCase => TestCase.ofValue tree.value = .ok testCase)
      (root.recordedCases (CaseInputs.suite I)) cases := by
  obtain ⟨items, present, all⟩ := Document.casesOf_eq_ok.mp read
  cases object : root.value with
  | object members =>
    rw [object, Document.sectionOf, Source.find?_eq_member? object] at present
    obtain ⟨list, isMember, isArray⟩ := Option.map_eq_some_iff.mp present
    rw [Source.eq_map_items isArray, List.forall₂_map_left_iff] at all
    simpa [Source.recordedCases, isMember] using all
  | _ => simp [object, Document.sectionOf] at present

end Trees

section Agreement

variable {I : Type}

/-- The position of a case among those that both implementations answered. -/
def answeredBefore (set : ImplementationSet) (cases : List (TestCase I)) (index : Nat) : Nat :=
  (cases.take index).countP (TestCase.answered set)

/-- The run of a suite counts the case at an index as agreeing: its position is one of those
compared, and no divergence is reported for it. -/
def CountsAsAgreeing [CaseInputs I] (set : ImplementationSet) (cases : List (TestCase I))
    (index : Nat) : Prop :=
  answeredBefore set cases index < (runSuite set cases).totalCases ∧
    ∀ d ∈ (runSuite set cases).divergences, d.caseNumber ≠ answeredBefore set cases index

/-- A case that both implementations answered stands at its position among those. -/
theorem filter_answered_getElem? {set : ImplementationSet} {cases : List (TestCase I)} {index : Nat}
    {testCase : TestCase I} (there : cases[index]? = some testCase)
    (answered : testCase.answered set = true) :
    (cases.filter (TestCase.answered set))[answeredBefore set cases index]? = some testCase := by
  obtain ⟨inside, rfl⟩ := List.getElem?_eq_some_iff.mp there
  have split : cases = cases.take index ++ cases[index] :: cases.drop (index + 1) := by simp
  rw [answeredBefore, List.countP_eq_length_filter]
  generalize cases.take index = before at split
  generalize cases.drop (index + 1) = after at split
  generalize cases[index] = testCase at split answered
  rw [split, List.filter_append, List.filter_cons_of_pos answered,
    List.getElem?_append_right (Nat.le_refl _), Nat.sub_self, List.getElem?_cons_zero]

/-- A case with two outputs counts as agreeing exactly when the outputs agree. -/
theorem countsAsAgreeing_iff [CaseInputs I] [LawfulInputs I] {set : ImplementationSet}
    {cases : List (TestCase I)} {index : Nat} {testCase : TestCase I}
    (there : cases[index]? = some testCase) {outputA outputB : Value}
    (first : firstOutput testCase.results set.a = some outputA)
    (second : firstOutput testCase.results set.b = some outputB) :
    CountsAsAgreeing set cases index ↔ outputA.agrees outputB = true := by
  have answered : testCase.answered set = true := by simp [TestCase.answered, first, second]
  have position := filter_answered_getElem? there answered
  have inside : answeredBefore set cases index < (directOutcome set cases).totalCases :=
    (List.getElem?_eq_some_iff.mp position).1
  have direct : directDivergence? set (answeredBefore set cases index) testCase = none ↔
      outputA.agrees outputB = true := by
    simp [directDivergence?, first, second]
  rw [CountsAsAgreeing, runSuite_eq_direct, ← direct]
  constructor
  · rintro ⟨-, other⟩
    by_contra diverges
    obtain ⟨d, found⟩ := Option.ne_none_iff_exists'.mp diverges
    exact other d (mem_divergences_directOutcome.mpr ⟨_, testCase, position, found⟩)
      (directDivergence?_eq_some found).1
  · intro agrees
    refine ⟨inside, fun d reported same => ?_⟩
    obtain ⟨place, c, member, found⟩ := mem_divergences_directOutcome.mp reported
    obtain rfl : place = answeredBefore set cases index :=
      (directDivergence?_eq_some found).1.symm.trans same
    obtain rfl : c = testCase := Option.some.inj (member.symm.trans position)
    rw [agrees] at found
    contradiction

/-- The two numbers that stand in the text of a document as the outputs of the case at an index,
with their digits. -/
def recordedNumbers (text : String) (suite : Suite) (set : ImplementationSet) (index : Nat) :
    Option (WrittenNumber × WrittenNumber) := do
  let root ← (Source.parse text).toOption
  let testCase ← (root.recordedCases suite)[index]?
  match ← testCase.recordedOutput set.a, ← testCase.recordedOutput set.b with
  | .number p, .number q => some (p, q)
  | _, _ => none

/-- The numbers that a text records for a case are the first outputs of the case that is loaded from
it. -/
theorem firstOutputs_of_recordedNumbers {I : Type} [CaseInputs I] {text : String} {root : Value}
    {cases : List (TestCase I)} (parsed : Value.parse text = .ok root)
    (read : Document.casesOf I root = .ok cases) {set : ImplementationSet} {index : Nat}
    {p q : WrittenNumber}
    (recorded : recordedNumbers text (CaseInputs.suite I) set index = some (p, q)) :
    ∃ testCase, cases[index]? = some testCase ∧
      firstOutput testCase.results set.a = some (.number p.value) ∧
      firstOutput testCase.results set.b = some (.number q.value) := by
  obtain ⟨tree, parsedTree, rfl⟩ := parse_eq_ok.mp parsed
  simp only [recordedNumbers, parsedTree, Except.toOption, Option.bind_eq_bind, Option.bind_some,
    Option.bind_eq_some_iff] at recorded
  obtain ⟨caseTree, there, outputA, first, outputB, second, numbers⟩ := recorded
  obtain ⟨rfl, rfl⟩ : outputA = .number p ∧ outputB = .number q := by
    split at numbers
    · simpa using numbers
    · contradiction
  have all := casesOf_eq_recordedCases read
  obtain ⟨inside, isTree⟩ := List.getElem?_eq_some_iff.mp there
  have same : index < cases.length := all.length_eq ▸ inside
  have readCase : TestCase.ofValue caseTree.value = .ok cases[index] := by
    rw [← isTree]
    exact all.get inside same
  refine ⟨cases[index], List.getElem?_eq_getElem same, ?_, ?_⟩
  · rw [firstOutput_eq_recordedOutput set.a readCase, first]
    rfl
  · rw [firstOutput_eq_recordedOutput set.b readCase, second]
    rfl

/-- A number of a text that stands for the rational that its digits denote. -/
def Json.WrittenNumber.Exact (written : WrittenNumber) : Prop :=
  written.value.toRat = written.numeral.toRat

/-- An integer is read exactly. -/
theorem exact_of_integer {written : WrittenNumber} {k : Int}
    (isInteger : written.value = .integer k) : written.Exact := by
  rw [WrittenNumber.Exact, isInteger]
  exact Numeral.toRat_of_integer (isInteger ▸ written.number?_eq)

/-- How the run treats the case at an index that has two numbers as outputs. -/
structure ComparesValues [CaseInputs I] (set : ImplementationSet) (cases : List (TestCase I))
    (index : Nat) (p q : WrittenNumber) : Prop where
  /-- It counts as agreeing exactly when they are read with one value. -/
  values : CountsAsAgreeing set cases index ↔ p.value.toRat = q.value.toRat
  /-- Where both are read exactly, that is whether their digits denote one rational. -/
  exact : p.Exact → q.Exact →
    (CountsAsAgreeing set cases index ↔ p.numeral.toRat = q.numeral.toRat)
  /-- The same holds where both have few digits, which need not be read exactly. -/
  short : p.numeral.Short → q.numeral.Short →
    (CountsAsAgreeing set cases index ↔ p.numeral.toRat = q.numeral.toRat)
  /-- Integers are read exactly. -/
  integers : ∀ k, (p.value = .integer k → p.Exact) ∧ (q.value = .integer k → q.Exact)

/-- The outputs of a case are compared by the values read for them. -/
theorem comparesValues_of_recordedNumbers [CaseInputs I] [LawfulInputs I] {text : String}
    {root : Value} {cases : List (TestCase I)} (parsed : Value.parse text = .ok root)
    (read : Document.casesOf I root = .ok cases) {set : ImplementationSet} {index : Nat}
    {p q : WrittenNumber}
    (recorded : recordedNumbers text (CaseInputs.suite I) set index = some (p, q)) :
    ComparesValues set cases index p q := by
  obtain ⟨testCase, there, first, second⟩ := firstOutputs_of_recordedNumbers parsed read recorded
  have values : CountsAsAgreeing set cases index ↔ p.value.toRat = q.value.toRat := by
    rw [countsAsAgreeing_iff there first second, Value.agrees]
    exact Number.agrees_iff (Numeral.number?_fits p.number?_eq) (Numeral.number?_fits q.number?_eq)
  refine ⟨values, fun exactP exactQ => ?_, fun shortP shortQ => ?_,
    fun k => ⟨exact_of_integer, exact_of_integer⟩⟩
  · rw [values, exactP, exactQ]
  · rw [values, Numeral.toRat_eq_iff_of_short shortP shortQ p.number?_eq q.number?_eq]

end Agreement

/-- In every document that loads, for any implementations and in either suite, a case whose outputs
are written as two numbers counts as agreeing exactly when these are read with one value. -/
theorem recorded_numbers_compared_as_read {text : String} {document : Document}
    (loaded : Document.load text = .ok document) (set : ImplementationSet) (index : Nat)
    (p q : WrittenNumber) :
    (recordedNumbers text .binaryOperations set index = some (p, q) →
        ComparesValues set document.binaryCases index p q) ∧
      (recordedNumbers text .atOperations set index = some (p, q) →
        ComparesValues set document.atCases index p q) := by
  obtain ⟨root, parsed, readBinary, readAt⟩ := Document.load_eq_ok.mp loaded
  exact ⟨comparesValues_of_recordedNumbers parsed readBinary,
    comparesValues_of_recordedNumbers parsed readAt⟩

section Rounded

/-- The numbers that a text records for a case, as digits and values. -/
def recordedDigits (text : String) (suite : Suite) (set : ImplementationSet) (index : Nat) :
    Option ((Numeral × Number) × Numeral × Number) :=
  (recordedNumbers text suite set index).map fun (p, q) =>
    ((p.numeral, p.value), q.numeral, q.value)

/-- A text that loads, with digits and values that it records, has a document and two numbers. -/
theorem exists_recorded_of_digits {text : String} {suite : Suite} {set : ImplementationSet}
    {index : Nat} {first second : Numeral × Number}
    (loads : (Document.load text).toOption.isSome)
    (recorded : recordedDigits text suite set index = some (first, second)) :
    ∃ document p q, Document.load text = .ok document ∧
      recordedNumbers text suite set index = some (p, q) ∧
      (p.numeral, p.value) = first ∧ (q.numeral, q.value) = second := by
  obtain ⟨document, loaded⟩ := Option.isSome_iff_exists.mp loads
  obtain ⟨⟨p, q⟩, numbers, same⟩ := Option.map_eq_some_iff.mp recorded
  obtain ⟨left, right⟩ := Prod.mk.inj same
  exact ⟨document, p, q, toOption_eq_some.mp loaded, numbers, left, right⟩

/-- The digits `1e25`. -/
def shortNumeral : Numeral := ⟨false, ['1'], none, some (false, ['2', '5'])⟩

/-- The digits `10e24`. -/
def longNumeral : Numeral := ⟨false, ['1', '0'], none, some (false, ['2', '4'])⟩

/-- The digits `9007199254740993e0`. -/
def oddNumeral : Numeral := ⟨false, "9007199254740993".toList, none, some (false, ['0'])⟩

/-- The digits `9007199254740992`. -/
def evenNumeral : Numeral := ⟨false, "9007199254740992".toList, none, none⟩

/-- The two spellings of one number are read as neighbours. -/
theorem recordedDigits_respelled :
    recordedDigits (.ofList (oneCaseText "1e25" "10e24")) .atOperations .default 0 =
      some ((shortNumeral, .float ⟨false, 4656612873077393, 31, by decide, by decide, by decide,
          by decide⟩),
        (longNumeral, .float ⟨false, 4656612873077392, 31, by decide, by decide, by decide,
          by decide⟩)) := by
  rw [recordedDigits, recordedNumbers, parse_ofList]
  decide +kernel

/-- The different numbers are read with one value. -/
theorem recordedDigits_rounded :
    recordedDigits (.ofList (oneCaseText "9007199254740993e0" "9007199254740992")) .atOperations
        .default 0 =
      some ((oddNumeral, .float ⟨false, 4503599627370496, 1, by decide, by decide, by decide,
          by decide⟩),
        (evenNumeral, .integer 9007199254740992)) := by
  rw [recordedDigits, recordedNumbers, parse_ofList]
  decide +kernel

/-- The rational of digits without a sign. -/
theorem toRat_of_digits {n : Numeral} (unsigned : n.negative = false) {digits : Nat}
    {exponent : Int} (spelled : Nat.ofDigitChars 10 n.digits 0 = digits)
    (scaled : n.decimalExponent = exponent) :
    n.toRat = digits * (10 : ℚ) ^ exponent := by
  rw [Numeral.toRat, unsigned, spelled, scaled]
  simp

/-- Two spellings of one number that are reported as a divergence, and two different numbers that
count as agreeing. -/
theorem recorded_numbers_compared_as_read_rounded :
    (∃ document p q, Document.load (.ofList (oneCaseText "1e25" "10e24")) = .ok document ∧
        recordedNumbers (.ofList (oneCaseText "1e25" "10e24")) .atOperations .default 0 =
          some (p, q) ∧
        p.numeral.toRat = q.numeral.toRat ∧ ¬CountsAsAgreeing .default document.atCases 0) ∧
      ∃ document p q,
        Document.load (.ofList (oneCaseText "9007199254740993e0" "9007199254740992")) =
          .ok document ∧
        recordedNumbers (.ofList (oneCaseText "9007199254740993e0" "9007199254740992"))
          .atOperations .default 0 = some (p, q) ∧
        p.numeral.toRat ≠ q.numeral.toRat ∧ CountsAsAgreeing .default document.atCases 0 := by
  constructor
  · have loads : (Document.load (.ofList (oneCaseText "1e25" "10e24"))).toOption.isSome := by
      rw [Document.load, Value.parse, parse_ofList]
      decide +kernel
    obtain ⟨document, p, q, loaded, numbers, digitsP, digitsQ⟩ :=
      exists_recorded_of_digits loads recordedDigits_respelled
    obtain ⟨writtenP, valueP⟩ := Prod.mk.inj digitsP
    obtain ⟨writtenQ, valueQ⟩ := Prod.mk.inj digitsQ
    have compared := (recorded_numbers_compared_as_read loaded .default 0 p q).2 numbers
    refine ⟨document, p, q, loaded, numbers, ?_, ?_⟩
    · rw [writtenP, writtenQ, toRat_of_digits rfl (show _ = 1 by decide) (show _ = 25 by decide),
        toRat_of_digits rfl (show _ = 10 by decide) (show _ = 24 by decide)]
      norm_num
    · rw [compared.values, valueP, valueQ]
      norm_num [Number.toRat, Binary64.toRat, Binary64.signedSignificand]
  · have loads : (Document.load
        (.ofList (oneCaseText "9007199254740993e0" "9007199254740992"))).toOption.isSome := by
      rw [Document.load, Value.parse, parse_ofList]
      decide +kernel
    obtain ⟨document, p, q, loaded, numbers, digitsP, digitsQ⟩ :=
      exists_recorded_of_digits loads recordedDigits_rounded
    obtain ⟨writtenP, valueP⟩ := Prod.mk.inj digitsP
    obtain ⟨writtenQ, valueQ⟩ := Prod.mk.inj digitsQ
    have compared := (recorded_numbers_compared_as_read loaded .default 0 p q).2 numbers
    refine ⟨document, p, q, loaded, numbers, ?_, ?_⟩
    · rw [writtenP, writtenQ,
        toRat_of_digits rfl (show _ = 9007199254740993 by decide +kernel) (show _ = 0 by decide),
        toRat_of_digits rfl (show _ = 9007199254740992 by decide +kernel) (show _ = 0 by decide)]
      norm_num
    · rw [compared.values, valueP, valueQ]
      norm_num [Number.toRat, Binary64.toRat, Binary64.signedSignificand]

end Rounded

end Concord
