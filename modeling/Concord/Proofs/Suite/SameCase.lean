import Concord.Proofs.Interval
import Concord.Proofs.Json.Content

/-!
# Which cases are the same

Two cases are the same when they describe one operation on the same inputs. Inputs are compared as
they are stored, an interval by its parts; but for cases that were read this is comparing the values
that a report shows, as trees whose numbers keep their kind. So being the same is finer than
agreeing, and only by the kinds of numbers.
-/

namespace Concord

open Json

namespace Interval

variable {i j : Interval}

/-- What is found in the value of a proper interval: its own members, then the others. -/
theorem Proper.find?_toValue (proper : i.Proper) (key : String) :
    find? key (sortMembers (i.ownMembers ++ i.extra)) =
      (find? key i.ownMembers).or (find? key i.extra) := by
  have sorted := sortMembers_perm proper.nodup_keys
  rw [← find?_append]
  cases found : find? key (i.ownMembers ++ i.extra) with
  | none =>
    rw [find?_eq_none_iff] at found ⊢
    exact fun there => found ((sorted.map Prod.fst).subset there)
  | some value =>
    have there := sorted.symm.subset (mem_of_find?_eq_some found)
    exact find?_eq_some_of_mem (keysIncrease_sortMembers _).nodup there

/-- Proper intervals are written as one tree exactly when under each key one tree is found. -/
theorem content_toValue_eq_iff (left : i.Proper) (right : j.Proper) :
    i.toValue.content = j.toValue.content ↔ ∀ key,
      ((find? key i.ownMembers).or (find? key i.extra)).map Value.content =
        ((find? key j.ownMembers).or (find? key j.extra)).map Value.content := by
  simp only [toValue, Value.content, Content.object.injEq, funext_iff, memberContents_eq,
    left.find?_toValue, right.find?_toValue]

/-- The members of its own that two intervals have are one tree exactly when the ends are the same
and both or none of them are empty. -/
theorem map_content_ownMembers_eq_iff :
    i.ownMembers.map memberContent = j.ownMembers.map memberContent ↔
      i.start.same j.start = true ∧ i.finish.same j.finish = true ∧ i.isBottom = j.isBottom := by
  simp [ownMembers, memberContent, Value.content, Number.same_iff]

/-- Proper intervals are the same exactly when they are written as one tree. -/
theorem same_iff (left : i.Proper) (right : j.Proper) :
    i.same j = true ↔ i.toValue.content = j.toValue.content := by
  have parts : i.same j = true ↔ i.ownMembers.map memberContent = j.ownMembers.map memberContent ∧
      i.extra.map memberContent = j.extra.map memberContent := by
    rw [map_content_ownMembers_eq_iff, ← sameMembers_iff left.extra.2 right.extra.2]
    simp [same, and_assoc]
  have found {members others : Members} (key : String)
      (same : members.map memberContent = others.map memberContent) :
      (find? key members).map Value.content = (find? key others).map Value.content := by
    rw [← find?_map, ← find?_map]
    exact congrArg (find? key) same
  rw [parts, content_toValue_eq_iff left right]
  constructor
  · rintro ⟨own, extra⟩ key
    rw [Option.map_or, Option.map_or, found key own, found key extra]
  · intro each
    have start : i.start.kind = j.start.kind ∧ i.start.toRat = j.start.toRat := by
      simpa [ownMembers, find?, Value.content] using each "start"
    have finish : i.finish.kind = j.finish.kind ∧ i.finish.toRat = j.finish.toRat := by
      simpa [ownMembers, find?, Value.content] using each "end"
    have bottom : i.isBottom = j.isBottom := by
      simpa [ownMembers, find?, Value.content] using each "is_bottom"
    constructor
    · rw [map_content_ownMembers_eq_iff, Number.same_iff, Number.same_iff]
      exact ⟨start, finish, bottom⟩
    · rw [← memberContents_eq_iff left.extra.1 right.extra.1]
      funext key
      rw [memberContents_eq, memberContents_eq]
      by_cases own : key ∈ keys
      · rw [left.others key own, right.others key own]
      · have absent (k : Interval) : find? key k.ownMembers = none :=
          find?_eq_none_iff.mpr own
        have other := each key
        rwa [absent, absent, Option.none_or, Option.none_or] at other

end Interval

/-- The inputs of a case by name, as trees whose numbers keep their kind. -/
def TestCase.inputContents {I : Type} [CaseInputs I] (c : TestCase I) : List (String × Content) :=
  c.inputMembers.map memberContent

/-- The inputs of two cases, one by one, have the same names and are related. -/
def TestCase.InputsRelated {I : Type} [CaseInputs I] (related : Value → Value → Prop)
    (c d : TestCase I) : Prop :=
  List.Forall₂ (fun a b => a.1 = b.1 ∧ related a.2 b.2) c.inputMembers d.inputMembers

/-- The case was read from a well formed value. -/
def TestCase.Recorded {I : Type} [CaseInputs I] (c : TestCase I) : Prop :=
  ∃ value : Value, value.WellFormed ∧ TestCase.ofValue value = .ok c

/-- Inputs that were read are the same exactly when they are shown as the same trees. -/
class ComparableInputs (I : Type) [CaseInputs I] : Prop where
  /-- What was read is written as well formed values. -/
  wellFormed_members : ∀ {members : Members} {inputs : I}, (Value.object members).WellFormed →
    CaseInputs.read members = .ok (.ok inputs) →
      ∀ member ∈ CaseInputs.members Interval.toValue inputs, member.2.WellFormed
  /-- The comparison of parts is one of trees. -/
  same_iff : ∀ {members others : Members} {inputs input : I}, (Value.object members).WellFormed →
    (Value.object others).WellFormed → CaseInputs.read members = .ok (.ok inputs) →
    CaseInputs.read others = .ok (.ok input) →
      (CaseInputs.same inputs input = true ↔
        (CaseInputs.members Interval.toValue inputs).map memberContent =
          (CaseInputs.members Interval.toValue input).map memberContent)

/-- An interval that stands in a well formed object is proper. -/
theorem Interval.proper_of_member {members : Members} (form : (Value.object members).WellFormed)
    {key : String} {i : Interval}
    (read : ∃ value, find? key members = some value ∧ Interval.ofValue value = .ok i) :
    i.Proper := by
  obtain ⟨value, found, read⟩ := read
  exact Interval.proper_of_ofValue (wellFormed_of_find? form found) read

instance : ComparableInputs BinaryInputs where
  wellFormed_members := by
    intro members inputs form read member there
    obtain ⟨left, right⟩ := BinaryInputs.read_eq_ok.mp read
    simp only [CaseInputs.members, List.mem_cons, List.not_mem_nil, or_false] at there
    rcases there with rfl | rfl
    · exact (Interval.proper_of_member form left).wellFormed_toValue
    · exact (Interval.proper_of_member form right).wellFormed_toValue
  same_iff := by
    intro members others inputs input form otherForm read otherRead
    obtain ⟨left, right⟩ := BinaryInputs.read_eq_ok.mp read
    obtain ⟨otherLeft, otherRight⟩ := BinaryInputs.read_eq_ok.mp otherRead
    have lefts := Interval.same_iff (Interval.proper_of_member form left)
      (Interval.proper_of_member otherForm otherLeft)
    have rights := Interval.same_iff (Interval.proper_of_member form right)
      (Interval.proper_of_member otherForm otherRight)
    simp [CaseInputs.same, CaseInputs.members, memberContent, lefts, rights]

instance : ComparableInputs AtInputs where
  wellFormed_members := by
    intro members inputs form read member there
    obtain ⟨interval, value⟩ := AtInputs.read_eq_ok.mp read
    simp only [CaseInputs.members, List.mem_cons, List.not_mem_nil, or_false] at there
    rcases there with rfl | rfl
    · exact (Interval.proper_of_member form interval).wellFormed_toValue
    · exact wellFormed_of_find? form value
  same_iff := by
    intro members others inputs input form otherForm read otherRead
    obtain ⟨interval, value⟩ := AtInputs.read_eq_ok.mp read
    obtain ⟨otherInterval, otherValue⟩ := AtInputs.read_eq_ok.mp otherRead
    have intervals := Interval.same_iff (Interval.proper_of_member form interval)
      (Interval.proper_of_member otherForm otherInterval)
    have values := Value.same_iff (wellFormed_of_find? form value)
      (wellFormed_of_find? otherForm otherValue)
    simp [CaseInputs.same, CaseInputs.members, memberContent, intervals, values]

namespace TestCase

variable {I : Type} [CaseInputs I] {c d : TestCase I}

/-- The inputs of a recorded case are well formed values. -/
theorem Recorded.wellFormed_inputs [ComparableInputs I] (recorded : c.Recorded) :
    ∀ member ∈ c.inputMembers, member.2.WellFormed := by
  obtain ⟨value, form, read⟩ := recorded
  obtain ⟨members, rfl, inputs, -⟩ := TestCase.ofValue_eq_ok.mp read
  exact ComparableInputs.wellFormed_members form inputs

/-- Recorded cases are the same exactly when they have one operation and their inputs are the same
trees. -/
theorem same_iff [ComparableInputs I] (left : c.Recorded) (right : d.Recorded) :
    c.same d = true ↔ c.operation = d.operation ∧ c.inputContents = d.inputContents := by
  obtain ⟨value, form, read⟩ := left
  obtain ⟨other, otherForm, otherRead⟩ := right
  obtain ⟨members, rfl, inputs, -⟩ := TestCase.ofValue_eq_ok.mp read
  obtain ⟨others, rfl, input, -⟩ := TestCase.ofValue_eq_ok.mp otherRead
  rw [same, Bool.and_eq_true, beq_iff_eq, ComparableInputs.same_iff form otherForm inputs input]
  rfl

/-- Inputs are the same trees exactly when one by one they are. -/
theorem inputContents_eq_iff :
    c.inputContents = d.inputContents ↔ c.InputsRelated (fun a b => a.content = b.content) d := by
  rw [inputContents, inputContents, ← List.forall₂_eq_eq_eq, List.forall₂_map_left_iff,
    List.forall₂_map_right_iff]
  simp only [InputsRelated, memberContent, Prod.mk.injEq]

/-- Well formed inputs are the same trees exactly when one by one they agree and match in kinds. -/
theorem inputContents_eq_iff_agrees (left : ∀ member ∈ c.inputMembers, member.2.WellFormed)
    (right : ∀ member ∈ d.inputMembers, member.2.WellFormed) :
    c.inputContents = d.inputContents ↔
      c.InputsRelated (fun a b => a.agrees b = true) d ∧ c.InputsRelated KindsMatch d := by
  have each {a b : String × Value} (pair : (a, b) ∈ c.inputMembers.zip d.inputMembers) :
      a.2.content = b.2.content ↔ a.2.agrees b.2 = true ∧ KindsMatch a.2 b.2 := by
    obtain ⟨first, second⟩ := List.of_mem_zip pair
    rw [Value.content_eq_iff, Value.agrees_iff (left a first) (right b second)]
  rw [inputContents_eq_iff]
  simp only [InputsRelated, List.forall₂_iff_zip]
  constructor
  · rintro ⟨size, related⟩
    exact ⟨⟨size, fun pair => ⟨(related pair).1, ((each pair).mp (related pair).2).1⟩⟩,
      size, fun pair => ⟨(related pair).1, ((each pair).mp (related pair).2).2⟩⟩
  · rintro ⟨⟨size, agree⟩, -, kinds⟩
    exact ⟨size, fun pair => ⟨(agree pair).1, (each pair).mpr ⟨(agree pair).2, (kinds pair).2⟩⟩⟩

end TestCase

/-- Recorded cases of a suite are the same exactly when they have one operation and the inputs that
a report shows are the same trees, in which numbers have a kind and a value. This is an
equivalence, and neither the results nor the other members of a case have a part in it. The inputs
of cases that are the same agree; and cases with one operation and inputs that agree are the same
when no integer among the inputs corresponds to a floating point number. -/
theorem same_case_compares_inputs {I : Type} [CaseInputs I] [ComparableInputs I] {c d : TestCase I}
    (left : c.Recorded) (right : d.Recorded) :
    (c.same d = true ↔ c.operation = d.operation ∧ c.inputContents = d.inputContents) ∧
    (c.same c = true ∧ c.same d = d.same c ∧ ∀ e : TestCase I, e.Recorded →
      c.same d = true → d.same e = true → c.same e = true) ∧
    (∀ (results more : List TaggedResult) (extra others : Members),
      TestCase.same { c.withResults results with extra := extra }
        { d.withResults more with extra := others } = c.same d) ∧
    (c.same d = true → c.InputsRelated (fun a b => a.agrees b = true) d) ∧
    (c.operation = d.operation → c.InputsRelated (fun a b => a.agrees b = true) d →
      c.InputsRelated KindsMatch d → c.same d = true) := by
  have exact := TestCase.same_iff left right
  have refined := TestCase.inputContents_eq_iff_agrees left.wellFormed_inputs
    right.wellFormed_inputs
  refine ⟨exact, ⟨?_, ?_, fun e recorded first second => ?_⟩, fun _ _ _ _ => rfl,
    fun same => ?_, fun operation agree kinds => ?_⟩
  · exact (TestCase.same_iff left left).mpr ⟨rfl, rfl⟩
  · rw [Bool.eq_iff_iff, exact, TestCase.same_iff right left]
    exact and_congr eq_comm eq_comm
  · obtain ⟨operation, inputs⟩ := exact.mp first
    obtain ⟨nextOperation, nextInputs⟩ := (TestCase.same_iff right recorded).mp second
    exact (TestCase.same_iff left recorded).mpr
      ⟨operation.trans nextOperation, inputs.trans nextInputs⟩
  · exact (refined.mp (exact.mp same).2).1
  · exact exact.mpr ⟨operation, refined.mpr ⟨agree, kinds⟩⟩

/-- A case recorded twice, with a zero of either sign and other durations, is the same case. A case
whose scalar is the same number of the other kind is not, although its inputs agree. -/
theorem same_case_compares_inputs_two_kinds :
    let timed (zero : Binary64) (scalar : Number) (duration : Nat) : TestCase AtInputs :=
      ⟨"at", ⟨⟨.float zero, .integer 8, false, []⟩, .number scalar⟩, [],
        [("duration", .number (.integer duration))]⟩
    let four : Number :=
      .float ⟨false, 4503599627370496, -50, by decide, by decide, by decide, by decide⟩
    let c := timed (.zero false) (.integer 4) 1
    let d := timed (.zero true) (.integer 4) 2
    let e := timed (.zero false) four 1
    (c.Recorded ∧ d.Recorded ∧ e.Recorded) ∧
      c.same d = true ∧ c.InputsRelated (fun a b => a.agrees b = true) d ∧
      c.same e = false ∧ c.InputsRelated (fun a b => a.agrees b = true) e ∧
      ¬ c.InputsRelated KindsMatch e := by
  intro timed four c d e
  have recorded (zero : Binary64) (scalar : Number) (duration : Nat) (fits : scalar.Fits)
      (short : duration < 10) : (timed zero scalar duration).Recorded := by
    have innerKeys : ["end", "is_bottom", "start"].Pairwise (· < ·) := by decide
    have keys : ["duration", "input_interval", "input_value", "operation", "results"].Pairwise
        (· < ·) := by decide
    let interval : Value := .object [("end", .number (.integer 8)), ("is_bottom", .bool false),
      ("start", .number (.float zero))]
    let value : Value := .object [("duration", .number (.integer duration)),
      ("input_interval", interval), ("input_value", .number scalar), ("operation", .string "at"),
      ("results", .array [])]
    have inner : interval.WellFormed :=
      ⟨innerKeys, ⟨by decide, by decide⟩, trivial, trivial, trivial⟩
    have time : (Number.integer duration).Fits := fits_natural (by omega)
    have form : value.WellFormed := ⟨keys, time, inner, fits, trivial, trivial, trivial⟩
    exact ⟨value, form, rfl⟩
  have small : (Number.integer 4).Fits := ⟨by decide, by decide⟩
  have first : c.Recorded := recorded _ _ _ small (by decide)
  have second : d.Recorded := recorded _ _ _ small (by decide)
  have third : e.Recorded := recorded _ four _ trivial (by decide)
  have same : c.same d = true := by decide +kernel
  have other : c.same e = false := by decide +kernel
  have agree : c.InputsRelated (fun a b => a.agrees b = true) e :=
    .cons ⟨rfl, by decide +kernel⟩ (.cons ⟨rfl, by decide +kernel⟩ .nil)
  obtain ⟨-, -, -, related, -⟩ := same_case_compares_inputs first second
  obtain ⟨-, -, -, -, back⟩ := same_case_compares_inputs first third
  refine ⟨⟨first, second, third⟩, same, related same, other, agree, fun kinds => ?_⟩
  rw [back rfl agree kinds] at other
  contradiction

end Concord
