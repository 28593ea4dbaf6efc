import Concord.Display.Details
import Concord.Proofs.Interval
import Concord.Proofs.Json.Meaning
import Concord.Proofs.Json.Unambiguous

/-!
# Divergences that look alike

The details show the two outputs of a divergence one under the other. Two different outputs have one
text there only when both are intervals: the text of an interval leaves out its further members, and
of the empty interval also its ends. Any other value is shown as JSON, which no other value has; and
an interval in brackets is never taken for JSON, since a blank follows its comma.
-/

namespace Concord

open Json

namespace Json.Value

/-- The value of the member with the key; only objects have members. -/
def member? (key : String) : Value → Option Value
  | .object members => find? key members
  | _ => none

/-- The value says of itself that it is the empty interval. -/
def IsBottom (value : Value) : Prop := value.member? "is_bottom" = some (.bool true)

end Json.Value

open Json.Value

/-- A member is written alike in two values: it is absent in both, or has one text. -/
def WrittenAlike (key : String) (a b : Value) : Prop :=
  (a.member? key).map Value.compact = (b.member? key).map Value.compact

/-- Two values are intervals, and either both are empty or neither is and their ends and bit widths
are written alike. -/
def ShownAlike (a b : Value) : Prop :=
  a.IsInterval ∧ b.IsInterval ∧
    (a.IsBottom ∧ b.IsBottom ∨
      ¬ a.IsBottom ∧ ¬ b.IsBottom ∧
        ∀ key ∈ ["start", "end", "bitwidth"], WrittenAlike key a b)

/-- Two values differ in a member: only one of them has it, or the values do not agree. -/
def DifferIn (key : String) (a b : Value) : Prop :=
  ¬ Option.Rel (fun x y => x.agrees y = true) (a.member? key) (b.member? key)

section Members

/-- A member is written alike in two values only when it is the same. -/
theorem writtenAlike_iff {key : String} {a b : Value} :
    WrittenAlike key a b ↔ a.member? key = b.member? key :=
  (Option.map_injective compact_injective).eq_iff

/-- Well formed objects agree when they differ in no member. -/
theorem agrees_of_not_differIn {left right : Members} (leftForm : (Value.object left).WellFormed)
    (rightForm : (Value.object right).WellFormed)
    (none : ∀ key, ¬ DifferIn key (.object left) (.object right)) :
    (Value.object left).agrees (.object right) = true := by
  rw [Value.agrees_iff leftForm rightForm, Value.meaning, Value.meaning]
  congr 1
  funext key
  have related := not_not.mp (none key)
  rw [memberMeanings_eq, memberMeanings_eq]
  simp only [member?] at related
  cases here : find? key left with
  | none =>
    rw [here] at related
    cases there : find? key right with
    | none => rfl
    | some other =>
      rw [there] at related
      cases related
  | some value =>
    rw [here] at related
    cases there : find? key right with
    | none =>
      rw [there] at related
      cases related
    | some other =>
      rw [there] at related
      cases related with
      | some agree =>
        have values := (Value.agrees_iff (wellFormed_of_find? leftForm here)
          (wellFormed_of_find? rightForm there)).mp agree
        exact congrArg some values

/-- Two well formed values do not differ in a member that is the same in both. -/
theorem not_differIn_of_eq {key : String} {a b : Value} (form : a.WellFormed)
    (same : a.member? key = b.member? key) : ¬ DifferIn key a b := by
  rw [DifferIn, not_not, ← same]
  cases a with
  | object members =>
    simp only [member?]
    cases found : find? key members with
    | none => exact .none
    | some value =>
      have inside := wellFormed_of_find? form found
      exact .some ((Value.agrees_iff inside inside).mpr rfl)
  | _ => exact .none

end Members

namespace Interval

/-- What an interval is made of stands in the value that it was read from. -/
theorem member?_of_ofOutput? {value : Value} {i : Interval} (read : ofOutput? value = some i) :
    value.member? "start" = some (.number i.start) ∧
      value.member? "end" = some (.number i.finish) ∧
      value.member? "is_bottom" = some (.bool i.isBottom) ∧
      value.member? "bitwidth" = find? "bitwidth" i.extra := by
  obtain ⟨members, rfl, start, finish, bottom, others⟩ :=
    ofValue_eq_ok.mp (toOption_eq_some.mp read)
  refine ⟨start, finish, bottom, ?_⟩
  rw [others, find?_without (by decide)]
  rfl

/-- The bit width as it stands after the brackets. -/
def widthChars : Option Value → List Char
  | none => []
  | some bits => ' ' :: '(' :: (bits.chars .compact 0 ++ ['b', 'i', 't', ')'])

/-- Different bit widths have different texts. -/
theorem widthChars_injective : Function.Injective widthChars := by
  intro first second same
  cases first with
  | none =>
    cases second with
    | none => rfl
    | some bits => contradiction
  | some bits =>
    cases second with
    | none => contradiction
    | some others =>
      have texts := List.append_cancel_right (List.cons.inj (List.cons.inj same).2).2
      exact congrArg some (chars_injective Layout.isBlank_compact 0 texts)

variable {i j : Interval}

/-- The characters of the empty interval. -/
theorem toList_display_of_bottom (bottom : i.isBottom = true) :
    i.display.toList = "⊥ (bottom)".toList := by
  rw [display, if_pos bottom]

/-- The characters of an interval that is not empty. -/
theorem toList_display (proper : i.isBottom = false) :
    i.display.toList = '[' :: (i.start.chars ++ ',' :: ' ' ::
      (i.finish.chars ++ ']' :: widthChars (find? "bitwidth" i.extra))) := by
  rw [display, if_neg (Bool.eq_false_iff.mp proper)]
  cases find? "bitwidth" i.extra with
  | none => simp [widthChars]
  | some bits => simp [widthChars, compact]

/-- Two intervals have one text exactly when both are empty, or neither is and their ends and bit
widths are the same. -/
theorem display_eq_iff :
    i.display = j.display ↔
      (i.isBottom = true ∧ j.isBottom = true) ∨
        (i.isBottom = false ∧ j.isBottom = false ∧ i.start = j.start ∧ i.finish = j.finish ∧
          find? "bitwidth" i.extra = find? "bitwidth" j.extra) := by
  rw [← String.toList_inj]
  cases left : i.isBottom with
  | true =>
    rw [toList_display_of_bottom left]
    cases right : j.isBottom with
    | true =>
      rw [toList_display_of_bottom right]
      simp
    | false =>
      rw [toList_display right]
      simp
  | false =>
    rw [toList_display left]
    cases right : j.isBottom with
    | true =>
      rw [toList_display_of_bottom right]
      simp
    | false =>
      rw [toList_display right]
      simp only [Bool.false_eq_true, and_self, false_or, true_and]
      constructor
      · intro same
        obtain ⟨starts, after⟩ := i.start.unambiguous (endsNumber_cons (by decide) _)
          (endsNumber_cons (by decide) _) (List.cons.inj same).2
        obtain ⟨finishes, widths⟩ := i.finish.unambiguous (endsNumber_cons (by decide) _)
          (endsNumber_cons (by decide) _) (List.cons.inj (List.cons.inj after).2).2
        exact ⟨starts, finishes, widthChars_injective (List.cons.inj widths).2⟩
      · rintro ⟨starts, finishes, widths⟩
        rw [starts, finishes, widths]

/-- The text of an interval that is not empty is no JSON: after the first end stands a comma, and
after the comma a blank. -/
theorem toList_display_ne_array (proper : i.isBottom = false) (items : List Value) :
    i.display.toList ≠ (Value.array items).chars .compact 0 := by
  intro same
  rw [toList_display proper, Value.chars, itemPieces_eq_map] at same
  obtain ⟨c, more, start, head⟩ := i.start.exists_head
  cases items with
  | nil =>
    rw [start] at same
    obtain rfl : c = ']' := (List.cons.inj (List.cons.inj same).2).1
    exact absurd head (by decide)
  | cons item items =>
    rw [← List.append_nil (Layout.enclose _ _ _ _ _), List.map_cons,
      Layout.enclose_cons_append] at same
    have pieces : (Value.number i.start).chars .compact 1 ++ _ = item.chars .compact 1 ++ _ :=
      (List.cons.inj same).2
    obtain ⟨-, after⟩ := Value.unambiguous Layout.isBlank_compact _ 1
      (endsNumber_cons (by decide) _)
      (Layout.isBlank_compact.endsNumber 1 0 _ ']' (by decide) []) pieces
    cases items with
    | nil => exact absurd (List.cons.inj after).1 (by decide)
    | cons next items =>
      obtain ⟨d, text, first, visible, -⟩ := next.exists_head .compact 1
      rw [List.map_cons, first] at after
      obtain rfl : ' ' = d := (List.cons.inj (List.cons.inj after).2).1
      exact absurd visible (by decide)

/-- An interval in brackets, or the empty interval, has the text of no value as JSON. -/
theorem display_ne_compact (i : Interval) (value : Value) : i.display ≠ value.compact := by
  intro same
  have texts : i.display.toList = value.chars .compact 0 := by
    rw [same, compact, String.toList_ofList]
  obtain ⟨c, more, start, -, -, kind⟩ := value.exists_head .compact 0
  cases empty : i.isBottom with
  | true =>
    rw [toList_display_of_bottom empty, start] at texts
    obtain rfl : '⊥' = c := (List.cons.inj texts).1
    cases value with
    | number n =>
      obtain ⟨d, text, split, head⟩ := n.exists_head
      obtain rfl : '⊥' = d := (List.cons.inj (start.symm.trans split)).1
      exact absurd head (by decide)
    | _ => contradiction
  | false =>
    have opened : '[' = c := by
      rw [start, toList_display empty] at texts
      exact (List.cons.inj texts).1
    subst opened
    cases value with
    | array items => exact toList_display_ne_array empty items texts
    | _ => contradiction

end Interval

section Values

variable {a b : Value}

/-- Two intervals that are read from values have one text exactly when the values are shown
alike. -/
theorem display_eq_iff_shownAlike (leftForm : a.WellFormed) (rightForm : b.WellFormed)
    {i j : Interval} (left : Interval.ofOutput? a = some i)
    (right : Interval.ofOutput? b = some j) : i.display = j.display ↔ ShownAlike a b := by
  have shapeA := (Interval.exists_ofOutput?_iff leftForm).mp ⟨i, left⟩
  have shapeB := (Interval.exists_ofOutput?_iff rightForm).mp ⟨j, right⟩
  obtain ⟨startA, finishA, bottomA, widthA⟩ := Interval.member?_of_ofOutput? left
  obtain ⟨startB, finishB, bottomB, widthB⟩ := Interval.member?_of_ofOutput? right
  rw [Interval.display_eq_iff]
  simp [ShownAlike, shapeA, shapeB, IsBottom, writtenAlike_iff, startA, finishA, bottomA, widthA,
    startB, finishB, bottomB, widthB]

/-- Two values have one text exactly when they are shown alike or are the same value. -/
theorem displayValue_eq_iff (leftForm : a.WellFormed) (rightForm : b.WellFormed) :
    displayValue a = displayValue b ↔ ShownAlike a b ∨ a = b := by
  constructor
  · intro same
    rw [displayValue, displayValue] at same
    cases left : Interval.ofOutput? a with
    | none =>
      cases right : Interval.ofOutput? b with
      | none =>
        rw [left, right] at same
        exact .inr (compact_injective same)
      | some j =>
        rw [left, right] at same
        exact absurd same.symm (j.display_ne_compact a)
    | some i =>
      cases right : Interval.ofOutput? b with
      | none =>
        rw [left, right] at same
        exact absurd same (i.display_ne_compact b)
      | some j =>
        rw [left, right] at same
        exact .inl ((display_eq_iff_shownAlike leftForm rightForm left right).mp same)
  · rintro (alike | rfl)
    · obtain ⟨i, left⟩ := (Interval.exists_ofOutput?_iff leftForm).mpr alike.1
      obtain ⟨j, right⟩ := (Interval.exists_ofOutput?_iff rightForm).mpr alike.2.1
      rw [displayValue, displayValue, left, right]
      exact (display_eq_iff_shownAlike leftForm rightForm left right).mpr alike
    · rfl

/-- The members that decide what is shown of an interval. -/
def shownKeys : List String := ["start", "end", "is_bottom", "bitwidth"]

/-- Intervals that are shown alike and not empty have the shown members in common. -/
theorem ShownAlike.member?_eq (leftForm : a.WellFormed) (rightForm : b.WellFormed)
    (alike : ShownAlike a b) (proper : ¬ a.IsBottom) :
    ∀ key ∈ shownKeys, a.member? key = b.member? key := by
  obtain ⟨shapeA, shapeB, ⟨empty, -⟩ | ⟨-, properB, written⟩⟩ := alike
  · exact absurd empty proper
  obtain ⟨i, left⟩ := (Interval.exists_ofOutput?_iff leftForm).mpr shapeA
  obtain ⟨j, right⟩ := (Interval.exists_ofOutput?_iff rightForm).mpr shapeB
  obtain ⟨-, -, bottomA, -⟩ := Interval.member?_of_ofOutput? left
  obtain ⟨-, -, bottomB, -⟩ := Interval.member?_of_ofOutput? right
  have bottoms : i.isBottom = j.isBottom := by
    simp only [IsBottom, bottomA, bottomB, Option.some.injEq, Value.bool.injEq,
      Bool.not_eq_true] at proper properB
    rw [proper, properB]
  simp only [writtenAlike_iff, List.forall_mem_cons] at written
  obtain ⟨starts, finishes, widths, -⟩ := written
  simp only [shownKeys, List.forall_mem_cons]
  exact ⟨starts, finishes, by rw [bottomA, bottomB, bottoms], widths, by simp⟩

/-- Intervals that have the shown members in common and do not agree differ in another member. -/
theorem exists_differIn (leftForm : a.WellFormed) (rightForm : b.WellFormed)
    (shapeA : a.IsInterval) (shapeB : b.IsInterval)
    (common : ∀ key ∈ shownKeys, a.member? key = b.member? key)
    (differ : ¬ a.agrees b = true) : ∃ key, key ∉ shownKeys ∧ DifferIn key a b := by
  obtain ⟨left, -, rfl, -⟩ := shapeA.1
  obtain ⟨right, -, rfl, -⟩ := shapeB.1
  by_contra none
  push Not at none
  apply differ
  apply agrees_of_not_differIn leftForm rightForm
  intro key
  by_cases shown : key ∈ shownKeys
  · exact not_differIn_of_eq leftForm (common key shown)
  · exact none key shown

/-- Values that do not agree are different. -/
theorem ne_of_not_agrees (form : a.WellFormed) (differ : ¬ a.agrees b = true) : a ≠ b := by
  rintro rfl
  exact differ ((Value.agrees_iff form form).mpr rfl)

end Values

/-- The outputs of a divergence are those that were compared, and they do not agree. -/
theorem outputs_of_compareCase {I : Type} {set : ImplementationSet} {caseNumber : Nat}
    {testCase : TestCase I} {outputA outputB : Option Value} {d : Divergence I}
    (diverged : compareCase set caseNumber testCase outputA outputB = .diverged d) :
    outputA = some d.outputA ∧ outputB = some d.outputB ∧ ¬ d.outputA.agrees d.outputB = true := by
  unfold compareCase at diverged
  split at diverged
  · split_ifs at diverged with agree
    obtain rfl := Comparison.diverged.inj diverged
    exact ⟨rfl, rfl, agree⟩
  · contradiction

/-- The outputs of a divergence are shown with one text exactly when both are intervals, and either
both are empty or neither is and their ends and bit widths are written alike. In the latter case
they have the shown members in common and differ in another one. An interval as it is shown never
has the text of a value as JSON, and values that do not agree never have one text as JSON. -/
theorem same_text_iff_shownAlike {I : Type} {set : ImplementationSet} {caseNumber : Nat}
    {testCase : TestCase I} {outputA outputB : Option Value} {d : Divergence I}
    (leftForm : ∀ value ∈ outputA, value.WellFormed)
    (rightForm : ∀ value ∈ outputB, value.WellFormed)
    (diverged : compareCase set caseNumber testCase outputA outputB = .diverged d) :
    (displayValue d.outputA = displayValue d.outputB ↔ ShownAlike d.outputA d.outputB) ∧
      (ShownAlike d.outputA d.outputB → ¬ d.outputA.IsBottom →
        (∀ key ∈ shownKeys, d.outputA.member? key = d.outputB.member? key) ∧
          ∃ key, key ∉ shownKeys ∧ DifferIn key d.outputA d.outputB) ∧
      (∀ (i : Interval) (value : Value), i.display ≠ value.compact) ∧
      ∀ a b : Value, a.WellFormed → ¬ a.agrees b = true → a.compact ≠ b.compact := by
  obtain ⟨rfl, rfl, differ⟩ := outputs_of_compareCase diverged
  have formA := leftForm d.outputA rfl
  have formB := rightForm d.outputB rfl
  refine ⟨?_, fun alike proper => ?_, Interval.display_ne_compact, fun a b form other => ?_⟩
  · rw [displayValue_eq_iff formA formB]
    exact or_iff_left (ne_of_not_agrees formA differ)
  · have common := alike.member?_eq formA formB proper
    exact ⟨common, exists_differIn formA formB alike.1 alike.2.1 common differ⟩
  · exact compact_injective.ne (ne_of_not_agrees form other)

/-- Two intervals from 0 to 5 of eight bits whose sources differ: they diverge and are shown
alike. -/
theorem same_text_iff_shownAlike_other_source :
    let interval (source : String) : Value :=
      .object [("bitwidth", .number (.integer 8)), ("end", .number (.integer 5)),
        ("is_bottom", .bool false), ("source", .string source), ("start", .number (.integer 0))]
    let inputs : AtInputs := ⟨⟨.integer 0, .integer 1, false, []⟩, .null⟩
    ∃ d : Divergence AtInputs,
      compareCase .default 0 ⟨"at", inputs, [], []⟩ (some (interval "fast"))
        (some (interval "exact")) = .diverged d ∧
      ShownAlike d.outputA d.outputB ∧ displayValue d.outputA = displayValue d.outputB ∧
      ∃ key, key ∉ shownKeys ∧ DifferIn key d.outputA d.outputB := by
  intro interval inputs
  have increase : ["bitwidth", "end", "is_bottom", "source", "start"].Pairwise (· < ·) := by decide
  have form (source : String) : (interval source).WellFormed :=
    ⟨increase, ⟨by decide, by decide⟩, ⟨by decide, by decide⟩, trivial, trivial,
      ⟨by decide, by decide⟩, trivial⟩
  have differ : ¬ (interval "fast").agrees (interval "exact") = true := by decide +kernel
  have diverged : compareCase .default 0 (⟨"at", inputs, [], []⟩ : TestCase AtInputs)
      (some (interval "fast")) (some (interval "exact")) =
        .diverged
          ⟨0, "at", inputs, interval "fast", interval "exact", interval "exact", "Rust_at"⟩ := by
    rw [compareCase, if_neg differ]
    rfl
  have shape (source : String) : (interval source).IsInterval :=
    ⟨⟨_, .number (.integer 0), rfl, by simp, _, rfl⟩,
      ⟨_, .number (.integer 5), rfl, by simp, _, rfl⟩, ⟨_, .bool false, rfl, by simp, _, rfl⟩⟩
  have proper (source : String) : ¬ (interval source).IsBottom := by
    simp [interval, IsBottom, member?, find?]
  have written (key : String) (shown : key ∈ ["start", "end", "bitwidth"]) :
      WrittenAlike key (interval "fast") (interval "exact") := by
    rw [writtenAlike_iff]
    simp only [List.mem_cons, List.not_mem_nil, or_false] at shown
    rcases shown with rfl | rfl | rfl <;> simp [interval, member?, find?]
  have alike : ShownAlike (interval "fast") (interval "exact") :=
    ⟨shape _, shape _, .inr ⟨proper _, proper _, written⟩⟩
  obtain ⟨text, other, -⟩ :=
    same_text_iff_shownAlike (by simp [form]) (by simp [form]) diverged
  exact ⟨_, diverged, alike, text.mpr alike, (other alike (proper _)).2⟩

end Concord
