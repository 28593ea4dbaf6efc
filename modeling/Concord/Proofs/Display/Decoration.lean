import Concord.Proofs.Display.Summary
import Concord.Proofs.Json.Controls

/-!
# Colour is decoration

Colour puts sequences for the terminal into a text. `undecorate` takes the sequences out again, in
one pass from left to right. The strings of a report may hold sequences themselves, or parts of
some, and a part could be completed by what comes to stand behind it. This does not happen: an
escape starts every sequence and stands nowhere else in one, blanks and line breaks stand in none,
and behind a styled text stands one of these. So the pass treats each piece of a text on its own,
and coloured and uncoloured text are the same once undecorated.
-/

namespace Concord.Display

open Json

section Sequences

/-- The sequences that styles put into a text. -/
def sequences : List (List Char) :=
  [Style.bold.opening, Style.dimmed.opening, Style.red.opening, Style.green.opening, reset]

/-- The text without sequences: each that the pass comes to is skipped, and every other character is
kept. -/
def undecorated : List Char → List Char
  | '\x1b' :: '[' :: '1' :: 'm' :: rest => undecorated rest
  | '\x1b' :: '[' :: '2' :: 'm' :: rest => undecorated rest
  | '\x1b' :: '[' :: '3' :: '1' :: 'm' :: rest => undecorated rest
  | '\x1b' :: '[' :: '3' :: '2' :: 'm' :: rest => undecorated rest
  | '\x1b' :: '[' :: '0' :: 'm' :: rest => undecorated rest
  | c :: rest => c :: undecorated rest
  | [] => []

/-- The text without sequences. -/
def undecorate (text : String) : String := String.ofList (undecorated text.toList)

variable {c : Char} {sequence rest text : List Char}

/-- The opening of a style is a sequence. -/
theorem Style.opening_mem_sequences (style : Style) : style.opening ∈ sequences := by
  cases style <;> decide

/-- A sequence in front is skipped. -/
theorem undecorated_sequence (one : sequence ∈ sequences) (rest : List Char) :
    undecorated (sequence ++ rest) = undecorated rest := by
  simp only [sequences, List.mem_cons, List.not_mem_nil, or_false] at one
  rcases one with rfl | rfl | rfl | rfl | rfl <;> rfl

/-- A character that starts no sequence is kept. -/
theorem undecorated_cons (none : ∀ sequence ∈ sequences, ¬ sequence <+: c :: rest) :
    undecorated (c :: rest) = c :: undecorated rest := by
  have differs (sequence more : List Char) (one : sequence ∈ sequences) :
      c :: rest ≠ sequence ++ more := fun same => none sequence one ⟨more, same.symm⟩
  rw [undecorated]
  · rintro more rfl rfl
    exact differs Style.bold.opening more (by decide) rfl
  · rintro more rfl rfl
    exact differs Style.dimmed.opening more (by decide) rfl
  · rintro more rfl rfl
    exact differs Style.red.opening more (by decide) rfl
  · rintro more rfl rfl
    exact differs Style.green.opening more (by decide) rfl
  · rintro more rfl rfl
    exact differs reset more (by decide) rfl

/-- A character that stands in sequences at most at their start. -/
def IsBorder (c : Char) : Prop := ∀ sequence ∈ sequences, c ∉ sequence.tail

instance (c : Char) : Decidable (IsBorder c) := List.decidableBAll _ sequences

/-- A sequence in front of a text that goes on at a border is in front of the text before it. -/
theorem prefix_of_border (border : IsBorder c) (one : sequence ∈ sequences)
    (nonempty : text ≠ []) (found : sequence <+: text ++ c :: rest) : sequence <+: text := by
  rcases List.prefix_or_prefix_of_prefix found (List.prefix_append text (c :: rest)) with
    inside | ⟨more, rfl⟩
  · exact inside
  · cases more with
    | nil => rw [List.append_nil]
    | cons d more =>
      -- The sequence would have the border behind the text, and so not at its start.
      obtain ⟨d', more', split⟩ := List.exists_cons_of_ne_nil nonempty
      rw [List.prefix_append_right_inj, List.cons_prefix_cons] at found
      obtain rfl := found.1
      exact absurd (by simp [split]) (border _ one)

/-- The pass over a text does not depend on what stands before a border, or behind it. -/
theorem undecorated_append_border (border : IsBorder c) (text rest : List Char) :
    undecorated (text ++ c :: rest) = undecorated text ++ undecorated (c :: rest) := by
  -- On the length of the text, since the pass goes on behind a whole sequence.
  induction counted : text.length using Nat.strongRecOn generalizing text with
  | ind size ih =>
    subst counted
    cases text with
    | nil => rfl
    | cons d text =>
      by_cases found : ∃ sequence ∈ sequences, sequence <+: d :: text
      · obtain ⟨sequence, one, more, split⟩ := found
        have shorter : more.length < (d :: text).length := by
          have nonempty : ∀ sequence ∈ sequences, 0 < sequence.length := by decide
          rw [← split, List.length_append]
          exact Nat.lt_add_of_pos_left (nonempty sequence one)
        rw [← split, List.append_assoc, undecorated_sequence one, undecorated_sequence one,
          ih more.length shorter more rfl]
      · have none : ∀ sequence ∈ sequences, ¬ sequence <+: d :: text :=
          fun sequence one inside => found ⟨sequence, one, inside⟩
        have still : ∀ sequence ∈ sequences, ¬ sequence <+: d :: (text ++ c :: rest) :=
          fun sequence one inside =>
            none sequence one (prefix_of_border border one (List.cons_ne_nil d text) inside)
        rw [List.cons_append, undecorated_cons still, undecorated_cons none,
          ih text.length (Nat.lt_succ_self _) text rfl, List.cons_append]

/-- Every sequence starts with an escape. -/
theorem exists_escape (one : sequence ∈ sequences) : ∃ more, sequence = '\x1b' :: more := by
  have start : ∀ sequence ∈ sequences, sequence.head? = some '\x1b' := by decide
  exact List.head?_eq_some_iff.mp (start sequence one)

/-- A text without escapes is kept. -/
theorem undecorated_append_of_plain (plain : '\x1b' ∉ text) (rest : List Char) :
    undecorated (text ++ rest) = text ++ undecorated rest := by
  induction text with
  | nil => rfl
  | cons c text ih =>
    rw [List.mem_cons, not_or] at plain
    have none : ∀ sequence ∈ sequences, ¬ sequence <+: c :: (text ++ rest) := by
      intro sequence one found
      obtain ⟨more, rfl⟩ := exists_escape one
      exact plain.1 (List.cons_prefix_cons.mp found).1
    rw [List.cons_append, undecorated_cons none, ih plain.2, List.cons_append]

/-- A text without escapes is its own undecorated text. -/
theorem undecorated_of_plain (plain : '\x1b' ∉ text) : undecorated text = text := by
  have whole := undecorated_append_of_plain plain []
  rwa [List.append_nil, undecorated, List.append_nil] at whole

/-- A sequence behind a text is skipped too, even where the text ends within a part of another. -/
theorem undecorated_append_sequence (one : sequence ∈ sequences) (text rest : List Char) :
    undecorated (text ++ (sequence ++ rest)) = undecorated text ++ undecorated rest := by
  rw [← undecorated_sequence one rest]
  obtain ⟨more, rfl⟩ := exists_escape one
  exact undecorated_append_border (by decide) text (more ++ rest)

/-- The pass does not go back: what stands around a sequence stays apart. -/
example : undecorated ['\x1b', '[', '\x1b', '[', '0', 'm', '1', 'm'] = ['\x1b', '[', '1', 'm'] := by
  decide

end Sequences

section Styles

/-- Repeating the opening sequence puts it behind the first end of all styles, if there is one. -/
theorem exists_reopen (opening text : List Char) :
    reopen opening text = text ∨ ∃ before after, text = before ++ (reset ++ after) ∧
      reopen opening text = before ++ (reset ++ (opening ++ reopen opening after)) := by
  fun_induction reopen opening text with
  | case1 rest => exact .inr ⟨[], rest, rfl, by simp⟩
  | case2 c rest _ ih =>
    rcases ih with same | ⟨before, after, split, reopened⟩
    · exact .inl (congrArg (c :: ·) same)
    · exact .inr ⟨c :: before, after, by rw [split, List.cons_append],
        by rw [reopened, List.cons_append]⟩
  | case3 => exact .inl rfl

/-- Repeated opening sequences are skipped. -/
theorem undecorated_reopen (style : Style) (text : List Char) :
    undecorated (reopen style.opening text) = undecorated text := by
  induction counted : text.length using Nat.strongRecOn generalizing text with
  | ind size ih =>
    rcases exists_reopen style.opening text with same | ⟨before, after, split, reopened⟩
    · rw [same]
    · have shorter : after.length < size := by
        rw [← counted, split, List.length_append, List.length_append]
        exact Nat.lt_add_left _ (Nat.lt_add_of_pos_left (by decide))
      rw [reopened, split, undecorated_append_sequence (by decide),
        undecorated_append_sequence (by decide),
        undecorated_sequence style.opening_mem_sequences, ih after.length shorter after rfl]

/-- A styled text is undecorated like the text, apart from what follows. -/
theorem undecorated_styled (style : Style) (text rest : List Char) :
    undecorated (style.opening ++ reopen style.opening text ++ reset ++ rest) =
      undecorated text ++ undecorated rest := by
  rw [List.append_assoc, List.append_assoc, undecorated_sequence style.opening_mem_sequences,
    undecorated_append_sequence (by decide), undecorated_reopen]

end Styles

section Texts

/-- The text has no escapes. -/
def Plain (text : String) : Prop := '\x1b' ∉ text.toList

instance (text : String) : Decidable (Plain text) :=
  inferInstanceAs (Decidable ('\x1b' ∉ text.toList))

/-- A plain text that completes no sequence that begins before it. -/
def Separates (mark : String) : Prop := Plain mark ∧ ∃ c ∈ mark.toList.head?, IsBorder c

instance (mark : String) : Decidable (Separates mark) :=
  @instDecidableAnd _ _ _ (Option.decidableExistsMem mark.toList.head?)

/-- What a text leaves undecorated, whatever follows it: every sequence that begins in it ends in
it. -/
def Leaves (text : String) (left : List Char) : Prop :=
  ∀ rest, undecorated (text.toList ++ rest) = left ++ undecorated rest

/-- A coloured text and an uncoloured one leave the same. -/
def Decorates (coloured uncoloured : String) : Prop :=
  ∃ left, Leaves coloured left ∧ Leaves uncoloured left

variable {text mark coloured uncoloured : String} {left : List Char}

/-- A plain text leaves itself. -/
theorem Plain.leaves (plain : Plain text) : Leaves text text.toList :=
  undecorated_append_of_plain plain

/-- Texts, one after the other, leave what each of them leaves. -/
theorem Leaves.append {second : String} {other : List Char} (front : Leaves text left)
    (back : Leaves second other) : Leaves (text ++ second) (left ++ other) := by
  intro rest
  rw [String.toList_append, List.append_assoc, front, back, List.append_assoc]

/-- Any text with a separator behind it leaves what it would leave alone, and the separator. -/
theorem leaves_append_separator (separates : Separates mark) (text : String) :
    Leaves (text ++ mark) (undecorated text.toList ++ mark.toList) := by
  obtain ⟨plain, c, begins, border⟩ := separates
  obtain ⟨more, split⟩ := List.head?_eq_some_iff.mp begins
  intro rest
  rw [String.toList_append, List.append_assoc, List.append_assoc, ← plain.leaves, split]
  exact undecorated_append_border border text.toList (more ++ rest)

/-- A styled text with a separator behind it leaves the same without colour. -/
theorem leaves_apply_append (separates : Separates mark) (style : Style) (color : Bool)
    (text : String) :
    Leaves (style.apply color text ++ mark) (undecorated text.toList ++ mark.toList) := by
  cases color with
  | false => exact leaves_append_separator separates text
  | true =>
    intro rest
    rw [Style.apply, if_pos rfl, String.toList_append, String.toList_ofList, List.append_assoc,
      undecorated_styled, separates.1.leaves, List.append_assoc]

/-- A plain text is the same with colour and without. -/
theorem Plain.decorates (plain : Plain text) : Decorates text text :=
  ⟨text.toList, plain.leaves, plain.leaves⟩

/-- Any text with a separator behind it is the same with colour and without. -/
theorem decorates_append_separator (separates : Separates mark) (text : String) :
    Decorates (text ++ mark) (text ++ mark) :=
  ⟨_, leaves_append_separator separates text, leaves_append_separator separates text⟩

/-- Coloured texts, one after the other, are decorated if each of them is. -/
theorem Decorates.append {second other : String} (front : Decorates coloured uncoloured)
    (back : Decorates second other) : Decorates (coloured ++ second) (uncoloured ++ other) := by
  obtain ⟨left, first⟩ := front
  obtain ⟨right, last⟩ := back
  exact ⟨left ++ right, first.1.append last.1, first.2.append last.2⟩

/-- A plain text behind a coloured one. -/
theorem Decorates.plain (front : Decorates coloured uncoloured) (plain : Plain text) :
    Decorates (coloured ++ text) (uncoloured ++ text) :=
  front.append plain.decorates

/-- A styled text with a separator behind it. -/
theorem decorates_styled (style : Style) (text : String) (separates : Separates mark) :
    Decorates (style.apply true text ++ mark) (style.apply false text ++ mark) :=
  ⟨_, leaves_apply_append separates style true text, leaves_apply_append separates style false text⟩

/-- A styled text with a separator behind it, behind a coloured text. -/
theorem Decorates.styled (front : Decorates coloured uncoloured) (style : Style) (text : String)
    (separates : Separates mark) :
    Decorates (coloured ++ style.apply true text ++ mark)
      (uncoloured ++ style.apply false text ++ mark) := by
  rw [String.append_assoc, String.append_assoc]
  exact front.append (decorates_styled style text separates)

/-- Coloured texts in a row are decorated if each of them is. -/
theorem decorates_join {α : Type} {items : List α} {coloured uncoloured : α → String}
    (each : ∀ item ∈ items, Decorates (coloured item) (uncoloured item)) :
    Decorates (String.join (items.map coloured)) (String.join (items.map uncoloured)) := by
  induction items with
  | nil =>
    rw [List.map_nil, List.map_nil]
    exact Plain.decorates (by decide)
  | cons item items ih =>
    rw [List.forall_mem_cons] at each
    rw [List.map_cons, List.map_cons, String.join_cons, String.join_cons]
    exact each.1.append (ih each.2)

/-- What is decorated is the same once undecorated. -/
theorem Decorates.undecorate_eq (decorates : Decorates coloured uncoloured) :
    undecorate coloured = undecorate uncoloured := by
  obtain ⟨left, first, second⟩ := decorates
  have alone := (first []).trans (second []).symm
  rw [List.append_nil, List.append_nil] at alone
  exact congrArg String.ofList alone

/-- A plain text stays as it is. -/
theorem Plain.undecorate_eq (plain : Plain text) : undecorate text = text := by
  rw [undecorate, undecorated_of_plain plain, String.ofList_toList]

/-- A text without escapes is styled by a sequence in front of it and one behind it. -/
theorem toList_apply_of_plain (style : Style) {text : String} (plain : Plain text) :
    (style.apply true text).toList = style.opening ++ text.toList ++ reset := by
  rw [Style.apply, if_pos rfl, String.toList_ofList]
  rcases exists_reopen style.opening text.toList with same | ⟨before, after, split, -⟩
  · rw [same]
  · exact absurd (by simp [split, reset]) plain

/-- Texts, one after the other, are plain if each of them is. -/
theorem plain_append {first second : String} :
    Plain (first ++ second) ↔ Plain first ∧ Plain second := by
  rw [Plain, String.toList_append, List.mem_append, not_or]
  rfl

/-- Texts in a row are plain if each of them is. -/
theorem plain_join {texts : List String} :
    Plain (String.join texts) ↔ ∀ text ∈ texts, Plain text := by
  rw [Plain, String.toList_join, List.mem_flatMap]
  exact ⟨fun none text listed there => none ⟨text, listed, there⟩,
    fun each ⟨text, listed, there⟩ => each text listed there⟩

/-- A text without control characters is plain. -/
theorem plain_of_noControls (visible : NoControls text.toList) : Plain text := fun there =>
  absurd (visible '\x1b' there) (by decide)

/-- A number is plain. -/
theorem plain_repr (n : Nat) : Plain n.repr := by
  apply plain_of_noControls
  rw [Nat.toList_repr]
  exact (isRun_toDigits n).noControls

end Texts

section Summary

/-- A percentage is plain. -/
theorem plain_rateText (rate : Option Binary64) : Plain (rateText rate) := by
  cases rate with
  | none => decide
  | some rate =>
    have sign : Plain (if rate.negative then "-" else "") := by
      cases rate.negative <;> decide
    simp +decide [rateText, Binary64.oneDecimal, plain_append, plain_repr, sign]

/-- The counts of a suite are decorated. -/
theorem decorates_suiteSummary (title : String) (summary : SuiteSummary) :
    Decorates (suiteSummary true title summary) (suiteSummary false title summary) := by
  -- From the last line to the first.
  refine .plain (.plain (.plain ?_ (by decide)) (plain_rateText _)) (by decide)
  refine .styled (.plain ?_ (by decide)) _ _ (by decide)
  refine .plain (.plain (.plain ?_ (by decide)) (plain_repr _)) (by decide)
  exact decorates_styled .bold title (by decide)

/-- The verdict is decorated. -/
theorem decorates_verdictText (failed : Nat) :
    Decorates (verdictText true failed) (verdictText false failed) := by
  have margin : Decorates "  " "  " := Plain.decorates (by decide)
  unfold verdictText
  split
  · exact margin.styled .green "PASS" (by decide)
  · exact (margin.styled .red "FAIL" (by decide)).styled .red (toString failed) (by decide)

/-- The summary is decorated. -/
theorem decorates_summary (report : Report) :
    Decorates (summary true report) (summary false report) := by
  refine .plain (.plain (.append ?_ (decorates_verdictText _)) (by decide)) (by decide)
  refine .plain (.plain (.plain ?_ (by decide)) (by decide)) (by decide)
  refine .append (.plain (.append ?_ (decorates_suiteSummary _ _)) (by decide))
    (decorates_suiteSummary _ _)
  exact decorates_styled .bold _ (by decide)

/-- Without colour the summary is plain. -/
theorem plain_summary (report : Report) : Plain (summary false report) := by
  have verdict (failed : Nat) : Plain (verdictText false failed) := by
    unfold verdictText
    split <;> simp +decide [Style.apply, plain_append, plain_repr]
  have counts (title : String) (titled : Plain title) (summary : SuiteSummary) :
      Plain (suiteSummary false title summary) := by
    simp +decide [suiteSummary, Style.apply, plain_append, plain_repr, plain_rateText, titled]
  simp +decide [summary, summaryOf, Style.apply, plain_append, counts, verdict]

end Summary

section Details

variable {I : Type} [CaseInputs I] {set : ImplementationSet}

/-- The line with an output is decorated. -/
theorem decorates_outputLine (width : Nat) (name : String) (output : Value) :
    Decorates (outputLine true width name output) (outputLine false width name output) := by
  refine .styled ?_ .red _ (by decide)
  exact decorates_append_separator (by decide) _

/-- The block of a divergence is decorated. -/
theorem decorates_divergenceBlock (set : ImplementationSet) (d : Divergence I) :
    Decorates (divergenceBlock true set d) (divergenceBlock false set d) := by
  -- The inputs are not styled, but each stands on a line of its own.
  refine .append (.append (.append ?_ ?_) (decorates_outputLine _ _ _)) (decorates_outputLine _ _ _)
  · refine .styled ?_ .bold _ (by decide)
    exact decorates_append_separator (by decide) _
  · refine decorates_join fun input _ => ?_
    exact decorates_append_separator (by decide) _

/-- The details of a suite are decorated. -/
theorem decorates_suiteDetails (set : ImplementationSet) (limit : Nat) (title : String)
    (divergences : List (Divergence I)) :
    Decorates (suiteDetails true set limit title divergences)
      (suiteDetails false set limit title divergences) := by
  have empty : Decorates "" "" := Plain.decorates (by decide)
  have margin : Decorates "  " "  " := Plain.decorates (by decide)
  unfold suiteDetails
  split
  · exact empty
  · refine .append (.append (decorates_styled .bold title (by decide)) ?_) ?_
    · exact decorates_join fun d _ => (decorates_divergenceBlock set d).plain (by decide)
    · split
      · exact margin.styled .dimmed _ (by decide)
      · exact empty

/-- The details are decorated. -/
theorem decorates_details (set : ImplementationSet) (limit : Nat) (report : Report) :
    Decorates (details true set limit report) (details false set limit report) :=
  (decorates_suiteDetails set limit _ _).append (decorates_suiteDetails set limit _ _)

/-- Without colour the line with an output is plain if the name is. -/
theorem plain_outputLine {width : Nat} {name : String} (named : Plain name) (output : Value) :
    Plain (outputLine false width name output) := by
  have shown := plain_of_noControls (noControls_displayValue output)
  have blanks (n : Nat) : Plain (String.ofList (List.replicate n ' ')) := by
    rw [Plain, String.toList_ofList, List.mem_replicate]
    exact fun there => absurd there.2 (by decide)
  simp +decide [outputLine, padRight, Style.apply, plain_append, named, shown, blanks]

/-- The two intervals of a case are shown without control characters. -/
theorem noControls_shown_binary (inputs : BinaryInputs) :
    ∀ input ∈ CaseInputs.shown inputs, NoControls input.1.toList ∧ NoControls input.2.toList := by
  simp +decide [CaseInputs.shown, Interval.noControls_display]

/-- The interval and the scalar of a case are shown without control characters. -/
theorem noControls_shown_at (inputs : AtInputs) :
    ∀ input ∈ CaseInputs.shown inputs, NoControls input.1.toList ∧ NoControls input.2.toList := by
  simp +decide [CaseInputs.shown, Interval.noControls_display, Value.noControls_compact]

/-- The names of the implementations and the operations of a report have no escapes. -/
structure PlainNames (set : ImplementationSet) (report : Report) : Prop where
  /-- The name of the first implementation. -/
  first : Plain set.a.name
  /-- The name of the second implementation. -/
  second : Plain set.b.name
  /-- The operations of the divergences of the first suite. -/
  binary : ∀ d ∈ report.binaryDifferences, Plain d.operation
  /-- The operations of the divergences of the second suite. -/
  atSuite : ∀ d ∈ report.atDifferences, Plain d.operation

/-- Without colour the block of a divergence is plain if the names and the operation are. -/
theorem plain_divergenceBlock {d : Divergence I} (first : Plain set.a.name)
    (second : Plain set.b.name) (operation : Plain d.operation)
    (inputs : ∀ input ∈ CaseInputs.shown d.inputs,
      NoControls input.1.toList ∧ NoControls input.2.toList) :
    Plain (divergenceBlock false set d) := by
  have lines : Plain (String.join ((CaseInputs.shown d.inputs).map fun input =>
      "  " ++ input.1 ++ ": " ++ input.2 ++ "\n")) := by
    rw [plain_join, List.forall_mem_map]
    intro input shown
    obtain ⟨label, text⟩ := inputs input shown
    simp +decide [plain_append, plain_of_noControls label, plain_of_noControls text]
  simp +decide [divergenceBlock, Style.apply, plain_append, plain_repr, plain_outputLine, first,
    second, operation, lines]

/-- Without colour the details of a suite are plain if its blocks are. -/
theorem plain_suiteDetails {title : String} {divergences : List (Divergence I)} (limit : Nat)
    (titled : Plain title) (each : ∀ d ∈ divergences, Plain (divergenceBlock false set d)) :
    Plain (suiteDetails false set limit title divergences) := by
  unfold suiteDetails
  split
  · decide
  · have blocks : Plain (String.join ((divergences.take limit).map fun d =>
        divergenceBlock false set d ++ "\n")) := by
      rw [plain_join, List.forall_mem_map]
      intro d shown
      exact plain_append.mpr ⟨each d (List.mem_of_mem_take shown), by decide⟩
    refine plain_append.mpr ⟨plain_append.mpr ⟨plain_append.mpr ⟨titled, by decide⟩, blocks⟩, ?_⟩
    split <;> simp +decide [Style.apply, plain_append, plain_repr]

/-- Without colour the details are plain if the names and the operations are. -/
theorem plain_details (limit : Nat) {report : Report} (names : PlainNames set report) :
    Plain (details false set limit report) := by
  refine plain_append.mpr ⟨plain_suiteDetails limit (by decide) fun d there => ?_,
    plain_suiteDetails limit (by decide) fun d there => ?_⟩
  · exact plain_divergenceBlock names.first names.second (names.binary d there)
      (noControls_shown_binary d.inputs)
  · exact plain_divergenceBlock names.first names.second (names.atSuite d there)
      (noControls_shown_at d.inputs)

end Details

/-- Colour is decoration. Undecorated, the coloured texts of a report are the uncoloured ones,
whatever sequences or parts of sequences its strings hold. The summary without colour has none, and
neither have the details if the names and the operations have no escapes; the coloured text is then
the uncoloured one with sequences put in. -/
theorem undecorate_coloured (set : ImplementationSet) (limit : Nat) (report : Report) :
    (undecorate (summary true report) = undecorate (summary false report) ∧
      undecorate (details true set limit report) = undecorate (details false set limit report)) ∧
    undecorate (summary true report) = summary false report ∧
    (PlainNames set report →
      undecorate (details true set limit report) = details false set limit report) := by
  have summaries := (decorates_summary report).undecorate_eq
  have listings := (decorates_details set limit report).undecorate_eq
  refine ⟨⟨summaries, listings⟩, ?_, fun names => ?_⟩
  · rw [summaries, (plain_summary report).undecorate_eq]
  · rw [listings, (plain_details limit names).undecorate_eq]

/-- A divergence whose names and operation have no escapes. -/
theorem undecorate_coloured_join :
    let whole : Interval := ⟨.integer 0, .integer 15, false, []⟩
    let divergence : Divergence BinaryInputs :=
      ⟨0, "join", ⟨whole, whole⟩, whole.toRecord, .null, .null, "Rust_join"⟩
    let report : Report := ⟨⟨1, 1, some (.zero false)⟩, ⟨0, 0, none⟩, [divergence], []⟩
    PlainNames .default report ∧
      undecorate (details true .default 10 report) = details false .default 10 report := by
  intro whole divergence report
  have names : PlainNames .default report := by
    refine ⟨by decide, by decide, ?_, List.forall_mem_nil _⟩
    rw [List.forall_mem_singleton]
    decide
  exact ⟨names, (undecorate_coloured .default 10 report).2.2 names⟩

end Concord.Display
