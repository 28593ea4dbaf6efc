import Concord.Proofs.Display.Decoration
import Concord.Proofs.LogText

/-!
# Details up to a limit

The details of a suite show its first divergences in their order, as many as the limit allows, and
then say how many there are more. Nothing is said when all are shown, and the text ends with an
empty line then, so its end tells the two cases apart. In a block both outputs start in one column:
names are padded to a width that counts bytes, and no text has more characters than bytes. Where
operations and names stand on one line, the lines that head the blocks can be read back.
-/

namespace Concord.Display

open Json Text

section Columns

/-- A text has no more characters than bytes. -/
theorem length_le_utf8ByteSize (text : String) : text.length ≤ text.utf8ByteSize := by
  rw [← String.ofList_toList (s := text), String.length_ofList]
  induction text.toList with
  | nil => exact Nat.zero_le _
  | cons c cs ih =>
    have positive : 0 < c.utf8Size := c.utf8Size_pos
    rw [String.ofList_cons, String.utf8ByteSize_append, String.utf8ByteSize_singleton,
      List.length_cons]
    omega

/-- What stands between the margin and an output. -/
structure InColumn (set : ImplementationSet) (name front : String) : Prop where
  /-- The name, a colon and at least one blank. -/
  blanks : ∃ n, front = name ++ ":" ++ String.ofList (List.replicate (n + 1) ' ')
  /-- Two characters more than the longer of both names has bytes. -/
  length : front.length = max set.a.name.utf8ByteSize set.b.name.utf8ByteSize + 2

/-- A padded name ends where the outputs start, if it has no more bytes than the longer name. -/
theorem inColumn_padRight {set : ImplementationSet} {name : String}
    (fits : name.utf8ByteSize ≤ max set.a.name.utf8ByteSize set.b.name.utf8ByteSize) :
    InColumn set name (padRight (nameWidth set) (name ++ ":") ++ " ") := by
  have blank : " " = String.ofList [' '] := rfl
  have colon : (name ++ ":").length = name.length + 1 := String.length_append _ _
  have characters := length_le_utf8ByteSize name
  constructor
  · refine ⟨nameWidth set - (name ++ ":").length, ?_⟩
    rw [padRight, String.append_assoc, blank, ← String.ofList_append, List.replicate_succ']
  · rw [padRight, String.length_append, String.length_append, String.length_ofList,
      List.length_replicate, colon, nameWidth, show " ".length = 1 from rfl]
    omega

/-- Three letters of two bytes each and three of one byte: the outputs start in one column. -/
example :
    let set : ImplementationSet := ⟨⟨"Ржа", "Rust_"⟩, ⟨"C++", "CPP_"⟩, .b, by decide⟩
    outputLine false (nameWidth set) set.a.name .null = "  Ржа:    null\n" ∧
      outputLine false (nameWidth set) set.b.name .null = "  C++:    null\n" := by
  decide

end Columns

section Blocks

variable {I : Type} [CaseInputs I]

/-- The line with which a block starts. -/
def heading (color : Bool) (d : Divergence I) : String :=
  "Case " ++ toString d.caseNumber ++ ": " ++ Style.bold.apply color d.operation

/-- The line of an input. -/
def inputLine (input : String × String) : String := "  " ++ input.1 ++ ": " ++ input.2

/-- The lines show a divergence: its number and operation, its inputs, and both outputs, which start
in one column. -/
def IsBlock (color : Bool) (set : ImplementationSet) (d : Divergence I) (lines : List String) :
    Prop :=
  ∃ frontA frontB, InColumn set set.a.name frontA ∧ InColumn set set.b.name frontB ∧
    lines = heading color d :: (CaseInputs.shown d.inputs).map inputLine ++
      ["  " ++ frontA ++ Style.red.apply color (displayValue d.outputA),
        "  " ++ frontB ++ Style.red.apply color (displayValue d.outputB)]

/-- The line that says how many divergences are not shown. -/
def remainderLine (color : Bool) (more : Nat) : String :=
  "  " ++ Style.dimmed.apply color ("... " ++ toString more ++ " more")

/-- The text shows divergences under a title, each as a block with an empty line behind it, and says
how many there are more, if any. -/
def Lists (color : Bool) (set : ImplementationSet) (title : String) (shown : List (Divergence I))
    (more : Nat) (text : String) : Prop :=
  ∃ blocks, List.Forall₂ (IsBlock color set) shown blocks ∧
    text = putLines ((Style.bold.apply color title :: blocks.flatMap fun block => block ++ [""]) ++
      (if 0 < more then [remainderLine color more] else [])) ""

/-- The block of a divergence. -/
theorem exists_block (color : Bool) (set : ImplementationSet) (d : Divergence I) :
    ∃ lines, IsBlock color set d lines ∧
      ∀ rest, divergenceBlock color set d ++ rest = putLines lines rest := by
  have first := inColumn_padRight (le_max_left set.a.name.utf8ByteSize set.b.name.utf8ByteSize)
  have second := inColumn_padRight (le_max_right set.a.name.utf8ByteSize set.b.name.utf8ByteSize)
  refine ⟨_, ⟨_, _, first, second, rfl⟩, fun rest => ?_⟩
  have inputs (rest : String) : String.join ((CaseInputs.shown d.inputs).map fun input =>
      "  " ++ input.1 ++ ": " ++ input.2 ++ "\n") ++ rest =
        putLines ((CaseInputs.shown d.inputs).map inputLine) rest := by
    rw [putLines, List.map_map]
    rfl
  simp only [divergenceBlock, heading, outputLine, List.cons_append, putLines_append, putLines_cons,
    putLines_nil, ← inputs, String.append_assoc]

/-- The blocks of divergences, in their order. -/
theorem exists_blocks (color : Bool) (set : ImplementationSet) (shown : List (Divergence I)) :
    ∃ blocks, List.Forall₂ (IsBlock color set) shown blocks ∧
      ∀ rest, String.join (shown.map fun d => divergenceBlock color set d ++ "\n") ++ rest =
        putLines (blocks.flatMap fun block => block ++ [""]) rest := by
  have gap (rest : String) : putLines [""] rest = "\n" ++ rest := by
    rw [putLines_cons, putLines_nil, String.empty_append]
  induction shown with
  | nil => exact ⟨[], .nil, fun rest => rfl⟩
  | cons d shown ih =>
    obtain ⟨block, isBlock, written⟩ := exists_block color set d
    obtain ⟨blocks, isBlocks, joined⟩ := ih
    refine ⟨block :: blocks, .cons isBlock isBlocks, fun rest => ?_⟩
    rw [List.map_cons, String.join_cons, String.append_assoc, String.append_assoc, written,
      List.flatMap_cons, putLines_append, putLines_append, ← joined, gap]

/-- A suite with divergences lists the first of them, and how many more there are. -/
theorem lists_suiteDetails (color : Bool) (set : ImplementationSet) (limit : Nat) (title : String)
    {divergences : List (Divergence I)} (nonempty : divergences ≠ []) :
    Lists color set title (divergences.take limit) (divergences.length - limit)
      (suiteDetails color set limit title divergences) := by
  obtain ⟨blocks, isBlocks, joined⟩ := exists_blocks color set (divergences.take limit)
  refine ⟨blocks, isBlocks, ?_⟩
  have filled : ¬ divergences.isEmpty = true := by rwa [List.isEmpty_iff]
  have exceeds : 0 < divergences.length - limit ↔ limit < divergences.length := Nat.sub_pos_iff_lt
  simp only [suiteDetails, if_neg filled, exceeds, List.cons_append, putLines_cons, putLines_append,
    ← joined]
  split
  · simp [putLines_cons, putLines_nil, remainderLine, String.append_assoc]
  · simp [putLines_nil, String.append_assoc]

end Blocks

section Remainder

variable {color : Bool} {set : ImplementationSet} {title : String} {more : Nat}

/-- The text ends by saying how many divergences are not shown. -/
def Announces (color : Bool) (more : Nat) (text : String) : Prop :=
  ∃ front, text = front ++ (remainderLine color more ++ "\n")

/-- How many divergences are not shown stands behind a blank and in front of a fixed text. -/
theorem exists_toList_remainderLine (color : Bool) :
    ∃ front back last, last ≠ '\n' ∧ ∀ more, (remainderLine color more).toList =
      front ++ ' ' :: (toString more).toList ++ back ++ [last] := by
  cases color with
  | false =>
    refine ⟨"  ...".toList, " mor".toList, 'e', by decide, fun more => ?_⟩
    simp [remainderLine, Style.apply]
  | true =>
    refine ⟨"  \x1b[2m...".toList, " more\x1b[0".toList, 'm', by decide, fun more => ?_⟩
    have plain : Plain ("... " ++ toString more ++ " more") := by
      simp +decide [plain_append, plain_repr]
    rw [remainderLine, String.toList_append, toList_apply_of_plain .dimmed plain]
    simp [Style.opening, reset]

/-- A number at the end of a text is determined where a blank stands in front of it. -/
theorem eq_of_append_toString_eq {front other : List Char} {n m : Nat}
    (same : front ++ ' ' :: (toString n).toList = other ++ ' ' :: (toString m).toList) : n = m := by
  -- Read from the end, the digits of the number come first.
  have digits (front : List Char) (n : Nat) :
      (front ++ ' ' :: (toString n).toList).reverse.takeWhile Char.isDigit =
        (toString n).toList.reverse := by
    have all : ∀ c ∈ (toString n).toList.reverse, c.isDigit = true := by
      intro c there
      rw [List.mem_reverse, Nat.toString_eq_repr, Nat.toList_repr] at there
      exact (isRun_toDigits n).all c there
    rw [List.reverse_append, List.reverse_cons, List.append_assoc, List.singleton_append]
    exact (takeWhile_run all (endsDigits_cons (by decide) _)).1
  have numbers : (toString n).toList = (toString m).toList := by
    rw [← List.reverse_inj, ← digits front, ← digits other, same]
  exact (toString_append_inj endsDigits_nil endsDigits_nil (congrArg (· ++ []) numbers)).1

/-- The end of a text does not say two numbers. -/
theorem Announces.unique {text : String} {n m : Nat} (first : Announces color n text)
    (second : Announces color m text) : n = m := by
  obtain ⟨before, rfl⟩ := first
  obtain ⟨before', same⟩ := second
  obtain ⟨front, back, last, -, written⟩ := exists_toList_remainderLine color
  have chars := congrArg String.toList same
  simp only [String.toList_append, written, ← List.append_assoc,
    List.append_cancel_right_eq] at chars
  have numbers : before.toList ++ front ++ ' ' :: (toString n).toList =
      before'.toList ++ front ++ ' ' :: (toString m).toList := by
    simpa only [List.append_assoc] using chars
  exact eq_of_append_toString_eq numbers

/-- A text that ends with an empty line does not say how many divergences are not shown. -/
theorem not_announces_of_emptyLine (front : String) : ¬ Announces color more (front ++ "\n\n") := by
  rintro ⟨before, same⟩
  obtain ⟨start, back, last, visible, written⟩ := exists_toList_remainderLine color
  have chars := congrArg String.toList same
  have breaks : "\n\n".toList = ['\n'] ++ "\n".toList := rfl
  simp only [String.toList_append, written, breaks, ← List.append_assoc,
    List.append_cancel_right_eq] at chars
  exact visible (List.singleton_inj.mp (List.append_inj' chars rfl).2.symm)

/-- The empty text does not say how many divergences are not shown. -/
theorem not_announces_empty : ¬ Announces color more "" := by
  rintro ⟨before, same⟩
  rw [eq_comm, String.append_eq_empty_iff, String.append_eq_empty_iff] at same
  exact absurd same.2.2 (by decide)

variable {I : Type} [CaseInputs I] {shown : List (Divergence I)} {text : String}

/-- A text that lists all divergences ends with an empty line. -/
theorem Lists.exists_emptyLine (all : Lists color set title shown 0 text) (nonempty : shown ≠ []) :
    ∃ front, text = front ++ "\n\n" := by
  obtain ⟨blocks, isBlocks, rfl⟩ := all
  have listed : blocks ≠ [] := by
    rintro rfl
    exact nonempty (List.forall₂_nil_right_iff.mp isBlocks)
  obtain ⟨before, block, rfl⟩ := (List.eq_nil_or_concat' blocks).resolve_left listed
  -- In front of the empty line there is at least the title.
  obtain ⟨lines, line, split⟩ := (List.eq_nil_or_concat' (Style.bold.apply color title ::
    (before.flatMap fun block => block ++ [""]) ++ block)).resolve_left (List.cons_ne_nil _ _)
  refine ⟨putLines lines "" ++ line, ?_⟩
  have breaks : "\n\n" = "\n" ++ ("" ++ "\n") := by decide
  rw [if_neg (Nat.lt_irrefl 0), List.append_nil, List.flatMap_append, List.flatMap_singleton,
    ← List.append_assoc, ← List.cons_append, ← List.cons_append, split, putLines_concat,
    putLines_concat, breaks, String.append_assoc, String.append_assoc, String.append_assoc]

/-- A text that lists some divergences and counts others ends by saying how many. -/
theorem Lists.announces (lists : Lists color set title shown more text) (others : 0 < more) :
    Announces color more text := by
  obtain ⟨blocks, -, rfl⟩ := lists
  refine ⟨putLines (Style.bold.apply color title :: blocks.flatMap fun block => block ++ [""]) "",
    ?_⟩
  rw [if_pos others, putLines_concat]

/-- The end of a text that lists divergences says how many there are more, if any. -/
theorem Lists.announces_iff {number : Nat} (lists : Lists color set title shown more text)
    (nonempty : shown ≠ [] ∨ 0 < more) :
    Announces color number text ↔ 0 < more ∧ number = more := by
  by_cases others : 0 < more
  · have counted := lists.announces others
    constructor
    · intro announced
      exact ⟨others, announced.unique counted⟩
    · rintro ⟨-, rfl⟩
      exact counted
  · obtain rfl : more = 0 := by omega
    obtain ⟨front, rfl⟩ := lists.exists_emptyLine (nonempty.resolve_right others)
    exact iff_of_false (not_announces_of_emptyLine front) (fun both => others both.1)

end Remainder

section Limits

variable {I : Type} [CaseInputs I]

/-- What the text of a suite shows of its divergences. -/
structure ShowsFirst (color : Bool) (set : ImplementationSet) (limit : Nat) (title : String)
    (divergences : List (Divergence I)) (text : String) : Prop where
  /-- Only a suite without divergences shows nothing. -/
  empty : text = "" ↔ divergences = []
  /-- The first divergences are listed, as many as the limit allows, and the others are counted. -/
  lists : divergences ≠ [] → ∃ shown more, shown <+: divergences ∧
    shown.length = min divergences.length limit ∧ shown.length + more = divergences.length ∧
    Lists color set title shown more text
  /-- The text ends by saying how many more there are exactly if there are more than the limit. -/
  announces : ∀ more, Announces color more text ↔
    limit < divergences.length ∧ limit + more = divergences.length

/-- The details of a suite show its first divergences. -/
theorem showsFirst_suiteDetails (color : Bool) (set : ImplementationSet) (limit : Nat)
    (title : String) (divergences : List (Divergence I)) :
    ShowsFirst color set limit title divergences
      (suiteDetails color set limit title divergences) := by
  refine ⟨?_, fun nonempty => ?_, fun more => ?_⟩
  · rw [suiteDetails_eq_empty_iff, List.isEmpty_iff]
  · refine ⟨_, _, List.take_prefix limit divergences, ?_, ?_, lists_suiteDetails _ _ _ _ nonempty⟩
    · rw [List.length_take, Nat.min_comm]
    · rw [List.length_take]
      omega
  · by_cases none : divergences = []
    · subst none
      exact iff_of_false not_announces_empty (fun exceeds => Nat.not_lt_zero _ exceeds.1)
    · have present : 0 < divergences.length := List.length_pos_iff.mpr none
      have nonempty : divergences.take limit ≠ [] ∨ 0 < divergences.length - limit := by
        by_cases zero : limit = 0
        · exact .inr (by omega)
        · exact .inl fun empty => (List.take_eq_nil_iff.mp empty).elim zero none
      rw [(lists_suiteDetails color set limit title none).announces_iff nonempty]
      omega

end Limits

section Headings

/-- A text without control characters has no line break. -/
theorem oneLine_of_noControls {text : String} (visible : NoControls text.toList) : OneLine text :=
  fun there => absurd (visible '\n' there) (by decide)

/-- Whether a line is the first one of a block. -/
def isHeading (line : String) : Bool := "Case ".toList.isPrefixOf line.toList

/-- The lines of a text with which blocks start. -/
def headings (text : String) : List String :=
  ((text.toList.splitOn '\n').map String.ofList).filter isHeading

/-- Headings among lines in front of a text come before those of the text. -/
theorem headings_putLines {lines : List String} (single : ∀ line ∈ lines, OneLine line)
    (rest : String) : headings (putLines lines rest) = lines.filter isHeading ++ headings rest := by
  have back : String.ofList ∘ String.toList = id := funext fun _ => String.ofList_toList
  rw [headings, splitOn_putLines single, List.map_append, List.map_map, back, List.map_id,
    List.filter_append]
  rfl

/-- A block starts with a heading. -/
theorem isHeading_heading {I : Type} (color : Bool) (d : Divergence I) :
    isHeading (heading color d) = true := by
  rw [isHeading, List.isPrefixOf_iff_prefix, heading, String.append_assoc, String.append_assoc,
    String.toList_append]
  exact List.prefix_append _ _

/-- A line with a margin is no heading. -/
theorem isHeading_margin (text : String) : isHeading ("  " ++ text) = false := by
  rw [isHeading, String.toList_append]
  rfl

variable {I : Type} [CaseInputs I] {color : Bool} {set : ImplementationSet} {d : Divergence I}

/-- A block has no other heading than its first line. -/
theorem IsBlock.filter_isHeading {lines : List String} (block : IsBlock color set d lines) :
    lines.filter isHeading = [heading color d] := by
  obtain ⟨frontA, frontB, -, -, rfl⟩ := block
  have inputs : ((CaseInputs.shown d.inputs).map inputLine).filter isHeading = [] := by
    rw [List.filter_eq_nil_iff, List.forall_mem_map]
    intro input _
    rw [inputLine, String.append_assoc, String.append_assoc, isHeading_margin]
    exact Bool.false_ne_true
  rw [List.cons_append, List.filter_cons_of_pos (isHeading_heading color d), List.filter_append,
    inputs, String.append_assoc, String.append_assoc]
  simp [isHeading_margin]

/-- The names and the operation of a divergence have no line breaks, and neither have its inputs as
they are shown. -/
structure OneLineTexts (set : ImplementationSet) (d : Divergence I) : Prop where
  /-- The name of the first implementation. -/
  first : OneLine set.a.name
  /-- The name of the second implementation. -/
  second : OneLine set.b.name
  /-- The operation. -/
  operation : OneLine d.operation
  /-- The labels and texts of the inputs. -/
  inputs : ∀ input ∈ CaseInputs.shown d.inputs, OneLine input.1 ∧ OneLine input.2

/-- The lines of a block have no line breaks if its texts have none. -/
theorem IsBlock.oneLine {lines : List String} (block : IsBlock color set d lines)
    (texts : OneLineTexts set d) : ∀ line ∈ lines, OneLine line := by
  obtain ⟨frontA, frontB, columnA, columnB, rfl⟩ := block
  have margin : OneLine "  " := oneLine_of_basic (by decide)
  have colon : OneLine ":" := oneLine_of_basic (by decide)
  have output (name front : String) (named : OneLine name) (column : InColumn set name front)
      (value : Value) : OneLine ("  " ++ front ++ Style.red.apply color (displayValue value)) := by
    obtain ⟨n, rfl⟩ := column.blanks
    have blanks : OneLine (String.ofList (List.replicate (n + 1) ' ')) := by
      rw [OneLine, String.toList_ofList, List.mem_replicate]
      exact fun there => absurd there.2 (by decide)
    have shown : OneLine (displayValue value) :=
      oneLine_of_noControls (noControls_displayValue value)
    exact (margin.append ((named.append colon).append blanks)).append
      (Style.red.oneLine_apply color shown)
  have started : OneLine (heading color d) := by
    have number : OneLine (toString d.caseNumber) := (shows_toString d.caseNumber).oneLine
    exact (((oneLine_of_basic (by decide)).append number).append
      (oneLine_of_basic (by decide))).append (Style.bold.oneLine_apply color texts.operation)
  simp only [List.cons_append, List.forall_mem_cons, List.forall_mem_append, List.forall_mem_map]
  refine ⟨started, fun input listed => ?_, output _ _ texts.first columnA _,
    output _ _ texts.second columnB _, List.forall_mem_nil _⟩
  obtain ⟨label, text⟩ := texts.inputs input listed
  exact ((margin.append label).append (oneLine_of_basic (by decide))).append text

/-- A block in front of a text gives it one heading more. -/
theorem IsBlock.headings_append {lines : List String} (block : IsBlock color set d lines)
    (texts : OneLineTexts set d) (rest : String) :
    headings (putLines (lines ++ [""]) rest) = heading color d :: headings rest := by
  have single : ∀ line ∈ lines ++ [""], OneLine line := by
    rw [List.forall_mem_append, List.forall_mem_singleton]
    exact ⟨block.oneLine texts, oneLine_of_basic (by decide)⟩
  have gap : [""].filter isHeading = [] := by decide
  rw [headings_putLines single, List.filter_append, block.filter_isHeading, gap]
  rfl

/-- Blocks in front of a text give it their headings. -/
theorem headings_blocks {shown : List (Divergence I)} {blocks : List (List String)}
    (isBlocks : List.Forall₂ (IsBlock color set) shown blocks)
    (texts : ∀ d ∈ shown, OneLineTexts set d) (rest : String) :
    headings (putLines (blocks.flatMap fun block => block ++ [""]) rest) =
      shown.map (heading color) ++ headings rest := by
  induction isBlocks with
  | nil => rw [List.flatMap_nil, putLines_nil, List.map_nil, List.nil_append]
  | cons isBlock _ ih =>
    rw [List.forall_mem_cons] at texts
    rw [List.flatMap_cons, putLines_append, isBlock.headings_append texts.1, ih texts.2]
    rfl

/-- The line that says how many divergences are not shown is no heading. -/
theorem headings_remainderLine (color : Bool) (more : Nat) (rest : String) :
    headings (putLines [remainderLine color more] rest) = headings rest := by
  have number : OneLine (toString more) := (shows_toString more).oneLine
  have text : OneLine ("... " ++ toString more ++ " more") :=
    ((oneLine_of_basic (by decide)).append number).append (oneLine_of_basic (by decide))
  have single : OneLine (remainderLine color more) :=
    OneLine.append (oneLine_of_basic (by decide)) (Style.dimmed.oneLine_apply color text)
  have other : ¬ isHeading (remainderLine color more) = true := by
    rw [remainderLine, isHeading_margin]
    exact Bool.false_ne_true
  rw [headings_putLines (List.forall_mem_singleton.mpr single), List.filter_cons_of_neg other]
  rfl

/-- The details of a suite in front of a text give it the headings of the first divergences. -/
theorem headings_suiteDetails {title : String} {divergences : List (Divergence I)} (limit : Nat)
    (titled : OneLine title) (other : isHeading (Style.bold.apply color title) = false)
    (texts : ∀ d ∈ divergences, OneLineTexts set d) (rest : String) :
    headings (suiteDetails color set limit title divergences ++ rest) =
      (divergences.take limit).map (heading color) ++ headings rest := by
  by_cases none : divergences = []
  · subst none
    rw [List.take_nil, List.map_nil, List.nil_append]
    exact congrArg headings String.empty_append
  · obtain ⟨blocks, isBlocks, written⟩ := lists_suiteDetails color set limit title none
    have shown : ∀ d ∈ divergences.take limit, OneLineTexts set d :=
      fun d listed => texts d (List.mem_of_mem_take listed)
    have single : ∀ line ∈ [Style.bold.apply color title], OneLine line :=
      List.forall_mem_singleton.mpr (Style.bold.oneLine_apply color titled)
    have passed : ¬ isHeading (Style.bold.apply color title) = true := by
      rw [other]
      exact Bool.false_ne_true
    rw [written, putLines_append_text, List.cons_append, ← List.singleton_append, putLines_append,
      putLines_append, headings_putLines single, List.filter_cons_of_neg passed,
      headings_blocks isBlocks shown]
    split
    · rw [headings_remainderLine]
      rfl
    · rw [putLines_nil]
      rfl

/-- The names of the implementations and the operations of a report have no line breaks. -/
structure OneLineNames (set : ImplementationSet) (report : Report) : Prop where
  /-- The name of the first implementation. -/
  first : OneLine set.a.name
  /-- The name of the second implementation. -/
  second : OneLine set.b.name
  /-- The operations of the divergences of the first suite. -/
  binary : ∀ d ∈ report.binaryDifferences, OneLine d.operation
  /-- The operations of the divergences of the second suite. -/
  atSuite : ∀ d ∈ report.atDifferences, OneLine d.operation

/-- The details of a report have the headings of the first divergences of both suites. -/
theorem headings_details (color : Bool) (limit : Nat) {set : ImplementationSet} {report : Report}
    (names : OneLineNames set report) :
    headings (details color set limit report) =
      (report.binaryDifferences.take limit).map (heading color) ++
        (report.atDifferences.take limit).map (heading color) := by
  have single (input : String × String)
      (visible : NoControls input.1.toList ∧ NoControls input.2.toList) :
      OneLine input.1 ∧ OneLine input.2 :=
    ⟨oneLine_of_noControls visible.1, oneLine_of_noControls visible.2⟩
  have binary : ∀ d ∈ report.binaryDifferences, OneLineTexts set d := fun d listed =>
    ⟨names.first, names.second, names.binary d listed,
      fun input shown => single input (noControls_shown_binary d.inputs input shown)⟩
  have atSuite : ∀ d ∈ report.atDifferences, OneLineTexts set d := fun d listed =>
    ⟨names.first, names.second, names.atSuite d listed,
      fun input shown => single input (noControls_shown_at d.inputs input shown)⟩
  have last : headings (suiteDetails color set limit "=== At Operation Differences ==="
      report.atDifferences ++ "") =
        (report.atDifferences.take limit).map (heading color) ++ headings "" :=
    headings_suiteDetails limit (oneLine_of_basic (by decide)) (by cases color <;> decide) atSuite
      ""
  have nothing : headings "" = [] := by decide
  rw [String.append_empty, nothing, List.append_nil] at last
  rw [details, headings_suiteDetails limit (oneLine_of_basic (by decide))
    (by cases color <;> decide) binary, last]

end Headings

/-- The details of a report show the first divergences of each suite in their order, as many as the
limit allows, and count the others; there are none exactly when nothing diverges. In every block the
outputs start in one column. The headings that stand in the text are those of the divergences shown,
if the names and the operations have no line breaks of their own. -/
theorem details_show_first_divergences (color : Bool) (set : ImplementationSet) (limit : Nat)
    (report : Report) :
    (∃ binaryText atText, details color set limit report = binaryText ++ atText ∧
      ShowsFirst color set limit "=== Binary Operation Differences ===" report.binaryDifferences
        binaryText ∧
      ShowsFirst color set limit "=== At Operation Differences ===" report.atDifferences atText) ∧
    (details color set limit report = "" ↔ detailsEmpty report = true) ∧
    (OneLineNames set report → headings (details color set limit report) =
      (report.binaryDifferences.take limit).map (heading color) ++
        (report.atDifferences.take limit).map (heading color)) := by
  have binary := showsFirst_suiteDetails color set limit "=== Binary Operation Differences ==="
    report.binaryDifferences
  have atSuite := showsFirst_suiteDetails color set limit "=== At Operation Differences ==="
    report.atDifferences
  exact ⟨⟨_, _, rfl, binary, atSuite⟩, details_eq_empty_iff, headings_details color limit⟩

/-- Two of three divergences, under names whose sizes in bytes and in characters differ. -/
theorem details_show_first_divergences_two_of_three :
    let set : ImplementationSet := ⟨⟨"Ржа", "Rust_"⟩, ⟨"C++", "CPP_"⟩, .b, by decide⟩
    let whole : Interval := ⟨.integer 0, .integer 15, false, []⟩
    let divergence (n : Nat) : Divergence BinaryInputs :=
      ⟨n, "join", ⟨whole, whole⟩, whole.toRecord, .null, .null, "Ржа_join"⟩
    let report : Report :=
      ⟨⟨3, 3, some (.zero false)⟩, ⟨0, 0, none⟩, [divergence 0, divergence 1, divergence 2], []⟩
    OneLineNames set report ∧
      headings (details false set 2 report) = ["Case 0: join", "Case 1: join"] := by
  intro set whole divergence report
  have named : OneLine "join" := oneLine_of_basic (by decide)
  have names : OneLineNames set report := by
    refine ⟨?_, oneLine_of_basic (by decide), ?_, List.forall_mem_nil _⟩
    · show '\n' ∉ "Ржа".toList
      decide
    · intro d listed
      simp only [report, List.mem_cons, List.not_mem_nil, or_false] at listed
      rcases listed with rfl | rfl | rfl <;> exact named
  have shown : (report.binaryDifferences.take 2).map (heading false) ++
      (report.atDifferences.take 2).map (heading false) = ["Case 0: join", "Case 1: join"] := by
    decide
  exact ⟨names, ((details_show_first_divergences false set 2 report).2.2 names).trans shown⟩

end Concord.Display
