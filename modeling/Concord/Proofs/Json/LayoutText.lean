import Concord.Json.Reader
import Concord.Proofs.Json.NumeralText
import Concord.Proofs.Json.StringText

/-!
# Texts of arrays and objects

Between brackets the printer puts pieces, separated by commas and by line breaks that the reader
skips. When every piece is read as an item, or as a member, the whole is read as the array, or as
the object, of them. A piece that is a number ends where the separator or the closing bracket
begins.
-/

namespace Concord.Json

/-- What a layout adds to the punctuation is skipped by the reader. -/
structure Layout.IsBlank (layout : Layout) : Prop where
  /-- Line breaks are blank. -/
  lineBreak : ∀ depth, ∀ c ∈ layout.lineBreak depth, isBlank c = true
  /-- A colon is followed by blanks. -/
  colon : ∃ blanks, layout.colon = ':' :: blanks ∧ ∀ c ∈ blanks, isBlank c = true

/-- The compact layout adds nothing. -/
theorem Layout.isBlank_compact : Layout.compact.IsBlank := by
  refine ⟨fun depth c there => ?_, [], rfl, fun c there => ?_⟩ <;> contradiction

/-- The readable layout adds only blanks. -/
theorem Layout.isBlank_pretty : Layout.pretty.IsBlank := by
  refine ⟨fun depth c there => ?_, [' '], rfl, by simp [isBlank]⟩
  rcases List.mem_cons.mp there with rfl | space
  · decide
  · rw [List.eq_of_mem_replicate space]
    decide

section Blanks

/-- Blanks are skipped. -/
theorem skipBlanks_append {blanks : List Char} (all : ∀ c ∈ blanks, isBlank c = true)
    (rest : List Char) : skipBlanks (blanks ++ rest) = skipBlanks rest :=
  List.dropWhile_append_of_pos all

/-- Nothing is skipped before a character that is not blank. -/
theorem skipBlanks_cons {c : Char} (visible : isBlank c = false) (rest : List Char) :
    skipBlanks (c :: rest) = c :: rest := by
  rw [skipBlanks, List.dropWhile_cons, visible]
  rfl

/-- A number does not go on with a blank. -/
theorem continuesNumber_of_isBlank {c : Char} (blank : isBlank c = true) :
    continuesNumber c = false := by
  simp only [isBlank, Bool.or_eq_true, decide_eq_true_eq] at blank
  rcases blank with ((rfl | rfl) | rfl) | rfl <;> decide

/-- A number ends where the text does. -/
theorem endsNumber_nil : EndsNumber [] := by
  intro c head
  contradiction

/-- A number ends at a character that it could not go on with. -/
theorem endsNumber_cons {c : Char} (other : continuesNumber c = false) (rest : List Char) :
    EndsNumber (c :: rest) := by
  intro d head
  rw [List.head?_cons, Option.mem_some_iff] at head
  exact head ▸ other

/-- A number ends at blanks, or at what follows them. -/
theorem endsNumber_append {blanks rest : List Char} (all : ∀ c ∈ blanks, isBlank c = true)
    (ends : EndsNumber rest) : EndsNumber (blanks ++ rest) := by
  cases blanks with
  | nil => exact ends
  | cons c more => exact endsNumber_cons (continuesNumber_of_isBlank (all c List.mem_cons_self)) _

end Blanks

namespace Layout

/-- Further pieces, each after a comma and a line break. -/
def more (layout : Layout) (depth : Nat) (pieces : List (List Char)) : List Char :=
  pieces.flatMap fun piece => ',' :: (layout.lineBreak depth ++ piece)

/-- The first piece and the further ones. -/
theorem join_cons (layout : Layout) (depth : Nat) (piece : List Char) (rest : List (List Char)) :
    layout.join depth (piece :: rest) = piece ++ layout.more depth rest := by
  induction rest generalizing piece with
  | nil => simp [join, more]
  | cons next rest ih =>
    rw [join, ih]
    · simp [more]
    · simp

/-- Pieces between brackets, with the text after them. -/
theorem enclose_cons_append (layout : Layout) (depth : Nat) (opening closing : Char)
    (piece : List Char) (pieces : List (List Char)) (rest : List Char) :
    layout.enclose depth opening closing (piece :: pieces) ++ rest =
      opening :: (layout.lineBreak (depth + 1) ++ (piece ++ (layout.more (depth + 1) pieces ++
        (layout.lineBreak depth ++ closing :: rest)))) := by
  simp [enclose, join_cons]

/-- What stands between brackets starts with the opening one. -/
theorem exists_enclose (layout : Layout) (depth : Nat) (opening closing : Char)
    (pieces : List (List Char)) :
    ∃ more, layout.enclose depth opening closing pieces = opening :: more := by
  cases pieces with
  | nil => exact ⟨[closing], rfl⟩
  | cons piece pieces =>
    have whole := layout.enclose_cons_append depth opening closing piece pieces []
    rw [List.append_nil] at whole
    exact ⟨_, whole⟩

/-- A number before a separator or a closing bracket ends there. -/
theorem IsBlank.endsNumber {layout : Layout} (blank : layout.IsBlank) (depth outer : Nat)
    (pieces : List (List Char)) (closing : Char) (other : continuesNumber closing = false)
    (rest : List Char) :
    EndsNumber (layout.more depth pieces ++ (layout.lineBreak outer ++ closing :: rest)) := by
  cases pieces with
  | nil =>
    change EndsNumber (layout.lineBreak outer ++ closing :: rest)
    exact endsNumber_append (blank.lineBreak outer) (endsNumber_cons other rest)
  | cons piece pieces => exact endsNumber_cons (by decide) _

/-- Brackets hold at least as many characters as pieces. -/
theorem length_le_length_enclose (layout : Layout) (depth : Nat) (opening closing : Char)
    (pieces : List (List Char)) :
    pieces.length ≤ (layout.enclose depth opening closing pieces).length := by
  cases pieces with
  | nil => exact Nat.zero_le _
  | cons piece pieces =>
    have commas : pieces.length ≤ (layout.more (depth + 1) pieces).length := by
      induction pieces with
      | nil => exact Nat.zero_le _
      | cons next pieces ih =>
        rw [more, List.flatMap_cons, List.length_append, List.length_cons, List.length_cons]
        rw [more] at ih
        omega
    have whole := congrArg List.length
      (layout.enclose_cons_append depth opening closing piece pieces [])
    simp only [List.append_nil, List.length_cons, List.length_append, List.length_nil] at whole
    rw [List.length_cons]
    omega

/-- Brackets hold every piece. -/
theorem length_piece_le (layout : Layout) (depth : Nat) (opening closing : Char)
    {pieces : List (List Char)} {piece : List Char} (there : piece ∈ pieces) :
    piece.length ≤ (layout.enclose depth opening closing pieces).length := by
  cases pieces with
  | nil => simp at there
  | cons first pieces =>
    have whole := congrArg List.length
      (layout.enclose_cons_append depth opening closing first pieces [])
    simp only [List.append_nil, List.length_cons, List.length_append, List.length_nil] at whole
    rcases List.mem_cons.mp there with rfl | later
    · omega
    · have inside : piece.length ≤ (layout.more (depth + 1) pieces).length := by
        let separated (piece : List Char) := ',' :: (layout.lineBreak (depth + 1) ++ piece)
        have part : (separated piece).length ≤ (pieces.map separated).flatten.length :=
          (List.sublist_flatten_of_mem (List.mem_map_of_mem later)).length_le
        have whole : layout.more (depth + 1) pieces = (pieces.map separated).flatten := by
          rw [more, List.flatMap_def]
        rw [List.length_cons, List.length_append, ← whole] at part
        omega
      omega

end Layout

section Lists

variable {item : List Char → Reading Source}

/-- A text that is read as an item of an array, wherever it stands. -/
structure IsItemText (item : List Char → Reading Source) (text : List Char) (source : Source) :
    Prop where
  /-- It starts like an item. -/
  start : ∃ c more, text = c :: more ∧ isBlank c = false ∧ c ≠ ']'
  /-- It is read as the item. -/
  read : ∀ rest, EndsNumber rest → item (text ++ rest) = .ok (source, rest)

/-- A text that is read as a member of an object, wherever it stands. -/
def IsMemberText (item : List Char → Reading Source) (text : List Char)
    (member : String × Source) : Prop :=
  ∃ more, text = '"' :: more ∧
    ∀ rest, EndsNumber rest → readMember item (more ++ rest) = .ok (member, rest)

variable {layout : Layout} {depth outer : Nat} {pieces : List (List Char)}

/-- Further items are read up to the closing bracket. -/
theorem readMoreItems_more (blank : layout.IsBlank) {sources : List Source}
    (each : List.Forall₂ (IsItemText item) pieces sources) {fuel : Nat}
    (enough : pieces.length < fuel) (rest : List Char) :
    readMoreItems item fuel (layout.more depth pieces ++ (layout.lineBreak outer ++ ']' :: rest)) =
      .ok (sources, rest) := by
  induction each generalizing fuel with
  | nil =>
    obtain ⟨fuel, rfl⟩ := Nat.exists_eq_succ_of_ne_zero (Nat.ne_of_gt enough)
    rw [readMoreItems, Layout.more, List.flatMap_nil, List.nil_append,
      skipBlanks_append (blank.lineBreak outer), skipBlanks_cons (by decide)]
    rfl
  | @cons piece source pieces sources first _ ih =>
    obtain ⟨fuel, rfl⟩ := Nat.exists_eq_succ_of_ne_zero (Nat.ne_of_gt (Nat.zero_lt_of_lt enough))
    obtain ⟨c, more, start, visible, notClosing⟩ := first.start
    have fewer : pieces.length < fuel := Nat.lt_of_succ_lt_succ enough
    have later := blank.endsNumber depth outer pieces ']' (by decide) rest
    have read := first.read _ later
    have front : layout.more depth (piece :: pieces) ++ (layout.lineBreak outer ++ ']' :: rest) =
        ',' :: (layout.lineBreak depth ++ (piece ++ (layout.more depth pieces ++
          (layout.lineBreak outer ++ ']' :: rest)))) := by
      simp [Layout.more]
    rw [front, readMoreItems, skipBlanks_cons (by decide)]
    simp only [skipBlanks_append (blank.lineBreak depth)]
    rw [start, List.cons_append, skipBlanks_cons visible]
    rw [start, List.cons_append] at read
    split
    · contradiction
    · rename_i same
      exact absurd (List.cons.inj same).1 notClosing
    · simp only [read, ih fewer, bind, Except.bind]

/-- Further members are read up to the closing brace. -/
theorem readMoreMembers_more (blank : layout.IsBlank) {members : List (String × Source)}
    (each : List.Forall₂ (IsMemberText item) pieces members) {fuel : Nat}
    (enough : pieces.length < fuel) (rest : List Char) :
    readMoreMembers item fuel
        (layout.more depth pieces ++ (layout.lineBreak outer ++ '\x7d' :: rest)) =
      .ok (members, rest) := by
  induction each generalizing fuel with
  | nil =>
    obtain ⟨fuel, rfl⟩ := Nat.exists_eq_succ_of_ne_zero (Nat.ne_of_gt enough)
    rw [readMoreMembers, Layout.more, List.flatMap_nil, List.nil_append,
      skipBlanks_append (blank.lineBreak outer), skipBlanks_cons (by decide)]
    rfl
  | @cons piece member pieces members first _ ih =>
    obtain ⟨fuel, rfl⟩ := Nat.exists_eq_succ_of_ne_zero (Nat.ne_of_gt (Nat.zero_lt_of_lt enough))
    obtain ⟨text, start, read⟩ := first
    have fewer : pieces.length < fuel := Nat.lt_of_succ_lt_succ enough
    have later := blank.endsNumber depth outer pieces '\x7d' (by decide) rest
    have front : layout.more depth (piece :: pieces) ++ (layout.lineBreak outer ++ '\x7d' :: rest) =
        ',' :: (layout.lineBreak depth ++ '"' :: (text ++ (layout.more depth pieces ++
          (layout.lineBreak outer ++ '\x7d' :: rest)))) := by
      simp [Layout.more, start]
    rw [front, readMoreMembers, skipBlanks_cons (by decide)]
    simp only [skipBlanks_append (blank.lineBreak depth)]
    rw [skipBlanks_cons (by decide)]
    simp only [read _ later, ih fewer, bind, Except.bind]

/-- Pieces between brackets are read as items of an array. -/
theorem readItems_enclose (blank : layout.IsBlank) (depth : Nat) {sources : List Source}
    (each : List.Forall₂ (IsItemText item) pieces sources) {size : Nat}
    (enough : pieces.length ≤ size) (rest : List Char) :
    ∃ text, layout.enclose depth '[' ']' pieces ++ rest = '[' :: text ∧
      readItems size item text = .ok (sources, rest) := by
  cases each with
  | nil => exact ⟨']' :: rest, rfl, rfl⟩
  | @cons piece source pieces sources first others =>
    obtain ⟨c, more, start, visible, notClosing⟩ := first.start
    refine ⟨_, layout.enclose_cons_append depth '[' ']' piece pieces rest, ?_⟩
    have later := blank.endsNumber (depth + 1) depth pieces ']' (by decide) rest
    have read := first.read _ later
    rw [readItems, skipBlanks_append (blank.lineBreak (depth + 1)), start, List.cons_append,
      skipBlanks_cons visible]
    rw [start, List.cons_append] at read
    split
    · contradiction
    · rename_i same
      exact absurd (List.cons.inj same).1 notClosing
    · simp only [read, readMoreItems_more blank others enough, bind, Except.bind]

/-- Pieces between braces are read as members of an object. -/
theorem readMembers_enclose (blank : layout.IsBlank) (depth : Nat)
    {members : List (String × Source)}
    (each : List.Forall₂ (IsMemberText item) pieces members) {size : Nat}
    (enough : pieces.length ≤ size) (rest : List Char) :
    ∃ text, layout.enclose depth '\x7b' '\x7d' pieces ++ rest = '\x7b' :: text ∧
      readMembers size item text = .ok (members, rest) := by
  cases each with
  | nil => exact ⟨'\x7d' :: rest, rfl, rfl⟩
  | @cons piece member pieces members first others =>
    obtain ⟨more, start, read⟩ := first
    refine ⟨_, layout.enclose_cons_append depth '\x7b' '\x7d' piece pieces rest, ?_⟩
    have later := blank.endsNumber (depth + 1) depth pieces '\x7d' (by decide) rest
    rw [readMembers, skipBlanks_append (blank.lineBreak (depth + 1)), start, List.cons_append,
      skipBlanks_cons (by decide)]
    simp only [read _ later, readMoreMembers_more blank others enough, bind, Except.bind]

end Lists

section Values

variable {layout : Layout} {depth size levels : Nat} {pieces : List (List Char)}

/-- An array of pieces is read one level further in. -/
theorem readValue_enclose_items (blank : layout.IsBlank) {sources : List Source}
    (each : List.Forall₂ (IsItemText (readValue size levels)) pieces sources)
    (enough : pieces.length ≤ size) (rest : List Char) :
    readValue size (levels + 1) (layout.enclose depth '[' ']' pieces ++ rest) =
      .ok (.array sources, rest) := by
  obtain ⟨text, opened, items⟩ := readItems_enclose blank depth each enough rest
  rw [opened, readValue, skipBlanks_cons (by decide)]
  simp only [items, bind, Except.bind]

/-- An object of pieces is read one level further in. -/
theorem readValue_enclose_members (blank : layout.IsBlank) {members : List (String × Source)}
    (each : List.Forall₂ (IsMemberText (readValue size levels)) pieces members)
    (enough : pieces.length ≤ size) (rest : List Char) :
    readValue size (levels + 1) (layout.enclose depth '\x7b' '\x7d' pieces ++ rest) =
      .ok (.object members, rest) := by
  obtain ⟨text, opened, all⟩ := readMembers_enclose blank depth each enough rest
  rw [opened, readValue, skipBlanks_cons (by decide)]
  simp only [all, bind, Except.bind]

end Values

end Concord.Json
