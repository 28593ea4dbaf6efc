import Concord.Proofs.Json.Grammar
import Concord.Proofs.Json.ReaderSteps
import Concord.Proofs.Json.RoundTrip

/-!
# Reading follows the grammar

A text that can be read is written for exactly one tree, the one it is read as. Half of it, that the
tree that is read is written by the text, follows the steps of the reader (`Spelled`). The other half
follows the grammar: wherever a written tree is read at all, it is read as itself (`OnlyReadsAs`). It
is not read always, because the reader limits nesting.
-/

namespace Concord.Json

/-- What is left after skipping blanks stood after blanks. -/
theorem exists_blanks_of_skipBlanks {text left : List Char} (skipped : skipBlanks text = left) :
    ∃ blanks, AllBlank blanks ∧ text = blanks ++ left := by
  refine ⟨text.takeWhile isBlank, fun c there => ?_, ?_⟩
  · exact List.all_eq_true.mp List.all_takeWhile c there
  · rw [← skipped]
    exact List.takeWhile_append_dropWhile.symm

section Read

variable {α : Type}

/-- After blanks a text of the entry stands in front of the rest. -/
def Spelled (spells : α → List Char → Prop) (text : List Char) (e : α) (rest : List Char) : Prop :=
  ∃ blanks inner, AllBlank blanks ∧ spells e inner ∧ text = blanks ++ (inner ++ rest)

variable {spells : α → List Char → Prop} {entry : List Char → α → List Char → Prop}
  {closing : Char} {text rest : List Char}

/-- What is written after skipping blanks is written after blanks. -/
theorem Spelled.of_skipBlanks {e : α} (spelled : Spelled spells (skipBlanks text) e rest) :
    Spelled spells text e rest := by
  obtain ⟨blanks, inner, all, written, skipped⟩ := spelled
  obtain ⟨before, blank, rfl⟩ := exists_blanks_of_skipBlanks skipped
  exact ⟨before ++ blanks, inner, blank.append all, written, (List.append_assoc ..).symm⟩

/-- Further entries that are read are written up to the closing bracket. -/
theorem MoreRead.exists_spellsMore {fuel : Nat} {entries : List α}
    (read : MoreRead entry closing fuel text entries rest)
    (each : ∀ {text e rest}, entry text e rest → Spelled spells text e rest) :
    ∃ inner, SpellsMore spells entries inner ∧ text = inner ++ closing :: rest := by
  induction read with
  | done closed =>
    obtain ⟨blanks, all, rfl⟩ := exists_blanks_of_skipBlanks closed
    exact ⟨blanks, .done all, rfl⟩
  | next comma first _ ih =>
    obtain ⟨after, blankAfter, rfl⟩ := exists_blanks_of_skipBlanks comma
    obtain ⟨before, inner, blankBefore, spelled, rfl⟩ := each first
    obtain ⟨tail, spelledTail, rfl⟩ := ih
    exact ⟨_, .next blankAfter blankBefore spelled spelledTail, by simp⟩

/-- Entries that are read are written up to the closing bracket. -/
theorem ListRead.exists_spellsList {size : Nat} {entries : List α}
    (read : ListRead entry closing size text entries rest)
    (each : ∀ {text e rest}, entry text e rest → Spelled spells text e rest) :
    ∃ inner, SpellsList spells entries inner ∧ text = inner ++ closing :: rest := by
  cases read with
  | none closed =>
    obtain ⟨blanks, all, rfl⟩ := exists_blanks_of_skipBlanks closed
    exact ⟨blanks, .none all, rfl⟩
  | some _ first more =>
    obtain ⟨before, inner, blankBefore, spelled, rfl⟩ := each first
    obtain ⟨tail, spelledTail, rfl⟩ := more.exists_spellsMore each
    exact ⟨_, .some blankBefore spelled spelledTail, by simp⟩

/-- A member that is read is written after blanks when its value is. -/
theorem MemberRead.spelled {item : List Char → Reading Source}
    {spells : Source → List Char → Prop} {member : String × Source}
    (read : MemberRead item text member rest)
    (each : ∀ {text source rest}, item text = .ok (source, rest) → Spelled spells text source rest) :
    Spelled (SpellsMember spells) text member rest := by
  cases read with
  | colon quote named colon value =>
    obtain ⟨blanks, all, rfl⟩ := exists_blanks_of_skipBlanks quote
    obtain ⟨name, spelledName, front⟩ := exists_spellsString_of_readString named
    obtain ⟨after, blankAfter, rfl⟩ := exists_blanks_of_skipBlanks colon
    obtain ⟨before, inner, blankBefore, spelled, rfl⟩ := each value
    exact ⟨blanks, _, all, .colon spelledName blankAfter blankBefore spelled, by simp [front]⟩

/-- A number that is read is written at the front. -/
theorem exists_spells_of_readNumber {written : WrittenNumber}
    (read : readNumber text = .ok (written, rest)) :
    ∃ inner, written.numeral.Spells inner ∧ text = inner ++ rest := by
  obtain ⟨⟨numeral, left⟩, readNumeral, read⟩ := bind_eq_ok.mp read
  simp only at read
  split at read
  · obtain ⟨rfl, rfl⟩ := Prod.mk.inj (Except.ok.inj read)
    exact Numeral.exists_spells_of_read readNumeral
  · contradiction

/-- A tree that is read is written after blanks. -/
theorem spelled_of_readValue {size levels : Nat} {source : Source}
    (read : readValue size levels text = .ok (source, rest)) :
    Spelled Source.Spells text source rest := by
  induction levels using Nat.strongRecOn generalizing text rest source with
  | ind levels ih =>
    have front {inner : List Char} (spelled : source.Spells inner) :
        Spelled Source.Spells (inner ++ rest) source rest :=
      ⟨[], inner, by simp [AllBlank], spelled, rfl⟩
    have step := valueRead_of_readValue read
    apply Spelled.of_skipBlanks
    generalize skipBlanks text = start at step ⊢
    cases step with
    | null => exact front .null
    | true => exact front (.bool true)
    | false => exact front (.bool false)
    | string quoted =>
      obtain ⟨inner, spelled, split⟩ := exists_spellsString_of_readString quoted
      exact split ▸ front (.string spelled)
    | number _ digits =>
      obtain ⟨inner, spelled, split⟩ := exists_spells_of_readNumber digits
      exact split ▸ front (.number spelled)
    | array inside =>
      obtain ⟨inner, spelled, rfl⟩ := inside.exists_spellsList fun read =>
        (ih _ (Nat.lt_succ_self _) read).of_skipBlanks
      simpa using front (.array spelled)
    | object inside =>
      obtain ⟨inner, spelled, rfl⟩ := inside.exists_spellsList fun read =>
        read.spelled (ih _ (Nat.lt_succ_self _))
      simpa using front (.object spelled)

end Read

section Written

variable {α : Type}

/-- A text of an entry before a closing bracket: wherever it is read at all, it is read as the
entry. -/
structure OnlyReadsAs (entry : List Char → α → List Char → Prop) (closing : Char) (e : α)
    (text : List Char) : Prop where
  /-- It starts with neither a blank nor the closing bracket. -/
  start : ∃ c more, text = c :: more ∧ isBlank c = false ∧ c ≠ closing
  /-- After blanks it is read as nothing but the entry. -/
  read : ∀ {blanks rest found left}, AllBlank blanks → EndsNumber rest →
    entry (blanks ++ (text ++ rest)) found left → found = e ∧ left = rest

variable {entry : List Char → α → List Char → Prop} {closing : Char} {text rest left : List Char}

/-- Further entries are only read as they are written. -/
theorem SpellsMore.eq_of_moreRead {entries found : List α}
    (spelled : SpellsMore (OnlyReadsAs entry closing) entries text)
    (notBlank : isBlank closing = false) (notComma : closing ≠ ',')
    (ends : continuesNumber closing = false) {fuel : Nat}
    (read : MoreRead entry closing fuel (text ++ closing :: rest) found left) :
    found = entries ∧ left = rest := by
  induction spelled generalizing fuel found with
  | done all =>
    cases read with
    | done closed =>
      rw [skipBlanks_append all, skipBlanks_cons notBlank] at closed
      exact ⟨rfl, (List.cons.inj closed).2.symm⟩
    | next comma =>
      rw [skipBlanks_append all, skipBlanks_cons notBlank] at comma
      exact absurd (List.cons.inj comma).1 notComma
  | next blankAfter blankBefore first more ih =>
    have later := more.endsNumber closing ends rest
    simp only [List.append_assoc, List.cons_append] at read
    cases read with
    | done closed =>
      rw [skipBlanks_append blankAfter, skipBlanks_cons (by decide)] at closed
      exact absurd (List.cons.inj closed).1.symm notComma
    | next comma readFirst readMore =>
      rw [skipBlanks_append blankAfter, skipBlanks_cons (by decide)] at comma
      obtain rfl := (List.cons.inj comma).2
      obtain ⟨rfl, rfl⟩ := first.read blankBefore later readFirst
      obtain ⟨rfl, rfl⟩ := ih readMore
      exact ⟨rfl, rfl⟩

/-- The entries of a list are only read as they are written. -/
theorem SpellsList.eq_of_listRead {entries found : List α}
    (spelled : SpellsList (OnlyReadsAs entry closing) entries text)
    (notBlank : isBlank closing = false) (notComma : closing ≠ ',')
    (ends : continuesNumber closing = false) {size : Nat}
    (read : ListRead entry closing size (text ++ closing :: rest) found left) :
    found = entries ∧ left = rest := by
  cases spelled with
  | none all =>
    cases read with
    | none closed =>
      rw [skipBlanks_append all, skipBlanks_cons notBlank] at closed
      exact ⟨rfl, (List.cons.inj closed).2.symm⟩
    | some notClosed =>
      rw [skipBlanks_append all, skipBlanks_cons notBlank] at notClosed
      exact absurd rfl (notClosed rest)
  | some blankBefore first more =>
    have later := more.endsNumber closing ends rest
    simp only [List.append_assoc] at read
    cases read with
    | none closed =>
      obtain ⟨c, tail, rfl, visible, notClosing⟩ := first.start
      rw [skipBlanks_append blankBefore, List.cons_append, skipBlanks_cons visible] at closed
      exact absurd (List.cons.inj closed).1 notClosing
    | some _ readFirst readMore =>
      obtain ⟨rfl, rfl⟩ := first.read blankBefore later readFirst
      obtain ⟨rfl, rfl⟩ := more.eq_of_moreRead notBlank notComma ends readMore
      exact ⟨rfl, rfl⟩

end Written

section Trees

variable {size levels : Nat}

/-- A text that is read as an item is read as no other. -/
theorem IsItemText.onlyReadsAs {item : List Char → Reading Source} {text : List Char}
    {source : Source} (isText : IsItemText item text source) :
    OnlyReadsAs (ItemRead item) ']' source text := by
  refine ⟨isText.start, fun all ends read => ?_⟩
  obtain ⟨c, tail, rfl, visible, -⟩ := isText.start
  have same := isText.read _ ends
  rw [ItemRead, skipBlanks_append all, List.cons_append, skipBlanks_cons visible,
    ← List.cons_append, same] at read
  obtain ⟨rfl, rfl⟩ := Prod.mk.inj (Except.ok.inj read)
  exact ⟨rfl, rfl⟩

/-- A value that is read is read after any blanks. -/
theorem itemRead_of_readValue {text rest : List Char} {source : Source}
    (read : readValue size levels text = .ok (source, rest)) :
    ItemRead (readValue size levels) text source rest := by
  obtain ⟨blanks, all, split⟩ := exists_blanks_of_skipBlanks (rfl : skipBlanks text = _)
  rw [split, readValue_blanks all] at read
  exact read

/-- A member is only read as it is written when its value is. -/
theorem SpellsMember.onlyReadsAs {member : String × Source} {text : List Char}
    (spelled : SpellsMember (OnlyReadsAs (ItemRead (readValue size levels)) ']') member text) :
    OnlyReadsAs (MemberRead (readValue size levels)) '\x7d' member text := by
  cases spelled with
  | colon named blankAfter blankBefore value =>
    obtain ⟨inner, rfl, key⟩ := exists_readString_of_spellsString named
    refine ⟨⟨'"', _, List.cons_append .., by decide, by decide⟩, fun all ends read => ?_⟩
    simp only [List.append_assoc, List.cons_append] at read
    cases read with
    | colon quote readKey readColon readSource =>
      rw [skipBlanks_append all, skipBlanks_cons (by decide)] at quote
      obtain rfl := (List.cons.inj quote).2
      obtain ⟨rfl, rfl⟩ := Prod.mk.inj (Except.ok.inj ((key _).symm.trans readKey))
      rw [skipBlanks_append blankAfter, skipBlanks_cons (by decide)] at readColon
      obtain rfl := (List.cons.inj readColon).2
      obtain ⟨rfl, rfl⟩ := value.read blankBefore ends (itemRead_of_readValue readSource)
      exact ⟨rfl, rfl⟩

/-- An array is only read as it is written when its items are, one level further in. -/
theorem onlyReadsAs_array {items : List Source} {inside : List Char}
    (entries : ∀ inner < levels,
      SpellsList (OnlyReadsAs (ItemRead (readValue size inner)) ']') items inside) :
    OnlyReadsAs (ItemRead (readValue size levels)) ']' (.array items) ('[' :: (inside ++ [']'])) := by
  refine ⟨⟨'[', inside ++ [']'], rfl, by decide, by decide⟩, fun all ends read => ?_⟩
  have step := valueRead_of_readValue read
  simp only [skipBlanks_append all, List.cons_append, List.append_assoc, List.nil_append] at step
  rw [skipBlanks_cons (by decide), skipBlanks_cons (by decide)] at step
  cases step with
  | number start => contradiction
  | @array inner _ _ _ read =>
    obtain ⟨rfl, rfl⟩ := (entries inner (Nat.lt_succ_self inner)).eq_of_listRead (by decide)
      (by decide) (by decide) read
    exact ⟨rfl, rfl⟩

/-- An object is only read as it is written when its members are, one level further in. -/
theorem onlyReadsAs_object {members : List (String × Source)} {inside : List Char}
    (entries : ∀ inner < levels,
      SpellsList (OnlyReadsAs (MemberRead (readValue size inner)) '\x7d') members inside) :
    OnlyReadsAs (ItemRead (readValue size levels)) ']' (.object members)
      ('\x7b' :: (inside ++ ['\x7d'])) := by
  refine ⟨⟨'\x7b', inside ++ ['\x7d'], rfl, by decide, by decide⟩, fun all ends read => ?_⟩
  have step := valueRead_of_readValue read
  simp only [skipBlanks_append all, List.cons_append, List.append_assoc, List.nil_append] at step
  rw [skipBlanks_cons (by decide), skipBlanks_cons (by decide)] at step
  cases step with
  | number start => contradiction
  | @object inner _ _ _ read =>
    obtain ⟨rfl, rfl⟩ := (entries inner (Nat.lt_succ_self inner)).eq_of_listRead (by decide)
      (by decide) (by decide) read
    exact ⟨rfl, rfl⟩

/-- A tree is only read as it is written. -/
theorem Source.Spells.onlyReadsAs {source : Source} {text : List Char}
    (spelled : source.Spells text) :
    OnlyReadsAs (ItemRead (readValue size levels)) ']' source text := by
  -- The parts of a tree stand in lists, so the induction is on the levels that are left for them.
  induction levels using Nat.strongRecOn generalizing source text with
  | ind levels ih =>
    cases spelled with
    | null => exact isItemText_null.onlyReadsAs
    | bool b => exact (isItemText_bool b).onlyReadsAs
    | @number written _ digits =>
      exact (isItemText_numeral size levels digits written.number?_eq).onlyReadsAs
    | string quoted => exact (isItemText_string quoted).onlyReadsAs
    | array entries => exact onlyReadsAs_array fun inner below => entries.mono (ih inner below)
    | object entries =>
      refine onlyReadsAs_object fun inner below => entries.mono fun member => ?_
      apply SpellsMember.onlyReadsAs
      cases member with
      | colon named blankAfter blankBefore value =>
        exact .colon named blankAfter blankBefore (ih inner below value)

end Trees

/-- A text that can be read is written for exactly one tree, the one it is read as. -/
theorem Source.parse_eq_iff_spellsText {text : String} {found : Source}
    (parsed : Source.parse text = .ok found) (tree : Source) :
    found = tree ↔ tree.SpellsText text := by
  have whole := mapError_eq_ok.mp parsed
  obtain ⟨⟨source, rest⟩, read, ended⟩ := bind_eq_ok.mp whole
  simp only at ended
  split at ended
  · rename_i skipped
    obtain rfl := Except.ok.inj ended
    obtain ⟨after, blankAfter, rfl⟩ := exists_blanks_of_skipBlanks skipped
    rw [List.append_nil] at read
    constructor
    · rintro rfl
      obtain ⟨before, inner, blankBefore, spelled, split⟩ := spelled_of_readValue read
      exact ⟨before, inner, after, blankBefore, blankAfter, spelled, split⟩
    · rintro ⟨before, inner, last, blankBefore, blankLast, spelled, split⟩
      have ends : EndsNumber (last ++ []) := endsNumber_append blankLast endsNumber_nil
      rw [List.append_nil] at ends
      rw [split] at read
      exact (spelled.onlyReadsAs.read blankBefore ends (itemRead_of_readValue read)).1
  · contradiction

end Concord.Json
