import Concord.Proofs.Json.LayoutText

/-!
# How trees are written

`Source.Spells` is the grammar of JSON: which texts a tree may be written with. Between the parts
there may be blanks, and strings and numbers may be written in any of their ways. The grammar takes
nothing from the reader but which characters are blanks, and it does not limit nesting. Lists are
written alike whatever their entries are, so that the entries may be items or members, and may be
replaced by what is known of their texts.
-/

namespace Concord.Json

/-- All characters are blanks. -/
def AllBlank (text : List Char) : Prop := ∀ c ∈ text, isBlank c = true

/-- Blanks after blanks are blanks. -/
theorem AllBlank.append {front back : List Char} (first : AllBlank front) (second : AllBlank back) :
    AllBlank (front ++ back) := by
  intro c there
  exact (List.mem_append.mp there).elim (first c) (second c)

section Grammar

/-- Further entries of a list as they may be written, each after a comma, with blanks around the
commas and at the end. -/
inductive SpellsMore {α : Type} (spells : α → List Char → Prop) : List α → List Char → Prop
  /-- After the last entry there may be blanks. -/
  | done {blanks : List Char} (all : AllBlank blanks) : SpellsMore spells [] blanks
  /-- A comma and an entry. -/
  | next {entry : α} {entries : List α} {after before text others : List Char}
    (blankAfter : AllBlank after) (blankBefore : AllBlank before) (first : spells entry text)
    (more : SpellsMore spells entries others) :
    SpellsMore spells (entry :: entries) (after ++ ',' :: (before ++ (text ++ others)))

/-- The entries of a list as they may be written between brackets. -/
inductive SpellsList {α : Type} (spells : α → List Char → Prop) : List α → List Char → Prop
  /-- No entries. -/
  | none {blanks : List Char} (all : AllBlank blanks) : SpellsList spells [] blanks
  /-- A first entry and further ones. -/
  | some {entry : α} {entries : List α} {before text others : List Char}
    (blankBefore : AllBlank before) (first : spells entry text)
    (more : SpellsMore spells entries others) :
    SpellsList spells (entry :: entries) (before ++ (text ++ others))

/-- A member as it may be written: its key, a colon and its value. -/
inductive SpellsMember (spells : Source → List Char → Prop) : String × Source → List Char → Prop
  /-- There may be blanks around the colon. -/
  | colon {key : String} {source : Source} {name after before text : List Char}
    (named : SpellsString key name) (blankAfter : AllBlank after) (blankBefore : AllBlank before)
    (value : spells source text) :
    SpellsMember spells (key, source) (name ++ (after ++ ':' :: (before ++ text)))

/-- A tree as it may be written. -/
inductive Source.Spells : Source → List Char → Prop
  | null : Spells .null ['n', 'u', 'l', 'l']
  | bool (b : Bool) :
    Spells (.bool b) (if b then ['t', 'r', 'u', 'e'] else ['f', 'a', 'l', 's', 'e'])
  | number {written : WrittenNumber} {text : List Char} (digits : written.numeral.Spells text) :
    Spells (.number written) text
  | string {s : String} {text : List Char} (quoted : SpellsString s text) : Spells (.string s) text
  | array {items : List Source} {inside : List Char} (entries : SpellsList Spells items inside) :
    Spells (.array items) ('[' :: (inside ++ [']']))
  | object {members : List (String × Source)} {inside : List Char}
    (entries : SpellsList (SpellsMember Spells) members inside) :
    Spells (.object members) ('\x7b' :: (inside ++ ['\x7d']))

/-- A whole text that a tree may be written with, with blanks around it. -/
def Source.SpellsText (tree : Source) (text : String) : Prop :=
  ∃ before inner after, AllBlank before ∧ AllBlank after ∧ tree.Spells inner ∧
    text.toList = before ++ (inner ++ after)

variable {α : Type} {spells implied : α → List Char → Prop}

/-- Further entries stay written when each entry does. -/
theorem SpellsMore.mono {entries : List α} {text : List Char}
    (spelled : SpellsMore spells entries text)
    (imp : ∀ {entry text}, spells entry text → implied entry text) :
    SpellsMore implied entries text := by
  induction spelled with
  | done all => exact .done all
  | next blankAfter blankBefore first _ ih => exact .next blankAfter blankBefore (imp first) ih

/-- Entries stay written when each entry does. -/
theorem SpellsList.mono {entries : List α} {text : List Char}
    (spelled : SpellsList spells entries text)
    (imp : ∀ {entry text}, spells entry text → implied entry text) :
    SpellsList implied entries text := by
  cases spelled with
  | none all => exact .none all
  | some blankBefore first more => exact .some blankBefore (imp first) (more.mono imp)

/-- A number before further entries, or before the closing bracket, ends there. -/
theorem SpellsMore.endsNumber {entries : List α} {text : List Char}
    (spelled : SpellsMore spells entries text) (closing : Char)
    (other : continuesNumber closing = false) (rest : List Char) :
    EndsNumber (text ++ closing :: rest) := by
  cases spelled with
  | done all => exact endsNumber_append all (endsNumber_cons other rest)
  | next blankAfter =>
    rw [List.append_assoc]
    exact endsNumber_append blankAfter (endsNumber_cons (by decide) _)

end Grammar

end Concord.Json
