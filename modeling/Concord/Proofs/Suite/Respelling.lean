import Concord.Proofs.Json.Reordered
import Concord.Proofs.Json.Spelling
import Concord.Proofs.Suite.Loading
import Concord.Report
import Mathlib

/-!
# Documents written in another way

How a document is written does not matter: not the blanks between its parts, not the order of the
members of its objects, and not how the characters of its strings are escaped. Texts that differ in
nothing else are written for trees with the same value, and a document is loaded from the value
alone. So they load alike, with the same error if they do not load, and have the same report.
-/

namespace Concord

open Json

/-- The texts are written for trees that differ in nothing but the order of members of objects with
distinct keys. So they differ in nothing but that order, blanks and escapes, and in how the
exponents of numbers are marked. -/
def Respelled (first second : String) : Prop :=
  ∃ source other : Source, source.SpellsText first ∧ other.SpellsText second ∧ source.Reordered other

/-- Of texts that can be read it matters only which trees they are read as. -/
theorem respelled_iff {first second : String} {source other : Source}
    (parsed : Source.parse first = .ok source) (reparsed : Source.parse second = .ok other) :
    Respelled first second ↔ source.Reordered other := by
  constructor
  · rintro ⟨tree, changed, spelled, respelled, reordered⟩
    obtain rfl := (Source.parse_eq_iff_spellsText parsed tree).mpr spelled
    obtain rfl := (Source.parse_eq_iff_spellsText reparsed changed).mpr respelled
    exact reordered
  · intro reordered
    exact ⟨source, other, (Source.parse_eq_iff_spellsText parsed source).mp rfl,
      (Source.parse_eq_iff_spellsText reparsed other).mp rfl, reordered⟩

/-- Two texts that can be read and that differ only in how they are written have the same value. -/
theorem Respelled.value_eq {first second : String} {value other : Value}
    (respelled : Respelled first second) (parsed : Value.parse first = .ok value)
    (reparsed : Value.parse second = .ok other) : value = other := by
  obtain ⟨source, read, rfl⟩ := parse_eq_ok.mp parsed
  obtain ⟨changed, reread, rfl⟩ := parse_eq_ok.mp reparsed
  exact ((respelled_iff read reread).mp respelled).value_eq

/-- Two texts that can be read and that differ only in how they are written load as the same
document or fail to load with the same error, and for any implementations they have the same
report. -/
theorem respelled_documents_agree {first second : String} {value other : Value}
    (parsed : Value.parse first = .ok value) (reparsed : Value.parse second = .ok other)
    (respelled : Respelled first second) :
    Document.load first = Document.load second ∧ ∀ set : ImplementationSet,
      (Document.load first).map (fun document => (Report.ofOutcome (document.run set)).text) =
        (Document.load second).map fun document => (Report.ofOutcome (document.run set)).text := by
  have same := respelled.value_eq parsed reparsed
  have loads : Document.load first = Document.load second := by
    rw [Document.load, Document.load, parsed, reparsed, same]
  exact ⟨loads, fun set => by rw [loads]⟩

/-- A document whose suites have no cases, with a note. -/
def plainText : String := "\x7b\"binary_operations\":[],\"at_operations\":[],\"note\":\"a/b\"\x7d"

/-- The same document with blanks, its members in another order, and escapes in a key and in the
note. -/
def escapedText : String :=
  "\x7b\"note\" : \"a\\/b\",\n\"at_\\u006fperations\":[ ],\"binary_operations\":[]\x7d "

/-- The members of the document in the order of its plain text. -/
def plainMembers : List (String × Source) :=
  [("binary_operations", .array []), ("at_operations", .array []), ("note", .string "a/b")]

/-- The document without cases is loaded from either text. -/
theorem respelled_documents_agree_escaped :
    Document.load plainText = .ok ⟨[], []⟩ ∧ Document.load escapedText = .ok ⟨[], []⟩ := by
  have read : Source.parse plainText = .ok (.object plainMembers) := by cbv
  have reread : Source.parse escapedText = .ok (.object plainMembers.reverse) := by cbv
  have loads : Document.load plainText = .ok ⟨[], []⟩ :=
    Document.load_eq_ok.mpr ⟨_, parse_eq_ok.mpr ⟨_, read, rfl⟩, by cbv, by cbv⟩
  have values : List.Forall₂ Source.Reordered (plainMembers.map Prod.snd)
      (plainMembers.map Prod.snd) :=
    .cons (.array .nil) (.cons (.array .nil) (.cons (.string _) .nil))
  have respelled : Respelled plainText escapedText := (respelled_iff read reread).mpr
    (.object rfl values (.inr ⟨by decide, List.reverse_perm plainMembers⟩))
  have agree := respelled_documents_agree (parse_eq_ok.mpr ⟨_, read, rfl⟩)
    (parse_eq_ok.mpr ⟨_, reread, rfl⟩) respelled
  exact ⟨loads, agree.1 ▸ loads⟩

end Concord
