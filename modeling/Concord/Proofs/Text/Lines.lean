import Concord.Proofs.Text.Quoted

/-!
# Texts of several lines

A text made of lines, each ended by a break, splits at its breaks into these lines and the lines of
what follows them.
-/

namespace Concord.Text

/-- The text has no line break. -/
def OneLine (text : String) : Prop := '\n' ∉ text.toList

/-- A text that shows has no line break. -/
theorem Shows.oneLine {text : String} (shown : Shows text.toList) : OneLine text :=
  shown.not_mem_lineBreak

/-- A text in the basic alphabet has no line break. -/
theorem oneLine_of_basic {text : String} (basic : text.toList.all isBasic = true) :
    OneLine text :=
  (shows_of_basic basic).oneLine

/-- Texts without line breaks, one after the other, have none. -/
theorem OneLine.append {first second : String} (left : OneLine first) (right : OneLine second) :
    OneLine (first ++ second) := by
  rw [OneLine, String.toList_append, List.mem_append]
  rintro (there | there)
  · exact left there
  · exact right there

/-- Lines in front of a text, each with its break. -/
def putLines (lines : List String) (rest : String) : String :=
  String.join (lines.map fun line => line ++ "\n") ++ rest

/-- Without lines in front a text is left. -/
theorem putLines_nil (rest : String) : putLines [] rest = rest := by
  simp [putLines]

/-- The first line stands in front of the others. -/
theorem putLines_cons (line : String) (lines : List String) (rest : String) :
    putLines (line :: lines) rest = line ++ ("\n" ++ putLines lines rest) := by
  simp [putLines, String.join_cons, String.append_assoc]

/-- Lines in front of lines. -/
theorem putLines_append (first second : List String) (rest : String) :
    putLines (first ++ second) rest = putLines first (putLines second rest) := by
  induction first with
  | nil => rw [List.nil_append, putLines_nil]
  | cons line first ih => rw [List.cons_append, putLines_cons, putLines_cons, ih]

/-- The last line ends the text. -/
theorem putLines_concat (lines : List String) (line : String) :
    putLines (lines ++ [line]) "" = putLines lines "" ++ (line ++ "\n") := by
  simp [putLines, String.join_append]

/-- A text behind lines has these lines in front. -/
theorem putLines_append_text (lines : List String) (rest : String) :
    putLines lines "" ++ rest = putLines lines rest := by
  rw [putLines, putLines, String.append_empty]

/-- Lines in front of a text are among its lines. -/
theorem splitOn_putLines {lines : List String} (single : ∀ line ∈ lines, OneLine line)
    (rest : String) :
    (putLines lines rest).toList.splitOn '\n' =
      lines.map String.toList ++ rest.toList.splitOn '\n' := by
  rw [putLines, String.toList_append, String.toList_join, List.flatMap_map]
  induction lines with
  | nil => rfl
  | cons line lines ih =>
    rw [List.forall_mem_cons] at single
    have ended : (line ++ "\n").toList = line.toList ++ ['\n'] := String.toList_append
    rw [List.flatMap_cons, ended, List.append_assoc, List.append_assoc, List.singleton_append,
      List.splitOn_append_cons_self_of_not_mem single.1, ih single.2]
    rfl

end Concord.Text
