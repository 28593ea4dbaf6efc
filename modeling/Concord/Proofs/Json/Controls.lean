import Concord.Interval
import Concord.Proofs.Json.Unambiguous
import Mathlib.Tactic.SplitIfs

/-!
# Compact texts have no control characters

A string is written with its control characters escaped, and everything else that is written without
line breaks is punctuation, a word or a numeral. So the text of a value on one line has no control
character, whatever strings the value holds, and neither has an interval in brackets.
-/

namespace Concord.Json

/-- The text has no control characters. -/
def NoControls (cs : List Char) : Prop := ∀ c ∈ cs, 0x20 ≤ c.toNat

instance (cs : List Char) : Decidable (NoControls cs) := List.decidableBAll _ cs

section Pieces

/-- An empty text has no control characters. -/
theorem noControls_nil : NoControls [] := List.forall_mem_nil _

/-- Texts without control characters, one after the other, have none. -/
theorem NoControls.append {cs ds : List Char} (first : NoControls cs) (second : NoControls ds) :
    NoControls (cs ++ ds) := by
  intro c there
  rcases List.mem_append.mp there with left | right
  · exact first c left
  · exact second c right

/-- A character in front of a text without control characters. -/
theorem NoControls.cons {c : Char} {cs : List Char} (visible : 0x20 ≤ c.toNat)
    (rest : NoControls cs) : NoControls (c :: cs) :=
  List.forall_mem_cons.mpr ⟨visible, rest⟩

/-- Digits are not control characters. -/
theorem IsRun.noControls {digits : List Char} (run : IsRun digits) : NoControls digits := by
  intro c there
  have least : '0'.toNat ≤ c.toNat := (Char.isDigit_iff_toNat.mp (run.all c there)).1
  exact le_trans (by decide) least

/-- The text of a numeral has no control characters. -/
theorem Numeral.WellFormed.noControls {n : Numeral} (wellFormed : n.WellFormed) :
    NoControls n.chars := by
  have sign (negative : Bool) : NoControls (if negative then ['-'] else []) := by
    cases negative <;> decide
  have whole : NoControls n.whole := by
    rcases wellFormed.whole with zero | ⟨run, -⟩
    · exact zero ▸ by decide
    · exact run.noControls
  have fraction : NoControls (fractionChars n.fraction) := by
    cases written : n.fraction with
    | none => decide
    | some digits => exact (wellFormed.fraction digits written).noControls.cons (by decide)
  have exponent : NoControls (exponentChars n.exponent) := by
    cases written : n.exponent with
    | none => decide
    | some exponent =>
      obtain ⟨lowering, digits⟩ := exponent
      have run := (wellFormed.exponent (lowering, digits) written).noControls
      cases lowering <;> exact (run.cons (by decide)).cons (by decide)
  exact (((sign n.negative).append whole).append fraction).append exponent

/-- The text of a number has no control characters. -/
theorem Number.noControls_chars (n : Number) : NoControls n.chars := by
  obtain ⟨numeral, wellFormed, text, -⟩ := exists_writes n
  exact text ▸ wellFormed.noControls

/-- A character stands in a string without control characters. -/
theorem noControls_escapeChar (c : Char) : NoControls (escapeChar c) := by
  have digits : ∀ n < 16, 0x20 ≤ (hexDigit n).toNat := by decide
  unfold escapeChar
  -- All but the last two ways to write a character are fixed texts.
  split_ifs with _ _ _ _ _ _ _ control
  all_goals try decide
  · have front : NoControls ['\\', 'u', '0', '0'] := by decide
    have back : NoControls [hexDigit (c.toNat / 16), hexDigit (c.toNat % 16)] := by
      rw [NoControls, List.forall_mem_cons, List.forall_mem_singleton]
      exact ⟨digits _ (by omega), digits _ (by omega)⟩
    exact front.append back
  · rw [NoControls, List.forall_mem_singleton]
    exact not_lt.mp control

/-- The text of a string has no control characters. -/
theorem noControls_stringChars (s : String) : NoControls (stringChars s) := by
  have quote : NoControls ['"'] := by decide
  have inner : NoControls (s.toList.flatMap escapeChar) := by
    intro c there
    obtain ⟨d, -, written⟩ := List.mem_flatMap.mp there
    exact noControls_escapeChar d c written
  exact (quote.append inner).append quote

end Pieces

section Values

/-- Pieces without control characters are put together without any. -/
theorem noControls_join (depth : Nat) {pieces : List (List Char)}
    (each : ∀ piece ∈ pieces, NoControls piece) :
    NoControls (Layout.compact.join depth pieces) := by
  cases pieces with
  | nil => exact noControls_nil
  | cons piece pieces =>
    rw [Layout.join_cons]
    rw [List.forall_mem_cons] at each
    refine each.1.append fun c there => ?_
    obtain ⟨next, listed, written⟩ := List.mem_flatMap.mp there
    exact (each.2 next listed).cons (by decide) c written

/-- Pieces without control characters are put between brackets without any. -/
theorem noControls_enclose (depth : Nat) {opening closing : Char} {pieces : List (List Char)}
    (brackets : NoControls [opening, closing]) (each : ∀ piece ∈ pieces, NoControls piece) :
    NoControls (Layout.compact.enclose depth opening closing pieces) := by
  unfold Layout.enclose
  split
  · exact brackets
  · rw [NoControls, List.forall_mem_cons, List.forall_mem_singleton] at brackets
    have back : NoControls [closing] := List.forall_mem_singleton.mpr brackets.2
    have inner := noControls_join (depth + 1) each
    exact ((noControls_nil.cons brackets.1).append inner |>.append noControls_nil).append back

mutual

/-- The compact text of a value has no control characters, at any depth. -/
theorem Value.noControls_chars : ∀ (value : Value) (depth : Nat),
    NoControls (value.chars .compact depth)
  | .null, _ => by
    rw [Value.chars]
    decide
  | .bool true, _ => by
    rw [Value.chars]
    decide
  | .bool false, _ => by
    rw [Value.chars]
    decide
  | .number n, _ => by
    rw [Value.chars]
    exact n.noControls_chars
  | .string s, _ => by
    rw [Value.chars]
    exact noControls_stringChars s
  | .array items, depth => by
    rw [Value.chars]
    exact noControls_enclose depth (by decide) (items_noControls items _)
  | .object members, depth => by
    rw [Value.chars]
    exact noControls_enclose depth (by decide) (members_noControls members _)

/-- The compact texts of items have no control characters. -/
theorem items_noControls : ∀ (items : List Value) (depth : Nat),
    ∀ piece ∈ itemPieces .compact depth items, NoControls piece
  | [], _ => by simp [itemPieces]
  | value :: rest, depth => by
    rw [itemPieces, List.forall_mem_cons]
    exact ⟨value.noControls_chars depth, items_noControls rest depth⟩

/-- The compact texts of members have no control characters. -/
theorem members_noControls : ∀ (members : List (String × Value)) (depth : Nat),
    ∀ piece ∈ memberPieces .compact depth members, NoControls piece
  | [], _ => by simp [memberPieces]
  | (key, value) :: rest, depth => by
    rw [memberPieces, List.forall_mem_cons]
    have colon : NoControls Layout.compact.colon := by decide
    exact ⟨((noControls_stringChars key).append colon).append (value.noControls_chars depth),
      members_noControls rest depth⟩

end

/-- The text of a value on one line has no control characters. -/
theorem Value.noControls_compact (value : Value) : NoControls value.compact.toList := by
  rw [Value.compact, String.toList_ofList]
  exact value.noControls_chars 0

end Values

end Concord.Json

namespace Concord

open Json

/-- An interval is shown without control characters. -/
theorem Interval.noControls_display (i : Interval) : NoControls i.display.toList := by
  have ends : NoControls ("[" ++ String.ofList i.start.chars ++ ", " ++
      String.ofList i.finish.chars ++ "]").toList := by
    have opening : NoControls "[".toList := by decide
    simp only [String.toList_append, String.toList_ofList]
    exact (((opening.append i.start.noControls_chars).append (by decide)).append
      i.finish.noControls_chars).append (by decide)
  unfold display
  split
  · decide
  · dsimp only
    split
    · simp only [String.toList_append] at ends ⊢
      exact ((ends.append (by decide)).append (Value.noControls_compact _)).append (by decide)
    · exact ends

/-- A value is shown without control characters. -/
theorem noControls_displayValue (value : Value) : NoControls (displayValue value).toList := by
  unfold displayValue
  split
  · exact Interval.noControls_display _
  · exact value.noControls_compact

end Concord
