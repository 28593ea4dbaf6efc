import Concord.Json.Literal
import Concord.Text.Quoted
import Mathlib.Tactic.SplitIfs

/-!
# Reading quoted texts

A quoted text shows every character it holds and ends with its second bare quote. So it stays on one
line, a reader finds its end whatever text follows, and takes back the string that was quoted.
-/

namespace Concord.Text

section Showing

/-- Every character of the text shows on its own. -/
def Shows (cs : List Char) : Prop := ∀ c ∈ cs, isUnprintable c = false

/-- Whether a character is a letter, digit or sign of the basic alphabet, or the space. -/
def isBasic (c : Char) : Bool := 0x20 ≤ c.toNat && c.toNat ≤ 0x7e

/-- The characters of the basic alphabet show on their own. -/
theorem isUnprintable_eq_false {c : Char} (basic : isBasic c = true) :
    isUnprintable c = false := by
  obtain ⟨lower, upper⟩ := Bool.and_eq_true_iff.mp basic
  rw [decide_eq_true_eq] at lower upper
  -- The first range that does not end before the character begins after it.
  obtain ⟨later, ranges⟩ : ∃ later, unprintableRanges = (0x0, 0x1f) :: (0x7f, 0xa0) :: later :=
    ⟨_, rfl⟩
  have first : ¬ c.toNat ≤ 0x1f := by omega
  have second : c.toNat ≤ 0xa0 := by omega
  have before : ¬ 0x7f ≤ c.toNat := by omega
  simp [isUnprintable, ranges, first, second, before]

/-- A text in the basic alphabet shows. -/
theorem shows_of_basic {cs : List Char} (basic : cs.all isBasic = true) : Shows cs :=
  fun c there => isUnprintable_eq_false (List.all_eq_true.mp basic c there)

/-- Texts that show, one after the other, show. -/
theorem Shows.append {cs ds : List Char} (first : Shows cs) (second : Shows ds) :
    Shows (cs ++ ds) := by
  intro c there
  rcases List.mem_append.mp there with left | right
  · exact first c left
  · exact second c right

/-- A text that shows has no line break. -/
theorem Shows.not_mem_lineBreak {cs : List Char} (all : Shows cs) : '\n' ∉ cs := by
  intro there
  have shown := all '\n' there
  have hidden : isUnprintable '\n' = true := by decide +kernel
  rw [hidden] at shown
  contradiction

/-- The digits of a number are among the sixteen digits. -/
theorem exists_digitChar_of_mem_toDigits {base n : Nat} (proper : 1 < base) {c : Char}
    (there : c ∈ Nat.toDigits base n) : ∃ digit < base, c = Nat.digitChar digit := by
  induction n using Nat.strongRecOn with
  | ind n ih =>
    rw [Nat.toDigits_eq_if proper] at there
    split at there
    · next small => exact ⟨n, small, List.mem_singleton.mp there⟩
    · next large =>
      rcases List.mem_append.mp there with front | last
      · exact ih (n / base) (Nat.div_lt_self (by omega) proper) front
      · exact ⟨n % base, Nat.mod_lt n (by omega), List.mem_singleton.mp last⟩

/-- The digits of a number show. -/
theorem shows_toDigits {base : Nat} (proper : 1 < base) (few : base ≤ 16) (n : Nat) :
    Shows (Nat.toDigits base n) := by
  have all : ∀ digit < 16, isBasic (Nat.digitChar digit) = true := by decide
  refine shows_of_basic (List.all_eq_true.mpr fun c there => ?_)
  obtain ⟨digit, small, rfl⟩ := exists_digitChar_of_mem_toDigits proper there
  exact all digit (by omega)

/-- A number shows. -/
theorem shows_toString (n : Nat) : Shows (toString n).toList := by
  rw [Nat.toString_eq_repr, Nat.toList_repr]
  exact shows_toDigits (by decide) (by decide) n

/-- A character shows between the quotes. -/
theorem shows_quoteChar (c : Char) : Shows (quoteChar c) := by
  unfold quoteChar
  split_ifs with quote backslash lineBreak back tab null unprintable
  · exact shows_of_basic (by decide)
  · exact shows_of_basic (by decide)
  · exact shows_of_basic (by decide)
  · exact shows_of_basic (by decide)
  · exact shows_of_basic (by decide)
  · exact shows_of_basic (by decide)
  · have opening : Shows ['\\', 'u', '\x7b'] := shows_of_basic (by decide)
    have closing : Shows ['\x7d'] := shows_of_basic (by decide)
    exact (opening.append (shows_toDigits (by decide) (by decide) c.toNat)).append closing
  · intro d there
    rw [List.mem_singleton.mp there]
    exact Bool.not_eq_true _ ▸ unprintable

/-- A quoted text shows. -/
theorem shows_quote (s : String) : Shows (quote s).toList := by
  have mark : Shows ['"'] := shows_of_basic (by decide)
  rw [quote, String.toList_ofList]
  intro c there
  rcases List.mem_append.mp there with front | last
  · rcases List.mem_cons.mp front with rfl | inner
    · exact mark '"' List.mem_cons_self
    · obtain ⟨d, -, written⟩ := List.mem_flatMap.mp inner
      exact shows_quoteChar d c written
  · exact mark c last

end Showing

section Reading

/-- How far the reading of a character has come. -/
inductive Unquoting where
  /-- A character begins. -/
  | start
  /-- After a backslash. -/
  | escape
  /-- After a backslash and the letter of code points. -/
  | brace
  /-- Among the digits of a code point, after those with the given value. -/
  | code (value : Nat)

/-- The character that an escape of two characters stands for. -/
def unescape? (letter : Char) : Option Char :=
  [('"', '"'), ('\\', '\\'), ('n', '\n'), ('r', '\r'), ('t', '\t'), ('0', '\x00')].lookup letter

/-- Puts a character in front of what is read after it. -/
def putFront (c : Char) (read : Option (List Char × List Char)) : Option (List Char × List Char) :=
  read.map fun (cs, rest) => (c :: cs, rest)

/-- Reads the characters of a quoted text up to its closing quote, with the text after it. -/
def unquoteChars : Unquoting → List Char → Option (List Char × List Char)
  | _, [] => none
  | .start, c :: rest =>
    if c = '"' then some ([], rest)
    else if c = '\\' then unquoteChars .escape rest
    else putFront c (unquoteChars .start rest)
  | .escape, c :: rest =>
    if c = 'u' then unquoteChars .brace rest
    else (unescape? c).bind fun char => putFront char (unquoteChars .start rest)
  | .brace, c :: rest => if c = '\x7b' then unquoteChars (.code 0) rest else none
  | .code value, c :: rest =>
    if c = '\x7d' then putFront (Char.ofNat value) (unquoteChars .start rest)
    else (Json.hexValue? c).bind fun digit => unquoteChars (.code (16 * value + digit)) rest

/-- Reads a quoted text in front of a text. -/
def unquote? : List Char → Option (String × List Char)
  | '"' :: rest => (unquoteChars .start rest).map fun (cs, rest) => (String.ofList cs, rest)
  | _ => none

/-- Digits in base sixteen are read as their number, which continues the value before them. -/
theorem unquoteChars_toDigits (n value : Nat) (rest : List Char) :
    ∃ shift, unquoteChars (.code value) (Nat.toDigits 16 n ++ rest) =
      unquoteChars (.code (shift * value + n)) rest := by
  have digits : ∀ digit < 16, Nat.digitChar digit ≠ '\x7d' ∧
      Json.hexValue? (Nat.digitChar digit) = some digit := by decide
  induction n using Nat.strongRecOn generalizing rest with
  | ind n ih =>
    rw [Nat.toDigits_eq_if (by decide)]
    split
    · next small =>
      obtain ⟨other, known⟩ := digits n small
      exact ⟨16, by simp [unquoteChars, other, known]⟩
    · next large =>
      obtain ⟨other, known⟩ := digits (n % 16) (Nat.mod_lt n (by decide))
      obtain ⟨shift, front⟩ := ih (n / 16) (Nat.div_lt_self (by omega) (by decide))
        (Nat.digitChar (n % 16) :: rest)
      -- One more digit moves what was read before by one more place.
      refine ⟨16 * shift, ?_⟩
      have whole : 16 * (shift * value + n / 16) + n % 16 = 16 * shift * value + n := by
        rw [Nat.mul_add, Nat.add_assoc, Nat.div_add_mod, Nat.mul_assoc]
      rw [List.append_assoc, List.singleton_append, front]
      simp only [unquoteChars, other, if_false, known, Option.bind_some, whole]

/-- A code point between braces is read as its character. -/
theorem unquoteChars_codePoint (c : Char) (rest : List Char) :
    unquoteChars .start (codePointEscape c ++ rest) = putFront c (unquoteChars .start rest) := by
  obtain ⟨shift, read⟩ := unquoteChars_toDigits c.toNat 0 ('\x7d' :: rest)
  rw [Nat.mul_zero, Nat.zero_add] at read
  have opened : unquoteChars .start (codePointEscape c ++ rest) =
      unquoteChars (.code 0) (Nat.toDigits 16 c.toNat ++ '\x7d' :: rest) := by
    simp [codePointEscape, hexDigits, unquoteChars]
  rw [opened, read]
  simp [unquoteChars, Char.ofNat_toNat]

/-- An escape of two characters is read as the character it stands for. -/
theorem unquoteChars_letter {letter c : Char} (known : unescape? letter = some c)
    (notCode : letter ≠ 'u') (rest : List Char) :
    unquoteChars .start (['\\', letter] ++ rest) = putFront c (unquoteChars .start rest) := by
  simp [unquoteChars, known, notCode]

/-- A character is taken back, however it is written between the quotes. -/
theorem unquoteChars_quoteChar (c : Char) (rest : List Char) :
    unquoteChars .start (quoteChar c ++ rest) = putFront c (unquoteChars .start rest) := by
  unfold quoteChar
  split_ifs with quote backslash lineBreak back tab null unprintable
  · subst quote
    exact unquoteChars_letter rfl (by decide) rest
  · subst backslash
    exact unquoteChars_letter rfl (by decide) rest
  · subst lineBreak
    exact unquoteChars_letter rfl (by decide) rest
  · subst back
    exact unquoteChars_letter rfl (by decide) rest
  · subst tab
    exact unquoteChars_letter rfl (by decide) rest
  · subst null
    exact unquoteChars_letter rfl (by decide) rest
  · exact unquoteChars_codePoint c rest
  · simp [unquoteChars, quote, backslash]

/-- A quoted text in front of any text is read as the string that was quoted, and the text after
it. -/
theorem unquote?_quote (s : String) (rest : List Char) :
    unquote? ((quote s).toList ++ rest) = some (s, rest) := by
  have inner (cs : List Char) :
      unquoteChars .start (cs.flatMap quoteChar ++ '"' :: rest) = some (cs, rest) := by
    induction cs with
    | nil => simp [unquoteChars]
    | cons c cs ih =>
      rw [List.flatMap_cons, List.append_assoc, unquoteChars_quoteChar, ih]
      rfl
  rw [quote, String.toList_ofList, List.append_assoc, List.singleton_append, List.cons_append]
  simp only [unquote?, inner, Option.map_some, String.ofList_toList]

/-- Quoted texts that begin equal texts quote one string, and equal texts follow them. -/
theorem quote_append_inj {s t : String} {rest others : List Char}
    (same : (quote s).toList ++ rest = (quote t).toList ++ others) : s = t ∧ rest = others := by
  have read := congrArg unquote? same
  rw [unquote?_quote, unquote?_quote] at read
  exact Prod.mk.inj (Option.some.inj read)

end Reading

end Concord.Text
