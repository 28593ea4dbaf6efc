import Concord.Json.Literal
import Concord.Json.Printer
import Concord.Proofs.Fallible

/-!
# Texts of strings

A character is written as itself or as an escape (`SpellsChar`), a string as its characters between
quotes (`SpellsString`). However a character is written, the reader takes it back and goes on with
the text after it. So a string, whatever characters it has and however they are written, is read as
itself up to its closing quote. The printed text of a string is one of its texts, and no other texts
are read as strings.
-/

namespace Concord.Json

section Spelling

/-- A digit in base sixteen as it may be written, in lower or in upper case. -/
def SpellsDigit (n : Nat) (c : Char) : Prop := n < 16 ∧ (c = hexDigit n ∨ c = (hexDigit n).toUpper)

/-- A 16-bit unit as it may be written, by four digits in base sixteen. -/
def SpellsUnit (unit : Nat) (text : List Char) : Prop :=
  ∃ digits, List.Forall₂ SpellsDigit digits text ∧ digits.length = 4 ∧
    unit = digits.foldl (fun front digit => front * 16 + digit) 0

/-- The letters of the short escapes, each with the character it stands for. -/
def shortEscapes : List (Char × Char) :=
  [('"', '"'), ('\\', '\\'), ('/', '/'), ('b', '\x08'), ('f', '\x0c'), ('n', '\n'), ('r', '\r'),
    ('t', '\t')]

/-- A character of a string as it may be written. -/
inductive SpellsChar : Char → List Char → Prop
  /-- A character that is no control, quote or backslash may stand for itself. -/
  | raw {c : Char} (noControl : 0x20 ≤ c.toNat) (noQuote : c ≠ '"') (noBackslash : c ≠ '\\') :
    SpellsChar c [c]
  /-- A backslash and a letter. -/
  | short {letter c : Char} (escape : (letter, c) ∈ shortEscapes) : SpellsChar c ['\\', letter]
  /-- The unit of a character of the basic plane. -/
  | unit {c : Char} {digits : List Char} (code : SpellsUnit c.toNat digits) :
    SpellsChar c ('\\' :: 'u' :: digits)
  /-- The two surrogates of a character beyond the basic plane. -/
  | pair {c : Char} {high low : Nat} {front back : List Char} (first : SpellsUnit high front)
    (second : SpellsUnit low back) (isHigh : 0xD800 ≤ high ∧ high ≤ 0xDBFF)
    (isLow : 0xDC00 ≤ low ∧ low ≤ 0xDFFF)
    (code : c.toNat = 0x10000 + (high - 0xD800) * 0x400 + (low - 0xDC00)) :
    SpellsChar c ('\\' :: 'u' :: (front ++ '\\' :: 'u' :: back))

/-- A string as it may be written: quotes around its characters. -/
def SpellsString (s : String) (text : List Char) : Prop :=
  ∃ pieces, List.Forall₂ SpellsChar s.toList pieces ∧ text = '"' :: (pieces.flatten ++ ['"'])

end Spelling

section Units

/-- A digit in base sixteen is read with its value, in either case. -/
theorem hexValue?_of_spellsDigit {n : Nat} {c : Char} (spelled : SpellsDigit n c) :
    hexValue? c = some n := by
  obtain ⟨small, written⟩ := spelled
  have all : ∀ n < 16,
      hexValue? (hexDigit n) = some n ∧ hexValue? (hexDigit n).toUpper = some n := by decide
  rcases written with rfl | rfl
  · exact (all n small).1
  · exact (all n small).2

/-- A character that is read as a digit is one. -/
theorem spellsDigit_of_hexValue? {n : Nat} {c : Char} (read : hexValue? c = some n) :
    SpellsDigit n c := by
  have ascii : c.toNat < 128 := by
    by_contra beyond
    have least : ∀ d : Char, d.toNat < 128 → ¬ c ≤ d := fun d small below => by
      have := Char.le_def.mp below
      have : c.toNat ≤ d.toNat := this
      omega
    simp only [hexValue?, least '9' (by decide), least 'f' (by decide), least 'F' (by decide),
      and_false, if_false] at read
    contradiction
  have all : ∀ code < 128, ∀ n ∈ hexValue? (Char.ofNat code),
      n < 16 ∧ (Char.ofNat code = hexDigit n ∨ Char.ofNat code = (hexDigit n).toUpper) := by
    decide
  have known := all c.toNat ascii n
  rw [Char.ofNat_toNat] at known
  exact known read

/-- Four digits are read as the unit they spell. -/
theorem exists_hexUnit?_of_spellsUnit {unit : Nat} {text : List Char}
    (spelled : SpellsUnit unit text) :
    ∃ a b c d, text = [a, b, c, d] ∧ hexUnit? a b c d = some unit := by
  obtain ⟨digits, each, four, rfl⟩ := spelled
  match digits, each, four with
  | [_, _, _, _], .cons first (.cons second (.cons third (.cons fourth .nil))), _ =>
    refine ⟨_, _, _, _, rfl, ?_⟩
    simp only [hexUnit?, hexValue?_of_spellsDigit first, hexValue?_of_spellsDigit second,
      hexValue?_of_spellsDigit third, hexValue?_of_spellsDigit fourth, Option.bind_eq_bind,
      Option.bind_some, List.foldl_cons, List.foldl_nil, Nat.zero_mul, Nat.zero_add]

/-- A unit has 16 bits. -/
theorem lt_of_spellsUnit {unit : Nat} {text : List Char} (spelled : SpellsUnit unit text) :
    unit < 0x10000 := by
  obtain ⟨digits, each, four, rfl⟩ := spelled
  match digits, each, four with
  | [_, _, _, _], .cons first (.cons second (.cons third (.cons fourth .nil))), _ =>
    have := first.1
    have := second.1
    have := third.1
    have := fourth.1
    simp only [List.foldl_cons, List.foldl_nil]
    omega

/-- Four characters that are read as a unit spell it. -/
theorem spellsUnit_of_hexUnit? {a b c d : Char} {unit : Nat} (read : hexUnit? a b c d = some unit) :
    SpellsUnit unit [a, b, c, d] := by
  simp only [hexUnit?, Option.bind_eq_bind, Option.bind_eq_some_iff, Option.some.injEq] at read
  obtain ⟨first, readFirst, second, readSecond, third, readThird, fourth, readFourth, rfl⟩ := read
  refine ⟨[first, second, third, fourth], ?_, rfl, by simp⟩
  exact .cons (spellsDigit_of_hexValue? readFirst) (.cons (spellsDigit_of_hexValue? readSecond)
    (.cons (spellsDigit_of_hexValue? readThird) (.cons (spellsDigit_of_hexValue? readFourth) .nil)))

end Units

section Characters

/-- The code of a character is not a surrogate. -/
theorem not_isSurrogate_toNat (c : Char) :
    isLowSurrogate c.toNat = false ∧ isHighSurrogate c.toNat = false := by
  have valid : c.toNat < 0xD800 ∨ 0xDFFF < c.toNat ∧ c.toNat < 0x110000 := c.valid
  simp only [isLowSurrogate, isHighSurrogate, Bool.and_eq_false_iff, decide_eq_false_iff_not]
  omega

/-- A character that is written, in whatever way, is read back, whatever follows. -/
theorem readChars_of_spellsChar {c : Char} {text : List Char} (spelled : SpellsChar c text)
    (more : List Char) : readChars (text ++ more) = (readChars more).consChar c := by
  cases spelled with
  | raw noControl noQuote noBackslash =>
    rw [List.singleton_append, readChars]
    · rw [if_neg (Nat.not_lt.mpr noControl)]
    all_goals simp_all
  | short escape =>
    simp only [shortEscapes, List.mem_cons, Prod.mk.injEq, List.not_mem_nil, or_false] at escape
    rcases escape with ⟨rfl, rfl⟩ | ⟨rfl, rfl⟩ | ⟨rfl, rfl⟩ | ⟨rfl, rfl⟩ | ⟨rfl, rfl⟩ |
      ⟨rfl, rfl⟩ | ⟨rfl, rfl⟩ | ⟨rfl, rfl⟩ <;> rfl
  | unit code =>
    obtain ⟨_, _, _, _, rfl, unit⟩ := exists_hexUnit?_of_spellsUnit code
    obtain ⟨notLow, notHigh⟩ := not_isSurrogate_toNat c
    simp only [List.cons_append, List.nil_append]
    rw [readChars, unit]
    simp only [notLow, notHigh, Bool.false_eq_true, if_false, Char.ofNat_toNat]
  | @pair _ high low _ _ first second isHigh isLow code =>
    obtain ⟨_, _, _, _, rfl, firstUnit⟩ := exists_hexUnit?_of_spellsUnit first
    obtain ⟨_, _, _, _, rfl, secondUnit⟩ := exists_hexUnit?_of_spellsUnit second
    have notLow : isLowSurrogate high = false := by
      simp only [isLowSurrogate, Bool.and_eq_false_iff, decide_eq_false_iff_not]
      omega
    have highs : isHighSurrogate high = true := by simpa [isHighSurrogate] using isHigh
    have lows : isLowSurrogate low = true := by simpa [isLowSurrogate] using isLow
    have character : Char.ofNat (pairCode high low) = c := by
      have same : pairCode high low = c.toNat := code.symm
      rw [same, Char.ofNat_toNat]
    simp only [List.cons_append, List.nil_append]
    rw [readChars, firstUnit]
    simp only [notLow, highs, lows, secondUnit, character, Bool.false_eq_true, if_false, if_true]

/-- A unit that is no surrogate spells the character that it is the code of. -/
theorem spellsChar_ofNat_unit {unit : Nat} {digits : List Char} (spelled : SpellsUnit unit digits)
    (notLow : isLowSurrogate unit = false) (notHigh : isHighSurrogate unit = false) :
    SpellsChar (Char.ofNat unit) ('\\' :: 'u' :: digits) := by
  have small := lt_of_spellsUnit spelled
  simp only [isLowSurrogate, isHighSurrogate, Bool.and_eq_false_iff,
    decide_eq_false_iff_not] at notLow notHigh
  have valid : unit.isValidChar := by
    unfold Nat.isValidChar
    omega
  have code : (Char.ofNat unit).toNat = unit := by
    rw [Char.ofNat, dif_pos valid]
    rfl
  exact .unit (code.symm ▸ spelled)

/-- Two surrogates spell the character that they stand for. -/
theorem spellsChar_ofNat_pair {high low : Nat} {front back : List Char}
    (first : SpellsUnit high front) (second : SpellsUnit low back)
    (isHigh : isHighSurrogate high = true) (isLow : isLowSurrogate low = true) :
    SpellsChar (Char.ofNat (pairCode high low)) ('\\' :: 'u' :: (front ++ '\\' :: 'u' :: back)) := by
  simp only [isLowSurrogate, isHighSurrogate, Bool.and_eq_true, decide_eq_true_eq] at isHigh isLow
  have valid : (pairCode high low).isValidChar := by
    unfold Nat.isValidChar pairCode
    omega
  have code : (Char.ofNat (pairCode high low)).toNat = pairCode high low := by
    rw [Char.ofNat, dif_pos valid]
    rfl
  exact .pair first second isHigh isLow code

/-- The letter of a short escape is read as the character that it stands for. -/
theorem spellsChar_of_escapedChar? {letter c : Char} (read : escapedChar? letter = some c) :
    SpellsChar c ['\\', letter] := by
  unfold escapedChar? at read
  split_ifs at read
  all_goals
    obtain rfl := Option.some.inj read
    subst letter
    exact .short (by decide)

/-- A control character is spelled by the last two of its four digits. -/
theorem spellsUnit_control {c : Char} (control : c.toNat < 0x20) :
    SpellsUnit c.toNat ['0', '0', hexDigit (c.toNat / 16), hexDigit (c.toNat % 16)] := by
  have digit {n : Nat} (small : n < 16) : SpellsDigit n (hexDigit n) := ⟨small, .inl rfl⟩
  refine ⟨[0, 0, c.toNat / 16, c.toNat % 16], ?_, rfl, ?_⟩
  · exact .cons (digit (by decide)) (.cons (digit (by decide))
      (.cons (digit (by omega)) (.cons (digit (by omega)) .nil)))
  · simp only [List.foldl_cons, List.foldl_nil]
    omega

/-- What is written for a character is one of its texts. -/
theorem spellsChar_escapeChar (c : Char) : SpellsChar c (escapeChar c) := by
  rw [escapeChar]
  split_ifs with quote backslash backspace formFeed lineFeed carriageReturn tab control
  · subst quote
    exact .short (by decide)
  · subst backslash
    exact .short (by decide)
  · exact .short (backspace ▸ by decide)
  · exact .short (formFeed ▸ by decide)
  · exact .short (lineFeed ▸ by decide)
  · exact .short (carriageReturn ▸ by decide)
  · exact .short (tab ▸ by decide)
  · exact .unit (spellsUnit_control control)
  · exact .raw (Nat.le_of_not_lt control) quote backslash

end Characters

section Strings

/-- Written characters are read back up to the closing quote. -/
theorem readChars_flatten {chars : List Char} {pieces : List (List Char)}
    (each : List.Forall₂ SpellsChar chars pieces) (rest : List Char) :
    readChars (pieces.flatten ++ '"' :: rest) = .ok (chars, rest) := by
  induction each with
  | nil => rfl
  | cons first _ ih =>
    rw [List.flatten_cons, List.append_assoc, readChars_of_spellsChar first, ih]
    rfl

/-- Where a character is put in front, others were read before. -/
theorem consChar_eq_ok {c : Char} {reading : Reading (List Char)} {chars rest : List Char} :
    reading.consChar c = .ok (chars, rest) ↔
      ∃ others, reading = .ok (others, rest) ∧ c :: others = chars := by
  cases reading with
  | error stop => simp [Reading.consChar]
  | ok pair => simp [Reading.consChar, Prod.ext_iff, and_comm, and_assoc]

/-- Characters that are read, up to the closing quote, are written before it. -/
theorem exists_pieces_of_readChars {text chars rest : List Char}
    (read : readChars text = .ok (chars, rest)) :
    ∃ pieces, List.Forall₂ SpellsChar chars pieces ∧ text = pieces.flatten ++ '"' :: rest := by
  -- A piece in front of a text whose characters are known adds one character.
  have extend {c : Char} {piece left chars : List Char} (first : SpellsChar c piece)
      (ih : ∀ {others}, readChars left = .ok (others, rest) →
        ∃ pieces, List.Forall₂ SpellsChar others pieces ∧ left = pieces.flatten ++ '"' :: rest)
      (read : (readChars left).consChar c = .ok (chars, rest)) :
      ∃ pieces, List.Forall₂ SpellsChar chars pieces ∧
        piece ++ left = pieces.flatten ++ '"' :: rest := by
    obtain ⟨others, before, rfl⟩ := consChar_eq_ok.mp read
    obtain ⟨pieces, each, rfl⟩ := ih before
    exact ⟨piece :: pieces, .cons first each, by simp⟩
  fun_induction readChars text generalizing chars with
  | case2 left =>
    obtain ⟨rfl, rfl⟩ := Prod.mk.inj (Except.ok.inj read)
    exact ⟨[], .nil, rfl⟩
  | case6 a b c d high highUnit _ isHigh e f g h left low lowUnit isLow ih =>
    have first := spellsUnit_of_hexUnit? highUnit
    have second := spellsUnit_of_hexUnit? lowUnit
    exact extend (spellsChar_ofNat_pair first second isHigh isLow) ih read
  | case10 a b c d left unit found notLow notHigh ih =>
    have spelled := spellsUnit_of_hexUnit? found
    exact extend (spellsChar_ofNat_unit spelled (Bool.eq_false_iff.mpr notLow)
      (Bool.eq_false_iff.mpr notHigh)) ih read
  | case13 letter left _ _ c escaped ih => exact extend (spellsChar_of_escapedChar? escaped) ih read
  | case16 c left noQuote _ _ atEnd inside noControl ih =>
    have noBackslash : c ≠ '\\' := by
      intro backslash
      cases left with
      | nil => exact atEnd backslash rfl
      | cons next left => exact inside next left backslash rfl
    exact extend (.raw (Nat.le_of_not_lt noControl) noQuote noBackslash) ih read
  | _ => contradiction

/-- A string that is written, in whatever way, is read back after its opening quote. -/
theorem exists_readString_of_spellsString {s : String} {text : List Char}
    (spelled : SpellsString s text) :
    ∃ inner, text = '"' :: inner ∧ ∀ rest, readString (inner ++ rest) = .ok (s, rest) := by
  obtain ⟨pieces, each, rfl⟩ := spelled
  refine ⟨pieces.flatten ++ ['"'], rfl, fun rest => ?_⟩
  rw [readString, List.append_assoc, List.singleton_append, readChars_flatten each]
  simp only [bind, Except.bind, String.ofList_toList]

/-- A string that is read after its opening quote is written there. -/
theorem exists_spellsString_of_readString {text rest : List Char} {s : String}
    (read : readString text = .ok (s, rest)) :
    ∃ inner, SpellsString s inner ∧ '"' :: text = inner ++ rest := by
  obtain ⟨⟨chars, left⟩, before, read⟩ := bind_eq_ok.mp read
  obtain ⟨rfl, rfl⟩ := Prod.mk.inj (Except.ok.inj read)
  obtain ⟨pieces, each, rfl⟩ := exists_pieces_of_readChars before
  refine ⟨'"' :: (pieces.flatten ++ ['"']), ⟨pieces, ?_, rfl⟩, by simp⟩
  rwa [String.toList_ofList]

/-- What is written for a string is one of its texts. -/
theorem spellsString_stringChars (s : String) : SpellsString s (stringChars s) := by
  refine ⟨s.toList.map escapeChar, ?_, by simp [stringChars, List.flatMap_def]⟩
  rw [List.forall₂_map_right_iff]
  exact List.forall₂_same.mpr fun c _ => spellsChar_escapeChar c

end Strings

end Concord.Json
