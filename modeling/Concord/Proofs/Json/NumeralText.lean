import Concord.Json.Printer
import Concord.Proofs.Fallible
import Concord.Proofs.Json.Numeral

/-!
# Texts of numerals

`Numeral.Spells` says how a numeral may be written: the letter of its exponent in either case, with
a plus sign or without. Reading such a text gives the numeral back, whatever follows, as long as the
number could not go on with it. Each stage of the reader takes exactly the digits that belong to it
because the text after them starts with something else. No other texts are read. `Numeral.chars` is
one of the texts of a numeral, and of a natural number the digits are those printed for it.
-/

namespace Concord.Json

/-- Whether a number could go on with a character. -/
def continuesNumber (c : Char) : Bool := c.isDigit || c = '.' || c = 'e' || c = 'E'

/-- The text starts with nothing that a number could go on with. -/
def EndsNumber (rest : List Char) : Prop := ∀ c ∈ rest.head?, continuesNumber c = false

/-- The text does not start with a digit. -/
def EndsDigits (rest : List Char) : Prop := ∀ c ∈ rest.head?, c.isDigit = false

/-- A nonempty run of digits. -/
structure IsRun (digits : List Char) : Prop where
  /-- There is a digit. -/
  nonempty : digits ≠ []
  /-- All characters are digits. -/
  all : ∀ c ∈ digits, c.isDigit = true

/-- Where a number ends, so do its digits. -/
theorem EndsNumber.endsDigits {rest : List Char} (ends : EndsNumber rest) : EndsDigits rest := by
  intro c head
  have other := ends c head
  simp only [continuesNumber, Bool.or_eq_false_iff] at other
  exact other.1.1.1

/-- Digits end where the text does. -/
theorem endsDigits_nil : EndsDigits [] := by
  intro c head
  contradiction

/-- Digits end at a character that is none. -/
theorem endsDigits_cons {c : Char} (other : c.isDigit = false) (rest : List Char) :
    EndsDigits (c :: rest) := by
  intro d head
  rw [List.head?_cons, Option.mem_some_iff] at head
  exact head ▸ other

/-- The digits at the front of a text are the run before something else. -/
theorem takeWhile_run {digits rest : List Char} (all : ∀ c ∈ digits, c.isDigit = true)
    (ends : EndsDigits rest) :
    (digits ++ rest).takeWhile Char.isDigit = digits ∧
      (digits ++ rest).dropWhile Char.isDigit = rest := by
  rw [List.takeWhile_append_of_pos all, List.dropWhile_append_of_pos all]
  cases rest with
  | nil => simp
  | cons c rest =>
    have other := ends c rfl
    simp [other]

namespace Numeral

/-- The digits of a numeral are where the grammar wants them. -/
structure WellFormed (n : Numeral) : Prop where
  /-- The whole part has no needless zeros. -/
  whole : n.whole = ['0'] ∨ IsRun n.whole ∧ n.whole.head? ≠ some '0'
  /-- A fraction has digits. -/
  fraction : ∀ digits ∈ n.fraction, IsRun digits
  /-- An exponent has digits. -/
  exponent : ∀ exponent ∈ n.exponent, IsRun exponent.2

/-- A fraction as it is written. -/
def fractionChars : Option (List Char) → List Char
  | none => []
  | some digits => '.' :: digits

/-- An exponent as it is written. -/
def exponentChars : Option (Bool × List Char) → List Char
  | none => []
  | some (lowering, digits) => 'e' :: (if lowering then '-' else '+') :: digits

/-- An exponent as it may be written: its letter in either case, a plus sign or none. -/
inductive SpellsExponent : Option (Bool × List Char) → List Char → Prop
  /-- There may be no exponent. -/
  | absent : SpellsExponent none []
  /-- The digits after a sign. -/
  | signed {letter : Char} (isLetter : letter = 'e' ∨ letter = 'E') (lowering : Bool)
    (digits : List Char) :
    SpellsExponent (some (lowering, digits)) (letter :: (if lowering then '-' else '+') :: digits)
  /-- The digits alone. -/
  | unsigned {letter : Char} (isLetter : letter = 'e' ∨ letter = 'E') (digits : List Char) :
    SpellsExponent (some (false, digits)) (letter :: digits)

/-- A numeral as it may be written. -/
def Spells (n : Numeral) (text : List Char) : Prop :=
  n.WellFormed ∧ ∃ exponent, SpellsExponent n.exponent exponent ∧
    text = (if n.negative then ['-'] else []) ++ n.whole ++ fractionChars n.fraction ++ exponent

/-- A numeral as it is written. -/
def chars (n : Numeral) : List Char :=
  (if n.negative then ['-'] else []) ++ n.whole ++ fractionChars n.fraction ++
    exponentChars n.exponent

/-- Reading a whole part. -/
theorem readWhole_append {whole rest : List Char}
    (wellFormed : whole = ['0'] ∨ IsRun whole ∧ whole.head? ≠ some '0') (ends : EndsDigits rest) :
    readWhole (whole ++ rest) = .ok (whole, rest) := by
  rcases wellFormed with rfl | ⟨run, lead⟩
  · cases rest with
    | nil => rfl
    | cons c rest =>
      have other := ends c rfl
      simp [readWhole, other]
  · cases whole with
    | nil => exact absurd rfl run.nonempty
    | cons d more =>
      have notZero : d ≠ '0' := fun zero => lead (zero ▸ rfl)
      have digit := run.all d List.mem_cons_self
      have digits (c : Char) (there : c ∈ more) := run.all c (List.mem_cons_of_mem d there)
      obtain ⟨taken, left⟩ := takeWhile_run digits ends
      simp [readWhole, notZero, digit, taken, left]

/-- Reading a fraction, if there is one. -/
theorem readFraction_append {fraction : Option (List Char)} {rest : List Char}
    (wellFormed : ∀ digits ∈ fraction, IsRun digits) (ends : EndsDigits rest)
    (noPoint : rest.head? ≠ some '.') :
    readFraction (fractionChars fraction ++ rest) = .ok (fraction, rest) := by
  cases fraction with
  | none =>
    cases rest with
    | nil => rfl
    | cons c rest =>
      have other : c ≠ '.' := fun point => noPoint (point ▸ rfl)
      simp [fractionChars, readFraction, other]
  | some digits =>
    have run := wellFormed digits rfl
    obtain ⟨taken, left⟩ := takeWhile_run run.all ends
    cases digits with
    | nil => exact absurd rfl run.nonempty
    | cons d more =>
      have digit := run.all d List.mem_cons_self
      rw [List.cons_append] at taken left
      simp [fractionChars, readFraction, digit, taken, left]

/-- A digit is no sign of an exponent. -/
theorem readSign_digit {d : Char} (digit : d.isDigit = true) (rest : List Char) :
    readSign (d :: rest) = (false, d :: rest) := by
  unfold readSign
  split
  · rename_i same
    obtain ⟨rfl, -⟩ := List.cons.inj same
    contradiction
  · rename_i same
    obtain ⟨rfl, -⟩ := List.cons.inj same
    contradiction
  · rfl

/-- Reading an exponent, if there is one, however it is written. -/
theorem readExponent_append {exponent : Option (Bool × List Char)} {text rest : List Char}
    (spelled : SpellsExponent exponent text) (wellFormed : ∀ part ∈ exponent, IsRun part.2)
    (ends : EndsNumber rest) : readExponent (text ++ rest) = .ok (exponent, rest) := by
  -- After the letter and a sign, the digits are taken.
  have taken {letter : Char} {lowering : Bool} {digits after : List Char} (run : IsRun digits)
      (isLetter : letter = 'e' ∨ letter = 'E')
      (sign : readSign (after ++ rest) = (lowering, digits ++ rest)) :
      readExponent (letter :: after ++ rest) = .ok (some (lowering, digits), rest) := by
    obtain ⟨taken, left⟩ := takeWhile_run run.all ends.endsDigits
    obtain ⟨d, more, rfl⟩ := List.exists_cons_of_ne_nil run.nonempty
    have digit := run.all d List.mem_cons_self
    rw [List.cons_append] at taken left sign
    simp [readExponent, isLetter, sign, digit, taken, left]
  cases spelled with
  | absent =>
    cases rest with
    | nil => rfl
    | cons c rest =>
      have other := ends c rfl
      simp only [continuesNumber, Bool.or_eq_false_iff, decide_eq_false_iff_not] at other
      simp [readExponent, other.1.2, other.2]
  | signed isLetter lowering digits =>
    refine taken (wellFormed (lowering, digits) rfl) isLetter ?_
    cases lowering <;> rfl
  | unsigned isLetter digits =>
    have run := wellFormed (false, digits) rfl
    refine taken run isLetter ?_
    obtain ⟨d, more, rfl⟩ := List.exists_cons_of_ne_nil run.nonempty
    exact readSign_digit (run.all d List.mem_cons_self) _

/-- What follows the fraction is neither a digit nor a point. -/
theorem SpellsExponent.ends {exponent : Option (Bool × List Char)} {text rest : List Char}
    (spelled : SpellsExponent exponent text) (ends : EndsNumber rest) :
    EndsDigits (text ++ rest) ∧ (text ++ rest).head? ≠ some '.' := by
  have letters {letter : Char} (isLetter : letter = 'e' ∨ letter = 'E') (after : List Char) :
      EndsDigits (letter :: after) ∧ (letter :: after).head? ≠ some '.' := by
    rcases isLetter with rfl | rfl
    · exact ⟨endsDigits_cons (by decide) _, by simp⟩
    · exact ⟨endsDigits_cons (by decide) _, by simp⟩
  cases spelled with
  | absent =>
    refine ⟨ends.endsDigits, fun point => ?_⟩
    have other := ends '.' point
    contradiction
  | signed isLetter lowering digits => exact letters isLetter _
  | unsigned isLetter digits => exact letters isLetter _

/-- What follows the whole part is no digit. -/
theorem endsDigits_fraction {tail : List Char} (fraction : Option (List Char))
    (ends : EndsDigits tail) : EndsDigits (fractionChars fraction ++ tail) := by
  cases fraction with
  | some digits => exact endsDigits_cons (by decide) _
  | none => exact ends

/-- The whole part starts with a digit. -/
theorem WellFormed.exists_head {n : Numeral} (wellFormed : n.WellFormed) :
    ∃ d more, n.whole = d :: more ∧ d.isDigit = true := by
  rcases wellFormed.whole with zero | ⟨run, -⟩
  · exact ⟨'0', [], zero, by decide⟩
  · obtain ⟨d, more, split⟩ := List.exists_cons_of_ne_nil run.nonempty
    exact ⟨d, more, split, run.all d (split ▸ List.mem_cons_self)⟩

/-- A numeral starts with a minus sign or a digit. -/
theorem Spells.exists_head {n : Numeral} {text : List Char} (spelled : n.Spells text) :
    ∃ c more, text = c :: more ∧ (c = '-' ∨ c.isDigit = true) := by
  obtain ⟨wellFormed, exponent, -, rfl⟩ := spelled
  obtain ⟨d, more, split, digit⟩ := wellFormed.exists_head
  cases n.negative with
  | true => exact ⟨'-', n.whole ++ fractionChars n.fraction ++ exponent, by simp, .inl rfl⟩
  | false =>
    exact ⟨d, more ++ fractionChars n.fraction ++ exponent, by simp [split], .inr digit⟩

/-- Reading what is written for a numeral, in whatever way, gives the numeral. -/
theorem Spells.read {n : Numeral} {text rest : List Char} (spelled : n.Spells text)
    (ends : EndsNumber rest) : Numeral.read (text ++ rest) = .ok (n, rest) := by
  obtain ⟨wellFormed, last, spelledLast, rfl⟩ := spelled
  let body := n.whole ++ (fractionChars n.fraction ++ (last ++ rest))
  obtain ⟨afterFraction, noPoint⟩ := spelledLast.ends ends
  have whole : readWhole body = .ok (n.whole, _) := readWhole_append wellFormed.whole
    (endsDigits_fraction n.fraction afterFraction)
  have fraction := readFraction_append wellFormed.fraction afterFraction noPoint
  have exponent := readExponent_append spelledLast wellFormed.exponent ends
  have text : (if n.negative then ['-'] else []) ++ n.whole ++ fractionChars n.fraction ++ last ++
      rest = (if n.negative then ['-'] else []) ++ body := by
    simp only [List.append_assoc, body]
  rw [text]
  cases sign : n.negative with
  | true =>
    rw [if_pos rfl, List.singleton_append, Numeral.read]
    simp only [whole, fraction, exponent, bind, Except.bind, ← sign]
  | false =>
    obtain ⟨d, more, split, digit⟩ := wellFormed.exists_head
    have noSign : d ≠ '-' := by
      rintro rfl
      contradiction
    rw [if_neg (by decide), List.nil_append, Numeral.read]
    · simp only [whole, fraction, exponent, bind, Except.bind, ← sign]
    · intro rest minus
      simp only [body, split, List.cons_append] at minus
      exact noSign (List.cons.inj minus).1

/-- What is written for a numeral is one of its texts. -/
theorem WellFormed.spells_chars {n : Numeral} (wellFormed : n.WellFormed) : n.Spells n.chars := by
  refine ⟨wellFormed, exponentChars n.exponent, ?_, rfl⟩
  rcases n.exponent with _ | ⟨lowering, digits⟩
  · exact .absent
  · exact .signed (.inl rfl) lowering digits

/-- The digits that are taken after a first one are a run with it. -/
theorem isRun_takeWhile {d : Char} (digit : d.isDigit = true) (rest : List Char) :
    IsRun (d :: rest.takeWhile Char.isDigit) := by
  refine ⟨List.cons_ne_nil _ _, fun c there => ?_⟩
  rcases List.mem_cons.mp there with rfl | later
  · exact digit
  · exact List.all_eq_true.mp List.all_takeWhile c later

/-- A whole part that is read stands at the front and has no needless zeros. -/
theorem whole_of_readWhole {text whole rest : List Char}
    (read : readWhole text = .ok (whole, rest)) :
    (whole = ['0'] ∨ IsRun whole ∧ whole.head? ≠ some '0') ∧ text = whole ++ rest := by
  unfold readWhole at read
  split at read
  · contradiction
  · split_ifs at read with zero more digit
    · obtain ⟨rfl, rfl⟩ := Prod.mk.inj (Except.ok.inj read)
      exact ⟨.inl (by rw [zero]), rfl⟩
    · obtain ⟨rfl, rfl⟩ := Prod.mk.inj (Except.ok.inj read)
      exact ⟨.inr ⟨isRun_takeWhile digit _, by simpa using zero⟩, by simp⟩

/-- A fraction that is read stands at the front and has digits. -/
theorem fraction_of_readFraction {text rest : List Char} {fraction : Option (List Char)}
    (read : readFraction text = .ok (fraction, rest)) :
    (∀ digits ∈ fraction, IsRun digits) ∧ text = fractionChars fraction ++ rest := by
  unfold readFraction at read
  split at read
  · split at read
    · contradiction
    · split_ifs at read with digit
      obtain ⟨rfl, rfl⟩ := Prod.mk.inj (Except.ok.inj read)
      refine ⟨fun digits there => ?_, by simp [fractionChars]⟩
      obtain rfl := Option.some.inj there
      rw [List.takeWhile_cons_of_pos digit]
      exact isRun_takeWhile digit _
  · obtain ⟨rfl, rfl⟩ := Prod.mk.inj (Except.ok.inj read)
    exact ⟨by simp, rfl⟩

/-- The sign of an exponent, with the letter and the digits, is one of its texts. -/
theorem exists_spellsExponent_of_readSign {letter : Char} {text digits rest : List Char}
    (isLetter : letter = 'e' ∨ letter = 'E') (split : (readSign text).2 = digits ++ rest) :
    ∃ inner, SpellsExponent (some ((readSign text).1, digits)) inner ∧
      letter :: text = inner ++ rest := by
  unfold readSign at split ⊢
  split
  · exact ⟨_, .signed isLetter false digits, by simpa using split⟩
  · exact ⟨_, .signed isLetter true digits, by simpa using split⟩
  · exact ⟨_, .unsigned isLetter digits, by simpa using split⟩

/-- An exponent that is read stands at the front and has digits. -/
theorem exponent_of_readExponent {text rest : List Char} {exponent : Option (Bool × List Char)}
    (read : readExponent text = .ok (exponent, rest)) :
    (∀ part ∈ exponent, IsRun part.2) ∧
      ∃ inner, SpellsExponent exponent inner ∧ text = inner ++ rest := by
  unfold readExponent at read
  split at read
  · obtain ⟨rfl, rfl⟩ := Prod.mk.inj (Except.ok.inj read)
    exact ⟨by simp, [], .absent, rfl⟩
  · rename_i letter after
    split_ifs at read with isLetter
    · simp only at read
      split at read
      · contradiction
      · rename_i d more signed
        split_ifs at read with digit
        obtain ⟨rfl, rfl⟩ := Prod.mk.inj (Except.ok.inj read)
        refine ⟨fun part there => ?_, exists_spellsExponent_of_readSign isLetter ?_⟩
        · obtain rfl := Option.some.inj there
          rw [signed, List.takeWhile_cons_of_pos digit]
          exact isRun_takeWhile digit _
        · exact List.takeWhile_append_dropWhile.symm
    · obtain ⟨rfl, rfl⟩ := Prod.mk.inj (Except.ok.inj read)
      exact ⟨by simp, [], .absent, rfl⟩

/-- A numeral whose stages are read after its sign is written there. -/
theorem exists_spells_of_stages {negative : Bool} {after rest : List Char} {n : Numeral}
    (read : (do
      let (whole, rest) ← readWhole after
      let (fraction, rest) ← readFraction rest
      let (exponent, rest) ← readExponent rest
      .ok (⟨negative, whole, fraction, exponent⟩, rest)) = Except.ok (n, rest)) :
    ∃ inner, n.Spells inner ∧ (if negative then ['-'] else []) ++ after = inner ++ rest := by
  obtain ⟨⟨whole, afterWhole⟩, readWhole, read⟩ := bind_eq_ok.mp read
  obtain ⟨⟨fraction, afterFraction⟩, readFraction, read⟩ := bind_eq_ok.mp read
  obtain ⟨⟨exponent, left⟩, readExponent, read⟩ := bind_eq_ok.mp read
  obtain ⟨rfl, rfl⟩ := Prod.mk.inj (Except.ok.inj read)
  obtain ⟨wholeRun, rfl⟩ := whole_of_readWhole readWhole
  obtain ⟨fractionRun, rfl⟩ := fraction_of_readFraction readFraction
  obtain ⟨exponentRun, last, spelled, rfl⟩ := exponent_of_readExponent readExponent
  exact ⟨_, ⟨⟨wholeRun, fractionRun, exponentRun⟩, last, spelled, rfl⟩, by simp⟩

/-- A numeral that is read is written at the front. -/
theorem exists_spells_of_read {text rest : List Char} {n : Numeral}
    (read : Numeral.read text = .ok (n, rest)) : ∃ inner, n.Spells inner ∧ text = inner ++ rest := by
  by_cases minus : ∃ after, text = '-' :: after
  · obtain ⟨after, rfl⟩ := minus
    rw [Numeral.read] at read
    exact exists_spells_of_stages read
  · rw [Numeral.read] at read
    · exact exists_spells_of_stages read
    · exact fun after same => minus ⟨after, same⟩

end Numeral

section Digits

/-- The digits of a natural number are a run. -/
theorem isRun_toDigits (n : Nat) : IsRun (Nat.toDigits 10 n) :=
  ⟨Nat.toDigits_ne_nil, fun _ there => Nat.isDigit_of_mem_toDigits (by decide) (by decide) there⟩

/-- The digits of a positive number do not start with a zero. -/
theorem head?_toDigits {n : Nat} (positive : 0 < n) : (Nat.toDigits 10 n).head? ≠ some '0' := by
  induction n using Nat.strongRecOn with
  | ind n ih =>
    by_cases single : n < 10
    · rw [Nat.toDigits_of_lt_base single, List.head?_cons]
      intro zero
      have none := Nat.digitChar_eq_zero.mp (Option.some.inj zero)
      omega
    · have tens : 10 ≤ n := Nat.le_of_not_lt single
      have front : 0 < n / 10 := Nat.div_pos tens (by decide)
      rw [Nat.toDigits_of_base_le (by decide) tens,
        List.head?_append_of_ne_nil _ Nat.toDigits_ne_nil]
      exact ih (n / 10) (by omega) front

/-- Digits that a run of digits goes on with are a run. -/
theorem IsRun.append {front back : List Char} (run : IsRun front)
    (all : ∀ c ∈ back, c.isDigit = true) : IsRun (front ++ back) := by
  refine ⟨List.append_ne_nil_of_left_ne_nil run.nonempty back, fun c there => ?_⟩
  rcases List.mem_append.mp there with first | second
  · exact run.all c first
  · exact all c second

/-- Zeros are digits. -/
theorem isDigit_of_mem_zeros {count : Nat} {c : Char} (there : c ∈ List.replicate count '0') :
    c.isDigit = true := by
  rw [List.eq_of_mem_replicate there]
  decide

end Digits

section Integers

/-- The numeral of an integer. -/
def integerNumeral (n : Int) : Numeral := ⟨decide (n < 0), Nat.toDigits 10 n.natAbs, none, none⟩

/-- The numeral of an integer is written as the integer. -/
theorem chars_integerNumeral (n : Int) : (integerNumeral n).chars = integerChars n := by
  by_cases negative : n < 0
  · simp [integerNumeral, integerChars, Numeral.chars, Numeral.fractionChars,
      Numeral.exponentChars, negative]
  · simp [integerNumeral, integerChars, Numeral.chars, Numeral.fractionChars,
      Numeral.exponentChars, negative]

/-- The digits of an integer are where the grammar wants them. -/
theorem wellFormed_integerNumeral (n : Int) : (integerNumeral n).WellFormed := by
  refine ⟨?_, by simp [integerNumeral], by simp [integerNumeral]⟩
  rcases Nat.eq_zero_or_pos n.natAbs with zero | positive
  · left
    rw [integerNumeral, zero]
    rfl
  · exact Or.inr ⟨isRun_toDigits _, head?_toDigits positive⟩

/-- The numeral of an integer of 64 bits has the integer as its value. -/
theorem number?_integerNumeral {n : Int} (fits : (Number.integer n).Fits) :
    (integerNumeral n).number? = some (.integer n) := by
  obtain ⟨low, high⟩ := fits
  simp only [Nat.pow_eq, Nat.cast_pow, Nat.cast_ofNat] at low high
  have digits : Nat.ofDigitChars 10 (Nat.toDigits 10 n.natAbs) 0 = n.natAbs :=
    Nat.ofDigitChars_ten_toDigits
  by_cases negative : n < 0
  · have positive : 0 < Nat.ofDigitChars 10 (Nat.toDigits 10 n.natAbs) 0 := by omega
    have bounded : Nat.ofDigitChars 10 (Nat.toDigits 10 n.natAbs) 0 ≤ 2 ^ 63 := by omega
    rw [integerNumeral, decide_eq_true negative, Numeral.number?_eq_negative positive bounded,
      digits]
    congr 2
    omega
  · have bounded : Nat.ofDigitChars 10 (Nat.toDigits 10 n.natAbs) 0 ≤
        Numeral.greatestSignificand := by
      have limit : 2 ^ 64 - 1 = Numeral.greatestSignificand := rfl
      omega
    rw [integerNumeral, decide_eq_false negative, Numeral.number?_eq_integer bounded, digits]
    congr 2
    omega

end Integers

end Concord.Json
