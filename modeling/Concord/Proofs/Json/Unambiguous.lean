import Concord.Proofs.Binary64.Neighbours
import Concord.Proofs.Json.RoundTrip

/-!
# Texts tell values apart

The text of a value, with whatever follows it, determines the value and where its text ends. The
first character tells the kind of the value. The numeral in a text is the one that is read there:
it says whether a number is an integer, and for a floating point number it denotes the shortest
decimal, which no other number has. Strings, arrays and objects end at their closing character, and
within brackets each piece is determined before the next one begins. So two values with one text
are the same value, with numbers of the same kind and zeros of the same sign.
-/

namespace Concord.Json

open Binary64 (fields_eq_of_attracts shortest_spec)

/-- Nothing else has a text that could stand where the text of this thing stands: whatever follows
the two texts, as long as a number ends there. -/
def Unambiguous {α : Type} (text : α → List Char) (x : α) : Prop :=
  ∀ ⦃y : α⦄ ⦃rest others : List Char⦄, EndsNumber rest → EndsNumber others →
    text x ++ rest = text y ++ others → x = y ∧ rest = others

section Numbers

/-- Numerals are told apart by what is read from their texts. -/
theorem Numeral.eq_of_chars_append_eq {n m : Numeral} {rest others : List Char}
    (left : n.WellFormed) (right : m.WellFormed) (ends : EndsNumber rest)
    (othersEnd : EndsNumber others) (same : n.chars ++ rest = m.chars ++ others) :
    n = m ∧ rest = others := by
  have first := left.spells_chars.read ends
  have second := right.spells_chars.read othersEnd
  rw [same, second] at first
  obtain ⟨numerals, rests⟩ := Prod.mk.inj (Except.ok.inj first)
  exact ⟨numerals.symm, rests.symm⟩

/-- The decimal of a number other than zero is attracted by the number, and not zero. -/
theorem printedValue_of_nonzero {x : Binary64} (nonzero : 0 < x.significand) :
    x.Attracts (printedValue x) ∧ 0 < printedValue x := by
  obtain ⟨s, found⟩ := Binary64.exists_shortest .toEven nonzero
  obtain ⟨some, -⟩ := shortest_spec found
  have value : printedValue x = s.value := by
    rw [printedValue, found]
  have digits : (0 : ℚ) < s.digits := by exact_mod_cast some
  rw [value]
  exact ⟨Binary64.attracts_shortest found, mul_pos digits (by positivity)⟩

/-- The decimal of zero is zero. -/
theorem printedValue_of_zero {x : Binary64} (zero : x.significand = 0) : printedValue x = 0 := by
  have none : x.shortest .toEven = none := by
    simp [Binary64.shortest, zero]
  rw [printedValue, none]

/-- Two numbers with the same sign and the same decimal are the same number. -/
theorem eq_of_printedValue_eq {x y : Binary64} (sign : x.negative = y.negative)
    (same : printedValue x = printedValue y) : x = y := by
  have fields : x.significand = y.significand ∧ x.exponent = y.exponent := by
    rcases Nat.eq_zero_or_pos x.significand with zeroX | someX <;>
      rcases Nat.eq_zero_or_pos y.significand with zeroY | someY
    · have least : x.exponent = -1074 := x.normal.resolve_right (by simp [zeroX])
      have other : y.exponent = -1074 := y.normal.resolve_right (by simp [zeroY])
      exact ⟨zeroX.trans zeroY.symm, least.trans other.symm⟩
    · have positive := (printedValue_of_nonzero someY).2
      rw [← same, printedValue_of_zero zeroX] at positive
      exact absurd positive (lt_irrefl 0)
    · have positive := (printedValue_of_nonzero someX).2
      rw [same, printedValue_of_zero zeroY] at positive
      exact absurd positive (lt_irrefl 0)
    · have right := (printedValue_of_nonzero someY).1
      exact fields_eq_of_attracts (same ▸ (printedValue_of_nonzero someX).1) right
  cases x
  cases y
  obtain ⟨rfl, rfl⟩ := fields
  obtain rfl : _ = _ := sign
  rfl

/-- The numeral is the one that is written for the number: that of an integer, or one with a point
or an exponent that has the sign of the floating point number and denotes its decimal. -/
def Numeral.Writes (n : Numeral) : Number → Prop
  | .integer k => n = integerNumeral k
  | .float x =>
    (n.fraction.isSome ∨ n.exponent.isSome) ∧ n.negative = x.negative ∧
      n.magnitude = printedValue x

/-- Every number is written as a numeral. -/
theorem exists_writes (n : Number) :
    ∃ numeral : Numeral, numeral.WellFormed ∧ numeral.chars = n.chars ∧ numeral.Writes n := by
  cases n with
  | integer k =>
    exact ⟨integerNumeral k, wellFormed_integerNumeral k, chars_integerNumeral k, rfl⟩
  | float x =>
    obtain ⟨numeral, wellFormed, text, pointed, sign, value, -⟩ := isFloatText_floatChars x
    exact ⟨numeral, wellFormed, text, pointed, sign, value⟩

/-- The numeral of an integer is that of no other integer. -/
theorem integerNumeral_injective : Function.Injective integerNumeral := by
  intro k l same
  obtain ⟨signs, digits, -, -⟩ := Numeral.mk.inj same
  have sizes : k.natAbs = l.natAbs := by
    have spelled := congrArg (Nat.ofDigitChars 10 · 0) digits
    simpa only [Nat.ofDigitChars_ten_toDigits] using spelled
  have sides : k < 0 ↔ l < 0 := decide_eq_decide.mp signs
  omega

/-- The numeral of an integer has neither a point nor an exponent, so it is written for no floating
point number. -/
theorem not_writes_float (k : Int) (x : Binary64) : ¬ (integerNumeral k).Writes (.float x) := by
  rintro ⟨pointed, -⟩
  simp [integerNumeral] at pointed

/-- A numeral is written for one number only. -/
theorem Numeral.Writes.unique {n : Numeral} {a b : Number} (left : n.Writes a)
    (right : n.Writes b) : a = b := by
  cases a with
  | integer k =>
    obtain rfl : n = integerNumeral k := left
    cases b with
    | integer l => exact congrArg Number.integer (integerNumeral_injective right)
    | float y => exact absurd right (not_writes_float k y)
  | float x =>
    cases b with
    | integer l =>
      obtain rfl : n = integerNumeral l := right
      exact absurd left (not_writes_float l x)
    | float y =>
      have sign : x.negative = y.negative := left.2.1.symm.trans right.2.1
      have value : printedValue x = printedValue y := left.2.2.symm.trans right.2.2
      exact congrArg Number.float (eq_of_printedValue_eq sign value)

/-- The text of a number tells it apart. -/
theorem Number.unambiguous (n : Number) : Unambiguous Number.chars n := by
  intro m rest others ends othersEnd same
  obtain ⟨numeral, wellFormed, text, writes⟩ := exists_writes n
  obtain ⟨other, otherFormed, otherText, otherWrites⟩ := exists_writes m
  rw [← text, ← otherText] at same
  obtain ⟨rfl, rests⟩ :=
    Numeral.eq_of_chars_append_eq wellFormed otherFormed ends othersEnd same
  exact ⟨writes.unique otherWrites, rests⟩

/-- The text of a number starts with a sign or a digit. -/
theorem Number.exists_head (n : Number) :
    ∃ c more, n.chars = c :: more ∧ (c = '-' ∨ c.isDigit = true) := by
  obtain ⟨numeral, wellFormed, text, -⟩ := exists_writes n
  obtain ⟨c, more, split, start⟩ := wellFormed.spells_chars.exists_head
  exact ⟨c, more, text ▸ split, start⟩

end Numbers

/-- The text of a string tells it apart, whatever follows. -/
theorem eq_of_stringChars_append_eq {s t : String} {rest others : List Char}
    (same : stringChars s ++ rest = stringChars t ++ others) : s = t ∧ rest = others := by
  obtain ⟨inner, left, read⟩ := exists_readString_of_spellsString (spellsString_stringChars s)
  obtain ⟨text, right, otherRead⟩ := exists_readString_of_spellsString (spellsString_stringChars t)
  rw [left, right, List.cons_append, List.cons_append] at same
  have first := read rest
  rw [(List.cons.inj same).2, otherRead others] at first
  obtain ⟨strings, rests⟩ := Prod.mk.inj (Except.ok.inj first)
  exact ⟨strings.symm, rests.symm⟩

section Brackets

variable {layout : Layout} {depth outer : Nat} {opening closing : Char} {α : Type}
  {text : α → List Char}

/-- What may close brackets: no blank, no comma, and nothing that a number goes on with. -/
structure IsClosing (closing : Char) : Prop where
  /-- It is seen. -/
  visible : isBlank closing = false
  /-- It separates no pieces. -/
  notComma : closing ≠ ','
  /-- A number ends in front of it. -/
  ends : continuesNumber closing = false

/-- A piece starts with a character that is neither blank nor closes the brackets. -/
def StartsPiece (closing : Char) (piece : List Char) : Prop :=
  ∃ c more, piece = c :: more ∧ isBlank c = false ∧ c ≠ closing

/-- Where blanks and the closing character stand, no other character that is not blank stands. -/
theorem blanks_closing_ne {blanks rest others : List Char} {c : Char}
    (all : ∀ c ∈ blanks, isBlank c = true) (visible : isBlank c = false)
    (other : c ≠ closing) : blanks ++ closing :: rest ≠ c :: others := by
  intro same
  cases blanks with
  | nil => exact other (List.cons.inj same).1.symm
  | cons blank blanks =>
    have shown := all blank List.mem_cons_self
    rw [(List.cons.inj same).1, visible] at shown
    contradiction

/-- Further pieces are told apart, one after the other, up to the closing character. -/
theorem eq_of_more_append_eq (blank : layout.IsBlank) (isClosing : IsClosing closing)
    {xs ys : List α} (each : ∀ x ∈ xs, Unambiguous text x) {rest others : List Char}
    (same : layout.more depth (xs.map text) ++ (layout.lineBreak outer ++ closing :: rest) =
      layout.more depth (ys.map text) ++ (layout.lineBreak outer ++ closing :: others)) :
    xs = ys ∧ rest = others := by
  have notComma {rest others : List Char} :
      layout.lineBreak outer ++ closing :: rest ≠ ',' :: others :=
    blanks_closing_ne (blank.lineBreak outer) (by decide) isClosing.notComma.symm
  induction xs generalizing ys with
  | nil =>
    cases ys with
    | nil => exact ⟨rfl, (List.cons.inj (List.append_cancel_left same)).2⟩
    | cons y ys => exact absurd same notComma
  | cons x xs ih =>
    cases ys with
    | nil => exact absurd same.symm notComma
    | cons y ys =>
      have pieces : text x ++ (layout.more depth (xs.map text) ++
            (layout.lineBreak outer ++ closing :: rest)) =
          text y ++ (layout.more depth (ys.map text) ++
            (layout.lineBreak outer ++ closing :: others)) := by
        simpa [Layout.more] using same
      obtain ⟨rfl, left⟩ := each x List.mem_cons_self
        (blank.endsNumber depth outer _ closing isClosing.ends rest)
        (blank.endsNumber depth outer _ closing isClosing.ends others) pieces
      obtain ⟨rfl, rests⟩ := ih (fun z there => each z (List.mem_cons_of_mem x there)) left
      exact ⟨rfl, rests⟩

/-- Pieces between brackets are told apart. -/
theorem eq_of_enclose_append_eq (blank : layout.IsBlank) (isClosing : IsClosing closing)
    (starts : ∀ x, StartsPiece closing (text x)) {xs ys : List α}
    (each : ∀ x ∈ xs, Unambiguous text x) {rest others : List Char}
    (same : layout.enclose depth opening closing (xs.map text) ++ rest =
      layout.enclose depth opening closing (ys.map text) ++ others) :
    xs = ys ∧ rest = others := by
  -- The closing character cannot stand where the first piece starts, after its line break.
  have notFirst {rest others : List Char} (x : α) :
      closing :: rest ≠ layout.lineBreak (depth + 1) ++ (text x ++ others) := by
    obtain ⟨c, more, start, visible, other⟩ := starts x
    rw [start, List.cons_append]
    exact (blanks_closing_ne (blank.lineBreak (depth + 1)) isClosing.visible other.symm).symm
  cases xs with
  | nil =>
    cases ys with
    | nil => exact ⟨rfl, List.append_cancel_left same⟩
    | cons y ys =>
      rw [List.map_cons, Layout.enclose_cons_append] at same
      exact absurd (List.cons.inj same).2 (notFirst y)
  | cons x xs =>
    cases ys with
    | nil =>
      rw [List.map_cons, Layout.enclose_cons_append] at same
      exact absurd (List.cons.inj same).2.symm (notFirst x)
    | cons y ys =>
      rw [List.map_cons, List.map_cons, Layout.enclose_cons_append,
        Layout.enclose_cons_append] at same
      have pieces := List.append_cancel_left (List.cons.inj same).2
      obtain ⟨rfl, left⟩ := each x List.mem_cons_self
        (blank.endsNumber (depth + 1) depth _ closing isClosing.ends rest)
        (blank.endsNumber (depth + 1) depth _ closing isClosing.ends others) pieces
      obtain ⟨rfl, rests⟩ := eq_of_more_append_eq blank isClosing
        (fun z there => each z (List.mem_cons_of_mem x there)) left
      exact ⟨rfl, rests⟩

end Brackets

section Values

/-- What a value is, apart from its parts. -/
inductive Kind where
  | null
  | bool (value : Bool)
  | number
  | string
  | array
  | object
deriving DecidableEq

/-- What a value is. -/
def Value.kind : Value → Kind
  | .null => .null
  | .bool b => .bool b
  | .number _ => .number
  | .string _ => .string
  | .array _ => .array
  | .object _ => .object

/-- What a value is whose text starts with the character. -/
def kindOf (c : Char) : Kind :=
  if c = 'n' then .null
  else if c = 't' then .bool true
  else if c = 'f' then .bool false
  else if c = '"' then .string
  else if c = '[' then .array
  else if c = '\x7b' then .object
  else .number

variable {layout : Layout} {depth : Nat}

/-- The text of a value starts with the character of its kind. -/
theorem Value.exists_head (layout : Layout) (depth : Nat) (value : Value) :
    ∃ c more, value.chars layout depth = c :: more ∧ isBlank c = false ∧ c ≠ ']' ∧
      kindOf c = value.kind := by
  cases value with
  | null => exact ⟨'n', _, rfl, by decide, by decide, by decide⟩
  | bool b =>
    cases b with
    | true => exact ⟨'t', _, rfl, by decide, by decide, by decide⟩
    | false => exact ⟨'f', _, rfl, by decide, by decide, by decide⟩
  | number n =>
    obtain ⟨c, more, split, start⟩ := n.exists_head
    obtain ⟨visible, notClosing, notNull, notTrue, notFalse, notString, notArray, notObject⟩ :=
      digit_ne start
    refine ⟨c, more, split, visible, notClosing, ?_⟩
    simp [kindOf, Value.kind, notNull, notTrue, notFalse, notString, notArray, notObject]
  | string s => exact ⟨'"', _, rfl, by decide, by decide, rfl⟩
  | array items =>
    obtain ⟨more, split⟩ := layout.exists_enclose depth '[' ']' (itemPieces layout (depth + 1) items)
    exact ⟨'[', more, split, by decide, by decide, rfl⟩
  | object members =>
    obtain ⟨more, split⟩ :=
      layout.exists_enclose depth '\x7b' '\x7d' (memberPieces layout (depth + 1) members)
    exact ⟨'\x7b', more, split, by decide, by decide, rfl⟩

/-- Two values whose texts begin alike are of one kind. -/
theorem kind_eq_of_append_eq {v w : Value} {rest others : List Char}
    (same : v.chars layout depth ++ rest = w.chars layout depth ++ others) : v.kind = w.kind := by
  obtain ⟨c, more, left, -, -, kind⟩ := v.exists_head layout depth
  obtain ⟨d, text, right, -, -, otherKind⟩ := w.exists_head layout depth
  rw [left, right, List.cons_append, List.cons_append] at same
  rw [← kind, ← otherKind, (List.cons.inj same).1]

/-- The text of a member tells it apart when that of its value does. -/
theorem unambiguous_memberPiece {member : String × Value}
    (value : Unambiguous (Value.chars layout depth) member.2) :
    Unambiguous (memberPiece layout depth) member := by
  intro other rest others ends othersEnd same
  simp only [memberPiece, List.append_assoc] at same
  obtain ⟨keys, after⟩ := eq_of_stringChars_append_eq same
  obtain ⟨values, rests⟩ := value ends othersEnd (List.append_cancel_left after)
  exact ⟨Prod.ext keys values, rests⟩

/-- The text of an array tells it apart when those of its items do. -/
theorem unambiguous_array (blank : layout.IsBlank) {items : List Value}
    (each : ∀ item ∈ items, Unambiguous (Value.chars layout (depth + 1)) item) :
    Unambiguous (Value.chars layout depth) (.array items) := by
  intro w rest others _ _ same
  have kinds := kind_eq_of_append_eq same
  cases w with
  | array more =>
    rw [Value.chars, Value.chars, itemPieces_eq_map, itemPieces_eq_map] at same
    have starts (item : Value) : StartsPiece ']' (item.chars layout (depth + 1)) := by
      obtain ⟨c, more, start, visible, notClosing, -⟩ := item.exists_head layout (depth + 1)
      exact ⟨c, more, start, visible, notClosing⟩
    obtain ⟨rfl, rests⟩ :=
      eq_of_enclose_append_eq blank ⟨by decide, by decide, by decide⟩ starts each same
    exact ⟨rfl, rests⟩
  | _ => contradiction

/-- The text of an object tells it apart when those of the values of its members do. -/
theorem unambiguous_object (blank : layout.IsBlank) {members : Members}
    (each : ∀ member ∈ members, Unambiguous (Value.chars layout (depth + 1)) member.2) :
    Unambiguous (Value.chars layout depth) (.object members) := by
  intro w rest others _ _ same
  have kinds := kind_eq_of_append_eq same
  cases w with
  | object more =>
    rw [Value.chars, Value.chars, memberPieces_eq_map, memberPieces_eq_map] at same
    have starts (member : String × Value) :
        StartsPiece '\x7d' (memberPiece layout (depth + 1) member) :=
      ⟨'"', _, rfl, by decide, by decide⟩
    obtain ⟨rfl, rests⟩ := eq_of_enclose_append_eq blank ⟨by decide, by decide, by decide⟩ starts
      (fun member there => unambiguous_memberPiece (each member there)) same
    exact ⟨rfl, rests⟩
  | _ => contradiction

mutual

/-- The text of a value tells it apart. -/
theorem Value.unambiguous (blank : layout.IsBlank) : ∀ (value : Value) (depth : Nat),
    Unambiguous (Value.chars layout depth) value
  | .null, depth => by
    intro w rest others _ _ same
    have kinds := kind_eq_of_append_eq same
    cases w with
    | null => exact ⟨rfl, List.append_cancel_left same⟩
    | _ => contradiction
  | .bool b, depth => by
    intro w rest others _ _ same
    have kinds := kind_eq_of_append_eq same
    cases w with
    | bool c =>
      obtain rfl := Kind.bool.inj kinds
      exact ⟨rfl, List.append_cancel_left same⟩
    | _ => contradiction
  | .number n, depth => by
    intro w rest others ends othersEnd same
    have kinds := kind_eq_of_append_eq same
    cases w with
    | number m =>
      obtain ⟨rfl, rests⟩ := n.unambiguous ends othersEnd same
      exact ⟨rfl, rests⟩
    | _ => contradiction
  | .string s, depth => by
    intro w rest others _ _ same
    have kinds := kind_eq_of_append_eq same
    cases w with
    | string t =>
      obtain ⟨rfl, rests⟩ := eq_of_stringChars_append_eq same
      exact ⟨rfl, rests⟩
    | _ => contradiction
  | .array items, depth => unambiguous_array blank (items_unambiguous blank items (depth + 1))
  | .object members, depth =>
    unambiguous_object blank (members_unambiguous blank members (depth + 1))

/-- The texts of items tell them apart. -/
theorem items_unambiguous (blank : layout.IsBlank) : ∀ (items : List Value) (depth : Nat),
    ∀ item ∈ items, Unambiguous (Value.chars layout depth) item
  | [], _, _, there => by contradiction
  | first :: rest, depth, item, there => by
    rcases List.mem_cons.mp there with same | later
    · rw [same]
      exact Value.unambiguous blank first depth
    · exact items_unambiguous blank rest depth item later

/-- The texts of the values of members tell them apart. -/
theorem members_unambiguous (blank : layout.IsBlank) :
    ∀ (members : List (String × Value)) (depth : Nat),
      ∀ member ∈ members, Unambiguous (Value.chars layout depth) member.2
  | [], _, _, there => by contradiction
  | (key, value) :: rest, depth, member, there => by
    rcases List.mem_cons.mp there with same | later
    · rw [same]
      exact Value.unambiguous blank value depth
    · exact members_unambiguous blank rest depth member later

end

/-- In one layout and at one depth different values have different texts. -/
theorem Value.chars_injective (blank : layout.IsBlank) (depth : Nat) :
    Function.Injective (Value.chars layout depth) := by
  intro v w same
  have whole : v.chars layout depth ++ [] = w.chars layout depth ++ [] := by rw [same]
  exact (v.unambiguous blank depth endsNumber_nil endsNumber_nil whole).1

/-- Different values have different texts on one line. -/
theorem Value.compact_injective : Function.Injective Value.compact := by
  intro v w same
  exact chars_injective Layout.isBlank_compact 0 (String.ofList_injective same)

end Values

end Concord.Json
