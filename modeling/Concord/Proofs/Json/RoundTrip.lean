import Concord.Proofs.Json.FloatText
import Concord.Proofs.Json.LayoutText
import Concord.Proofs.Json.Source

/-!
# Printed values are read back

`Value.Fits` says what a value must be for its text to be read at all: its integers fit 64 bits, no
object has a key twice, and it is not nested too deeply. The text of such a value is read as the
value again (`Value.RereadsAs`): nothing changes but the order of members, which becomes that of
their keys, and floating point numbers, each of which becomes the floating point number that is read
for its text.
-/

namespace Concord.Json

/-- The value can be written and read: its integers fit 64 bits, its arrays are shorter than the
greatest size, the keys of its objects are distinct, and it is nested at most so deeply. -/
def Value.Fits : (levels : Nat) → Value → Prop
  | _, .number n => n.Fits
  | levels + 1, .array items => items.length < 2 ^ 64 ∧ ∀ item ∈ items, item.Fits levels
  | levels + 1, .object members =>
    (members.map Prod.fst).Nodup ∧ ∀ member ∈ members, member.2.Fits levels
  | 0, .array _ => False
  | 0, .object _ => False
  | _, _ => True

/-- A value that fits does so with more levels. -/
theorem Value.Fits.mono {value : Value} {levels more : Nat} (fits : value.Fits levels)
    (least : levels ≤ more) : value.Fits more := by
  induction levels generalizing value more with
  | zero =>
    cases value with
    | array items => exact fits.elim
    | object members => exact fits.elim
    | _ => cases more <;> exact fits
  | succ levels ih =>
    obtain ⟨more, rfl⟩ := Nat.exists_eq_succ_of_ne_zero (Nat.ne_of_gt (Nat.zero_lt_of_lt least))
    cases value with
    | array items =>
      exact ⟨fits.1, fun item there => ih (fits.2 item there) (Nat.le_of_succ_le_succ least)⟩
    | object members =>
      exact ⟨fits.1, fun member there => ih (fits.2 member there) (Nat.le_of_succ_le_succ least)⟩
    | _ => exact fits

/-- A value that fits without any levels, so one without parts, fits at every level. -/
theorem Value.Fits.of_scalar {value : Value} (scalar : value.Fits 0) (levels : Nat) :
    value.Fits levels :=
  scalar.mono (Nat.zero_le levels)

/-- The second value is the first one after writing and reading: the same words, strings and
integers, for each floating point number the one that is read for its text, the same items, and the
same members in increasing order of keys. -/
inductive Value.RereadsAs : Value → Value → Prop
  | null : RereadsAs .null .null
  | bool (b : Bool) : RereadsAs (.bool b) (.bool b)
  | integer (n : Int) : RereadsAs (.number (.integer n)) (.number (.integer n))
  | float {x y : Binary64}
      (reread : Value.parse (String.ofList (floatChars x)) = .ok (.number (.float y))) :
      RereadsAs (.number (.float x)) (.number (.float y))
  | string (s : String) : RereadsAs (.string s) (.string s)
  | array {items others : List Value} (each : List.Forall₂ RereadsAs items others) :
      RereadsAs (.array items) (.array others)
  | object {members others ordered : Members}
      (keys : members.map Prod.fst = others.map Prod.fst)
      (values : List.Forall₂ RereadsAs (members.map Prod.snd) (others.map Prod.snd))
      (same : ordered.Perm others) (increase : KeysIncrease ordered) :
      RereadsAs (.object members) (.object ordered)

/-- An array is read as an array, item by item. -/
theorem Value.RereadsAs.of_array {items : List Value} {other : Value}
    (reread : (Value.array items).RereadsAs other) :
    ∃ others, other = .array others ∧ List.Forall₂ RereadsAs items others := by
  cases reread with
  | array each => exact ⟨_, rfl, each⟩

/-- The member that stands beside a given one in two lists with the same keys. -/
theorem exists_beside {members others : Members}
    (keys : members.map Prod.fst = others.map Prod.fst)
    (values : List.Forall₂ Value.RereadsAs (members.map Prod.snd) (others.map Prod.snd))
    {key : String} {value : Value} (there : (key, value) ∈ members) :
    ∃ found, (key, found) ∈ others ∧ value.RereadsAs found := by
  induction members generalizing others with
  | nil => contradiction
  | cons member rest ih =>
    cases others with
    | nil => contradiction
    | cons other more =>
      obtain ⟨sameKey, keys⟩ := List.cons.inj keys
      obtain ⟨first, values⟩ := List.forall₂_cons.mp values
      rcases List.mem_cons.mp there with rfl | later
      · exact ⟨other.2, List.mem_cons.mpr (.inl (Prod.ext sameKey rfl)), first⟩
      · obtain ⟨found, inside, reread⟩ := ih keys values later
        exact ⟨found, List.mem_cons_of_mem other inside, reread⟩

/-- An object is read as an object that has the same keys, and under each of them the value as it is
read. -/
theorem Value.RereadsAs.of_object {members : Members} {other : Value}
    (reread : (Value.object members).RereadsAs other) :
    ∃ ordered, other = .object ordered ∧ (ordered.map Prod.fst).Perm (members.map Prod.fst) ∧
      ∀ key value, (key, value) ∈ members →
        ∃ found, find? key ordered = some found ∧ value.RereadsAs found := by
  cases reread with
  | @object _ others ordered keys values same increase =>
    refine ⟨ordered, rfl, ?_, fun key value there => ?_⟩
    · rw [keys]
      exact same.map Prod.fst
    · obtain ⟨found, beside, reread⟩ := exists_beside keys values there
      exact ⟨found, find?_eq_some_of_mem increase.nodup (same.mem_iff.mpr beside), reread⟩

section Pieces

/-- The pieces of an array are the texts of its items. -/
theorem itemPieces_eq_map (layout : Layout) (depth : Nat) (items : List Value) :
    itemPieces layout depth items = items.map (Value.chars layout depth) := by
  induction items with
  | nil => rfl
  | cons item rest ih => rw [itemPieces, ih, List.map_cons]

/-- A member as it is written. -/
def memberPiece (layout : Layout) (depth : Nat) (member : String × Value) : List Char :=
  stringChars member.1 ++ layout.colon ++ member.2.chars layout depth

/-- The pieces of an object are the texts of its members. -/
theorem memberPieces_eq_map (layout : Layout) (depth : Nat) (members : Members) :
    memberPieces layout depth members = members.map (memberPiece layout depth) := by
  induction members with
  | nil => rfl
  | cons member rest ih =>
    obtain ⟨key, value⟩ := member
    rw [memberPieces, ih, List.map_cons]
    rfl

/-- When each of several things has a counterpart there is a list of counterparts. -/
theorem exists_forall₂ {α β : Type} {related : α → β → Prop} {xs : List α}
    (each : ∀ x ∈ xs, ∃ y, related x y) : ∃ ys, List.Forall₂ related xs ys := by
  induction xs with
  | nil => exact ⟨[], .nil⟩
  | cons x rest ih =>
    obtain ⟨y, first⟩ := each x List.mem_cons_self
    obtain ⟨ys, others⟩ := ih fun z there => each z (List.mem_cons_of_mem x there)
    exact ⟨y :: ys, .cons first others⟩

end Pieces

section Reading

variable {size levels : Nat}

/-- A value is read after blanks as without them. -/
theorem readValue_blanks {blanks : List Char} (all : ∀ c ∈ blanks, isBlank c = true)
    (text : List Char) : readValue size levels (blanks ++ text) = readValue size levels text := by
  conv_lhs => rw [readValue, skipBlanks_append all]
  conv_rhs => rw [readValue]

/-- A digit starts no word, string, array or object. -/
theorem digit_ne {c : Char} (start : c = '-' ∨ c.isDigit = true) :
    isBlank c = false ∧ c ≠ ']' ∧ c ≠ 'n' ∧ c ≠ 't' ∧ c ≠ 'f' ∧ c ≠ '"' ∧ c ≠ '[' ∧ c ≠ '\x7b' := by
  rcases start with rfl | digit
  · decide
  · refine ⟨?_, ?_, ?_, ?_, ?_, ?_, ?_, ?_⟩
    · by_contra blank
      have other := continuesNumber_of_isBlank (Bool.eq_true_of_not_eq_false blank)
      simp [continuesNumber, digit] at other
    all_goals
      rintro rfl
      contradiction

/-- A text of a numeral is read as its value. -/
theorem isItemText_numeral (size levels : Nat) {n : Numeral} {text : List Char} {value : Number}
    (spelled : n.Spells text) (valued : n.number? = some value) :
    IsItemText (readValue size levels) text (.number ⟨n, value, valued⟩) := by
  obtain ⟨c, more, split, start⟩ := spelled.exists_head
  obtain ⟨visible, notClosing, notNull, notTrue, notFalse, notString, notArray, notObject⟩ :=
    digit_ne start
  refine ⟨⟨c, more, split, visible, notClosing⟩, fun rest ends => ?_⟩
  have numeral := spelled.read ends
  have number : readNumber (text ++ rest) = .ok (⟨n, value, valued⟩, rest) := by
    simp only [readNumber, numeral, bind, Except.bind]
    split
    · rename_i other found
      obtain rfl : value = other := Option.some.inj (valued.symm.trans found)
      rfl
    · rename_i absent
      rw [valued] at absent
      contradiction
  have sign : (c = '-' || c.isDigit) = true := by
    rcases start with rfl | digit
    · rfl
    · rw [digit, Bool.or_true]
  rw [split, List.cons_append] at number ⊢
  rw [readValue, skipBlanks_cons visible]
  simp only [sign, number, bind, Except.bind, if_true]

/-- A word is read back. -/
theorem readWord_append (word rest : List Char) : readWord word (word ++ rest) = .ok rest := by
  induction word with
  | nil => rfl
  | cons w word ih => rw [List.cons_append, readWord, if_pos rfl, ih]

/-- The text of a word that starts with a letter is read as what the word stands for. -/
theorem isItemText_word {c : Char} {word : List Char} {source : Source} (visible : isBlank c = false)
    (notClosing : c ≠ ']')
    (read : ∀ rest, readWord word (word ++ rest) = .ok rest →
      readValue size levels (c :: (word ++ rest)) = .ok (source, rest)) :
    IsItemText (readValue size levels) (c :: word) source :=
  ⟨⟨c, word, rfl, visible, notClosing⟩, fun rest _ => read rest (readWord_append word rest)⟩

/-- The word `null` is read as itself. -/
theorem isItemText_null : IsItemText (readValue size levels) ['n', 'u', 'l', 'l'] .null := by
  refine isItemText_word (by decide) (by decide) fun rest word => ?_
  rw [readValue, skipBlanks_cons (by decide)]
  simp only [word, bind, Except.bind]

/-- The words `true` and `false` are read as what they say. -/
theorem isItemText_bool (b : Bool) : IsItemText (readValue size levels)
    (if b then ['t', 'r', 'u', 'e'] else ['f', 'a', 'l', 's', 'e']) (.bool b) := by
  cases b with
  | true =>
    refine isItemText_word (by decide) (by decide) fun rest word => ?_
    rw [readValue, skipBlanks_cons (by decide)]
    simp only [word, bind, Except.bind]
  | false =>
    refine isItemText_word (by decide) (by decide) fun rest word => ?_
    rw [readValue, skipBlanks_cons (by decide)]
    simp only [word, bind, Except.bind]

/-- A text of a string is read as the string. -/
theorem isItemText_string {s : String} {text : List Char} (spelled : SpellsString s text) :
    IsItemText (readValue size levels) text (.string s) := by
  obtain ⟨inner, rfl, read⟩ := exists_readString_of_spellsString spelled
  refine ⟨⟨'"', inner, rfl, by decide, by decide⟩, fun rest _ => ?_⟩
  rw [List.cons_append, readValue, skipBlanks_cons (by decide)]
  simp only [read, bind, Except.bind]

/-- The text of a member is read as the member when that of its value is read as its value. -/
theorem isMemberText_memberPiece {layout : Layout} (blank : layout.IsBlank) {depth : Nat}
    {member : String × Value} {source : Source}
    (value : IsItemText (readValue size levels) (member.2.chars layout depth) source) :
    IsMemberText (readValue size levels) (memberPiece layout depth member) (member.1, source) := by
  obtain ⟨blanks, colon, all⟩ := blank.colon
  obtain ⟨inner, quoted, key⟩ :=
    exists_readString_of_spellsString (spellsString_stringChars member.1)
  refine ⟨inner ++ (layout.colon ++ member.2.chars layout depth), by simp [memberPiece, quoted],
    fun rest ends => ?_⟩
  have item : readMemberValue (readValue size levels)
      (layout.colon ++ (member.2.chars layout depth ++ rest)) = .ok (source, rest) := by
    rw [colon, readMemberValue, List.cons_append, skipBlanks_cons (by decide)]
    simp only [readValue_blanks all, value.read rest ends]
  simp only [readMember, List.append_assoc, key, item, bind, Except.bind]

/-- A whole text that is read as an item is parsed as it. -/
theorem parse_of_isItemText {text : List Char} {source : Source}
    (whole : IsItemText (readValue text.length nestingLimit) text source) :
    Source.parse (String.ofList text) = .ok source := by
  have read := whole.read [] endsNumber_nil
  rw [List.append_nil] at read
  have complete : readText text = .ok source := by
    simp only [readText, read, bind, Except.bind]
    rfl
  rw [parse_ofList, complete]
  rfl

/-- A floating point number is read back as the one that is read for its text. -/
theorem exists_float_itemText (x : Binary64) :
    ∃ source : Source, (∀ size levels, IsItemText (readValue size levels) (floatChars x) source) ∧
      (Value.number (.float x)).RereadsAs source.value := by
  obtain ⟨n, wellFormed, text, -, -, -, y, valued⟩ := isFloatText_floatChars x
  have item (size levels : Nat) := isItemText_numeral size levels wellFormed.spells_chars valued
  rw [text] at item
  refine ⟨_, item, .float ?_⟩
  rw [Value.parse, parse_of_isItemText (item _ _)]
  rfl

/-- The text of a number is read as the number, a floating point number as the one that is read for
its text. -/
theorem exists_number_itemText {n : Number} (fits : n.Fits) :
    ∃ source : Source, IsItemText (readValue size levels) n.chars source ∧
      (Value.number n).RereadsAs source.value := by
  cases n with
  | integer n =>
    have item := isItemText_numeral size levels
      (wellFormed_integerNumeral n).spells_chars (number?_integerNumeral fits)
    rw [chars_integerNumeral] at item
    exact ⟨_, item, .integer n⟩
  | float x =>
    obtain ⟨source, item, reread⟩ := exists_float_itemText x
    exact ⟨source, item size levels, reread⟩

/-- A value that is neither an array nor an object fits at every level, and its text is read as the
value. -/
theorem exists_scalar_itemText {value : Value} (fits : value.Fits 0) (layout : Layout)
    (depth : Nat) :
    ∃ source : Source, IsItemText (readValue size levels) (value.chars layout depth) source ∧
      value.RereadsAs source.value := by
  cases value with
  | null => exact ⟨.null, isItemText_null, .null⟩
  | bool b =>
    cases b with
    | true => exact ⟨.bool true, isItemText_bool true, .bool true⟩
    | false => exact ⟨.bool false, isItemText_bool false, .bool false⟩
  | number n => exact exists_number_itemText fits
  | string s => exact ⟨.string s, isItemText_string (spellsString_stringChars s), .string s⟩
  | array items => exact fits.elim
  | object members => exact fits.elim

/-- The text of an array is read as the array when the texts of its items are read as the items. -/
theorem exists_array_itemText {layout : Layout} (blank : layout.IsBlank) (depth : Nat)
    {items : List Value} (room : ((Value.array items).chars layout depth).length ≤ size)
    (each : ∀ item ∈ items, ∃ source : Source,
      IsItemText (readValue size levels) (item.chars layout (depth + 1)) source ∧
        item.RereadsAs source.value) :
    ∃ source : Source,
      IsItemText (readValue size (levels + 1)) ((Value.array items).chars layout depth) source ∧
        (Value.array items).RereadsAs source.value := by
  rw [Value.chars, itemPieces_eq_map] at room ⊢
  obtain ⟨sources, all⟩ := exists_forall₂ each
  have pieces : List.Forall₂ (IsItemText (readValue size levels))
      (items.map (Value.chars layout (depth + 1))) sources :=
    List.forall₂_map_left_iff.mpr (all.imp fun _ _ both => both.1)
  have rereads : List.Forall₂ Value.RereadsAs items (sources.map Source.value) :=
    List.forall₂_map_right_iff.mpr (all.imp fun _ _ both => both.2)
  have enough := (layout.length_le_length_enclose depth '[' ']' _).trans room
  refine ⟨.array sources, ⟨?_, fun rest _ => readValue_enclose_items blank pieces enough rest⟩, ?_⟩
  · obtain ⟨more, start⟩ := layout.exists_enclose depth '[' ']' _
    exact ⟨'[', more, start, by decide, by decide⟩
  · rw [Source.value, itemValues_eq_map]
    exact .array rereads

/-- The text of an object with distinct keys is read as the object when the texts of its members are
read as the members. -/
theorem exists_object_itemText {layout : Layout} (blank : layout.IsBlank) (depth : Nat)
    {members : Members} (distinct : (members.map Prod.fst).Nodup)
    (room : ((Value.object members).chars layout depth).length ≤ size)
    (each : ∀ member ∈ members, ∃ source : Source,
      IsItemText (readValue size levels) (member.2.chars layout (depth + 1)) source ∧
        member.2.RereadsAs source.value) :
    ∃ source : Source,
      IsItemText (readValue size (levels + 1)) ((Value.object members).chars layout depth) source ∧
        (Value.object members).RereadsAs source.value := by
  rw [Value.chars, memberPieces_eq_map] at room ⊢
  have named : ∀ member ∈ members, ∃ read : String × Source,
      IsMemberText (readValue size levels) (memberPiece layout (depth + 1) member) read ∧
        member.1 = read.1 ∧ member.2.RereadsAs read.2.value := by
    intro member there
    obtain ⟨source, item, reread⟩ := each member there
    exact ⟨(member.1, source), isMemberText_memberPiece blank item, rfl, reread⟩
  obtain ⟨read, all⟩ := exists_forall₂ named
  have pieces : List.Forall₂ (IsMemberText (readValue size levels))
      (members.map (memberPiece layout (depth + 1))) read :=
    List.forall₂_map_left_iff.mpr (all.imp fun _ _ both => both.1)
  let others := read.map fun member => (member.1, member.2.value)
  have keys : members.map Prod.fst = others.map Prod.fst := by
    have same : List.Forall₂ (· = ·) (members.map Prod.fst) (read.map Prod.fst) :=
      List.forall₂_map_left_iff.mpr
        (List.forall₂_map_right_iff.mpr (all.imp fun _ _ both => both.2.1))
    rw [List.forall₂_eq_eq_eq] at same
    rw [same, List.map_map]
    rfl
  have values : List.Forall₂ Value.RereadsAs (members.map Prod.snd) (others.map Prod.snd) := by
    rw [List.map_map, List.forall₂_map_left_iff, List.forall₂_map_right_iff]
    exact all.imp fun _ _ both => both.2.2
  have enough := (layout.length_le_length_enclose depth '\x7b' '\x7d' _).trans room
  refine ⟨.object read, ⟨?_, fun rest _ => readValue_enclose_members blank pieces enough rest⟩, ?_⟩
  · obtain ⟨more, start⟩ := layout.exists_enclose depth '\x7b' '\x7d' _
    exact ⟨'\x7b', more, start, by decide, by decide⟩
  · rw [Source.value, memberValues_eq_map]
    exact .object keys values (sortMembers_perm (keys ▸ distinct)) (keysIncrease_sortMembers others)

end Reading

section Room

/-- The text of an item is no longer than that of its array. -/
theorem length_chars_item_le (layout : Layout) (depth : Nat) {items : List Value} {item : Value}
    (there : item ∈ items) :
    (item.chars layout (depth + 1)).length ≤ ((Value.array items).chars layout depth).length := by
  rw [Value.chars, itemPieces_eq_map]
  exact layout.length_piece_le depth '[' ']'
    (List.mem_map_of_mem (f := Value.chars layout (depth + 1)) there)

/-- The text of the value of a member is no longer than that of its object. -/
theorem length_chars_member_le (layout : Layout) (depth : Nat) {members : Members}
    {member : String × Value} (there : member ∈ members) :
    (member.2.chars layout (depth + 1)).length ≤
      ((Value.object members).chars layout depth).length := by
  rw [Value.chars, memberPieces_eq_map]
  have inside := layout.length_piece_le depth '\x7b' '\x7d'
    (List.mem_map_of_mem (f := memberPiece layout (depth + 1)) there)
  rw [memberPiece, List.length_append] at inside
  omega

end Room

/-- The text of a value that can be written and read is read as the value. -/
theorem exists_itemText {layout : Layout} (blank : layout.IsBlank) {size levels : Nat}
    {value : Value} (fits : value.Fits levels) (depth : Nat)
    (room : (value.chars layout depth).length ≤ size) :
    ∃ source : Source, IsItemText (readValue size levels) (value.chars layout depth) source ∧
      value.RereadsAs source.value := by
  induction levels generalizing value depth with
  | zero => exact exists_scalar_itemText fits layout depth
  | succ levels ih =>
    cases value with
    | null =>
      have scalar : Value.null.Fits 0 := trivial
      exact exists_scalar_itemText scalar layout depth
    | bool b =>
      have scalar : (Value.bool b).Fits 0 := trivial
      exact exists_scalar_itemText scalar layout depth
    | number n =>
      have scalar : (Value.number n).Fits 0 := fits
      exact exists_scalar_itemText scalar layout depth
    | string s =>
      have scalar : (Value.string s).Fits 0 := trivial
      exact exists_scalar_itemText scalar layout depth
    | array items =>
      apply exists_array_itemText blank depth room
      intro item there
      have shorter := length_chars_item_le layout depth there
      exact ih (fits.2 item there) (depth + 1) (shorter.trans room)
    | object members =>
      apply exists_object_itemText blank depth fits.1 room
      intro member there
      have shorter := length_chars_member_le layout depth there
      exact ih (fits.2 member there) (depth + 1) (shorter.trans room)

/-- The readable text of a value that can be written and read is parsed as the value. -/
theorem exists_parse_pretty {value : Value} (fits : value.Fits nestingLimit) :
    ∃ other, Value.parse value.pretty = .ok other ∧ value.RereadsAs other := by
  obtain ⟨source, item, reread⟩ :=
    exists_itemText Layout.isBlank_pretty fits 0 (Nat.le_refl (value.chars .pretty 0).length)
  refine ⟨source.value, ?_, reread⟩
  rw [Value.pretty, Value.parse, parse_of_isItemText item]
  rfl

end Concord.Json
