import Concord.Json.Reader
import Concord.Proofs.Fallible

/-!
# What the reader has done

When the reader succeeds, its parts have been read one by one. Each relation here says what reading a
text to its end took, without the failures that did not happen: `ValueRead` for one step into a
value, `ListRead` for the entries between brackets. Items and members are entries of lists that
differ only in their brackets and in how one entry is read (`ItemRead`, `MemberRead`), so what holds
of lists is stated once for both.
-/

namespace Concord.Json

section Lists

variable {α : Type}

/-- How further entries of a list are read from a text up to a closing bracket; the fuel bounds their
number. -/
inductive MoreRead (entry : List Char → α → List Char → Prop) (closing : Char) :
    (fuel : Nat) → List Char → List α → List Char → Prop
  | done {fuel : Nat} {text rest : List Char} (closed : skipBlanks text = closing :: rest) :
    MoreRead entry closing (fuel + 1) text [] rest
  | next {fuel : Nat} {text after left rest : List Char} {e : α} {entries : List α}
    (comma : skipBlanks text = ',' :: after) (first : entry after e left)
    (more : MoreRead entry closing fuel left entries rest) :
    MoreRead entry closing (fuel + 1) text (e :: entries) rest

/-- How the entries of a list are read from the text after its opening bracket. -/
inductive ListRead (entry : List Char → α → List Char → Prop) (closing : Char) (size : Nat) :
    List Char → List α → List Char → Prop
  | none {text rest : List Char} (closed : skipBlanks text = closing :: rest) :
    ListRead entry closing size text [] rest
  | some {text left rest : List Char} {e : α} {entries : List α}
    (notClosed : ∀ after, skipBlanks text ≠ closing :: after) (first : entry text e left)
    (more : MoreRead entry closing size left entries rest) :
    ListRead entry closing size text (e :: entries) rest

variable {entry : List Char → α → List Char → Prop} {closing : Char} {holds : α → Prop}

/-- What holds of every entry that can be read holds of further entries, and the fuel bounds their
number. -/
theorem MoreRead.all {fuel : Nat} {text rest : List Char} {entries : List α}
    (read : MoreRead entry closing fuel text entries rest)
    (each : ∀ {text e rest}, entry text e rest → holds e) :
    (∀ e ∈ entries, holds e) ∧ entries.length < fuel := by
  induction read with
  | done closed => exact ⟨by simp, Nat.succ_pos _⟩
  | next comma first more ih =>
    refine ⟨fun other there => ?_, Nat.succ_lt_succ ih.2⟩
    rcases List.mem_cons.mp there with rfl | later
    · exact each first
    · exact ih.1 other later

/-- What holds of every entry that can be read holds of the entries of a list, of which there are not
more than its size. -/
theorem ListRead.all {size : Nat} {text rest : List Char} {entries : List α}
    (read : ListRead entry closing size text entries rest)
    (each : ∀ {text e rest}, entry text e rest → holds e) :
    (∀ e ∈ entries, holds e) ∧ entries.length ≤ size := by
  cases read with
  | none closed => exact ⟨by simp, Nat.zero_le size⟩
  | some _ first more =>
    obtain ⟨all, fewer⟩ := more.all each
    refine ⟨fun other there => ?_, fewer⟩
    rcases List.mem_cons.mp there with rfl | later
    · exact each first
    · exact all other later

end Lists

/-- An entry that is read in front of further ones was read, and so were they. -/
theorem exists_of_cons_eq_ok {α : Type} {first : Reading α}
    {further : List Char → Reading (List α)} {entries : List α} {rest : List Char}
    (read : (do
      let (e, rest) ← first
      let (es, rest) ← further rest
      .ok (e :: es, rest)) = Except.ok (entries, rest)) :
    ∃ e left others, first = .ok (e, left) ∧ further left = .ok (others, rest) ∧
      entries = e :: others := by
  obtain ⟨⟨e, left⟩, readFirst, read⟩ := bind_eq_ok.mp read
  obtain ⟨⟨others, last⟩, readMore, read⟩ := bind_eq_ok.mp read
  obtain ⟨rfl, rfl⟩ := Prod.mk.inj (Except.ok.inj read)
  exact ⟨e, left, others, readFirst, readMore, rfl⟩

section Entries

/-- How an item is read: after any blanks. -/
def ItemRead (item : List Char → Reading Source) (text : List Char) (source : Source)
    (rest : List Char) : Prop :=
  item (skipBlanks text) = .ok (source, rest)

/-- How a member is read: after any blanks, a quoted key, a colon and an item. -/
inductive MemberRead (item : List Char → Reading Source) :
    List Char → String × Source → List Char → Prop
  | colon {text inner left after rest : List Char} {key : String} {source : Source}
    (quote : skipBlanks text = '"' :: inner) (named : readString inner = .ok (key, left))
    (colon : skipBlanks left = ':' :: after) (value : item after = .ok (source, rest)) :
    MemberRead item text (key, source) rest

variable {item : List Char → Reading Source}

/-- What reading further items took. -/
theorem moreRead_of_readMoreItems {fuel : Nat} {text rest : List Char} {sources : List Source}
    (read : readMoreItems item fuel text = .ok (sources, rest)) :
    MoreRead (ItemRead item) ']' fuel text sources rest := by
  induction fuel generalizing text rest sources with
  | zero => simp [readMoreItems] at read
  | succ fuel ih =>
    rw [readMoreItems] at read
    split at read
    · contradiction
    · rename_i closed
      obtain ⟨rfl, rfl⟩ := Prod.mk.inj (Except.ok.inj read)
      exact .done closed
    · rename_i comma
      split at read
      · contradiction
      · contradiction
      · obtain ⟨source, left, others, first, more, rfl⟩ := exists_of_cons_eq_ok read
        exact .next comma first (ih more)
    · contradiction

/-- What reading the items of an array took. -/
theorem listRead_of_readItems {size : Nat} {text rest : List Char} {sources : List Source}
    (read : readItems size item text = .ok (sources, rest)) :
    ListRead (ItemRead item) ']' size text sources rest := by
  rw [readItems] at read
  split at read
  · contradiction
  · rename_i closed
    obtain ⟨rfl, rfl⟩ := Prod.mk.inj (Except.ok.inj read)
    exact .none closed
  · rename_i notClosed
    obtain ⟨source, left, others, first, more, rfl⟩ := exists_of_cons_eq_ok read
    exact .some notClosed first (moreRead_of_readMoreItems more)

/-- What reading a member after its opening quote took. -/
theorem memberRead_of_readMember {text inner rest : List Char} {member : String × Source}
    (quote : skipBlanks text = '"' :: inner) (read : readMember item inner = .ok (member, rest)) :
    MemberRead item text member rest := by
  obtain ⟨⟨key, left⟩, named, read⟩ := bind_eq_ok.mp read
  obtain ⟨⟨source, left⟩, value, read⟩ := bind_eq_ok.mp read
  obtain ⟨rfl, rfl⟩ := Prod.mk.inj (Except.ok.inj read)
  simp only [readMemberValue] at value
  split at value
  · contradiction
  · rename_i colon
    exact .colon quote named colon value
  · contradiction

/-- What reading further members took. -/
theorem moreRead_of_readMoreMembers {fuel : Nat} {text rest : List Char}
    {members : List (String × Source)}
    (read : readMoreMembers item fuel text = .ok (members, rest)) :
    MoreRead (MemberRead item) '\x7d' fuel text members rest := by
  induction fuel generalizing text rest members with
  | zero => simp [readMoreMembers] at read
  | succ fuel ih =>
    rw [readMoreMembers] at read
    split at read
    · contradiction
    · rename_i closed
      obtain ⟨rfl, rfl⟩ := Prod.mk.inj (Except.ok.inj read)
      exact .done closed
    · rename_i comma
      split at read
      · contradiction
      · rename_i quote
        obtain ⟨member, left, others, first, more, rfl⟩ := exists_of_cons_eq_ok read
        exact .next comma (memberRead_of_readMember quote first) (ih more)
      · contradiction
      · contradiction
    · contradiction

/-- What reading the members of an object took. -/
theorem listRead_of_readMembers {size : Nat} {text rest : List Char}
    {members : List (String × Source)} (read : readMembers size item text = .ok (members, rest)) :
    ListRead (MemberRead item) '\x7d' size text members rest := by
  rw [readMembers] at read
  split at read
  · contradiction
  · rename_i closed
    obtain ⟨rfl, rfl⟩ := Prod.mk.inj (Except.ok.inj read)
    exact .none closed
  · rename_i quote
    obtain ⟨member, left, others, first, more, rfl⟩ := exists_of_cons_eq_ok read
    exact .some (by simp [quote]) (memberRead_of_readMember quote first)
      (moreRead_of_readMoreMembers more)
  · contradiction

end Entries

section Values

/-- A word that is read stands at the front. -/
theorem eq_append_of_readWord {word text rest : List Char} (read : readWord word text = .ok rest) :
    text = word ++ rest := by
  induction word generalizing text with
  | nil => exact Except.ok.inj read
  | cons w word ih =>
    cases text with
    | nil => contradiction
    | cons c text =>
      rw [readWord] at read
      split_ifs at read with same
      rw [same, ih read, List.cons_append]

/-- How a value is read, from its first character on. -/
inductive ValueRead (size : Nat) : (levels : Nat) → List Char → Source → List Char → Prop
  | null {levels : Nat} {rest : List Char} :
    ValueRead size levels (['n', 'u', 'l', 'l'] ++ rest) .null rest
  | true {levels : Nat} {rest : List Char} :
    ValueRead size levels (['t', 'r', 'u', 'e'] ++ rest) (.bool true) rest
  | false {levels : Nat} {rest : List Char} :
    ValueRead size levels (['f', 'a', 'l', 's', 'e'] ++ rest) (.bool false) rest
  | string {levels : Nat} {inner rest : List Char} {s : String}
    (quoted : readString inner = .ok (s, rest)) :
    ValueRead size levels ('"' :: inner) (.string s) rest
  | number {levels : Nat} {c : Char} {after rest : List Char} {written : WrittenNumber}
    (start : (c = '-' || c.isDigit) = true)
    (digits : readNumber (c :: after) = .ok (written, rest)) :
    ValueRead size levels (c :: after) (.number written) rest
  | array {levels : Nat} {after rest : List Char} {items : List Source}
    (inside : ListRead (ItemRead (readValue size levels)) ']' size after items rest) :
    ValueRead size (levels + 1) ('[' :: after) (.array items) rest
  | object {levels : Nat} {after rest : List Char} {members : List (String × Source)}
    (inside : ListRead (MemberRead (readValue size levels)) '\x7d' size after members rest) :
    ValueRead size (levels + 1) ('\x7b' :: after) (.object members) rest

/-- What reading a value took. -/
theorem valueRead_of_readValue {size levels : Nat} {text rest : List Char} {source : Source}
    (read : readValue size levels text = .ok (source, rest)) :
    ValueRead size levels (skipBlanks text) source rest := by
  rw [readValue] at read
  split at read <;> rename_i skipped
  · contradiction
  · obtain ⟨left, word, read⟩ := bind_eq_ok.mp read
    obtain ⟨rfl, rfl⟩ := Prod.mk.inj (Except.ok.inj read)
    rw [skipped, eq_append_of_readWord word]
    exact .null
  · obtain ⟨left, word, read⟩ := bind_eq_ok.mp read
    obtain ⟨rfl, rfl⟩ := Prod.mk.inj (Except.ok.inj read)
    rw [skipped, eq_append_of_readWord word]
    exact .true
  · obtain ⟨left, word, read⟩ := bind_eq_ok.mp read
    obtain ⟨rfl, rfl⟩ := Prod.mk.inj (Except.ok.inj read)
    rw [skipped, eq_append_of_readWord word]
    exact .false
  · obtain ⟨⟨string, left⟩, quoted, read⟩ := bind_eq_ok.mp read
    obtain ⟨rfl, rfl⟩ := Prod.mk.inj (Except.ok.inj read)
    rw [skipped]
    exact .string quoted
  · split at read
    · contradiction
    · obtain ⟨⟨items, left⟩, inside, read⟩ := bind_eq_ok.mp read
      obtain ⟨rfl, rfl⟩ := Prod.mk.inj (Except.ok.inj read)
      rw [skipped]
      exact .array (listRead_of_readItems inside)
  · split at read
    · contradiction
    · obtain ⟨⟨members, left⟩, inside, read⟩ := bind_eq_ok.mp read
      obtain ⟨rfl, rfl⟩ := Prod.mk.inj (Except.ok.inj read)
      rw [skipped]
      exact .object (listRead_of_readMembers inside)
  · split_ifs at read with start
    obtain ⟨⟨written, left⟩, digits, read⟩ := bind_eq_ok.mp read
    obtain ⟨rfl, rfl⟩ := Prod.mk.inj (Except.ok.inj read)
    rw [skipped]
    exact .number start digits

end Values

end Concord.Json
