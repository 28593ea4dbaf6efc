import Concord.Json.Agreement
import Concord.Proofs.Binary64.Exact
import Concord.Proofs.Json.Members

/-!
# What values stand for

`Value.meaning` forgets how a value is represented: a number becomes the rational it stores, an
array the sequence and an object the finite map of what its members stand for. The main statement
is that values agree exactly when they have one meaning, so agreement never rounds and is an
equivalence, although it looks up the keys of one object only and compares numbers of two kinds.
-/

namespace Concord.Json

/-- What a JSON value stands for. -/
inductive Meaning where
  | null
  | bool (value : Bool)
  | number (value : ℚ)
  | string (value : String)
  | array (items : List Meaning)
  | object (members : String → Option Meaning)

mutual

/-- What a value stands for. -/
def Value.meaning : Value → Meaning
  | .null => .null
  | .bool b => .bool b
  | .number n => .number n.toRat
  | .string s => .string s
  | .array items => .array (itemMeanings items)
  | .object members => .object (memberMeanings members)

/-- What the items of an array stand for, in order. -/
def itemMeanings : List Value → List Meaning
  | [] => []
  | value :: rest => value.meaning :: itemMeanings rest

/-- What the member with a key stands for, if the object has it. -/
def memberMeanings : List (String × Value) → String → Option Meaning
  | [], _ => none
  | (name, value) :: rest, key => if name = key then some value.meaning else memberMeanings rest key

end

/-- The meaning of a member is that of the value found under its key. -/
theorem memberMeanings_eq (members : Members) (key : String) :
    memberMeanings members key = (find? key members).map Value.meaning := by
  induction members with
  | nil => rfl
  | cons member rest ih =>
    obtain ⟨name, value⟩ := member
    by_cases same : name = key <;> simp [memberMeanings, find?, same, ih]

/-- A floating point number is an integer within the limit exactly when it stands for it. -/
theorem isInteger_iff (x : Binary64) (n : Int) (low : -(wholeLimit : Int) ≤ n)
    (high : n < (wholeLimit : Int)) : isInteger x n = true ↔ x.toRat = n := by
  simp only [isInteger, Bool.and_eq_true, decide_eq_true_eq, beq_iff_eq]
  constructor
  · rintro ⟨⟨⟨whole, -⟩, -⟩, same⟩
    rw [(x.isWhole_iff).mp whole, same]
  · intro value
    have fraction : x.isWhole = true := Binary64.isWhole_of_toRat_eq value
    have whole : x.whole = n := by
      rw [x.isWhole_iff.mp fraction] at value
      exact_mod_cast value
    rw [whole]
    exact ⟨⟨⟨fraction, low⟩, high⟩, rfl⟩

/-- An integer of 64 bits lies within the limit of the comparison. -/
theorem Number.Fits.within_limit {n : Int} (fits : (Number.integer n).Fits) :
    -(wholeLimit : Int) ≤ n ∧ n < (wholeLimit : Int) := by
  have low : -(2 : Int) ^ 127 ≤ -2 ^ 63 := by norm_num
  have high : (2 : Int) ^ 64 ≤ 2 ^ 127 := by norm_num
  obtain ⟨above, below⟩ := fits
  simp only [wholeLimit, Nat.pow_eq, Nat.cast_pow, Nat.cast_ofNat] at above below ⊢
  omega

/-- Numbers agree exactly when they store one rational. -/
theorem Number.agrees_iff {a b : Number} (left : a.Fits) (right : b.Fits) :
    a.agrees b = true ↔ a.toRat = b.toRat := by
  cases a with
  | integer m =>
    cases b with
    | integer n => simp [Number.agrees, Number.toRat]
    | float y =>
      have limits := left.within_limit
      exact (isInteger_iff y m limits.1 limits.2).trans eq_comm
  | float x =>
    cases b with
    | integer n =>
      have limits := right.within_limit
      exact isInteger_iff x n limits.1 limits.2
    | float y => exact Binary64.equals_iff x y

/-- Two objects with increasing keys have one meaning exactly when they are of one size and each
member of the first has a counterpart in the second with its meaning. -/
theorem memberMeanings_eq_iff {left right : Members} (leftKeys : KeysIncrease left)
    (rightKeys : KeysIncrease right) :
    memberMeanings left = memberMeanings right ↔ left.length = right.length ∧
      ∀ member ∈ left, ∃ other, find? member.1 right = some other ∧
        member.2.meaning = other.meaning := by
  constructor
  · intro same
    have found (key : String) : (find? key left).map Value.meaning =
        (find? key right).map Value.meaning := by
      rw [← memberMeanings_eq, ← memberMeanings_eq, same]
    have keys (key : String) : key ∈ left.map Prod.fst ↔ key ∈ right.map Prod.fst := by
      rw [← not_iff_not, ← find?_eq_none_iff, ← find?_eq_none_iff, ← Option.map_eq_none_iff,
        found key, Option.map_eq_none_iff]
    have size := ((List.perm_ext_iff_of_nodup leftKeys.nodup rightKeys.nodup).mpr keys).length_eq
    refine ⟨by simpa using size, fun member present => ?_⟩
    have counterpart := found member.1
    rw [find?_eq_some_of_mem leftKeys.nodup present, Option.map_some] at counterpart
    obtain ⟨other, there, meaning⟩ := Option.map_eq_some_iff.mp counterpart.symm
    exact ⟨other, there, meaning.symm⟩
  · rintro ⟨size, counterparts⟩
    have subset : left.map Prod.fst ⊆ right.map Prod.fst := by
      intro key present
      obtain ⟨member, inside, rfl⟩ := List.mem_map.mp present
      obtain ⟨other, there, -⟩ := counterparts member inside
      exact List.mem_map.mpr ⟨_, mem_of_find?_eq_some there, rfl⟩
    -- Only keys of the first object were looked up; the sizes leave no room for others.
    have back := keys_subset_of_length_eq leftKeys.nodup size subset
    funext key
    rw [memberMeanings_eq, memberMeanings_eq]
    cases here : find? key left with
    | none =>
      have absent : find? key right = none :=
        find?_eq_none_iff.mpr fun present => find?_eq_none_iff.mp here (back present)
      rw [absent]
    | some value =>
      obtain ⟨other, there, meaning⟩ := counterparts _ (mem_of_find?_eq_some here)
      rw [there, Option.map_some, Option.map_some, meaning]

mutual

/-- Well formed values agree exactly when they have one meaning. -/
theorem Value.agrees_iff : ∀ {left right : Value}, left.WellFormed → right.WellFormed →
    (left.agrees right = true ↔ left.meaning = right.meaning)
  | .null, right, _, _ => by cases right <;> simp [Value.agrees, Value.meaning]
  | .bool b, right, _, _ => by cases right <;> simp [Value.agrees, Value.meaning]
  | .number n, right, leftForm, rightForm => by
    cases right with
    | number m => simpa [Value.agrees, Value.meaning] using Number.agrees_iff leftForm rightForm
    | _ => simp [Value.agrees, Value.meaning]
  | .string s, right, _, _ => by cases right <;> simp [Value.agrees, Value.meaning]
  | .array items, right, leftForm, rightForm => by
    cases right with
    | array others => simpa [Value.agrees, Value.meaning] using itemsAgree_iff leftForm rightForm
    | _ => simp [Value.agrees, Value.meaning]
  | .object members, right, leftForm, rightForm => by
    cases right with
    | object others =>
      simp only [Value.agrees, Value.meaning, Bool.and_eq_true, beq_iff_eq, Meaning.object.injEq,
        memberMeanings_eq_iff leftForm.1 rightForm.1,
        membersAgree_iff leftForm.2 (wellFormedMembers_iff.mp rightForm.2)]
    | _ => simp [Value.agrees, Value.meaning]

/-- Lists of well formed values agree item by item exactly when their meanings do. -/
theorem itemsAgree_iff : ∀ {left right : List Value}, WellFormedItems left →
    WellFormedItems right → (itemsAgree left right = true ↔ itemMeanings left = itemMeanings right)
  | [], [], _, _ => by simp [itemsAgree]
  | [], _ :: _, _, _ => by simp [itemsAgree, itemMeanings]
  | _ :: _, [], _, _ => by simp [itemsAgree, itemMeanings]
  | _ :: _, _ :: _, leftForm, rightForm => by
    simp only [itemsAgree, itemMeanings, Bool.and_eq_true, List.cons.injEq,
      Value.agrees_iff leftForm.1 rightForm.1, itemsAgree_iff leftForm.2 rightForm.2]

/-- Members agree with an object exactly when each has a counterpart with its meaning. -/
theorem membersAgree_iff {others : Members} : ∀ {members : List (String × Value)},
    WellFormedMembers members → (∀ other ∈ others, other.2.WellFormed) →
    (membersAgree members others = true ↔ ∀ member ∈ members, ∃ other,
      find? member.1 others = some other ∧ member.2.meaning = other.meaning)
  | [], _, _ => by simp [membersAgree]
  | (key, value) :: rest, form, otherForms => by
    rw [membersAgree, Bool.and_eq_true, membersAgree_iff form.2 otherForms, List.forall_mem_cons]
    refine and_congr_left fun _ => ?_
    cases found : find? key others with
    | none => simp
    | some other =>
      have otherForm := otherForms _ (mem_of_find?_eq_some found)
      simpa using Value.agrees_iff form.1 otherForm

end

/-- Well formed values agree from either side. -/
theorem Value.agrees_comm {left right : Value} (leftForm : left.WellFormed)
    (rightForm : right.WellFormed) : left.agrees right = right.agrees left := by
  rw [Bool.eq_iff_iff, Value.agrees_iff leftForm rightForm, Value.agrees_iff rightForm leftForm]
  exact eq_comm

/-- Agreement is exact: well formed values agree exactly when they stand for the same. So a value
agrees with itself, with the same values from either side, and with what agrees with one of them. -/
theorem agrees_iff_same_meaning {left right : Value} (leftForm : left.WellFormed)
    (rightForm : right.WellFormed) :
    (left.agrees right = true ↔ left.meaning = right.meaning) ∧ left.agrees left = true ∧
      (left.agrees right = true → right.agrees left = true) ∧
      ∀ other : Value, other.WellFormed → left.agrees right = true →
        right.agrees other = true → left.agrees other = true := by
  have exact := Value.agrees_iff leftForm rightForm
  refine ⟨exact, (Value.agrees_iff leftForm leftForm).mpr rfl, fun agree => ?_,
    fun other otherForm first second => ?_⟩
  · exact (Value.agrees_iff rightForm leftForm).mpr (exact.mp agree).symm
  · have middle := (Value.agrees_iff rightForm otherForm).mp second
    exact (Value.agrees_iff leftForm otherForm).mpr ((exact.mp first).trans middle)

/-- Where the integers begin to outnumber the floating point numbers: the same number in two kinds,
beside a zero of either sign, agrees, and the next integer does not agree with it. -/
theorem agrees_iff_same_meaning_above_53_bits :
    let interval (start finish : Number) : Value :=
      .object [("end", .number finish), ("start", .number start)]
    let rounded : Binary64 :=
      ⟨false, 4503599627370496, 1, by decide, by decide, by decide, by decide⟩
    let integers := interval (.integer 0) (.integer 9007199254740992)
    let floats := interval (.float (.zero true)) (.float rounded)
    let next := interval (.integer 0) (.integer 9007199254740993)
    (integers.WellFormed ∧ floats.WellFormed ∧ next.WellFormed) ∧
      integers.meaning = floats.meaning ∧ floats.meaning ≠ next.meaning := by
  intro interval rounded integers floats next
  have increase : ["end", "start"].Pairwise (· < ·) := by decide
  have integersForm : integers.WellFormed :=
    ⟨increase, ⟨by decide, by decide⟩, ⟨by decide, by decide⟩, trivial⟩
  have floatsForm : floats.WellFormed := ⟨increase, trivial, trivial, trivial⟩
  have nextForm : next.WellFormed :=
    ⟨increase, ⟨by decide, by decide⟩, ⟨by decide, by decide⟩, trivial⟩
  refine ⟨⟨integersForm, floatsForm, nextForm⟩, ?_, fun same => ?_⟩
  · exact (agrees_iff_same_meaning integersForm floatsForm).1.mp (by decide +kernel)
  · have agree := (agrees_iff_same_meaning floatsForm nextForm).1.mpr same
    exact absurd agree (by decide +kernel)

end Concord.Json
