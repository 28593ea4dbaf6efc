import Concord.Interval
import Mathlib.Tactic.Common

/-!
# Sameness of values

The identity check compares the inputs of two cases with `Value.same`. Two copies of one case pass
it because every floating point number equals itself, and the order of the two cases does not
matter.
-/

namespace Concord.Json

/-- A number is the same as itself. -/
@[simp]
theorem Number.same_self (n : Number) : n.same n = true := by
  cases n <;> simp [Number.same]

mutual

/-- A value is the same as itself. -/
@[simp]
theorem Value.same_self : ∀ value : Value, value.same value = true
  | .null => rfl
  | .bool b => by simp [Value.same]
  | .number n => by simp [Value.same]
  | .string s => by simp [Value.same]
  | .array items => by simpa [Value.same] using sameItems_self items
  | .object members => by simpa [Value.same] using sameMembers_self members

/-- A list of values is the same as itself. -/
theorem sameItems_self : ∀ items : List Value, sameItems items items = true
  | [] => rfl
  | value :: rest => by simp [sameItems, Value.same_self value, sameItems_self rest]

/-- A list of members is the same as itself. -/
theorem sameMembers_self : ∀ members : Members, sameMembers members members = true
  | [] => rfl
  | (_, value) :: rest => by simp [sameMembers, Value.same_self value, sameMembers_self rest]

end

/-- Numbers are the same from either side. -/
theorem Number.same_comm (m n : Number) : m.same n = n.same m := by
  cases m with
  | integer m => cases n <;> simp [Number.same, BEq.comm (a := m)]
  | float x => cases n <;> simp [Number.same, Binary64.equals_comm x]

mutual

/-- Values are the same from either side. -/
theorem Value.same_comm : ∀ left right : Value, left.same right = right.same left
  | .null, right => by cases right <;> rfl
  | .bool b, right => by cases right <;> simp [Value.same, BEq.comm (a := b)]
  | .number n, right => by cases right <;> simp [Value.same, Number.same_comm n]
  | .string s, right => by cases right <;> simp [Value.same, BEq.comm (a := s)]
  | .array items, right => by cases right <;> simp [Value.same, sameItems_comm items]
  | .object members, right => by cases right <;> simp [Value.same, sameMembers_comm members]

/-- Lists of values are the same from either side. -/
theorem sameItems_comm : ∀ left right : List Value, sameItems left right = sameItems right left
  | [], right => by cases right <;> rfl
  | value :: rest, right => by
    cases right with
    | nil => rfl
    | cons other more => simp [sameItems, Value.same_comm value other, sameItems_comm rest more]

/-- Lists of members are the same from either side. -/
theorem sameMembers_comm : ∀ left right : Members, sameMembers left right = sameMembers right left
  | [], right => by cases right <;> rfl
  | (key, value) :: rest, right => by
    cases right with
    | nil => rfl
    | cons other more =>
      simp [sameMembers, BEq.comm (a := key), Value.same_comm value other.2,
        sameMembers_comm rest more]

end

end Concord.Json
