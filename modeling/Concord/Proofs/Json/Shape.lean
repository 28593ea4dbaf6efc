import Concord.Json.Shape
import Concord.Proofs.Fallible

/-!
# What the readers of shapes accept

Each reader of a single value accepts exactly the values of its kind. A member that is read and
demanded is one that is present and accepted, and reading some members leaves the others as they
are.
-/

namespace Concord.Json

variable {α : Type}

/-- Only numbers are read as numbers. -/
theorem asNumber_eq_ok {value : Value} {n : Number} :
    value.asNumber = .ok n ↔ value = .number n := by
  cases value <;> simp [Value.asNumber]

/-- Only booleans are read as booleans. -/
theorem asBool_eq_ok {value : Value} {b : Bool} : value.asBool = .ok b ↔ value = .bool b := by
  cases value <;> simp [Value.asBool]

/-- Only strings are read as strings. -/
theorem asString_eq_ok {value : Value} {s : String} :
    value.asString = .ok s ↔ value = .string s := by
  cases value <;> simp [Value.asString]

/-- Only objects are read as records. -/
theorem asRecord_eq_ok {kind : String} {value : Value} {members : Members} :
    value.asRecord kind = .ok members ↔ value = .object members := by
  cases value <;> simp [Value.asRecord]

/-- Only arrays are read as lists, and each of their items is read. -/
theorem asList_eq_ok {read : Value → Except ShapeError α} {value : Value} {list : List α} :
    value.asList read = .ok list ↔
      ∃ items, value = .array items ∧
        List.Forall₂ (fun item a => read item = .ok a) items list := by
  cases value <;> simp [Value.asList, mapM_eq_ok]

/-- A demanded member has been read. -/
theorem require_eq_ok {key : String} {found : Option α} {a : α} :
    require key found = .ok a ↔ found = some a := by
  cases found <;> simp [require]

/-- A member is read when it is present and accepted. -/
theorem readMember?_eq_some {key : String} {read : Value → Except ShapeError α}
    {members : Members} {a : α} :
    readMember? key read members = .ok (some a) ↔
      ∃ value, find? key members = some value ∧ read value = .ok a := by
  rw [readMember?]
  cases find? key members with
  | none => simp
  | some value => simp [map_eq_ok]

/-- Members with other keys than the given ones are found as before. -/
theorem find?_without {key : String} {keys : List String} (other : key ∉ keys)
    (members : Members) : find? key (without keys members) = find? key members := by
  induction members with
  | nil => rfl
  | cons member rest ih =>
    obtain ⟨name, value⟩ := member
    by_cases same : name = key
    · subst same
      simp [without, find?, other]
    · rw [without] at ih
      by_cases dropped : name ∈ keys <;> simpa [without, find?, same, dropped] using ih

end Concord.Json
