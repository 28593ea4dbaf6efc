import Concord.Json.Reader
import Concord.Proofs.Fallible
import Concord.Proofs.Json.Members

/-!
# Parts of a tree and parts of its value

The members and the items of a tree, where of several members with one key the last counts, are
those of its value. So whatever is read out of a value can be followed back to the part of the tree
that it comes from.
-/

namespace Concord.Json

/-- The values of items are the values of each. -/
theorem itemValues_eq_map (items : List Source) : itemValues items = items.map Source.value := by
  induction items with
  | nil => rfl
  | cons item rest ih => rw [itemValues, ih, List.map_cons]

/-- The members of an object keep their keys. -/
theorem memberValues_eq_map (members : List (String × Source)) :
    memberValues members = members.map fun member => (member.1, member.2.value) := by
  induction members with
  | nil => rfl
  | cons member rest ih =>
    obtain ⟨key, item⟩ := member
    rw [memberValues, ih, List.map_cons]

namespace Source

/-- The last member of an object with a key; nothing else has members. -/
def member? (key : String) : Source → Option Source
  | .object members => find? key members.reverse
  | _ => none

/-- The items of an array; nothing else has items. -/
def items : Source → List Source
  | .array items => items
  | _ => []

/-- A member of the value is the value of the member. -/
theorem find?_eq_member? {tree : Source} {members : Members} (object : tree.value = .object members)
    (key : String) : find? key members = (tree.member? key).map value := by
  cases tree with
  | object sources =>
    rw [value, Value.object.injEq] at object
    rw [← object, find?_sortMembers, memberValues_eq_map, ← List.map_reverse, find?_map, member?]
  | _ => simp [value] at object

/-- The items of the value are the values of the items. -/
theorem eq_map_items {tree : Source} {items : List Value} (array : tree.value = .array items) :
    items = tree.items.map value := by
  cases tree with
  | array sources =>
    rw [value, Value.array.injEq] at array
    rw [← array, itemValues_eq_map, Source.items]
  | _ => simp [value] at array

/-- A tree whose value is a string is that string. -/
theorem eq_string_of_value {tree : Source} {s : String} (text : tree.value = .string s) :
    tree = .string s := by
  cases tree <;> simp_all [value]

end Source

/-- Reading a text given by its characters. -/
theorem parse_ofList (text : List Char) :
    Source.parse (String.ofList text) = (readText text).mapError fun stop => stop.locate text := by
  rw [Source.parse, String.toList_ofList]

/-- A text is read as the value of its tree. -/
theorem parse_eq_ok {text : String} {root : Value} :
    Value.parse text = .ok root ↔ ∃ tree, Source.parse text = .ok tree ∧ tree.value = root :=
  map_eq_ok

end Concord.Json
