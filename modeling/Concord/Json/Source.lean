import Concord.Json.Numeral

/-!
# Trees of JSON texts

A `Source` is what a JSON text says before it is given a value: its numbers as they are written, and
the members of its objects in the order of the text, also those with a key that occurs again. Only
blanks and the spelling of strings are left out. `Source.value` is the value of the tree.
-/

namespace Concord.Json

/-- The tree of a JSON text. -/
inductive Source where
  | null
  | bool (value : Bool)
  | number (written : WrittenNumber)
  | string (value : String)
  | array (items : List Source)
  | object (members : List (String × Source))

mutual

/-- The value of a tree: objects are ordered by key, and of several members with one key the last
stays. -/
def Source.value : Source → Value
  | .null => .null
  | .bool b => .bool b
  | .number written => .number written.value
  | .string s => .string s
  | .array items => .array (itemValues items)
  | .object members => .object (sortMembers (memberValues members))

/-- The values of the items of an array. -/
def itemValues : List Source → List Value
  | [] => []
  | item :: rest => item.value :: itemValues rest

/-- The members of an object with their values. -/
def memberValues : List (String × Source) → Members
  | [] => []
  | (key, item) :: rest => (key, item.value) :: memberValues rest

end

end Concord.Json
