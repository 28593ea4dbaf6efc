import Concord.Json.Printer
import Concord.Text.Quoted

/-!
# Shapes of JSON values

A record is read out of a JSON value whose members have known names and shapes. A `ShapeError` says
which member is absent or which value has the wrong kind. The readers of single values stand here,
and `readMember?` and `require` read the members of an object: first those that are present, then
the check that none is absent.
-/

namespace Concord.Json

/-- Why a value does not have the shape of a record. -/
inductive ShapeError where
  /-- A member of a record is absent. -/
  | missingMember (name : String)
  /-- A value is of another kind than the expected one. -/
  | wrongKind (found : Value) (expected : String)

/-- What a value is, in the words of an error message. -/
def Value.description : Value → String
  | .null => "null"
  | .bool b => "boolean `" ++ (if b then "true" else "false") ++ "`"
  | .number (.integer n) => "integer `" ++ String.ofList (integerChars n) ++ "`"
  | .number (.float x) => "floating point `" ++ String.ofList (floatChars x) ++ "`"
  | .string s => "string " ++ Text.quote s
  | .array _ => "sequence"
  | .object _ => "map"

/-- The wording of a shape error. -/
def ShapeError.message : ShapeError → String
  | .missingMember name => "missing field `" ++ name ++ "`"
  | .wrongKind found expected =>
    "invalid type: " ++ found.description ++ ", expected " ++ expected

/-- A number. -/
def Value.asNumber : Value → Except ShapeError Number
  | .number n => .ok n
  | value => .error (.wrongKind value "a JSON number")

/-- A boolean. -/
def Value.asBool : Value → Except ShapeError Bool
  | .bool b => .ok b
  | value => .error (.wrongKind value "a boolean")

/-- A string. -/
def Value.asString : Value → Except ShapeError String
  | .string s => .ok s
  | value => .error (.wrongKind value "a string")

/-- An array whose items are read one after the other. -/
def Value.asList {α : Type} (read : Value → Except ShapeError α) :
    Value → Except ShapeError (List α)
  | .array items => items.mapM read
  | value => .error (.wrongKind value "a sequence")

/-- The members of an object that stands for a record of the given kind. -/
def Value.asRecord (kind : String) : Value → Except ShapeError Members
  | .object members => .ok members
  | value => .error (.wrongKind value ("struct " ++ kind))

/-- Reads a member if it is present. -/
def readMember? {α : Type} (key : String) (read : Value → Except ShapeError α)
    (members : Members) : Except ShapeError (Option α) :=
  match find? key members with
  | none => .ok none
  | some value => (read value).map some

/-- Demands that a member is present. -/
def require {α : Type} (key : String) : Option α → Except ShapeError α
  | none => .error (.missingMember key)
  | some a => .ok a

/-- The members with other keys than the given ones. -/
def without (keys : List String) (members : Members) : Members :=
  members.filter fun member => !keys.contains member.1

end Concord.Json
