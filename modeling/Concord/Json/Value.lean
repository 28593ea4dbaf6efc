import Concord.Binary64.Rounding

/-!
# JSON values

A `Value` is a JSON tree. A number keeps its kind, integer or floating point, because the kind
decides how it is written. The members of an object are a list of keys and values. A value is
`WellFormed` when its integers fit 64 bits and the keys of every object in it strictly increase by
code point, which makes two objects with the same members the same value. `insertMember` keeps that
order.
-/

namespace Concord.Json

/-- A JSON number: an integer, or a finite floating point number. -/
inductive Number where
  /-- An integer, written without point and exponent. -/
  | integer (value : Int)
  /-- A floating point number, written with a point or an exponent. -/
  | float (value : Binary64)
deriving DecidableEq

/-- The exact rational that a number stands for. -/
def Number.toRat : Number → Rat
  | .integer n => n
  | .float x => x.toRat

/-- The number fits its kind: an integer, signed or unsigned, fits 64 bits. -/
def Number.Fits : Number → Prop
  | .integer n => -(Nat.pow 2 63 : Int) ≤ n ∧ n < (Nat.pow 2 64 : Int)
  | .float _ => True

/-- A JSON value. -/
inductive Value where
  | null
  | bool (value : Bool)
  | number (value : Number)
  | string (value : String)
  | array (items : List Value)
  | object (members : List (String × Value))
deriving Inhabited

/-- The members of an object: keys and values. -/
abbrev Members := List (String × Value)

/-- What stands at the first of several keys that is the given one. -/
def find? {α : Type} (key : String) : List (String × α) → Option α
  | [] => none
  | (name, value) :: rest => if name = key then some value else find? key rest

/-- Members in increasing order of keys, with one more; a member that had its key is replaced. -/
def insertMember (key : String) (value : Value) : Members → Members
  | [] => [(key, value)]
  | (name, old) :: rest =>
    if key < name then (key, value) :: (name, old) :: rest
    else if key = name then (key, value) :: rest
    else (name, old) :: insertMember key value rest

/-- The members in increasing order of keys; of several with one key the last stays. -/
def sortMembers (members : Members) : Members :=
  members.foldl (fun sorted member => insertMember member.1 member.2 sorted) []

/-- The keys of the members strictly increase. -/
def KeysIncrease (members : Members) : Prop :=
  (members.map Prod.fst).Pairwise (· < ·)

mutual

/-- Every number in the value fits its kind, and every object has strictly increasing keys. -/
def Value.WellFormed : Value → Prop
  | .number n => n.Fits
  | .array items => WellFormedItems items
  | .object members => KeysIncrease members ∧ WellFormedMembers members
  | _ => True

/-- Every one of the values is well formed. -/
def WellFormedItems : List Value → Prop
  | [] => True
  | value :: rest => value.WellFormed ∧ WellFormedItems rest

/-- The value of every member is well formed. -/
def WellFormedMembers : List (String × Value) → Prop
  | [] => True
  | (_, value) :: rest => value.WellFormed ∧ WellFormedMembers rest

end

end Concord.Json
