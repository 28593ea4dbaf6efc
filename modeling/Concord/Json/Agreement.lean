import Concord.Json.Value

/-!
# Agreement of values

Two relations compare values without tolerance. Values *agree* when they are the same tree and
their numbers have the same value, whatever their kind: `8` agrees with `8.0`. Values are *the
same* when the numbers also are of one kind. Neither tells the two zeros of floating point apart.
-/

namespace Concord.Json

/-- The magnitude that the whole part of a floating point number must keep below to be compared with
an integer, the greatest signed number of 128 bits and one. -/
def wholeLimit : Nat := Nat.pow 2 127

/-- Whether a floating point number is the integer: it has no fraction, its whole part fits a signed
number of 128 bits and is the integer. The integer itself is never rounded. -/
def isInteger (x : Binary64) (n : Int) : Bool :=
  x.isWhole && decide (-(wholeLimit : Int) ≤ x.whole) && decide (x.whole < (wholeLimit : Int)) &&
    x.whole == n

/-- Whether two numbers have the same value. Integers are compared as they are and floating point
numbers by value; a number of each kind are compared as integers. -/
def Number.agrees : Number → Number → Bool
  | .integer m, .integer n => m == n
  | .integer m, .float y => isInteger y m
  | .float x, .integer n => isInteger x n
  | .float x, .float y => x.equals y

/-- Whether two numbers are of one kind and have the same value. -/
def Number.same : Number → Number → Bool
  | .integer m, .integer n => m == n
  | .float x, .float y => x.equals y
  | _, _ => false

mutual

/-- Whether two values are the same tree with numbers of the same value. Objects are compared by
key, whatever the order of their members. -/
def Value.agrees : Value → Value → Bool
  | .null, .null => true
  | .bool a, .bool b => a == b
  | .number a, .number b => a.agrees b
  | .string a, .string b => a == b
  | .array a, .array b => itemsAgree a b
  | .object a, .object b => a.length == b.length && membersAgree a b
  | _, _ => false

/-- Whether two lists of values are equally long and agree item by item. -/
def itemsAgree : List Value → List Value → Bool
  | [], [] => true
  | a :: as, b :: bs => a.agrees b && itemsAgree as bs
  | _, _ => false

/-- Whether every member has a counterpart of the same key whose value agrees. -/
def membersAgree : List (String × Value) → Members → Bool
  | [], _ => true
  | (key, a) :: rest, members =>
    (match find? key members with
      | some b => a.agrees b
      | none => false) &&
    membersAgree rest members

end

mutual

/-- Whether two values are the same tree with numbers of the same kind and value. -/
def Value.same : Value → Value → Bool
  | .null, .null => true
  | .bool a, .bool b => a == b
  | .number a, .number b => a.same b
  | .string a, .string b => a == b
  | .array a, .array b => sameItems a b
  | .object a, .object b => sameMembers a b
  | _, _ => false

/-- Whether two lists of values are the same item by item. -/
def sameItems : List Value → List Value → Bool
  | [], [] => true
  | a :: as, b :: bs => a.same b && sameItems as bs
  | _, _ => false

/-- Whether two lists of members have the same keys and values in the same order. -/
def sameMembers : List (String × Value) → List (String × Value) → Bool
  | [], [] => true
  | (key, a) :: as, (name, b) :: bs => key == name && a.same b && sameMembers as bs
  | _, _ => false

end

end Concord.Json
