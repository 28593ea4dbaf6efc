import Concord.Interval

/-!
# Recorded test cases

A `TestCase` is one case of a suite: an operation, its inputs and what the implementations
reported. The suites differ in their inputs only, so a case is generic in them, and `CaseInputs`
says how inputs are read, written, compared and shown.
-/

namespace Concord

open Json

/-- One of the two suites of a results document. -/
inductive Suite where
  /-- Operations on two intervals that give an interval. -/
  | binaryOperations
  /-- Operations on an interval and a scalar. -/
  | atOperations
deriving DecidableEq, Repr

/-- The name of the section that holds the suite. -/
def Suite.key : Suite → String
  | .binaryOperations => "binary_operations"
  | .atOperations => "at_operations"

/-- What one implementation reported for a case. -/
structure TaggedResult where
  /-- The name of the method; its beginning tells the implementation. -/
  method : String
  /-- The output, any JSON value. -/
  output : Value
  /-- The other members, such as timings. -/
  extra : Members

namespace TaggedResult

/-- Reads a result. -/
def ofValue (value : Value) : Except ShapeError TaggedResult := do
  let members ← value.asRecord "TaggedResult"
  let method ← readMember? "method" Value.asString members
  let output ← readMember? "output" .ok members
  return {
    method := ← require "method" method
    output := ← require "output" output
    extra := without ["method", "output"] members }

/-- The result as a record: its own members, then the others. -/
def toRecord (r : TaggedResult) : Value :=
  .object ([("method", .string r.method), ("output", r.output)] ++ r.extra)

end TaggedResult

/-- The two intervals of a case of the first suite. -/
structure BinaryInputs where
  /-- The left operand. -/
  left : Interval
  /-- The right operand. -/
  right : Interval

/-- The interval and the scalar of a case of the second suite. -/
structure AtInputs where
  /-- The interval. -/
  interval : Interval
  /-- The scalar, any JSON value. -/
  value : Value

/-- How the inputs of a suite's cases are read, written, compared and shown. -/
class CaseInputs (I : Type) where
  /-- The suite. -/
  suite : Suite
  /-- What a case of the suite is called in error messages. -/
  kind : String
  /-- The names of the members that hold the inputs. -/
  keys : List String
  /-- Reads the inputs among the members of a case. The outer failure is a member of the wrong
  shape; the inner one is an absent member, which counts only once all others have been read. -/
  read : Members → Except ShapeError (Except ShapeError I)
  /-- The inputs as members, given how an interval is written. -/
  members : (Interval → Value) → I → Members
  /-- Whether two cases have the same inputs. -/
  same : I → I → Bool
  /-- The inputs as they are shown: labels and texts. -/
  shown : I → List (String × String)

instance : CaseInputs BinaryInputs where
  suite := .binaryOperations
  kind := "BinaryCase"
  keys := ["input_a", "input_b"]
  read members := do
    let left ← readMember? "input_a" Interval.ofValue members
    let right ← readMember? "input_b" Interval.ofValue members
    return do return ⟨← require "input_a" left, ← require "input_b" right⟩
  members write inputs := [("input_a", write inputs.left), ("input_b", write inputs.right)]
  same a b := a.left.same b.left && a.right.same b.right
  shown inputs := [("Input A", inputs.left.display), ("Input B", inputs.right.display)]

instance : CaseInputs AtInputs where
  suite := .atOperations
  kind := "AtCase"
  keys := ["input_interval", "input_value"]
  read members := do
    let interval ← readMember? "input_interval" Interval.ofValue members
    let value ← readMember? "input_value" .ok members
    return do return ⟨← require "input_interval" interval, ← require "input_value" value⟩
  members write inputs :=
    [("input_interval", write inputs.interval), ("input_value", inputs.value)]
  same a b := a.interval.same b.interval && a.value.same b.value
  shown inputs := [("Interval", inputs.interval.display), ("Value", inputs.value.compact)]

/-- One case of a suite. -/
structure TestCase (I : Type) where
  /-- The operation under test. -/
  operation : String
  /-- Its inputs. -/
  inputs : I
  /-- What the implementations reported, in the order of the document. -/
  results : List TaggedResult
  /-- The other members. -/
  extra : Members

namespace TestCase

variable {I : Type} [CaseInputs I]

/-- Reads a case. A member of the wrong shape is reported before one that is absent. -/
def ofValue (value : Value) : Except ShapeError (TestCase I) := do
  let members ← value.asRecord (CaseInputs.kind I)
  let inputs ← CaseInputs.read (I := I) members
  let operation ← readMember? "operation" Value.asString members
  let results ← readMember? "results" (Value.asList TaggedResult.ofValue) members
  return {
    operation := ← require "operation" operation
    inputs := ← inputs
    results := ← require "results" results
    extra := without ("operation" :: "results" :: CaseInputs.keys I) members }

/-- The case as a record: its own members, then the others. -/
def toRecord (c : TestCase I) : Value :=
  .object ([("operation", .string c.operation)] ++ CaseInputs.members Interval.toRecord c.inputs ++
    [("results", .array (c.results.map TaggedResult.toRecord))] ++ c.extra)

/-- The inputs as they stand in a report: each interval with its members in the order of keys. -/
def inputMembers (c : TestCase I) : Members := CaseInputs.members Interval.toValue c.inputs

/-- The case with other results. -/
def withResults (c : TestCase I) (results : List TaggedResult) : TestCase I :=
  { c with results := results }

/-- Whether two cases describe the same operation on the same inputs. -/
def same (c d : TestCase I) : Bool :=
  c.operation == d.operation && CaseInputs.same c.inputs d.inputs

end TestCase

end Concord
