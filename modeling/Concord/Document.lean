import Concord.Json.Reader
import Concord.TestCase

/-!
# Results documents

A results document holds one section of cases for each suite. `Document.load` reads it from its
text; the first suite is checked wholly before the second.
-/

namespace Concord

open Json

/-- The cases of both suites. -/
structure Document where
  /-- The cases of the first suite. -/
  binaryCases : List (TestCase BinaryInputs)
  /-- The cases of the second suite. -/
  atCases : List (TestCase AtInputs)

/-- Why a text is not a results document. -/
inductive LoadError where
  /-- The text is not JSON. -/
  | invalidJson (error : ReadError)
  /-- A section is absent. -/
  | missingSection (suite : Suite)
  /-- A section holds something other than cases of its suite. -/
  | malformedRecord (suite : Suite) (error : ShapeError)

/-- The wording of a load error. -/
def LoadError.message : LoadError → String
  | .invalidJson e => "Invalid JSON in results file: " ++ e.message
  | .missingSection suite =>
    "Results file missing required structure: no `" ++ suite.key ++ "` section"
  | .malformedRecord suite e => "Malformed record in `" ++ suite.key ++ "`: " ++ e.message

/-- What lies behind a load error. -/
def LoadError.cause? : LoadError → Option String
  | .invalidJson e => some e.message
  | .missingSection _ => none
  | .malformedRecord _ e => some e.message

namespace Document

/-- The section of a suite in a document; a document that is no object has none. -/
def sectionOf (suite : Suite) : Value → Option Value
  | .object members => find? suite.key members
  | _ => none

/-- Reads the cases of a suite. -/
def casesOf (I : Type) [CaseInputs I] (root : Value) : Except LoadError (List (TestCase I)) :=
  let suite := CaseInputs.suite I
  match sectionOf suite root with
  | none => .error (.missingSection suite)
  | some value => (value.asList TestCase.ofValue).mapError (.malformedRecord suite)

/-- The document that a JSON value stands for. -/
def ofValue (root : Value) : Except LoadError Document := do
  let binaryCases ← casesOf BinaryInputs root
  let atCases ← casesOf AtInputs root
  return ⟨binaryCases, atCases⟩

/-- Reads a document from its text. -/
def load (text : String) : Except LoadError Document := do
  let root ← (Value.parse text).mapError .invalidJson
  ofValue root

end Document

end Concord
