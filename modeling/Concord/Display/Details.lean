import Concord.Display.Style
import Concord.Report

/-!
# The details of a report

The details show the first divergences of each suite, each as a block: the inputs, and under the
names of the implementations their outputs, which start in one column. A suite without divergences
shows nothing.
-/

namespace Concord.Display

/-- The text with blanks appended up to a width in characters. -/
def padRight (width : Nat) (text : String) : String :=
  text ++ String.ofList (List.replicate (width - text.length) ' ')

/-- The width of the column of names: the size of the longer name in bytes, and a colon. -/
def nameWidth (set : ImplementationSet) : Nat :=
  max set.a.name.utf8ByteSize set.b.name.utf8ByteSize + 1

/-- The line with one implementation's output. -/
def outputLine (color : Bool) (width : Nat) (name : String) (output : Json.Value) : String :=
  "  " ++ padRight width (name ++ ":") ++ " " ++ Style.red.apply color (displayValue output) ++ "\n"

section

variable {I : Type} [CaseInputs I]

/-- The block of one divergence. -/
def divergenceBlock (color : Bool) (set : ImplementationSet) (d : Divergence I) : String :=
  let inputLine (input : String × String) := "  " ++ input.1 ++ ": " ++ input.2 ++ "\n"
  "Case " ++ toString d.caseNumber ++ ": " ++ Style.bold.apply color d.operation ++ "\n" ++
    String.join ((CaseInputs.shown d.inputs).map inputLine) ++
    outputLine color (nameWidth set) set.a.name d.outputA ++
    outputLine color (nameWidth set) set.b.name d.outputB

/-- The first divergences of a suite under a title, and how many more there are. -/
def suiteDetails (color : Bool) (set : ImplementationSet) (limit : Nat) (title : String)
    (divergences : List (Divergence I)) : String :=
  if divergences.isEmpty then ""
  else
    let block (d : Divergence I) := divergenceBlock color set d ++ "\n"
    Style.bold.apply color title ++ "\n" ++
      String.join ((divergences.take limit).map block) ++
      (if limit < divergences.length then
        "  " ++
          Style.dimmed.apply color
            ("... " ++ toString (divergences.length - limit) ++ " more") ++ "\n"
      else "")

end

/-- Whether there is nothing to show. -/
def detailsEmpty (report : Report) : Bool :=
  report.binaryDifferences.isEmpty && report.atDifferences.isEmpty

/-- The details of a report, at most `limit` divergences a suite. -/
def details (color : Bool) (set : ImplementationSet) (limit : Nat) (report : Report) : String :=
  suiteDetails color set limit "=== Binary Operation Differences ===" report.binaryDifferences ++
    suiteDetails color set limit "=== At Operation Differences ===" report.atDifferences

end Concord.Display
