import Concord.Main
import Concord.Proofs.Attribution
import Concord.Proofs.Binary64.Exact
import Concord.Proofs.Binary64.Nearest
import Concord.Proofs.Binary64.Neighbours
import Concord.Proofs.Binary64.Order
import Concord.Proofs.Binary64.Rounding
import Concord.Proofs.Binary64.Shortest
import Concord.Proofs.CommandLine.Run
import Concord.Proofs.CommandLine.Saving
import Concord.Proofs.CommandLine.Verdicts
import Concord.Proofs.Configured
import Concord.Proofs.Display.Decoration
import Concord.Proofs.Display.Details
import Concord.Proofs.Display.SameText
import Concord.Proofs.Display.Summary
import Concord.Proofs.Fallible
import Concord.Proofs.Files.Atomic
import Concord.Proofs.Files.Parent
import Concord.Proofs.Files.Replace
import Concord.Proofs.Files.Tree
import Concord.Proofs.Interval
import Concord.Proofs.Json.Content
import Concord.Proofs.Json.Controls
import Concord.Proofs.Json.FloatText
import Concord.Proofs.Json.Grammar
import Concord.Proofs.Json.LayoutText
import Concord.Proofs.Json.Meaning
import Concord.Proofs.Json.Members
import Concord.Proofs.Json.Numeral
import Concord.Proofs.Json.NumeralText
import Concord.Proofs.Json.Ordered
import Concord.Proofs.Json.ReadValues
import Concord.Proofs.Json.ReaderSteps
import Concord.Proofs.Json.Reordered
import Concord.Proofs.Json.RoundTrip
import Concord.Proofs.Json.Sameness
import Concord.Proofs.Json.Shape
import Concord.Proofs.Json.ShortNumeral
import Concord.Proofs.Json.Source
import Concord.Proofs.Json.Spelling
import Concord.Proofs.Json.StringText
import Concord.Proofs.Json.Unambiguous
import Concord.Proofs.LogText
import Concord.Proofs.Suite.Concatenation
import Concord.Proofs.Suite.DocumentShape
import Concord.Proofs.Suite.Events
import Concord.Proofs.Suite.Influence
import Concord.Proofs.Suite.Loading
import Concord.Proofs.Suite.Mirror
import Concord.Proofs.Suite.Outcome
import Concord.Proofs.Suite.Partition
import Concord.Proofs.Suite.Positions
import Concord.Proofs.Suite.RecordedNumbers
import Concord.Proofs.Suite.Reference
import Concord.Proofs.Suite.ReportText
import Concord.Proofs.Suite.Respelling
import Concord.Proofs.Suite.SameCase
import Concord.Proofs.Suite.Split
import Concord.Proofs.Suite.SuccessRate
import Concord.Proofs.Suite.Trace
import Concord.Proofs.Text.Lines
import Concord.Proofs.Text.Quoted
