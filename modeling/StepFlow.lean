import StepFlow.Text.Blank
import StepFlow.Text.Lines
import StepFlow.Text.Word
import StepFlow.Text.Case
import StepFlow.Text.Digit
import StepFlow.Text.Quoted
import StepFlow.Text.Find
import StepFlow.Double.Shortest
import StepFlow.Entries
import StepFlow.Calendar.Text
import StepFlow.Value.Display
import StepFlow.Value.Number
import StepFlow.Schema.Synthesis
import StepFlow.Schema.Check
import StepFlow.Diagram.Reading
import StepFlow.Definition.Check
import StepFlow.Definition.Order
import StepFlow.Definition.Drawing
import StepFlow.Process.Assembly
import StepFlow.Model.Definition
import StepFlow.Export.Json
import StepFlow.Export.Yaml
import StepFlow.Document.ProcessMap
import StepFlow.Document.Canvas
import StepFlow.Process.Compile
import StepFlow.Scenario.Basic
import StepFlow.Model.Canvas
import StepFlow.Session
import StepFlow.Proofs.Definition.Order
import StepFlow.Proofs.Process.Recompile
import StepFlow.Proofs.Diagram.Node
import StepFlow.Proofs.Entries
import StepFlow.Proofs.Diagram.Joining
import StepFlow.Proofs.Diagram.Written
import StepFlow.Proofs.Diagram.Frame
import StepFlow.Proofs.Diagram.RoundTrip
import StepFlow.Proofs.Process.Appending
import StepFlow.Proofs.Double.Integer
import StepFlow.Proofs.Condition.Threshold
import StepFlow.Proofs.Scenario.Listing
import StepFlow.Proofs.Scenario.Soundness
import StepFlow.Proofs.Process.LineLimit
import StepFlow.Proofs.Definition.Row
import StepFlow.Proofs.Process.Reordering
import StepFlow.Proofs.Scenario.Combined
import StepFlow.Proofs.Double.Range
import StepFlow.Proofs.Value.Plain
import StepFlow.Proofs.Condition.Unfit
import StepFlow.Proofs.Scenario.Unfit
import StepFlow.Proofs.Definition.Verdict
import StepFlow.Proofs.Definition.Precedence
import StepFlow.Proofs.Process.Connecting
import StepFlow.Proofs.Schema.Sample
import StepFlow.Proofs.Process.Tally
import StepFlow.Proofs.Process.Mocks
import StepFlow.Proofs.Diagram.ChainReading
import StepFlow.Proofs.Diagram.WellFormed
import StepFlow.Proofs.Process.LayoutReading
import StepFlow.Proofs.Condition.Wording
import StepFlow.Proofs.Scenario.Framing
import StepFlow.Proofs.Double.Decimal
import StepFlow.Proofs.Value.Short
import StepFlow.Proofs.Condition.Comparing
import StepFlow.Proofs.Condition.Written
import StepFlow.Proofs.Definition.Resorting
import StepFlow.Proofs.Process.Promoting
import StepFlow.Proofs.Process.Resolving
