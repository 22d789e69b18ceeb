import Overrule.Text.Utf8
import Overrule.Text.Blank
import Overrule.Text.UpperCase
import Overrule.Text.Cells
import Overrule.Document
import Overrule.Collision
import Overrule.Files.Tree
import Overrule.Validation
import Overrule.Json
import Overrule.Report.Sink
import Overrule.Report.Paint
import Overrule.Report.Lines
import Overrule.Report.Document
import Overrule.Table.Wrap
import Overrule.Report.Summary
import Overrule.Log.Line
import Overrule.Program
import Overrule.Main
import Overrule.Proofs.Directive.Grammar
import Overrule.Proofs.Validation.Prescription
import Overrule.Proofs.Collision.Concatenation
import Overrule.Proofs.Collision.Signature
import Overrule.Proofs.Collision.Deletion
import Overrule.Proofs.Document.RawLines
import Overrule.Proofs.Document.NormalForm
import Overrule.Proofs.Files.Append
import Overrule.Proofs.Run.Steps
import Overrule.Proofs.Report.Document
import Overrule.Proofs.Run.Status
import Overrule.Proofs.Collision.Order
import Overrule.Proofs.Collision.Nesting
import Overrule.Proofs.Log.Threshold
import Overrule.Proofs.Run.Lines
import Overrule.Proofs.Run.Log
import Overrule.Proofs.Json.Grammar
import Overrule.Proofs.Json.Reader
import Overrule.Proofs.Json.Written
import Overrule.Proofs.Report.RoundTrip
import Overrule.Proofs.Flags.Tokens
import Overrule.Proofs.Flags.Last
import Overrule.Proofs.Directive.Spelling
import Overrule.Proofs.Report.Truncation
import Overrule.Proofs.Report.Summary
import Overrule.Proofs.Report.ReadBack
import Overrule.Proofs.Text.Escape
import Overrule.Proofs.Report.Colour
import Overrule.Proofs.Document.LineEnds
import Overrule.Proofs.Run.Levels
import Overrule.Proofs.Validation.Trace
import Overrule.Proofs.Run.Cutoff
