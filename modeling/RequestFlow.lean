import RequestFlow.Text.CharSet
import RequestFlow.Text.Blank
import RequestFlow.Text.Word
import RequestFlow.Text.Printable
import RequestFlow.Text.Digit
import RequestFlow.Text.Casing
import RequestFlow.Numeral.Double
import RequestFlow.Numeral.Shortest
import RequestFlow.Numeral.Reading
import RequestFlow.Text.Quoted
import RequestFlow.Assoc
import RequestFlow.Value.Basic
import RequestFlow.Value.Text
import RequestFlow.Fault
import RequestFlow.Json.Reader
import RequestFlow.Json.Printer
import RequestFlow.Template.Reference
import RequestFlow.Flow.Memory
import RequestFlow.Flow.Request
import RequestFlow.Template.Resolve
import RequestFlow.Text.Utf8
import RequestFlow.Text.Percent
import RequestFlow.Route.Path
import RequestFlow.Route.Pattern
import RequestFlow.Graph.Node
import RequestFlow.Graph.Basic
import RequestFlow.Graph.Document
import RequestFlow.Graph.Entry
import RequestFlow.Flow.Transition
import RequestFlow.Flow.Session
import RequestFlow.Walk.Outcome
import RequestFlow.Walk.Traversal
import RequestFlow.Walk.Basic
import RequestFlow.Json.Embedded
import RequestFlow.Nodes.Variable
import RequestFlow.Nodes.Entry
import RequestFlow.Nodes.Respond
import RequestFlow.Nodes.Loop
import RequestFlow.Pattern.Expression
import RequestFlow.Pattern.Fold
import RequestFlow.Pattern.Reader
import RequestFlow.Pattern.Search
import RequestFlow.Text.Mark
import RequestFlow.Text.Composition
import RequestFlow.Text.Normal
import RequestFlow.Domain.Mapping
import RequestFlow.Domain.Permitted
import RequestFlow.Domain.Direction
import RequestFlow.Domain.Punycode
import RequestFlow.Domain.Name
import RequestFlow.Email.Address
import RequestFlow.Rules.Basic
import RequestFlow.Nodes.Validation
import RequestFlow.Nodes.Builtin
import RequestFlow.Files.Location
import RequestFlow.Files.Tree
import RequestFlow.Files.Content
import RequestFlow.Registry.Package
import RequestFlow.Registry.Basic
import RequestFlow.Registry.Manifest
import RequestFlow.Registry.Lookup
import RequestFlow.Settings.Basic
import RequestFlow.Engine.Basic
import RequestFlow.Engine.Run
import RequestFlow.Engine.Handle
import RequestFlow.Text.Wide
import RequestFlow.Http.Body
import RequestFlow.Http.Message
import RequestFlow.Http.Server
import RequestFlow.Numeral.Places
import RequestFlow.Logging.Directive
import RequestFlow.Logging.Ansi
import RequestFlow.Logging.Record
import RequestFlow.Logging.Line
import RequestFlow.Logging.Setup
import RequestFlow.Cli.Arguments
import RequestFlow.Cli.Command
import RequestFlow.Cli.Run
import RequestFlow.Main
import RequestFlow.Proofs.Walk.Arrival
import RequestFlow.Proofs.Walk.Visit
import RequestFlow.Proofs.Walk.Record
import RequestFlow.Proofs.Json.Token
import RequestFlow.Proofs.Json.RoundTrip
import RequestFlow.Proofs.Json.Ascii
import RequestFlow.Proofs.Logging.Line
import RequestFlow.Proofs.Template.Reference
import RequestFlow.Proofs.Template.Splice
import RequestFlow.Proofs.Template.Occurrence
import RequestFlow.Proofs.Walk.Execution
import RequestFlow.Proofs.Walk.Finishing
import RequestFlow.Proofs.Nodes.Builtin
import RequestFlow.Proofs.Nodes.Unreported
import RequestFlow.Proofs.Registry.Builtins
import RequestFlow.Proofs.Walk.Failure
import RequestFlow.Proofs.Assoc
import RequestFlow.Proofs.Flow.Alike
import RequestFlow.Proofs.Graph.Reach
import RequestFlow.Proofs.Nodes.Alike
import RequestFlow.Proofs.Walk.Alike
import RequestFlow.Proofs.Walk.Locality
import RequestFlow.Proofs.Registry.Source
import RequestFlow.Proofs.Engine.Built
import RequestFlow.Proofs.Engine.Isolation
import RequestFlow.Proofs.Flow.Ensures
import RequestFlow.Proofs.Json.Writable
import RequestFlow.Proofs.Flow.Writable
import RequestFlow.Proofs.Graph.Document
import RequestFlow.Proofs.Template.Overlong
import RequestFlow.Proofs.Nodes.Writable
import RequestFlow.Proofs.Walk.Raises
import RequestFlow.Proofs.Engine.Response
import RequestFlow.Proofs.Flow.Growth
import RequestFlow.Proofs.Walk.Growth
import RequestFlow.Proofs.Walk.Refusal
import RequestFlow.Proofs.Registry.Provision
import RequestFlow.Proofs.Registry.History
import RequestFlow.Proofs.Registry.Failure
import RequestFlow.Proofs.Json.Digits
import RequestFlow.Proofs.Text.Cut
import RequestFlow.Proofs.Registry.Discovery
import RequestFlow.Proofs.Text.Utf8
import RequestFlow.Proofs.Text.Percent
import RequestFlow.Proofs.Route.Segments
import RequestFlow.Proofs.Route.Target
import RequestFlow.Proofs.Http.Parameters
import RequestFlow.Proofs.Engine.Tables
import RequestFlow.Proofs.Engine.Diagnostics
import RequestFlow.Proofs.Template.Reached
import RequestFlow.Proofs.Template.Substitution
import RequestFlow.Proofs.Nodes.Sequence
import RequestFlow.Proofs.Nodes.Judgement
import RequestFlow.Proofs.Graph.Start
import RequestFlow.Proofs.Route.Build
import RequestFlow.Proofs.Graph.Slashes
import RequestFlow.Proofs.Numeral.Overflow
import RequestFlow.Proofs.Numeral.Recognition
import RequestFlow.Proofs.Pattern.Refusal
import RequestFlow.Proofs.Rules.Failure
import RequestFlow.Proofs.Template.Resolved
import RequestFlow.Proofs.Numeral.Rounding
import RequestFlow.Proofs.Numeral.Whole
import RequestFlow.Proofs.Rules.Bounds
import RequestFlow.Proofs.Walk.Trace
import RequestFlow.Proofs.Logging.Colours
import RequestFlow.Proofs.Flow.Recording
import RequestFlow.Proofs.Graph.Entries
import RequestFlow.Proofs.Engine.Nodes
import RequestFlow.Proofs.Nodes.Subject
