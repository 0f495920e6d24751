import CallLight.Text.Basic
import CallLight.Text.Blank
import CallLight.Text.Fold
import CallLight.Text.Printable
import CallLight.Text.Integer
import CallLight.Text.Quoted
import CallLight.Position
import CallLight.Cancellation
import CallLight.Script.Word
import CallLight.Script.Tokens
import CallLight.Token.Basic
import CallLight.Token.Data
import CallLight.Document.Uri
import CallLight.Document.Change
import CallLight.Document.Store
import CallLight.Glob.Syntax
import CallLight.Glob.Match
import CallLight.Log.Level
import CallLight.Config.Basic
import CallLight.Text.Table
import CallLight.Text.Identifier
import CallLight.Text.Normal.Data
import CallLight.Text.Normal
import CallLight.Number.Binary
import CallLight.Number.Decimal
import CallLight.Config.Hcl.Token
import CallLight.Config.Hcl.Value
import CallLight.Config.Hcl.Convert
import CallLight.Config.Hcl.Syntax
import CallLight.Config.Hcl.Template
import CallLight.Config.Hcl.Parser
import CallLight.Config.Hcl.Eval
import CallLight.Config.Hcl.Decode
import CallLight.Config.Yaml.Cursor
import CallLight.Config.Yaml.Scalar
import CallLight.Config.Yaml.Tag
import CallLight.Config.Yaml.Scanner
import CallLight.Config.Yaml.Parser
import CallLight.Config.Yaml.Resolve
import CallLight.Config.Yaml.Decode
import CallLight.Config.Parse
import CallLight.Json.Basic
import CallLight.Json.Parse
import CallLight.Log.Caller
import CallLight.Log.Record
import CallLight.Log.Console
import CallLight.Log.Forward
import CallLight.Rpc.Failure
import CallLight.Files.Basic
import CallLight.Files.Path
import CallLight.Files.Walk
import CallLight.Files.Tree
import CallLight.Config.Load
import CallLight.Command.Flag
import CallLight.Command.Invocation
import CallLight.Command.Resolve
import CallLight.Command.Report
import CallLight.Command.Tokens
import CallLight.Command.Help
import CallLight.Command.Serve
import CallLight.Command.Program
import CallLight.Json.Reader
import CallLight.Rpc.Frame
import CallLight.Rpc.Request
import CallLight.Server.Message
import CallLight.Server.Basic
import CallLight.Server.Reply
import CallLight.Server.Connection
import CallLight.Log.Clock
import CallLight.Main
import CallLight.Proofs.Text.Utf8
import CallLight.Proofs.Text.Runes
import CallLight.Proofs.Position.Lines
import CallLight.Proofs.Position.Offsets
import CallLight.Proofs.Position.RoundTrip
import CallLight.Proofs.Document.Buffer
import CallLight.Proofs.Document.Store
import CallLight.Proofs.Server.Documents
import CallLight.Proofs.Server.Editor
import CallLight.Proofs.Script.Shapes
import CallLight.Proofs.Script.Sweep
import CallLight.Proofs.Script.Calls
import CallLight.Proofs.Script.Declarations
import CallLight.Proofs.Token.Data
import CallLight.Proofs.Token.Schedules
import CallLight.Proofs.Token.Marks
import CallLight.Proofs.Document.History
import CallLight.Proofs.Script.Checks
import CallLight.Proofs.Script.Keywords
import CallLight.Proofs.Server.Changes
import CallLight.Proofs.Server.Requests
import CallLight.Proofs.Server.Ranges
import CallLight.Proofs.Server.Sessions
import CallLight.Proofs.Server.Shutdown
import CallLight.Proofs.Server.Isolation
import CallLight.Proofs.Position.Boundaries
import CallLight.Proofs.Position.Snapping
import CallLight.Proofs.Position.Walk
import CallLight.Proofs.Server.WellFormed
import CallLight.Proofs.Position.Endings
import CallLight.Proofs.Script.Endings
import CallLight.Proofs.Server.Backward
import CallLight.Proofs.Server.Refusals
import CallLight.Proofs.Script.Patterns
import CallLight.Proofs.Script.Slices
import CallLight.Proofs.Command.Reports
import CallLight.Proofs.Command.Resolve
import CallLight.Proofs.Command.Tokens
import CallLight.Proofs.Log.Forwarding
