import HandlerBundle.Annotation.Assignable
import HandlerBundle.Annotation.Display
import HandlerBundle.Annotation.Hint
import HandlerBundle.Binding.Candidate
import HandlerBundle.Binding.Resolution
import HandlerBundle.Closure.Capture
import HandlerBundle.Closure.Compute
import HandlerBundle.Failure
import HandlerBundle.Handler.Callable
import HandlerBundle.Host.Call
import HandlerBundle.Host.Restore
import HandlerBundle.Host.Value
import HandlerBundle.Journal.Entry
import HandlerBundle.Journal.Instant
import HandlerBundle.Journal.Line
import HandlerBundle.Journal.Message
import HandlerBundle.Journal.Origin
import HandlerBundle.Journal.Session
import HandlerBundle.Json.Reader
import HandlerBundle.Loader.Interpreter
import HandlerBundle.Loader.Language
import HandlerBundle.Loader.Program
import HandlerBundle.Loader.Source
import HandlerBundle.Module.Table
import HandlerBundle.Number.Octets
import HandlerBundle.Number.Rounded
import HandlerBundle.Number.Shortest
import HandlerBundle.Object.Comparison
import HandlerBundle.Object.Display
import HandlerBundle.Object.Walk
import HandlerBundle.Object.Wrapper
import HandlerBundle.Object.Written
import HandlerBundle.Package.Artifact
import HandlerBundle.Package.Batch
import HandlerBundle.Package.Concurrent
import HandlerBundle.Package.Manifest
import HandlerBundle.Package.Pool
import HandlerBundle.Package.Steps
import HandlerBundle.Proofs.Annotation.Absence
import HandlerBundle.Proofs.Annotation.Assignable
import HandlerBundle.Proofs.Annotation.Equality
import HandlerBundle.Proofs.Annotation.Naming
import HandlerBundle.Proofs.Annotation.Spelling
import HandlerBundle.Proofs.Annotation.Transitivity
import HandlerBundle.Proofs.Binding.Candidate
import HandlerBundle.Proofs.Binding.Manifest
import HandlerBundle.Proofs.Binding.Order
import HandlerBundle.Proofs.Binding.Plan
import HandlerBundle.Proofs.Binding.Resolution
import HandlerBundle.Proofs.Binding.Result
import HandlerBundle.Proofs.Closure.AllowList
import HandlerBundle.Proofs.Closure.Capture
import HandlerBundle.Proofs.Closure.Compute
import HandlerBundle.Proofs.Closure.Exclusion
import HandlerBundle.Proofs.Closure.Parents
import HandlerBundle.Proofs.Closure.Reachability
import HandlerBundle.Proofs.Closure.Sweep
import HandlerBundle.Proofs.Handler.Call
import HandlerBundle.Proofs.Handler.Describe
import HandlerBundle.Proofs.Handler.Signature
import HandlerBundle.Proofs.Handler.Unsupported
import HandlerBundle.Proofs.Host.Installation
import HandlerBundle.Proofs.Host.Malformed
import HandlerBundle.Proofs.Host.Restore
import HandlerBundle.Proofs.Journal.Entry
import HandlerBundle.Proofs.Journal.Line
import HandlerBundle.Proofs.Journal.OneLine
import HandlerBundle.Proofs.Json.Member
import HandlerBundle.Proofs.Json.Reader
import HandlerBundle.Proofs.Json.Scalar
import HandlerBundle.Proofs.Loader.Arguments
import HandlerBundle.Proofs.Loader.Call
import HandlerBundle.Proofs.Loader.Import
import HandlerBundle.Proofs.Loader.Interpreter
import HandlerBundle.Proofs.Loader.Program
import HandlerBundle.Proofs.Loader.Signature
import HandlerBundle.Proofs.Module.Archive
import HandlerBundle.Proofs.Module.Layout
import HandlerBundle.Proofs.Number.Octets
import HandlerBundle.Proofs.Object.Coverage
import HandlerBundle.Proofs.Object.Layers
import HandlerBundle.Proofs.Object.Reachability
import HandlerBundle.Proofs.Object.Traversal
import HandlerBundle.Proofs.Object.Walk
import HandlerBundle.Proofs.Package.Abort
import HandlerBundle.Proofs.Package.Agreement
import HandlerBundle.Proofs.Package.Allocation
import HandlerBundle.Proofs.Package.Artifact
import HandlerBundle.Proofs.Package.Batch
import HandlerBundle.Proofs.Package.Capture
import HandlerBundle.Proofs.Package.Completeness
import HandlerBundle.Proofs.Package.Concurrent
import HandlerBundle.Proofs.Package.Entries
import HandlerBundle.Proofs.Package.EventLog
import HandlerBundle.Proofs.Package.FileTree
import HandlerBundle.Proofs.Package.Guarantee
import HandlerBundle.Proofs.Package.Interleaving
import HandlerBundle.Proofs.Package.Isolation
import HandlerBundle.Proofs.Package.ManifestText
import HandlerBundle.Proofs.Package.Minting
import HandlerBundle.Proofs.Package.Mirror
import HandlerBundle.Proofs.Package.Pool
import HandlerBundle.Proofs.Package.Settings
import HandlerBundle.Proofs.Package.Steps
import HandlerBundle.Proofs.Package.Synthesis
import HandlerBundle.Proofs.Package.Telling
import HandlerBundle.Proofs.Package.Workspace
import HandlerBundle.Proofs.Run
import HandlerBundle.Proofs.Search
import HandlerBundle.Proofs.Source.Import
import HandlerBundle.Proofs.Text.Dotted
import HandlerBundle.Proofs.Text.OneLine
import HandlerBundle.Proofs.Text.Quoted
import HandlerBundle.Proofs.Text.Utf8
import HandlerBundle.Snapshot.Frame
import HandlerBundle.Snapshot.Load
import HandlerBundle.Snapshot.Save
import HandlerBundle.Source.Encoding
import HandlerBundle.Source.Expression
import HandlerBundle.Source.Import
import HandlerBundle.Source.Literal
import HandlerBundle.Source.Token
import HandlerBundle.Text.Blank
import HandlerBundle.Text.Casing
import HandlerBundle.Text.Composed
import HandlerBundle.Text.Digit
import HandlerBundle.Text.Identifier
import HandlerBundle.Text.Numeral
import HandlerBundle.Text.Printable
import HandlerBundle.Text.Quoted
import HandlerBundle.Text.Template
import HandlerBundle.Text.Utf8
