import ObjectStorage.Act
import ObjectStorage.Application
import ObjectStorage.Application.Steps
import ObjectStorage.BucketStore
import ObjectStorage.Client.Options
import ObjectStorage.Client.Parameters
import ObjectStorage.Client.Pool
import ObjectStorage.Datum.Alike
import ObjectStorage.Datum.Basic
import ObjectStorage.Datum.Reading
import ObjectStorage.Datum.Text
import ObjectStorage.Environment
import ObjectStorage.ErrorResponse
import ObjectStorage.Fault
import ObjectStorage.FaultKind
import ObjectStorage.Journal
import ObjectStorage.Json.Reader
import ObjectStorage.Json.Writer
import ObjectStorage.Location
import ObjectStorage.Log.Conversion
import ObjectStorage.Log.Field
import ObjectStorage.Log.Line
import ObjectStorage.Log.Setup
import ObjectStorage.Log.Template
import ObjectStorage.Number.Binary64
import ObjectStorage.Number.Power
import ObjectStorage.Number.Reading
import ObjectStorage.Number.Rounded
import ObjectStorage.Number.Shortest
import ObjectStorage.Readiness
import ObjectStorage.Router
import ObjectStorage.Scene
import ObjectStorage.Service
import ObjectStorage.Service.Target
import ObjectStorage.Session
import ObjectStorage.Settings
import ObjectStorage.Sink
import ObjectStorage.Sink.Operation
import ObjectStorage.Sink.Trial
import ObjectStorage.Stack
import ObjectStorage.Store
import ObjectStorage.Text.Blank
import ObjectStorage.Text.CaseContext
import ObjectStorage.Text.Casing
import ObjectStorage.Text.Digit
import ObjectStorage.Text.Lines
import ObjectStorage.Text.Order
import ObjectStorage.Text.Percent
import ObjectStorage.Text.Printable
import ObjectStorage.Text.Quoted
import ObjectStorage.Text.Surrogate
import ObjectStorage.Text.Utf8
import ObjectStorage.Throttling
import ObjectStorage.Time.Duration
import ObjectStorage.Time.Instant
import ObjectStorage.World
import ObjectStorage.Text.Hex
import ObjectStorage.Proofs.Backoff
import ObjectStorage.Proofs.Boundary.Batches
import ObjectStorage.Proofs.Boundary.Facade
import ObjectStorage.Proofs.Clients.Closing
import ObjectStorage.Proofs.Clients.Sharing
import ObjectStorage.Proofs.Delete.Attempt
import ObjectStorage.Proofs.Delete.Batch
import ObjectStorage.Proofs.Delete.BestEffort
import ObjectStorage.Proofs.Delete.KeyErrors
import ObjectStorage.Proofs.Dialogue
import ObjectStorage.Proofs.Grouping
import ObjectStorage.Proofs.Locations.Reading
import ObjectStorage.Proofs.Objects.Calls
import ObjectStorage.Proofs.Objects.Refinement
import ObjectStorage.Proofs.Routing.Turns
import ObjectStorage.Proofs.Sink.Commit
import ObjectStorage.Proofs.Surfacing
import ObjectStorage.Proofs.Routing.Merging
import ObjectStorage.Proofs.Routing.Screening
import ObjectStorage.Proofs.Boundary.Refusals
import ObjectStorage.Proofs.Clients.Asking
import ObjectStorage.Proofs.Clients.Addressing
import ObjectStorage.Proofs.Routing.Transparency
import ObjectStorage.Proofs.Routing.Naming
import ObjectStorage.Proofs.Resuming.Resumption
import ObjectStorage.Proofs.Secrecy.Sessions
import ObjectStorage.Proofs.Locations.Grammar
import ObjectStorage.Proofs.Locations.Printing
import ObjectStorage.Proofs.Counting.Operations
import ObjectStorage.Proofs.Delete.Convergence
import ObjectStorage.Proofs.Stacks.Lifecycle
import ObjectStorage.Proofs.Locations.Descent
import ObjectStorage.Proofs.Verdicts
import ObjectStorage.Proofs.Configuration.Gaps
import ObjectStorage.Proofs.Sink.Phases
import ObjectStorage.Proofs.Boundary.Reraising
import ObjectStorage.Proofs.Configuration.Seconds
import ObjectStorage.Proofs.Configuration.Usability
import ObjectStorage.Proofs.Counting.Rejections
import ObjectStorage.Proofs.Routing.Registrations
import ObjectStorage.Proofs.Readiness
