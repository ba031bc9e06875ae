import Gamecode.Assembler
import Gamecode.Builtin.Entities
import Gamecode.Builtin.Report
import Gamecode.Builtin.Standard
import Gamecode.Builtin.Texts
import Gamecode.CallStack
import Gamecode.Cells
import Gamecode.Checksum
import Gamecode.CommandLine.Flag
import Gamecode.CommandLine.Invocation
import Gamecode.CommandLine.Run
import Gamecode.Configuration
import Gamecode.Configuration.Document
import Gamecode.Console
import Gamecode.EntityStore
import Gamecode.Fault
import Gamecode.Files
import Gamecode.Files.Directory
import Gamecode.Files.Path
import Gamecode.Globals
import Gamecode.Host
import Gamecode.Image.Check
import Gamecode.Image.Decode
import Gamecode.Image.Encode
import Gamecode.Image.Record
import Gamecode.Json.Document
import Gamecode.Json.Node
import Gamecode.Json.Reader
import Gamecode.Listing
import Gamecode.Machine.Calls
import Gamecode.Machine.Native
import Gamecode.Machine.Run
import Gamecode.Machine.State
import Gamecode.Machine.Step
import Gamecode.Main
import Gamecode.Number.Binary
import Gamecode.Number.Decimal
import Gamecode.Number.Numeral
import Gamecode.Number.Plain
import Gamecode.Number.Whole
import Gamecode.Opcode
import Gamecode.Profile
import Gamecode.Program
import Gamecode.Region
import Gamecode.Session.Command
import Gamecode.Session.Conversation
import Gamecode.Session.Inspection
import Gamecode.Session.Request
import Gamecode.Session.State
import Gamecode.Slot
import Gamecode.Snapshot
import Gamecode.Snapshot.Document
import Gamecode.Statement
import Gamecode.StringHeap
import Gamecode.Text.Blank
import Gamecode.Text.Cluster
import Gamecode.Text.ClusterClass
import Gamecode.Text.CodeRange
import Gamecode.Text.Erasure
import Gamecode.Text.Extending
import Gamecode.Text.Lines
import Gamecode.Text.Lossy
import Gamecode.Text.Padding
import Gamecode.Text.Printable
import Gamecode.Text.Quoted
import Gamecode.Text.Terminated
import Gamecode.Text.Words
import Gamecode.Value
import Gamecode.ValueType
import Gamecode.Vector3
import Gamecode.Proofs.Calls.Convention
import Gamecode.Proofs.Calls.Refinement
import Gamecode.Proofs.Storage.Entities
import Gamecode.Proofs.Storage.Footprint
import Gamecode.Proofs.Run
import Gamecode.Proofs.Storage.Strings
import Gamecode.Proofs.Image.Assembled
import Gamecode.Proofs.Guard.Faults
import Gamecode.Proofs.Guard.Count
import Gamecode.Proofs.Guard.Lockstep
import Gamecode.Proofs.Guard.Runaway
import Gamecode.Proofs.Image.Layout
import Gamecode.Proofs.Image.WellFormed
import Gamecode.Proofs.Image.Canonical
import Gamecode.Proofs.Snapshot.Accepted
import Gamecode.Proofs.Storage.Interned
import Gamecode.Proofs.Text.Encoding
import Gamecode.Proofs.Snapshot.Restored
import Gamecode.Proofs.Storage.Lifecycle
import Gamecode.Proofs.Snapshot.Fields
import Gamecode.Proofs.Storage.Temporaries
import Gamecode.Proofs.Snapshot.Revived
import Gamecode.Proofs.Json.Numerals
import Gamecode.Proofs.Json.Floats
import Gamecode.Proofs.Json.Documents
import Gamecode.Proofs.Snapshot.Reloaded
import Gamecode.Proofs.Storage.Pointers
import Gamecode.Proofs.Storage.Wraparound
import Gamecode.Proofs.Calls.History
import Gamecode.Proofs.Calls.Reentry
import Gamecode.Proofs.Storage.World
import Gamecode.Proofs.Paired.Actions
import Gamecode.Proofs.Paired.Runs
import Gamecode.Proofs.Paired.Builtins
import Gamecode.Proofs.Paired.Limits
import Gamecode.Proofs.Paired.Reset
import Gamecode.Proofs.Reports.Journal
import Gamecode.Proofs.Reports.Trace
import Gamecode.Proofs.Reports.Counters
import Gamecode.Proofs.Storage.Iteration
import Gamecode.Proofs.Snapshot.Stopped
import Gamecode.Proofs.Image.Sufficient
import Gamecode.Proofs.Paired.Bookkeeping
import Gamecode.Proofs.Storage.Permanent
import Gamecode.Proofs.Text.Replacing
import Gamecode.Proofs.Storage.Joining
import Gamecode.Proofs.Assembly.Windows
import Gamecode.Proofs.Assembly.Declared
import Gamecode.Proofs.Assembly.Branches
import Gamecode.Proofs.Assembly.Granted
import Gamecode.Proofs.Image.Detected
import Gamecode.Proofs.Session.Assigned
import Gamecode.Proofs.Number.Grid
import Gamecode.Proofs.Number.Nearest
import Gamecode.Proofs.Number.Leading
import Gamecode.Proofs.Number.Displayed
import Gamecode.Proofs.Session.Typed
