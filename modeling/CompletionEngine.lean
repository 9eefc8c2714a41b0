import CompletionEngine.Address.Basic
import CompletionEngine.Address.Block
import CompletionEngine.Bytes
import CompletionEngine.Descriptor
import CompletionEngine.Document.Basic
import CompletionEngine.Document.Commands
import CompletionEngine.Document.Scripts
import CompletionEngine.Document.Values
import CompletionEngine.Engine.Calls
import CompletionEngine.Engine.Delivery
import CompletionEngine.Engine.Requests
import CompletionEngine.Engine.Staging
import CompletionEngine.Engine.State
import CompletionEngine.Engine.Step
import CompletionEngine.Engine.Task
import CompletionEngine.ErrorNumber
import CompletionEngine.Failure
import CompletionEngine.File.Path
import CompletionEngine.File.Status
import CompletionEngine.Flags.Basic
import CompletionEngine.Flags.Catalogue
import CompletionEngine.Inbox.Basic
import CompletionEngine.Memory.Buffer
import CompletionEngine.Memory.Place
import CompletionEngine.Operation.Basic
import CompletionEngine.Operation.Catalogue
import CompletionEngine.Operation.File
import CompletionEngine.Operation.Kind
import CompletionEngine.Operation.Socket
import CompletionEngine.Operation.Timer
import CompletionEngine.Operation.Transfer
import CompletionEngine.Platform.Basic
import CompletionEngine.Platform.EventNotifier
import CompletionEngine.Platform.Sockets
import CompletionEngine.Platform.System
import CompletionEngine.Platform.SystemRing
import CompletionEngine.Promise.Basic
import CompletionEngine.Promise.Calls
import CompletionEngine.Promise.Store
import CompletionEngine.Proofs.Address.Codec
import CompletionEngine.Proofs.Engine.Books
import CompletionEngine.Proofs.Engine.Dealings
import CompletionEngine.Proofs.Engine.Delivery
import CompletionEngine.Proofs.Engine.Discipline
import CompletionEngine.Proofs.Engine.Endings
import CompletionEngine.Proofs.Engine.Guises
import CompletionEngine.Proofs.Engine.Inbox
import CompletionEngine.Proofs.Engine.Journal
import CompletionEngine.Proofs.Engine.Ledger
import CompletionEngine.Proofs.Engine.Parcels
import CompletionEngine.Proofs.Engine.Places
import CompletionEngine.Proofs.Engine.Requests
import CompletionEngine.Proofs.Engine.Room
import CompletionEngine.Proofs.Engine.Settled
import CompletionEngine.Proofs.Engine.Sound
import CompletionEngine.Proofs.Engine.Stack
import CompletionEngine.Proofs.Engine.Staging
import CompletionEngine.Proofs.Engine.Steps
import CompletionEngine.Proofs.Engine.Tallies
import CompletionEngine.Proofs.Engine.Tasks
import CompletionEngine.Proofs.Engine.Traffic
import CompletionEngine.Proofs.Engine.Turns
import CompletionEngine.Proofs.Engine.Vacancies
import CompletionEngine.Proofs.Flags.Bits
import CompletionEngine.Proofs.Flags.Decomposition
import CompletionEngine.Proofs.Memory.Accounting
import CompletionEngine.Proofs.Operation.Alike
import CompletionEngine.Proofs.Operation.Conclusions
import CompletionEngine.Proofs.Operation.Decoding
import CompletionEngine.Proofs.Operation.Exhaustion
import CompletionEngine.Proofs.Operation.Places
import CompletionEngine.Proofs.Operation.Rendering
import CompletionEngine.Proofs.Operation.Shown
import CompletionEngine.Proofs.Operation.Supplies
import CompletionEngine.Proofs.Platform.Handover
import CompletionEngine.Proofs.Platform.SocketTrace
import CompletionEngine.Proofs.Promise.Account
import CompletionEngine.Proofs.Promise.Awaiting
import CompletionEngine.Proofs.Promise.Cells
import CompletionEngine.Proofs.Promise.Chronicle
import CompletionEngine.Proofs.Promise.Composition
import CompletionEngine.Proofs.Promise.Derived
import CompletionEngine.Proofs.Promise.Duties
import CompletionEngine.Proofs.Promise.Founded
import CompletionEngine.Proofs.Promise.Progress
import CompletionEngine.Proofs.Promise.Resolution
import CompletionEngine.Proofs.Promise.Sound
import CompletionEngine.Proofs.Promise.Threads
import CompletionEngine.Proofs.Promise.Values
import CompletionEngine.Proofs.Promise.Wakers
import CompletionEngine.Proofs.Runs.Commissions
import CompletionEngine.Proofs.Runs.Conservation
import CompletionEngine.Proofs.Runs.Correspondence
import CompletionEngine.Proofs.Runs.Counts
import CompletionEngine.Proofs.Runs.Course
import CompletionEngine.Proofs.Runs.Custody
import CompletionEngine.Proofs.Runs.Deferral
import CompletionEngine.Proofs.Runs.Docket
import CompletionEngine.Proofs.Runs.ExactlyOnce
import CompletionEngine.Proofs.Runs.Faultless
import CompletionEngine.Proofs.Runs.Finality
import CompletionEngine.Proofs.Runs.Handles
import CompletionEngine.Proofs.Runs.HealthyRing
import CompletionEngine.Proofs.Runs.InHand
import CompletionEngine.Proofs.Runs.Manifest
import CompletionEngine.Proofs.Runs.Moves
import CompletionEngine.Proofs.Runs.Overdue
import CompletionEngine.Proofs.Runs.Rejections
import CompletionEngine.Proofs.Runs.Results
import CompletionEngine.Proofs.Runs.Scene
import CompletionEngine.Proofs.Runs.Seen
import CompletionEngine.Proofs.Runs.Shutdown
import CompletionEngine.Proofs.Runs.Signals
import CompletionEngine.Proofs.Runs.Spent
import CompletionEngine.Proofs.Runs.Stream
import CompletionEngine.Proofs.Runs.Sweeping
import CompletionEngine.Proofs.Runs.WakePoll
import CompletionEngine.Proofs.Runs.WakeUps
import CompletionEngine.Proofs.Settings.Environment
import CompletionEngine.Proofs.Slots.Allocation
import CompletionEngine.Proofs.Slots.Entry
import CompletionEngine.Proofs.Slots.InPlace
import CompletionEngine.Proofs.Slots.Lifecycle
import CompletionEngine.Proofs.Slots.Occupants
import CompletionEngine.Proofs.Slots.Places
import CompletionEngine.Proofs.Slots.Pool
import CompletionEngine.Proofs.Slots.Pools
import CompletionEngine.Proofs.Slots.Recycling
import CompletionEngine.Proofs.Slots.Tags
import CompletionEngine.Proofs.Slots.Tenancy
import CompletionEngine.Proofs.Slots.Verdicts
import CompletionEngine.Proofs.Time.Saturation
import CompletionEngine.Settings.Configuration
import CompletionEngine.Settings.Variable
import CompletionEngine.Simulation.Counter
import CompletionEngine.Simulation.Descriptors
import CompletionEngine.Simulation.FileSystem
import CompletionEngine.Simulation.Kernel.Basic
import CompletionEngine.Simulation.Kernel.Operations
import CompletionEngine.Simulation.Kernel.Rings
import CompletionEngine.Simulation.Memory
import CompletionEngine.Simulation.Script
import CompletionEngine.Simulation.Socket
import CompletionEngine.Slots.Entry
import CompletionEngine.Slots.Pool
import CompletionEngine.Slots.Pools
import CompletionEngine.Slots.Tags
import CompletionEngine.Submission.Entry
import CompletionEngine.Submission.Record
import CompletionEngine.Text.Blank
import CompletionEngine.Text.Numeral
import CompletionEngine.Text.Quoted
import CompletionEngine.Text.Shape
import CompletionEngine.Time.Limit
