import CompletionEngine.Platform.System
import CompletionEngine.Simulation.Counter
import CompletionEngine.Simulation.FileSystem
import CompletionEngine.Simulation.Memory

/-!
# A kernel to run on

A small kernel for engines to run on: descriptors, pipes, files, event counters and timers behind one
ring. Its clock moves only while somebody waits, so that a run depends on nothing but what is asked.

This module holds the state and the calls that do not go through the ring.
-/

namespace CompletionEngine.Simulation

/-- A chain of linked operations, of which the first has begun and not completed. -/
structure Chain where
  head : SubmissionEntry
  /-- What the descriptor of the first operation referred to when it began. -/
  file : Option OpenFile
  begun : Instant
  rest : List SubmissionEntry

/-- The state of a kernel. -/
structure Kernel where
  descriptors : DescriptorTable
  files : FileSystem
  /-- The bytes in each pipe. -/
  pipes : List (List UInt8)
  counters : List EventCounter
  memory : Memory
  clock : Instant
  /-- What has begun, oldest first. -/
  chains : List Chain
  /-- Completions that nobody has taken, the last one in front. -/
  posted : List CompletionRecord

namespace Kernel

/-- A kernel just started. -/
def fresh : Kernel := ⟨[], .standard, [], [], .empty, 0, [], []⟩

/-- The lowest number that a new descriptor gets. Lower numbers stay closed. -/
def firstDescriptor : Nat := 1024

/-- Open a descriptor. -/
def openFile (file : OpenFile) (kernel : Kernel) : Descriptor × Kernel :=
  let (descriptor, table) := kernel.descriptors.allocate firstDescriptor file
  (descriptor, { kernel with descriptors := table })

/-- Close a descriptor, and tell whether it was open. -/
def closeFile (descriptor : Descriptor) (kernel : Kernel) : Bool × Kernel :=
  ((kernel.descriptors.file? descriptor.number).isSome,
    { kernel with descriptors := kernel.descriptors.remove descriptor.number })

/-- Whether a file is open, by a descriptor or for an operation that has begun. -/
def holds (kernel : Kernel) (file : OpenFile) : Bool :=
  kernel.descriptors.any (fun row => row.2 = file) ||
    kernel.chains.any (fun chain => chain.file = some file)

/-- Make a pipe, and give the descriptors of its reading and writing end. -/
def makePipe (kernel : Kernel) : (Descriptor × Descriptor) × Kernel :=
  let pipe := kernel.pipes.length
  let (reader, kernel) := { kernel with pipes := kernel.pipes ++ [[]] }.openFile (.pipeReader pipe)
  let (writer, kernel) := kernel.openFile (.pipeWriter pipe)
  ((reader, writer), kernel)

/-- The bytes in a pipe. -/
def pipe (kernel : Kernel) (index : Nat) : List UInt8 := kernel.pipes.getD index []

/-- Replace the bytes in a pipe. -/
def setPipe (index : Nat) (bytes : List UInt8) (kernel : Kernel) : Kernel :=
  { kernel with pipes := kernel.pipes.set index bytes }

/-- Act on the event counter behind a descriptor. -/
def onCounter {α : Type} (descriptor : Descriptor)
    (action : EventCounter → Except ErrorNumber (α × EventCounter)) (kernel : Kernel) :
    Except ErrorNumber α × Kernel :=
  match kernel.descriptors.file? descriptor.number with
  | some (.counter index) =>
    match action (kernel.counters.getD index .zero) with
    | .ok (value, counter) =>
      (.ok value, { kernel with counters := kernel.counters.set index counter })
    | .error error => (.error error, kernel)
  | some _ => (.error .invalidArgument, kernel)
  | none => (.error .badDescriptor, kernel)

/-- The calls on event counters. -/
def eventCalls : EventCalls Kernel where
  create kernel :=
    let index := kernel.counters.length
    let (descriptor, kernel) :=
      { kernel with counters := kernel.counters ++ [EventCounter.zero] }.openFile (.counter index)
    (.ok descriptor, kernel)
  add descriptor amount kernel :=
    kernel.onCounter descriptor fun counter => (counter.add amount).map fun counter => ((), counter)
  take descriptor kernel := kernel.onCounter descriptor EventCounter.take
  close descriptor kernel := (kernel.closeFile descriptor).2

/-- Whether the counter behind a descriptor is open and has something to take. -/
def isReadable (kernel : Kernel) (descriptor : Descriptor) : Bool :=
  match kernel.descriptors.file? descriptor.number with
  | some (.counter index) => (kernel.counters.getD index .zero).isReadable
  | _ => false

/-- The socket calls. -/
def socketCalls : SocketCalls Kernel :=
  DescriptorTable.socketCalls.lift descriptors fun table kernel =>
    { kernel with descriptors := table }

end Kernel

end CompletionEngine.Simulation
