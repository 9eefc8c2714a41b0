import CompletionEngine.Engine.Task
import CompletionEngine.Inbox.Basic
import CompletionEngine.Platform.Basic
import CompletionEngine.Settings.Configuration
import CompletionEngine.Slots.Pools
import CompletionEngine.Slots.Tags

/-!
# The state of an engine

An engine runs on one thread, but the code of callers that it enters may call it again. What the
engine still has to do once such code returns is kept as a stack of frames, so that the entry of a
caller's code is a state like any other: it is the caller's turn, and whatever calls the caller
makes are made on that state.
-/

namespace CompletionEngine

/-- Something an engine still has to do. -/
inductive Frame (τ : Type) where
  /-- Code of a caller is running, until it returns. -/
  | client
  /-- Register and stage a request, for which room has been made. -/
  | stage (request : Request τ)
  /-- A cycle: run at most this many more tasks of the inbox. -/
  | intake (remaining : Nat) (wait : Wait)
  /-- A cycle: see whether another thread asked for shutdown. -/
  | observe (wait : Wait)
  /-- A cycle: arm the wake-up poll and push what is staged. -/
  | arm (wait : Wait)
  /-- A cycle: enter the kernel and take what it completed. -/
  | enter (wait : Wait)
  /-- Deliver the rest of a batch of completions. -/
  | dispatch (batch : List CompletionRecord) (delivered : Nat) (outer : Bool)
  /-- Answer a cycle with the number of completions it delivered. -/
  | report (delivered : Nat)
  /-- Fail the rest of a batch of records that the ring refused. -/
  | refuse (records : List SubmitRecord) (failure : Failure) (outer : Bool)
  /-- Shutdown: run what other threads have queued. -/
  | emptyInbox
  /-- Shutdown: wait for operations in flight, until the deadline. -/
  | drain (deadline : Instant)
  /-- Shutdown: see how a cycle of the waiting went. -/
  | drained (deadline : Instant)
  /-- Shutdown: take what was completed after the last wait. -/
  | lastReap
  /-- Shutdown: give the ring up. -/
  | release
  /-- Shutdown: fail the rest of the operations still in flight. -/
  | fail (leftovers : List (UInt32 × SlotRef))
  /-- A worker: run cycles until the engine is closed. -/
  | work
  /-- A worker: see how a cycle went. -/
  | worked

/-- The state of an engine on a platform with state `κ`, for callers with labels in `τ`. -/
structure Engine (κ τ : Type) where
  /-- The state of the platform. -/
  world : κ
  configuration : Configuration
  pools : Pools (Continuation τ)
  tags : TagTable SlotRef
  /-- Records that wait for the next push. -/
  staged : List SubmitRecord
  inbox : Inbox (Task τ)
  statistics : Statistics
  /-- Whether the wake-up poll is on its way or in the kernel. -/
  wakeArmed : Bool
  closed : Bool
  /-- Whether callers' code runs over a batch whose tags are already in hand. -/
  dispatching : Bool
  /-- Whether a shutdown waits for the batch in hand. -/
  shutdownDeferred : Bool
  /-- Whether everything has been given up. -/
  terminated : Bool
  /-- What is still to be done, the next thing in front. -/
  frames : List (Frame τ)
  /-- What the last cycle answered. -/
  answer : Except RingError Nat
  /-- The fault that stopped the engine. -/
  fault : Option Fault
  /-- What happened at the border, the last event in front. -/
  journal : List (Event τ)

namespace Engine

variable {κ τ : Type}

/-- An engine at rest on a platform. -/
def new (configuration : Configuration) (world : κ) : Engine κ τ where
  world := world
  configuration := configuration
  pools := .new (configuration.poolCeiling.map UInt64.toNat)
  tags := .new
  staged := []
  inbox := .new configuration.inboxCapacity.toNat
  statistics := .zero
  wakeArmed := false
  closed := false
  dispatching := false
  shutdownDeferred := false
  terminated := false
  frames := []
  answer := .ok 0
  fault := none
  journal := []

/-- Operations registered and not yet completed, guards included. -/
def inFlight (engine : Engine κ τ) : Nat := engine.tags.live

/-- Whether the engine is closed and has no operation left. -/
def isFinished (engine : Engine κ τ) : Bool := engine.closed && engine.tags.isEmpty

/-- Whether it is a caller's turn. -/
def awaitsCaller (engine : Engine κ τ) : Bool :=
  engine.fault.isSome || match engine.frames with
    | [] | .client :: _ => true
    | _ => false

/-- Enter an event into the journal. -/
def log (event : Event τ) (engine : Engine κ τ) : Engine κ τ :=
  { engine with journal := event :: engine.journal }

/-- Put something in front of what is to be done. -/
def next (frame : Frame τ) (engine : Engine κ τ) : Engine κ τ :=
  { engine with frames := frame :: engine.frames }

/-- Stop at a fault. -/
def raise (fault : Fault) (engine : Engine κ τ) : Engine κ τ := { engine with fault := some fault }

/-- The engine that a computation ends in, stopped when the computation found a fault. -/
def orRaise (engine : Engine κ τ) : Except Fault (Engine κ τ) → Engine κ τ
  | .ok result => result
  | .error fault => engine.raise fault

/-- Act on the entry in a slot. -/
def modifyEntry {α : Type} (reference : SlotRef)
    (action : Entry reference.kind (Continuation τ) →
      Except Fault (α × Entry reference.kind (Continuation τ)))
    (engine : Engine κ τ) : Except Fault (α × Engine κ τ) := do
  let pool := engine.pools.get reference.kind
  let (value, entry) ← action (← pool.get reference.slot)
  .ok (value,
    { engine with pools := engine.pools.set reference.kind (pool.set reference.slot entry) })

/-- Give a slot back. -/
def releaseSlot (reference : SlotRef) (engine : Engine κ τ) : Except Fault (Engine κ τ) := do
  let pool ← (engine.pools.get reference.kind).release reference.slot
  .ok { engine with pools := engine.pools.set reference.kind pool }

end Engine

end CompletionEngine
