import CompletionEngine.Failure

/-!
# Inboxes

An inbox is a bounded queue that other threads push tasks onto while the engine pops them. Closing
it may race with a push, so a push looks at the closing mark again once its task is queued, and
rejects whatever it then finds in the queue. `PushPhase.advance` makes one atomic step of a push at
a time, which is the grain at which pushes of several threads interleave with one another and with
the engine.
-/

namespace CompletionEngine

/-- A bounded queue of tasks, oldest first. -/
structure Inbox (α : Type) where
  capacity : Nat
  queue : List α
  closed : Bool

namespace Inbox

variable {α : Type}

/-- An empty inbox with room for at least one task. -/
def new (capacity : Nat) : Inbox α := ⟨max capacity 1, [], false⟩

/-- Take the oldest task. -/
def pop? (inbox : Inbox α) : Option (α × Inbox α) :=
  match inbox.queue with
  | [] => none
  | task :: rest => some (task, { inbox with queue := rest })

/-- Queue a task, when there is room. -/
def enqueue? (inbox : Inbox α) (task : α) : Option (Inbox α) :=
  if inbox.queue.length < inbox.capacity then
    some { inbox with queue := inbox.queue ++ [task] }
  else
    none

/-- Refuse all later pushes. -/
def close (inbox : Inbox α) : Inbox α := { inbox with closed := true }

end Inbox

/-- How far a push has come. -/
inductive PushPhase (α : Type) where
  /-- About to look whether the inbox is closed. -/
  | check (task : α)
  /-- About to queue the task. -/
  | enqueue (task : α)
  /-- The task is queued; about to look again whether the inbox is closed. -/
  | recheck
  /-- The inbox was closed meanwhile; about to reject what is queued. -/
  | sweep
  /-- About to wake the engine. -/
  | wake
  /-- The push has returned. -/
  | returned (result : Except Failure Unit)

/-- What a step of a push does besides changing the inbox. -/
inductive PushEffect (α : Type) where
  | nothing
  /-- A task will never run, and is told why. -/
  | reject (task : α) (failure : Failure)
  /-- The engine is to be woken. -/
  | wake

/-- One atomic step of a push. -/
def PushPhase.advance {α : Type} (phase : PushPhase α) (inbox : Inbox α) :
    PushPhase α × PushEffect α × Inbox α :=
  match phase with
  | check task =>
    if inbox.closed then
      (returned (.error .closed), .reject task .closed, inbox)
    else
      (enqueue task, .nothing, inbox)
  | enqueue task =>
    match inbox.enqueue? task with
    | some inbox => (recheck, .nothing, inbox)
    | none =>
      let failure := .exhausted .requestQueue
      (returned (.error failure), .reject task failure, inbox)
  | recheck => (if inbox.closed then sweep else wake, .nothing, inbox)
  | sweep =>
    match inbox.pop? with
    | some (task, inbox) => (sweep, .reject task .closed, inbox)
    | none => (returned (.ok ()), .nothing, inbox)
  | wake => (returned (.ok ()), .wake, inbox)
  | returned result => (returned result, .nothing, inbox)

end CompletionEngine
