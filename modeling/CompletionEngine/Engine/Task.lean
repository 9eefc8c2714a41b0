import CompletionEngine.Operation.Catalogue
import CompletionEngine.Platform.Basic

/-!
# Commands, continuations and tasks

A command says what to do and within which time. Its outcome goes to a continuation: code of a
caller, a promise that another thread holds, or the count of how timeout guards end. Code of callers
is not part of the engine; a label of any type `τ` stands for it, and the engine hands the label out
when the code's turn comes.
-/

namespace CompletionEngine

/-- What an operation is asked to do. -/
structure Command where
  kind : Kind
  params : kind.Params
  /-- The time after which the operation is cancelled. -/
  limit : Option TimeLimit

namespace Command

/-- The command with the limit that its kind lets callers set. -/
def normalize (command : Command) : Command :=
  { command with limit := if command.kind.isLimitable then command.limit else none }

/-- The number of records the command needs: its own, and that of its guard. -/
def recordCount (command : Command) : Nat := if command.limit.isSome then 2 else 1

end Command

/-- The result of an operation of any kind. -/
structure Outcome where
  kind : Kind
  result : Except Failure kind.Output

/-- Who awaits the outcome of an operation. -/
inductive Continuation (τ : Type) where
  /-- Code of a caller, which runs on the engine's thread and may call the engine again. -/
  | caller (label : τ)
  /-- A promise, which is resolved. -/
  | promise (label : τ)
  /-- The engine itself, which counts how its timeout guards end. -/
  | guard
  deriving DecidableEq

/-- Something that another thread asks the engine's thread to do. -/
inductive Task (τ : Type) where
  /-- Carry out a command and resolve a promise with its outcome. -/
  | request (command : Command) (promise : τ)
  /-- Run code of a caller. -/
  | job (body : τ)

/-- A command with the continuation that awaits its outcome. -/
structure Request (τ : Type) where
  command : Command
  continuation : Continuation τ

/-- Counts since an engine was made. A step adds at most two to all of them together, and a call adds
nothing, so a counter of 64 bits holds each of them for the first `2 ^ 63 - 1` steps and calls. -/
structure Statistics where
  /-- Records staged for the kernel, guards included. -/
  submitted : Nat
  /-- Kernel completions that ended an operation. -/
  completed : Nat
  guardsFired : Nat
  guardsDisarmed : Nat
  /-- Failures given to operations still in flight at shutdown. -/
  synthesized : Nat
  /-- Wake-up polls that fired. -/
  wakeups : Nat
  deriving DecidableEq

namespace Statistics

/-- Nothing has happened yet. -/
def zero : Statistics := ⟨0, 0, 0, 0, 0, 0⟩

/-- Count how a guard ended. A guard that failed counts as neither. -/
def recordGuard (statistics : Statistics) : Outcome → Statistics
  | ⟨.guard, .ok .fired⟩ => { statistics with guardsFired := statistics.guardsFired + 1 }
  | ⟨.guard, .ok .disarmed⟩ => { statistics with guardsDisarmed := statistics.guardsDisarmed + 1 }
  | _ => statistics

end Statistics

/-- Something that happened at the engine's border. -/
inductive Event (τ : Type) where
  /-- Records were pushed onto the ring. -/
  | pushed (records : List SubmitRecord) (outcome : Except RingError Unit)
  /-- Queued records were handed to the kernel. -/
  | submitted (outcome : Except RingError Nat)
  /-- The engine waited in the kernel. -/
  | waited (want : Nat) (wait : Wait) (outcome : Except RingError Nat)
  /-- Completions were taken from the ring. -/
  | drained (batch : List CompletionRecord)
  /-- The ring was given up. -/
  | released
  | notified (outcome : Except RingError Unit)
  | acknowledged (outcome : Except RingError Unit)
  /-- A caller's code was entered with the outcome it awaited. -/
  | called (label : τ) (outcome : Outcome)
  /-- A promise was resolved. -/
  | settled (label : τ) (result : Outcome)
  /-- A job was entered. -/
  | started (body : τ)
  /-- A job will never run. -/
  | dropped (body : τ) (failure : Failure)
  /-- A guard ended. -/
  | guarded (outcome : Outcome)
  /-- Everything has been given up. -/
  | terminated

end CompletionEngine
