import CompletionEngine.Failure
import CompletionEngine.Platform.Sockets
import CompletionEngine.Submission.Record

/-!
# Platforms

What an engine runs on: the kernel's submission and completion rings, a notifier by which other
threads wake the engine, the socket calls and a clock. A platform is any state with these calls on
it, so an engine runs alike on a scripted ring, on a model of the kernel and on anything else.

A ring takes a push whole or not at all and never enters the kernel for it; `submit` and
`submitAndWait` hand over everything pushed before; `drain` never waits, and completions come in
whatever order the kernel has.
-/

namespace CompletionEngine

/-- How long a cycle may wait in the kernel. -/
inductive Wait where
  /-- As long as the caller of the cycle says, or without end. -/
  | caller (limit : Option TimeLimit)
  /-- As long as a shutdown still waits for operations in flight. -/
  | drain (limit : TimeLimit)
  deriving DecidableEq

/-- The limit of a wait. -/
def Wait.limit? : Wait → Option TimeLimit
  | caller limit => limit
  | drain limit => some limit

/-- A ring whose state is `κ`. -/
structure Ring (κ : Type) where
  /-- The size of the submission queue. -/
  capacity : κ → Nat
  /-- Queue records for the next submission, all of them or none. -/
  push : List SubmitRecord → κ → Except RingError Unit × κ
  /-- Hand the queued records to the kernel, and count them. -/
  submit : κ → Except RingError Nat × κ
  /-- Submit, then wait for that many completions, at most until the wait is over. -/
  submitAndWait : Nat → Wait → κ → Except RingError Nat × κ
  /-- Take every completion that is ready. -/
  drain : κ → List CompletionRecord × κ
  /-- Give the ring up. -/
  release : κ → κ

/-- A notifier whose state is `κ`. -/
structure Notifier (κ : Type) where
  /-- The descriptor to poll for a pending signal, when there is one. -/
  pollDescriptor : κ → Option Int32
  /-- Signal that work is waiting. -/
  notify : κ → Except RingError Unit × κ
  /-- Consume the pending signals. -/
  acknowledge : κ → Except RingError Unit × κ

/-- A notifier that wakes nobody. -/
def Notifier.silent (κ : Type) : Notifier κ where
  pollDescriptor _ := none
  notify state := (.ok (), state)
  acknowledge state := (.ok (), state)

/-- Everything an engine runs on, with one state `κ`. -/
structure Platform (κ : Type) where
  ring : Ring κ
  notifier : Notifier κ
  sockets : SocketCalls κ
  now : κ → Instant

end CompletionEngine
