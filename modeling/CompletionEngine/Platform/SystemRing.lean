import CompletionEngine.Platform.Basic
import CompletionEngine.Settings.Configuration
import CompletionEngine.Submission.Entry

/-!
# System rings

A ring over a submission queue shared with the system. A push appends the native entries of all its
records or of none. Entering the system either takes entries over from the front of the queue or
fails with an error number and takes none. It may stop early, behind an entry that the system
refuses. A wait that elapses, is interrupted or meets a full completion queue is no error. The ring
counts what it has pushed and not handed over on its own, beside the queue.
-/

namespace CompletionEngine

/-- The ring calls of a system whose state is `σ`. -/
structure RingCalls (σ : Type) where
  /-- Set a ring up, and tell the capacity of its submission queue. -/
  setUp : RingSize → σ → Except ErrorNumber Nat × σ
  /-- Take over entries of the queue from its front on, and count them. Then wait for that many
  completions within a time. -/
  enter : List SubmissionEntry → Nat → Option TimeSpec → σ → Except ErrorNumber Nat × σ
  /-- Take every completion that is posted. -/
  reap : σ → List CompletionRecord × σ
  /-- Close the ring, which cancels whatever is in flight. -/
  close : σ → σ

/-- Entries that wait for the system to take them over. -/
structure SubmissionQueue where
  capacity : Nat
  entries : List SubmissionEntry

/-- The engine's side of a ring. -/
structure SystemRing where
  /-- The shared queue, until the ring is released. -/
  queue : Option SubmissionQueue
  /-- Records pushed and not yet handed over, as the ring counts them. -/
  queued : Nat

namespace SystemRing

variable {σ : Type}

/-- Set a ring up. -/
def setUp (calls : RingCalls σ) (size : RingSize) (system : σ) : Except RingError SystemRing × σ :=
  match calls.setUp size system with
  | (.ok capacity, system) => (.ok ⟨some ⟨capacity, []⟩, 0⟩, system)
  | (.error error, system) => (.error (.setup error.number), system)

/-- The size of the submission queue, which a released ring has none of. -/
def capacity (ring : SystemRing) : Nat :=
  match ring.queue with
  | some queue => queue.capacity
  | none => 0

/-- Append the entries of all the records, when they fit. -/
def push (records : List SubmitRecord) (ring : SystemRing) : Except RingError Unit × SystemRing :=
  match ring.queue with
  | none => (.error .released, ring)
  | some queue =>
    if queue.capacity < queue.entries.length + records.length then (.error .full, ring)
    else
      (.ok (),
        { queue :=
            some { queue with entries := queue.entries ++ records.map SubmissionEntry.ofRecord }
          queued := ring.queued + records.length })

/-- Enter the system with the queue, and tell how many entries it took over. -/
def enter (calls : RingCalls σ) (want : Nat) (limit : Option TimeSpec) (queue : SubmissionQueue)
    (system : σ) : Except ErrorNumber Nat × SubmissionQueue × σ :=
  match calls.enter queue.entries want limit system with
  | (.ok count, system) => (.ok count, { queue with entries := queue.entries.drop count }, system)
  | (.error error, system) => (.error error, queue, system)

/-- Hand the queue over. -/
def submit (calls : RingCalls σ) (ring : SystemRing) (system : σ) :
    Except RingError Nat × SystemRing × σ :=
  match ring.queue with
  | none => (.error .released, ring, system)
  | some queue =>
    match enter calls 0 none queue system with
    | (.ok count, queue, system) => (.ok count, ⟨some queue, 0⟩, system)
    | (.error error, queue, system) =>
      (.error (.submit error.number), { ring with queue := some queue }, system)

/-- The errors of a wait that only mean that it ended early. -/
def isEarlyEnd (error : ErrorNumber) : Bool :=
  error = .timerExpired || error = .interrupted || error = .busy

/-- Hand the queue over and wait. -/
def submitAndWait (calls : RingCalls σ) (want : Nat) (limit : Option TimeLimit) (ring : SystemRing)
    (system : σ) : Except RingError Nat × SystemRing × σ :=
  match ring.queue with
  | none => (.error .released, ring, system)
  | some queue =>
    match enter calls want (limit.map TimeLimit.timeSpec) queue system with
    | (.ok count, queue, system) => (.ok count, ⟨some queue, 0⟩, system)
    | (.error error, queue, system) =>
      let outcome := if isEarlyEnd error then .ok 0 else .error (.submit error.number)
      (outcome, ⟨some queue, 0⟩, system)

/-- Add every completion that is posted to a batch, and count them. -/
def drain (calls : RingCalls σ) (batch : List CompletionRecord) (ring : SystemRing) (system : σ) :
    Nat × List CompletionRecord × σ :=
  match ring.queue with
  | none => (0, batch, system)
  | some _ =>
    let (posted, system) := calls.reap system
    let grown := batch ++ posted
    (grown.length - batch.length, grown, system)

/-- Give the ring up. -/
def release (calls : RingCalls σ) (ring : SystemRing) (system : σ) : SystemRing × σ :=
  match ring.queue with
  | none => (⟨none, 0⟩, system)
  | some _ => (⟨none, 0⟩, calls.close system)

end SystemRing

end CompletionEngine
