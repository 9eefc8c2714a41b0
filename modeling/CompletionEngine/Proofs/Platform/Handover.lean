import Mathlib.Data.List.Induction
import CompletionEngine.Platform.SystemRing

/-!
# Records on their way to the system

The records that a ring has accepted wait in its queue until the system takes them over, each of
them once and in the order of the pushes. To see what the system is offered and what it takes over,
each visit to it is written down. Nothing else is known of the system: it may answer a visit in
whatever way it likes.

A ring counts its records on its own. It starts to count afresh after each wait and after each
submission that succeeds, whether anything is left in the queue or not, so what the visit left there
is missing from the count until the system takes it over.
-/

namespace CompletionEngine

/-- A visit to the system: what the queue held, and how much of it was taken over. -/
structure Visit where
  /-- Whether the ring waits, or only submits. -/
  isWait : Bool
  offered : List SubmissionEntry
  outcome : Except ErrorNumber Nat

namespace Visit

/-- What the system took over. -/
def taken (visit : Visit) : List SubmissionEntry :=
  match visit.outcome with
  | .ok count => visit.offered.take count
  | .error _ => []

/-- What stayed in the queue. -/
def left (visit : Visit) : List SubmissionEntry :=
  match visit.outcome with
  | .ok count => visit.offered.drop count
  | .error _ => visit.offered

theorem taken_append_left (visit : Visit) : visit.taken ++ visit.left = visit.offered := by
  unfold taken left
  cases visit.outcome with
  | ok count => exact List.take_append_drop count visit.offered
  | error _ => rfl

/-- Whether the ring counts afresh after the visit. -/
def countsAfresh (visit : Visit) : Bool := visit.isWait || visit.outcome.isOk

/-- The count goes on only after a submission that fails, and that takes nothing over. -/
theorem left_of_not_countsAfresh {visit : Visit} (goesOn : ¬ visit.countsAfresh = true) :
    visit.left = visit.offered := by
  simp only [countsAfresh, Bool.or_eq_true, not_or] at goesOn
  unfold left
  cases outcome : visit.outcome with
  | ok count => simp [outcome, Except.isOk, Except.toBool] at goesOn
  | error _ => rfl

/-- What the ring answers to its caller. -/
def answer (visit : Visit) : Except RingError Nat :=
  match visit.outcome with
  | .ok count => .ok count
  | .error error =>
    if visit.isWait && SystemRing.isEarlyEnd error then .ok 0 else .error (.submit error.number)

end Visit

/-- What the system has taken over in some visits. -/
def takenOver (visits : List Visit) : List SubmissionEntry := visits.flatMap Visit.taken

/-- How many queued entries the ring leaves out of its count after some visits. -/
def uncounted (visits : List Visit) : Nat :=
  visits.foldl (fun count visit => if visit.countsAfresh then visit.left.length else count) 0

@[simp]
theorem takenOver_concat (visits : List Visit) (visit : Visit) :
    takenOver (visits ++ [visit]) = takenOver visits ++ visit.taken := by
  simp [takenOver]

@[simp]
theorem uncounted_concat (visits : List Visit) (visit : Visit) :
    uncounted (visits ++ [visit]) =
      if visit.countsAfresh then visit.left.length else uncounted visits := by
  simp [uncounted]

/-- The same calls, with each visit written down behind those made before. -/
def RingCalls.recorded {σ : Type} (isWait : Bool) (calls : RingCalls σ) :
    RingCalls (σ × List Visit) where
  setUp size state := ((calls.setUp size state.1).1, (calls.setUp size state.1).2, state.2)
  enter entries want limit state :=
    let (outcome, system) := calls.enter entries want limit state.1
    (outcome, system, state.2 ++ [⟨isWait, entries, outcome⟩])
  reap state := ((calls.reap state.1).1, (calls.reap state.1).2, state.2)
  close state := (calls.close state.1, state.2)

namespace SystemRing

section Calls

variable {σ : Type} (calls : RingCalls σ) {ring : SystemRing} {queue : SubmissionQueue}

/-- The visit that a ring pays to a system with its queue. -/
def visit (isWait : Bool) (want : Nat) (limit : Option TimeSpec) (queue : SubmissionQueue)
    (system : σ) : Visit :=
  ⟨isWait, queue.entries, (calls.enter queue.entries want limit system).1⟩

/-- The ring after a visit. -/
def visited (ring : SystemRing) (queue : SubmissionQueue) (visit : Visit) : SystemRing :=
  ⟨some { queue with entries := visit.left }, if visit.countsAfresh then 0 else ring.queued⟩

theorem submit_recorded (isOpen : ring.queue = some queue) (state : σ × List Visit) :
    ring.submit (calls.recorded false) state =
      let visit := visit calls false 0 none queue state.1
      (visit.answer, ring.visited queue visit, (calls.enter queue.entries 0 none state.1).2,
        state.2 ++ [visit]) := by
  rcases entered : calls.enter queue.entries 0 none state.1 with ⟨outcome, system⟩
  cases outcome <;>
    simp [submit, isOpen, enter, RingCalls.recorded, entered, visit, visited, Visit.answer,
      Visit.left, Visit.countsAfresh, Except.isOk, Except.toBool]

theorem submitAndWait_recorded (isOpen : ring.queue = some queue) (want : Nat)
    (limit : Option TimeLimit) (state : σ × List Visit) :
    ring.submitAndWait (calls.recorded true) want limit state =
      let visit := visit calls true want (limit.map TimeLimit.timeSpec) queue state.1
      (visit.answer, ring.visited queue visit,
        (calls.enter queue.entries want (limit.map TimeLimit.timeSpec) state.1).2,
        state.2 ++ [visit]) := by
  rcases entered : calls.enter queue.entries want (limit.map TimeLimit.timeSpec) state.1
    with ⟨outcome, system⟩
  cases outcome <;>
    simp [submitAndWait, isOpen, enter, RingCalls.recorded, entered, visit, visited, Visit.answer,
      Visit.left, Visit.countsAfresh, Except.isOk, Except.toBool]

end Calls

/-- A call on a ring. -/
inductive Call where
  | push (records : List SubmitRecord)
  | submit
  | submitAndWait (want : Nat) (limit : Option TimeLimit)
  | drain
  | release
  deriving DecidableEq

/-- A ring in use. -/
structure Session (σ : Type) where
  ring : SystemRing
  /-- The system, and the visits to it. -/
  system : σ × List Visit
  /-- The records of all pushes that succeeded, in order. -/
  accepted : List SubmitRecord
  /-- What the caller has drained. -/
  drained : List CompletionRecord

namespace Session

variable {σ : Type}

/-- A ring that nobody has used yet. -/
def opened (ring : SystemRing) (system : σ) : Session σ := ⟨ring, (system, []), [], []⟩

variable (calls : RingCalls σ)

/-- Make a call. -/
def perform (session : Session σ) : Call → Session σ
  | .push records =>
    let (outcome, ring) := session.ring.push records
    { session with
      ring := ring
      accepted := session.accepted ++ if outcome.isOk then records else [] }
  | .submit =>
    let (_, ring, system) := session.ring.submit (calls.recorded false) session.system
    { session with ring := ring, system := system }
  | .submitAndWait want limit =>
    let (_, ring, system) :=
      session.ring.submitAndWait (calls.recorded true) want limit session.system
    { session with ring := ring, system := system }
  | .drain =>
    let (_, drained, system) :=
      session.ring.drain (calls.recorded false) session.drained session.system
    { session with system := system, drained := drained }
  | .release =>
    let (ring, system) := session.ring.release (calls.recorded false) session.system
    { session with ring := ring, system := system }

/-- Make calls one after the other. -/
def after (history : List Call) (session : Session σ) : Session σ :=
  history.foldl (perform calls) session

theorem after_cons (call : Call) (later : List Call) (session : Session σ) :
    session.after calls (call :: later) = (session.perform calls call).after calls later := rfl

/-- What is known of a ring in use: what it has accepted is taken over or queued, and its count and
the entries that the count leaves out are all that is queued. Once it is released, the rest of what
it has accepted stays behind. -/
structure Accounted (capacity : Nat) (session : Session σ) : Prop where
  ofOpen : ∀ queue, session.ring.queue = some queue →
    takenOver session.system.2 ++ queue.entries =
        session.accepted.map SubmissionEntry.ofRecord ∧
      session.ring.queued + uncounted session.system.2 = queue.entries.length ∧
      queue.entries.length ≤ capacity ∧ queue.capacity = capacity
  ofReleased : session.ring.queue = none →
    takenOver session.system.2 <+: session.accepted.map SubmissionEntry.ofRecord ∧
      session.ring.queued = 0

variable {calls} {capacity : Nat} {session : Session σ}

theorem Accounted.of_visit (accounted : session.Accounted capacity) {queue : SubmissionQueue}
    (isOpen : session.ring.queue = some queue) {visit : Visit}
    (offered : visit.offered = queue.entries) (system : σ) :
    Accounted capacity
      { session with
        ring := session.ring.visited queue visit
        system := (system, session.system.2 ++ [visit]) } := by
  obtain ⟨inOrder, counted, fits, same⟩ := accounted.ofOpen queue isOpen
  -- What goes and what stays are the queue as it was, so no entry is lost or handed over twice.
  have parts := visit.taken_append_left
  rw [offered] at parts
  refine ⟨?_, fun released => by cases released⟩
  intro queue' isOpen'
  cases isOpen'
  refine ⟨?_, ?_, ?_, same⟩
  · rw [takenOver_concat, List.append_assoc, parts, inOrder]
  · rw [uncounted_concat, visited]
    split
    · simp
    · next goesOn =>
        rw [Visit.left_of_not_countsAfresh goesOn, offered]
        exact counted
  · refine Nat.le_trans ?_ fits
    rw [← parts, List.length_append]
    exact Nat.le_add_left ..

theorem Accounted.push (accounted : session.Accounted capacity) (records : List SubmitRecord) :
    Accounted capacity (session.perform calls (.push records)) := by
  cases isOpen : session.ring.queue with
  | none => simpa [perform, SystemRing.push, isOpen, Except.isOk, Except.toBool] using accounted
  | some queue =>
      obtain ⟨inOrder, counted, fits, same⟩ := accounted.ofOpen queue isOpen
      by_cases full : queue.capacity < queue.entries.length + records.length
      · simpa [perform, SystemRing.push, isOpen, full, Except.isOk, Except.toBool] using accounted
      · simp only [perform, SystemRing.push, isOpen, if_neg full]
        refine ⟨?_, fun released => by cases released⟩
        intro queue' isOpen'
        cases isOpen'
        refine ⟨?_, ?_, ?_, same⟩
        · simp [← inOrder, Except.isOk, Except.toBool]
        · simp only [List.length_append, List.length_map]
          omega
        · simp only [List.length_append, List.length_map]
          omega

theorem Accounted.release (accounted : session.Accounted capacity) :
    Accounted capacity (session.perform calls .release) := by
  have inOrder : takenOver session.system.2 <+:
      session.accepted.map SubmissionEntry.ofRecord := by
    cases isOpen : session.ring.queue with
    | none => exact (accounted.ofReleased isOpen).1
    | some queue => exact ⟨queue.entries, (accounted.ofOpen queue isOpen).1⟩
  have ring : (session.perform calls .release).ring = ⟨none, 0⟩ := by
    cases isOpen : session.ring.queue <;> simp [perform, SystemRing.release, isOpen]
  have visits : (session.perform calls .release).system.2 = session.system.2 := by
    cases isOpen : session.ring.queue <;>
      simp [perform, SystemRing.release, isOpen, RingCalls.recorded]
  constructor
  case ofOpen =>
    intro queue isOpen
    rw [ring] at isOpen
    cases isOpen
  case ofReleased =>
    intro _
    rw [ring, visits]
    exact ⟨inOrder, rfl⟩

theorem Accounted.perform (accounted : session.Accounted capacity) (call : Call) :
    Accounted capacity (session.perform calls call) := by
  cases call with
  | push records => exact accounted.push records
  | submit =>
      cases isOpen : session.ring.queue with
      | none => simpa [Session.perform, SystemRing.submit, isOpen] using accounted
      | some queue =>
          simp only [Session.perform, submit_recorded calls isOpen]
          exact accounted.of_visit isOpen rfl _
  | submitAndWait want limit =>
      cases isOpen : session.ring.queue with
      | none => simpa [Session.perform, SystemRing.submitAndWait, isOpen] using accounted
      | some queue =>
          simp only [Session.perform, submitAndWait_recorded calls isOpen]
          exact accounted.of_visit isOpen rfl _
  | drain =>
      cases isOpen : session.ring.queue with
      | none => simpa [Session.perform, SystemRing.drain, isOpen] using accounted
      | some queue =>
          simp only [Session.perform, SystemRing.drain, isOpen, RingCalls.recorded]
          exact ⟨accounted.ofOpen, accounted.ofReleased⟩
  | release => exact accounted.release

theorem Accounted.after (accounted : session.Accounted capacity) (history : List Call) :
    Accounted capacity (session.after calls history) := by
  induction history generalizing session with
  | nil => exact accounted
  | cons call later ih =>
      rw [after_cons]
      exact ih (accounted.perform call)

end Session

section Contract

variable {σ : Type} {calls : RingCalls σ} {session : Session σ} {size : Nat}
  {queue : SubmissionQueue}

/-- What a released ring has done with the records that it accepted, and that nothing comes of the
next call. -/
structure Refuses (calls : RingCalls σ) (session : Session σ) : Prop where
  inOrder : takenOver session.system.2 <+: session.accepted.map SubmissionEntry.ofRecord
  queued : session.ring.queued = 0
  capacity : session.ring.capacity = 0
  push : ∀ records, session.ring.push records = (.error .released, session.ring)
  submit : session.ring.submit (calls.recorded false) session.system =
    (.error .released, session.ring, session.system)
  submitAndWait : ∀ want limit,
    session.ring.submitAndWait (calls.recorded true) want limit session.system =
      (.error .released, session.ring, session.system)
  drain : ∀ batch, session.ring.drain (calls.recorded false) batch session.system =
    (0, batch, session.system)

theorem Session.Accounted.refuses (accounted : session.Accounted size)
    (isReleased : session.ring.queue = none) : Refuses calls session := by
  obtain ⟨inOrder, queued⟩ := accounted.ofReleased isReleased
  constructor
  case inOrder => exact inOrder
  case queued => exact queued
  case capacity => rw [capacity, isReleased]
  case push =>
    intro records
    rw [SystemRing.push, isReleased]
  case submit => rw [submit, isReleased]
  case submitAndWait =>
    intro want limit
    rw [submitAndWait, isReleased]
  case drain =>
    intro batch
    rw [drain, isReleased]

/-- A system that answers each visit as a script says. -/
def scripted : RingCalls (List (Except ErrorNumber Nat)) where
  setUp _ script := (.ok 8, script)
  enter _ _ _ script :=
    match script with
    | [] => (.error .busy, [])
    | outcome :: rest => (outcome, rest)
  reap script := ([], script)
  close script := script

end Contract

end SystemRing

end CompletionEngine
