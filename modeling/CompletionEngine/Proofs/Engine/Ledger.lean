import CompletionEngine.Proofs.Engine.Turns

/-!
# The ledger of continuations

A continuation that a caller hands over waits in a request that is about to be staged, in an entry
in use, or, as a promise, in a task of the inbox, until it is called. The ledger counts where
continuations are. A step of the engine moves them, but the sum stays the same, and so none is lost
and none is called twice. Guards are left out: the engine makes their continuations itself.
-/

namespace CompletionEngine

variable {κ τ : Type}

/-- A continuation counts unless it is a guard's. -/
def Continuation.counted : Continuation τ → Multiset (Continuation τ)
  | .guard => 0
  | continuation => {continuation}

/-- The continuation that an entry holds. -/
def Grip.entrusted (grip : Grip (Continuation τ)) : Multiset (Continuation τ) :=
  grip.entry.continuation.elim 0 Continuation.counted

/-- The continuation of a request that is about to be staged. -/
def Frame.waiting : Frame τ → Multiset (Continuation τ)
  | .stage request => request.continuation.counted
  | _ => 0

theorem Frame.waiting_of_not_stage {frame : Frame τ} (notStage : frame.isStage = false) :
    frame.waiting = 0 := by
  cases frame <;> first | rfl | simp [isStage] at notStage

/-- The promise that a task resolves. -/
def Task.promised : Task τ → Multiset (Continuation τ)
  | .request _ promise => {.promise promise}
  | .job _ => 0

/-- The continuations that have been called, as the journal tells. -/
def invoked : List (Event τ) → Multiset (Continuation τ)
  | [] => 0
  | .called label _ :: journal => .caller label ::ₘ invoked journal
  | .settled label _ :: journal => .promise label ::ₘ invoked journal
  | _ :: journal => invoked journal

/-- The promises of tasks that wait. -/
def promisedBy (tasks : List (Task τ)) : Multiset (Continuation τ) := (tasks.map Task.promised).sum

/-- The continuations that entries in use hold. -/
def entrusted (pools : Pools (Continuation τ)) : Multiset (Continuation τ) :=
  pools.held.bind Grip.entrusted

/-- Every continuation that an engine has called or still has to call. -/
def Engine.ledger (engine : Engine κ τ) : Multiset (Continuation τ) :=
  invoked engine.journal + (engine.frames.map Frame.waiting).sum + entrusted engine.pools +
    promisedBy engine.inbox.queue

theorem invoked_cons_of_quiet (event : Event τ) (journal : List (Event τ)) (quiet : event.isQuiet) :
    invoked (event :: journal) = invoked journal := by
  cases event <;> first | rfl | simp [Event.isQuiet] at quiet

theorem invoked_append_of_quiet {events : List (Event τ)}
    (quiet : ∀ event ∈ events, event.isQuiet) (journal : List (Event τ)) :
    invoked (events ++ journal) = invoked journal :=
  append_of_skips invoked invoked_cons_of_quiet quiet journal

theorem invoked_event (continuation : Continuation τ) (outcome : Outcome)
    (journal : List (Event τ)) :
    invoked (continuation.event outcome :: journal) = continuation.counted + invoked journal := by
  cases continuation with
  | guard => simp [Continuation.event, Continuation.counted, invoked]
  | caller label => rfl
  | promise label => rfl

theorem Grip.entrusted_of_continuation {grip : Grip (Continuation τ)} {continuation : Continuation τ}
    (holds : grip.entry.continuation = some continuation) :
    grip.entrusted = continuation.counted := by
  rw [Grip.entrusted, holds, Option.elim_some]

theorem Books.entrusted_eq {pools : Pools (Continuation τ)} {tags : TagTable SlotRef}
    {flights : Multiset (Flight τ)} {hand : Multiset (Grip (Continuation τ))}
    (books : Books pools tags flights hand) :
    entrusted pools = hand.bind Grip.entrusted + (flights.map Flight.grip).bind Grip.entrusted := by
  rw [entrusted, books.held_eq, Multiset.add_bind]

namespace Engine

variable (engine : Engine κ τ) (platform : Platform κ)

@[simp]
theorem ledger_next (frame : Frame τ) :
    (engine.next frame).ledger = frame.waiting + engine.ledger := by
  simp only [ledger, next, List.map_cons, List.sum_cons]
  abel

theorem ledger_next_of_not_stage {frame : Frame τ} (notStage : frame.isStage = false) :
    (engine.next frame).ledger = engine.ledger := by
  rw [ledger_next, Frame.waiting_of_not_stage notStage, zero_add]

theorem ledger_plans {between : Engine κ τ} {frame : Frame τ} (plans : engine.Plans frame between) :
    between.ledger = engine.ledger := by
  induction plans with
  | nothing => rfl
  | next plans emptyHanded pastInbox ih =>
      rw [ledger_next_of_not_stage _ (Frame.isStage_of_isEmptyHanded emptyHanded), ih]

theorem ledger_log {event : Event τ} (quiet : event.isQuiet) :
    (engine.log event).ledger = engine.ledger := by
  simp only [ledger, log, invoked_cons_of_quiet _ _ quiet]

theorem ledger_deliver (continuation : Continuation τ) (outcome : Outcome) :
    (engine.deliver (some continuation) outcome).ledger =
      continuation.counted + engine.ledger := by
  have waiting : (continuation.frames.map Frame.waiting).sum = 0 := by cases continuation <;> rfl
  rw [deliver_some]
  simp only [ledger, invoked_event, List.map_append, List.sum_append, waiting]
  abel

theorem ledger_flush : (engine.flush platform).ledger = engine.ledger := by
  rcases flush_cases platform engine with
    ⟨-, same⟩ | ⟨-, world, events, quiet, pushed | ⟨error, refused⟩⟩
  · rw [same]
  · rw [pushed]
    simp only [ledger, invoked, invoked_append_of_quiet quiet]
  · rw [refused]
    simp only [ledger, invoked_append_of_quiet quiet, List.map_cons, List.sum_cons, Frame.waiting,
      zero_add]

theorem ledger_beginRequest (request : Request τ) :
    (engine.beginRequest platform request).ledger =
      request.continuation.counted + engine.ledger := by
  unfold beginRequest
  split
  · rw [ledger_flush, ledger_next]
    rfl
  · rw [ledger_next]
    rfl

theorem ledger_runTask (task : Task τ) :
    (engine.runTask platform task).ledger = task.promised + engine.ledger := by
  cases task with
  | request command promise => exact engine.ledger_beginRequest platform _
  | job body =>
      rw [runTask, ledger_next, ledger_log _ rfl]
      rfl

theorem ledger_takeTask {task : Task τ} {inbox : Inbox (Task τ)}
    (popped : engine.inbox.pop? = some (task, inbox)) :
    engine.ledger = task.promised + ({ engine with inbox := inbox } : Engine κ τ).ledger := by
  simp only [ledger, (Inbox.eq_of_pop? popped).2, promisedBy, List.map_cons, List.sum_cons]
  abel

theorem ledger_shutdown : engine.shutdown.ledger = engine.ledger := by
  rcases shutdown_cases engine with ⟨-, same⟩ | ⟨-, -, deferred⟩ | ⟨-, -, begun⟩
  · rw [same]
  · rw [deferred]
    rfl
  · rw [begun]
    exact (engine.ledger_next .emptyInbox).trans (zero_add _)

theorem ledger_endDispatch (outer : Bool) : (engine.endDispatch outer).ledger = engine.ledger := by
  rcases endDispatch_cases engine outer with ⟨-, -, begun⟩ | ⟨-, left⟩
  · rw [begun]
    exact (engine.ledger_next .emptyInbox).trans (zero_add _)
  · rw [left]
    rfl

theorem ledger_reap : (engine.reap platform).ledger = engine.ledger := by
  rcases reap_eq platform engine with ⟨batch, world, reaped⟩
  rw [reaped]
  exact (engine.ledger_next (.dispatch batch 0 engine.dispatching)).trans (zero_add _)

theorem ledger_armWake : (engine.armWake platform).ledger = engine.ledger := by
  rcases armWake_cases engine platform with ⟨-, same⟩ | ⟨descriptor, -, -, -, armed⟩
  · rw [same]
  · rw [armed]
    rfl

theorem ledger_enterKernel (wait : Wait) :
    (engine.enterKernel platform wait).ledger = engine.ledger := by
  rcases enterKernel_cases platform engine wait with ⟨world, event, quiet, ⟨error, failed⟩ | entered⟩
  · rw [failed]
    exact ledger_log _ quiet
  · rw [entered, ledger_reap, ledger_log _ quiet]
    rfl

theorem ledger_releaseRing : (engine.releaseRing platform).ledger = engine.ledger := by
  unfold releaseRing
  rw [ledger_next, Frame.waiting_of_not_stage rfl, zero_add]
  rfl

theorem ledger_turns {after : Engine κ τ} {frame : Frame τ}
    (turns : engine.Turns platform frame after) : after.ledger = engine.ledger := by
  cases turns with
  | plans plans => exact engine.ledger_plans plans
  | answers answer after_eq =>
      rw [after_eq]
      rfl
  | shutsDown between plans after_eq => rw [after_eq, ledger_shutdown, ledger_plans _ plans]
  | leavesBatch between plans outer after_eq =>
      rw [after_eq, ledger_endDispatch, ledger_plans _ plans]
  | takesTask between plans task inbox popped after_eq =>
      rw [after_eq, ledger_runTask, ← between.ledger_takeTask popped, ledger_plans _ plans]
  | armsWake wait frame_eq after_eq =>
      rw [after_eq, ledger_flush, ledger_next_of_not_stage _ rfl, ledger_armWake]
  | entersKernel wait after_eq => rw [after_eq, ledger_enterKernel]
  | reaps between plans after_eq => rw [after_eq, ledger_reap, ledger_plans _ plans]

/-- An operation that ends hands back the continuation that its entry held. -/
theorem ledger_unloads {after : Engine κ τ} {frame : Frame τ}
    (unloads : engine.Unloads platform frame after) : after.ledger = engine.ledger := by
  cases unloads with
  | acknowledges record rest delivered outer frame_eq wake after_eq =>
      rw [after_eq]
      exact ledger_next_of_not_stage engine rfl
  | disarms left isLeft after_eq =>
      rw [after_eq]
      exact ledger_next_of_not_stage engine isLeft.notStage
  | delivers left isLeft grip continuation holds pools held_eq tags world statistics outcome after_eq =>
      have less : entrusted engine.pools = continuation.counted + entrusted pools := by
        rw [entrusted, held_eq, Multiset.cons_bind, Grip.entrusted_of_continuation holds, entrusted]
      rw [after_eq, ledger_deliver]
      simp only [ledger, next, less, List.map_cons, List.sum_cons,
        Frame.waiting_of_not_stage isLeft.notStage]
      abel

namespace Sound

variable {engine : Engine κ τ} {flights : Multiset (Flight τ)}
  {hand : Multiset (Grip (Continuation τ))} {frame : Frame τ}

/-- The entries of a request that has been admitted hold its continuation. -/
theorem entrusted_admissions {admissions : List (Admission τ)} {request : Request τ} {now : Instant}
    (errands : admissions.map Admission.errand = request.errands now)
    (proper : ∀ admission ∈ admissions, admission.Proper) :
    ((admissions.map Admission.flight : Multiset (Flight τ)).map Flight.grip).bind Grip.entrusted =
      request.continuation.counted := by
  have each : admissions.map (fun admission => admission.flight.grip.entrusted) =
      (admissions.map Admission.errand).map fun errand => errand.continuation.counted := by
    rw [List.map_map]
    apply List.map_congr_left
    intro admission admissionMem
    rcases (proper admission admissionMem).holds with ⟨slot, entry, previous, heap, grip, holds, -⟩
    rw [grip]
    exact Grip.entrusted_of_continuation holds
  have total : ((admissions.map Admission.flight : Multiset (Flight τ)).map Flight.grip).bind
      Grip.entrusted = (admissions.map fun admission => admission.flight.grip.entrusted).sum := by
    rw [Multiset.bind, Multiset.map_map, Multiset.map_coe, List.map_map, Multiset.join,
      Multiset.sum_coe]
    rfl
  rw [total, each, errands, Request.errands]
  cases request.command.limit with
  | none => simp
  | some limit => simp [Continuation.counted]

theorem ledger_stageRequest {request : Request τ}
    (sound : (engine.next (.stage request)).Sound flights hand) (platform : Platform κ)
    (spare : engine.inFlight + 2 ≤ UInt32.size) :
    (engine.orRaise (engine.stageRequest platform request)).ledger =
      (engine.next (.stage request)).ledger := by
  rcases sound.of_next rfl with ⟨below, -⟩
  have before := below.accounts.books.entrusted_eq
  rcases below.accounts.books.stageRequest engine (below.room spare) platform request with
    ⟨pools, tags, failure, rejected, books, -⟩ |
      ⟨-, pools, tags, admissions, admitted, books, errands, -, proper⟩
  · rw [rejected]
    have same : entrusted pools = entrusted engine.pools := by rw [books.entrusted_eq, before]
    simp only [orRaise, ledger_deliver, ledger_next, Frame.waiting]
    simp only [ledger, same]
  · rw [admitted]
    have more : entrusted pools = request.continuation.counted + entrusted engine.pools := by
      rw [books.entrusted_eq, before, Multiset.map_add, Multiset.add_bind,
        entrusted_admissions errands proper]
      abel
    simp only [orRaise, ledger_next, Frame.waiting]
    simp only [ledger, more]
    abel

theorem ledger_finishFail (sound : (engine.next (.fail [])).Sound flights hand) :
    ({ engine with pools := engine.pools.clear, terminated := true } : Engine κ τ).ledger =
      engine.ledger := by
  have before := sound.accounts.books.entrusted_eq
  rcases sound.finishFail with ⟨rfl, rfl, after⟩
  have same : entrusted engine.pools = entrusted engine.pools.clear :=
    before.trans after.accounts.books.entrusted_eq.symm
  simp only [ledger, same]

theorem ledger_runFrame (sound : (engine.next frame).Sound flights hand) (platform : Platform κ)
    (spare : engine.inFlight + 2 ≤ UInt32.size) :
    (engine.runFrame platform frame).ledger = (engine.next frame).ledger := by
  cases business : frame.isBusiness with
  | false =>
      rw [ledger_next_of_not_stage _ (Frame.isStage_of_minor business)]
      exact engine.ledger_turns platform (engine.turns_runFrame platform business)
  | true =>
      rcases Frame.business_cases business with ⟨request, rfl⟩ | loaded | rfl | rfl
      · exact sound.ledger_stageRequest platform spare
      · rw [ledger_next_of_not_stage _ (Frame.isStage_of_isLoaded loaded)]
        exact engine.ledger_unloads platform (sound.unloads_runFrame platform loaded)
      · rw [ledger_next_of_not_stage _ rfl]
        exact engine.ledger_releaseRing platform
      · rw [ledger_next_of_not_stage _ rfl, Engine.runFrame, ledger_log _ rfl, sound.ledger_finishFail]

/-- A step moves continuations and loses none. -/
theorem ledger_step (sound : engine.Sound flights hand) (platform : Platform κ)
    (spare : engine.inFlight + 2 ≤ UInt32.size) : (engine.step platform).ledger = engine.ledger := by
  rcases step_cases engine platform with ⟨-, same⟩ | ⟨below, frame, rfl, stepped⟩
  · rw [same]
  · rw [stepped]
    exact sound.ledger_runFrame platform spare

end Sound

end Engine

end CompletionEngine
