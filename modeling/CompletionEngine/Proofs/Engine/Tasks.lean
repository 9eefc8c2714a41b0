import CompletionEngine.Proofs.Engine.Inbox

/-!
# Tasks that an engine takes

Few steps have to do with the tasks of other threads. Such a step takes the front task out of the
inbox and begins at once what the task asks for: it enters the job, or puts the request on top of
what is to be done. All other steps leave the inbox alone, enter no job, and come by no request that
was not there before.
-/

namespace CompletionEngine

variable {κ τ : Type}

def Task.request? : Task τ → Option (Request τ)
  | .request command promise => some ⟨command, .promise promise⟩
  | .job _ => none

def Task.job? : Task τ → Option τ
  | .request .. => none
  | .job body => some body

def Frame.request? : Frame τ → Option (Request τ)
  | .stage request => some request
  | _ => none

theorem Frame.request?_of_not_stage {frame : Frame τ} (notStage : frame.isStage = false) :
    frame.request? = none := by
  cases frame <;> first | rfl | cases notStage

/-- The requests that wait for their staging, the next in front. -/
def requestsIn (frames : List (Frame τ)) : List (Request τ) := frames.filterMap Frame.request?

/-- Whether an event tells what became of a job. -/
def Event.isJob : Event τ → Bool
  | .started _ | .dropped .. => true
  | _ => false

theorem Continuation.requestsIn_frames (continuation : Continuation τ) (frames : List (Frame τ)) :
    requestsIn (continuation.frames ++ frames) = requestsIn frames := by
  cases continuation <;> rfl

namespace Engine

/-- An engine leaves its inbox alone, and comes by no request. -/
structure Leaves (before after : Engine κ τ) : Prop where
  queue_eq : after.inbox.queue = before.inbox.queue
  capacity_eq : after.inbox.capacity = before.inbox.capacity
  requests : requestsIn after.frames <:+ requestsIn before.frames
  journal : ∃ events, (∀ event ∈ events, event.isJob = false) ∧
    after.journal = events ++ before.journal

/-- An engine takes a task out of its inbox, and begins what the task asks for. -/
structure Takes (task : Task τ) (before after : Engine κ τ) : Prop where
  queue_eq : before.inbox.queue = task :: after.inbox.queue
  capacity_eq : after.inbox.capacity = before.inbox.capacity
  requests_eq : requestsIn after.frames = task.request?.toList ++ requestsIn before.frames
  journal : ∃ events, events.filter Event.isJob = task.job?.toList.map .started ∧
    after.journal = events ++ before.journal

namespace Leaves

variable {before between after : Engine κ τ}

theorem of_same (events : List (Event τ))
    (same : (after.inbox.queue, after.inbox.capacity) =
      (before.inbox.queue, before.inbox.capacity))
    (requests_eq : requestsIn after.frames = requestsIn before.frames)
    (jobless : ∀ event ∈ events, event.isJob = false)
    (appended : after.journal = events ++ before.journal) : before.Leaves after := by
  simp only [Prod.mk.injEq] at same
  exact ⟨same.1, same.2, requests_eq ▸ List.suffix_rfl, events, jobless, appended⟩

theorem of_silent
    (same : (after.inbox.queue, after.inbox.capacity) =
      (before.inbox.queue, before.inbox.capacity))
    (requests_eq : requestsIn after.frames = requestsIn before.frames)
    (journal_eq : after.journal = before.journal) : before.Leaves after :=
  of_same [] same requests_eq (by simp) journal_eq

theorem refl (engine : Engine κ τ) : engine.Leaves engine := of_silent rfl rfl rfl

theorem trans (first : before.Leaves between) (second : between.Leaves after) :
    before.Leaves after := by
  rcases first.journal with ⟨events, jobless, appended⟩
  rcases second.journal with ⟨others, othersJobless, othersAppended⟩
  refine ⟨second.queue_eq.trans first.queue_eq, second.capacity_eq.trans first.capacity_eq,
    second.requests.trans first.requests, others ++ events, ?_, ?_⟩
  · intro event eventMem
    rcases List.mem_append.mp eventMem with other | own
    · exact othersJobless event other
    · exact jobless event own
  · rw [othersAppended, appended, List.append_assoc]

end Leaves

section Operations

variable {engine : Engine κ τ} {frame : Frame τ} (platform : Platform κ)

theorem leaves_next (engine : Engine κ τ) (other : frame.request? = none) :
    engine.Leaves (engine.next frame) := by
  refine .of_silent rfl ?_ rfl
  simp [next, requestsIn, other]

theorem leaves_pop (engine : Engine κ τ) (frame : Frame τ) : (engine.next frame).Leaves engine := by
  refine ⟨rfl, rfl, ?_, [], by simp, rfl⟩
  cases asked : frame.request? with
  | none => simp [next, requestsIn, asked]
  | some request => simp [next, requestsIn, asked]

theorem leaves_plans {between : Engine κ τ} (plans : engine.Plans frame between) :
    engine.Leaves between := by
  induction plans with
  | nothing => exact .refl engine
  | next plans emptyHanded pastInbox ih =>
      have notStage := Frame.isStage_of_isEmptyHanded emptyHanded
      exact ih.trans (leaves_next _ (Frame.request?_of_not_stage notStage))

theorem requestsIn_plans {between : Engine κ τ} (plans : engine.Plans frame between) :
    requestsIn between.frames = requestsIn engine.frames := by
  induction plans with
  | nothing => rfl
  | next plans emptyHanded pastInbox ih =>
      have notStage := Frame.isStage_of_isEmptyHanded emptyHanded
      simpa [next, requestsIn, Frame.request?_of_not_stage notStage] using ih

theorem leaves_answer (engine : Engine κ τ) (answer : Except RingError ℕ) :
    engine.Leaves { engine with answer := answer } :=
  .of_silent rfl rfl rfl

theorem leaves_flush (engine : Engine κ τ) : engine.Leaves (engine.flush platform) := by
  unfold flush
  by_cases empty : engine.staged.isEmpty
  · rw [if_pos empty]
    exact .refl engine
  · rw [if_neg empty]
    rcases pushWithRoom_eq platform engine with ⟨outcome, world, events, pushes, told⟩
    have jobless : ∀ event ∈ events, event.isJob = false := by
      rcases told with ⟨-, rfl⟩ | ⟨_, -, rfl⟩ | ⟨count, rfl⟩
      all_goals simp [Event.isJob]
    rw [pushes]
    rcases outcome with error | ⟨⟨⟩⟩
    · exact .of_same events rfl rfl jobless rfl
    · exact .of_same events rfl rfl jobless rfl

theorem leaves_shutdown (engine : Engine κ τ) : engine.Leaves engine.shutdown := by
  rcases shutdown_cases engine with ⟨-, same⟩ | ⟨-, -, deferred⟩ | ⟨-, -, begun⟩
  · rw [same]
    exact .refl engine
  · rw [deferred]
    exact .of_silent rfl rfl rfl
  · rw [begun]
    exact .of_silent rfl rfl rfl

theorem leaves_endDispatch (engine : Engine κ τ) (outer : Bool) :
    engine.Leaves (engine.endDispatch outer) := by
  rcases endDispatch_cases engine outer with ⟨-, -, begun⟩ | ⟨-, left⟩
  · rw [begun]
    exact .of_silent rfl rfl rfl
  · rw [left]
    exact .of_silent rfl rfl rfl

theorem leaves_armWake (engine : Engine κ τ) : engine.Leaves (engine.armWake platform) := by
  rcases armWake_cases engine platform with ⟨-, same⟩ | ⟨descriptor, -, -, -, armed⟩
  · rw [same]
    exact .refl engine
  · rw [armed]
    exact .of_silent rfl rfl rfl

theorem leaves_reap (engine : Engine κ τ) : engine.Leaves (engine.reap platform) := by
  rcases reap_eq platform engine with ⟨batch, world, reaped⟩
  rw [reaped]
  exact .of_same [.drained batch] rfl rfl (by simp [Event.isJob]) rfl

theorem leaves_enterKernel (engine : Engine κ τ) (wait : Wait) :
    engine.Leaves (engine.enterKernel platform wait) := by
  rcases enterKernel_eq platform engine wait with ⟨want, world, ⟨error, failed⟩ | ⟨count, entered⟩⟩
  · rw [failed]
    exact .of_same [.waited want wait (.error error)] rfl rfl (by simp [Event.isJob]) rfl
  · have logged : engine.Leaves
        ({ engine with world := world }.log (.waited want wait (.ok count))) :=
      .of_same [.waited want wait (.ok count)] rfl rfl (by simp [Event.isJob]) rfl
    rw [entered]
    exact logged.trans (leaves_reap platform _)

theorem leaves_deliver (engine : Engine κ τ) (continuation : Continuation τ) (outcome : Outcome) :
    engine.Leaves (engine.deliver (some continuation) outcome) := by
  have jobless : (continuation.event outcome).isJob = false := by cases continuation <;> rfl
  rw [deliver_some]
  refine .of_same [continuation.event outcome] rfl ?_ (by simp [jobless]) rfl
  exact continuation.requestsIn_frames engine.frames

/-- A request is put on top of what is to be done, whether or not room is made for it first. -/
theorem beginRequest_eq (engine : Engine κ τ) (request : Request τ) :
    engine.beginRequest platform request = engine.next (.stage request) ∨
      engine.beginRequest platform request = (engine.next (.stage request)).flush platform := by
  unfold beginRequest
  split
  · exact .inr rfl
  · exact .inl rfl

theorem requestsIn_flush (engine : Engine κ τ) :
    requestsIn (engine.flush platform).frames = requestsIn engine.frames := by
  rcases flush_cases platform engine with ⟨-, same⟩ | ⟨-, world, events, -, pushed | ⟨error, refused⟩⟩
  · rw [same]
  · rw [pushed]
  · rw [refused]
    rfl

theorem requestsIn_beginRequest (engine : Engine κ τ) (request : Request τ) :
    requestsIn (engine.beginRequest platform request).frames =
      request :: requestsIn engine.frames := by
  rcases beginRequest_eq platform engine request with plain | flushed
  · rw [plain]
    rfl
  · rw [flushed]
    exact requestsIn_flush platform _

theorem leaves_beginRequest (engine : Engine κ τ) (request : Request τ) :
    (engine.next (.stage request)).Leaves (engine.beginRequest platform request) := by
  rcases beginRequest_eq platform engine request with plain | flushed
  · rw [plain]
    exact .refl _
  · rw [flushed]
    exact leaves_flush platform _

/-- What is begun first is what was in front. -/
theorem takes_runTask {task : Task τ} {inbox : Inbox (Task τ)}
    (popped : engine.inbox.pop? = some (task, inbox)) :
    engine.Takes task ({ engine with inbox := inbox }.runTask platform task) := by
  rcases Inbox.eq_of_pop? popped with ⟨left, queued⟩
  have capacity_eq : inbox.capacity = engine.inbox.capacity := by rw [left]
  cases task with
  | request command promise =>
      let below : Engine κ τ := { engine with inbox := inbox }
      let request : Request τ := ⟨command, .promise promise⟩
      have kept := leaves_beginRequest platform below request
      rcases kept.journal with ⟨events, jobless, appended⟩
      refine ⟨?_, kept.capacity_eq.trans capacity_eq, requestsIn_beginRequest platform below request,
        events, ?_, appended⟩
      · rw [queued, runTask, kept.queue_eq]
        rfl
      · rw [List.filter_eq_nil_iff.mpr]
        · rfl
        · intro event eventMem
          simp [jobless event eventMem]
  | job body => exact ⟨queued, capacity_eq, rfl, [.started body], rfl, rfl⟩

/-- A frame that begins and ends no operation holds no request, and so a task is taken on top of the
requests that were there before. -/
theorem takes_turns {after : Engine κ τ} (minor : frame.isBusiness = false)
    (turns : engine.Turns platform frame after) :
    (engine.next frame).Leaves after ∨ ∃ task, (engine.next frame).Takes task after := by
  have popped : (engine.next frame).Leaves engine := leaves_pop engine frame
  have planned {between : Engine κ τ} (plans : engine.Plans frame between) :
      (engine.next frame).Leaves between := popped.trans (leaves_plans plans)
  cases turns with
  | plans plans => exact .inl (planned plans)
  | answers answer after_eq =>
      rw [after_eq]
      exact .inl (popped.trans (leaves_answer engine answer))
  | shutsDown between plans after_eq =>
      rw [after_eq]
      exact .inl ((planned plans).trans (leaves_shutdown between))
  | leavesBatch between plans outer after_eq =>
      rw [after_eq]
      exact .inl ((planned plans).trans (leaves_endDispatch between outer))
  | takesTask between plans task inbox found after_eq =>
      have requests_eq : requestsIn between.frames = requestsIn (engine.next frame).frames := by
        rw [requestsIn_plans plans]
        simp [next, requestsIn, Frame.request?_of_not_stage (Frame.isStage_of_minor minor)]
      have takes : between.Takes task after := by
        rw [after_eq]
        exact takes_runTask platform found
      rcases takes with ⟨queue_eq, capacity_eq, begun, journal⟩
      rw [plans.same] at queue_eq capacity_eq journal
      rw [requests_eq] at begun
      exact .inr ⟨task, queue_eq, capacity_eq, begun, journal⟩
  | armsWake wait frame_eq after_eq =>
      have armed := popped.trans (leaves_armWake platform engine)
      rw [after_eq]
      exact .inl ((armed.trans (leaves_next _ rfl)).trans (leaves_flush platform _))
  | entersKernel wait after_eq =>
      rw [after_eq]
      exact .inl (popped.trans (leaves_enterKernel platform engine wait))
  | reaps between plans after_eq =>
      rw [after_eq]
      exact .inl ((planned plans).trans (leaves_reap platform between))

theorem leaves_unloads {after : Engine κ τ} (unloads : engine.Unloads platform frame after) :
    (engine.next frame).Leaves after := by
  have left_leaves {left : Frame τ} (isLeft : left.IsLeftOf frame) :
      (engine.next frame).Leaves (engine.next left) :=
    (leaves_pop engine frame).trans (leaves_next _ (Frame.request?_of_not_stage isLeft.notStage))
  cases unloads with
  | acknowledges record rest delivered outer frame_eq wake after_eq =>
      subst frame_eq
      rw [after_eq]
      exact .of_same [.acknowledged _] rfl rfl (by simp [Event.isJob]) rfl
  | disarms left isLeft after_eq =>
      rw [after_eq]
      exact (left_leaves isLeft).trans (.of_silent rfl rfl rfl)
  | delivers left isLeft grip continuation holds pools held_eq tags world statistics outcome after_eq =>
      rw [after_eq]
      refine ((left_leaves isLeft).trans ?_).trans (leaves_deliver _ _ _)
      exact .of_silent rfl rfl rfl

end Operations

namespace Sound

variable {engine : Engine κ τ} {flights : Multiset (Flight τ)}
  {hand : Multiset (Grip (Continuation τ))} {frame : Frame τ}

theorem leaves_stage {request : Request τ}
    (sound : (engine.next (.stage request)).Sound flights hand) (platform : Platform κ)
    (spare : engine.inFlight + 2 ≤ UInt32.size) :
    (engine.next (.stage request)).Leaves (engine.runFrame platform (.stage request)) := by
  rcases sound.of_next rfl with ⟨below, -⟩
  refine (leaves_pop engine _).trans ?_
  rcases below.accounts.books.stageRequest engine (below.room spare) platform request with
    ⟨pools, tags, failure, rejected, -⟩ | ⟨-, pools, tags, admissions, admitted, -⟩
  · simp only [Engine.runFrame, rejected, orRaise]
    refine Leaves.trans ?_ (leaves_deliver _ _ _)
    exact .of_silent rfl rfl rfl
  · simp only [Engine.runFrame, admitted, orRaise]
    exact .of_silent rfl rfl rfl

theorem takes_runFrame (sound : (engine.next frame).Sound flights hand) (platform : Platform κ)
    (spare : engine.inFlight + 2 ≤ UInt32.size) :
    (engine.next frame).Leaves (engine.runFrame platform frame) ∨
      ∃ task, (engine.next frame).Takes task (engine.runFrame platform frame) := by
  cases business : frame.isBusiness with
  | false => exact takes_turns platform business (engine.turns_runFrame platform business)
  | true =>
      rcases Frame.business_cases business with ⟨request, rfl⟩ | loaded | rfl | rfl
      · exact .inl (sound.leaves_stage platform spare)
      · exact .inl (leaves_unloads platform (sound.unloads_runFrame platform loaded))
      · exact .inl (.of_same [.released] rfl rfl (by simp [Event.isJob]) rfl)
      · exact .inl (.of_same [.terminated] rfl rfl (by simp [Event.isJob]) rfl)

/-- A step leaves the inbox alone, or takes its front task. -/
theorem takes_step (sound : engine.Sound flights hand) (platform : Platform κ)
    (spare : engine.inFlight + 2 ≤ UInt32.size) :
    engine.Leaves (engine.step platform) ∨ ∃ task, engine.Takes task (engine.step platform) := by
  rcases step_cases engine platform with ⟨-, same⟩ | ⟨below, frame, rfl, stepped⟩
  · rw [same]
    exact .inl (.refl engine)
  · rw [stepped]
    exact sound.takes_runFrame platform spare

end Sound

end Engine

end CompletionEngine
