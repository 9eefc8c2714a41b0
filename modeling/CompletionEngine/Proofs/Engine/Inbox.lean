import CompletionEngine.Proofs.Engine.Dealings

/-!
# The engine's side of the inbox

The engine takes tasks from the front of its inbox. It queues none by itself, and signals to nobody.
A shutdown goes on only once it has found the inbox empty, and gives the pools up in the end. A
closed engine asks its pools for nothing, so they stay empty from then on.
-/

namespace CompletionEngine

variable {κ τ : Type}

/-- A shutdown has found the inbox empty. -/
def PastInbox (frames : List (Frame τ)) (terminated : Bool) : Prop :=
  terminated ∨ frames.any Frame.isPastInbox

theorem Frame.isClosing_of_isPastInbox {frame : Frame τ} (past : frame.isPastInbox) :
    frame.isClosing := by
  cases frame <;> simp_all [isPastInbox, isClosing]

theorem PastInbox.isClosed {engine : Engine κ τ} (past : PastInbox engine.frames engine.terminated)
    (disciplined : engine.Disciplined) : engine.closed = true := by
  refine disciplined.isClosed_of_closing (past.imp id fun past => ?_)
  rcases List.any_eq_true.mp past with ⟨frame, frameMem, past⟩
  exact List.any_eq_true.mpr ⟨frame, frameMem, Frame.isClosing_of_isPastInbox past⟩

/-- Whether an event is a signal to the engine, or tells that it has consumed the signals. -/
def Event.isSignal : Event τ → Bool
  | .notified _ | .acknowledged _ => true
  | _ => false

/-- Whether the frame is about to deliver the completion of the wake-up poll. -/
def Frame.isWakeUp : Frame τ → Bool
  | .dispatch (record :: _) _ _ => record.userData = wakeUserData
  | _ => false

/-- No pool has an entry. -/
def Pools.Bare {γ : Type} (pools : Pools γ) : Prop :=
  ∀ kind, (pools.get kind).entries = #[] ∧ (pools.get kind).free = []

theorem Pools.bare_clear {γ : Type} (pools : Pools γ) : pools.clear.Bare := by
  intro kind
  rw [get_clear]
  exact ⟨rfl, rfl⟩

theorem Continuation.any_isPastInbox_frames (continuation : Continuation τ)
    (frames : List (Frame τ)) :
    (continuation.frames ++ frames).any Frame.isPastInbox = frames.any Frame.isPastInbox := by
  cases continuation <;> rfl

namespace Engine

/-- What an engine may do to its inbox by itself, unless it consumes signals. -/
structure Proceeds (before after : Engine κ τ) : Prop where
  configuration_eq : after.configuration = before.configuration
  queue : after.inbox.queue <:+ before.inbox.queue
  journal : ∃ events, (∀ event ∈ events, event.isSignal = false) ∧
    after.journal = events ++ before.journal
  pastInbox : PastInbox after.frames after.terminated →
    PastInbox before.frames before.terminated ∨ after.inbox.queue = []
  bare : (before.terminated = true → before.pools.Bare) → after.terminated = true → after.pools.Bare

namespace Proceeds

variable {before after : Engine κ τ}

theorem of_same
    (same : (after.configuration, after.inbox.queue, after.terminated) =
      (before.configuration, before.inbox.queue, before.terminated))
    (frames_eq : after.frames.any Frame.isPastInbox = before.frames.any Frame.isPastInbox)
    (pools_eq : before.terminated = true → after.pools = before.pools)
    (journal : ∃ events, (∀ event ∈ events, event.isSignal = false) ∧
      after.journal = events ++ before.journal) :
    before.Proceeds after := by
  simp only [Prod.mk.injEq] at same
  rcases same with ⟨configuration_eq, queue_eq, terminated_eq⟩
  refine ⟨configuration_eq, queue_eq ▸ List.suffix_rfl, journal, ?_, ?_⟩
  · intro past
    left
    rwa [PastInbox, frames_eq, terminated_eq] at past
  · intro bare terminated
    rw [terminated_eq] at terminated
    rw [pools_eq terminated]
    exact bare terminated

/-- Nothing is written into the journal. -/
theorem of_silent
    (same : (after.configuration, after.inbox.queue, after.terminated) =
      (before.configuration, before.inbox.queue, before.terminated))
    (frames_eq : after.frames.any Frame.isPastInbox = before.frames.any Frame.isPastInbox)
    (pools_eq : before.terminated = true → after.pools = before.pools)
    (journal_eq : after.journal = before.journal) : before.Proceeds after :=
  of_same same frames_eq pools_eq ⟨[], by simp, journal_eq⟩

theorem refl (engine : Engine κ τ) : engine.Proceeds engine :=
  of_silent rfl rfl (fun _ => rfl) rfl

theorem trans {between : Engine κ τ} (first : before.Proceeds between)
    (second : between.Proceeds after) : before.Proceeds after where
  configuration_eq := second.configuration_eq.trans first.configuration_eq
  queue := second.queue.trans first.queue
  journal := by
    rcases first.journal with ⟨events, silent, appended⟩
    rcases second.journal with ⟨others, othersSilent, othersAppended⟩
    refine ⟨others ++ events, ?_, by rw [othersAppended, appended, List.append_assoc]⟩
    intro event eventMem
    rcases List.mem_append.mp eventMem with other | own
    · exact othersSilent event other
    · exact silent event own
  pastInbox := by
    intro past
    rcases second.pastInbox past with pastBetween | empty
    · rcases first.pastInbox pastBetween with pastBefore | empty
      · exact .inl pastBefore
      · exact .inr (List.eq_nil_of_suffix_nil (empty ▸ second.queue))
    · exact .inr empty
  bare := fun bare => second.bare (first.bare bare)

end Proceeds

section Operations

variable {engine : Engine κ τ} {frame : Frame τ} (platform : Platform κ)

theorem proceeds_next (engine : Engine κ τ) (early : frame.isPastInbox = false) :
    engine.Proceeds (engine.next frame) :=
  .of_silent rfl (by simp [next, early]) (fun _ => rfl) rfl

theorem proceeds_pop (engine : Engine κ τ) (frame : Frame τ) :
    (engine.next frame).Proceeds engine where
  configuration_eq := rfl
  queue := List.suffix_rfl
  journal := ⟨[], by simp, rfl⟩
  pastInbox := by
    intro past
    refine .inl (past.imp id fun below => ?_)
    simp [next, below]
  bare := id

/-- What is planned is past the inbox only where the frame before it was, or once the inbox is empty. -/
theorem proceeds_plans {between : Engine κ τ} (plans : engine.Plans frame between) :
    (engine.next frame).Proceeds between := by
  induction plans with
  | nothing => exact proceeds_pop engine frame
  | next plans emptyHanded pastInbox ih =>
      refine ⟨ih.configuration_eq, ih.queue, ih.journal, ?_, ih.bare⟩
      intro past
      simp only [PastInbox, next, List.any_cons, Bool.or_eq_true] at past
      rcases past with terminated | above | below
      · exact ih.pastInbox (.inl terminated)
      · exact (pastInbox above).imp (fun past => .inr (by simp [next, past])) id
      · exact ih.pastInbox (.inr below)

theorem proceeds_answer (engine : Engine κ τ) (answer : Except RingError ℕ) :
    engine.Proceeds { engine with answer := answer } :=
  .of_silent rfl rfl (fun _ => rfl) rfl

theorem proceeds_flush (engine : Engine κ τ) : engine.Proceeds (engine.flush platform) := by
  unfold flush
  by_cases empty : engine.staged.isEmpty
  · rw [if_pos empty]
    exact .refl engine
  · rw [if_neg empty]
    rcases pushWithRoom_eq platform engine with ⟨outcome, world, events, pushes, told⟩
    have silent : ∀ event ∈ events, event.isSignal = false := by
      rcases told with ⟨-, rfl⟩ | ⟨_, -, rfl⟩ | ⟨count, rfl⟩
      all_goals simp [Event.isSignal]
    rw [pushes]
    rcases outcome with error | ⟨⟨⟩⟩
    · exact .of_same rfl rfl (fun _ => rfl) ⟨events, silent, rfl⟩
    · exact .of_same rfl rfl (fun _ => rfl) ⟨events, silent, rfl⟩

theorem proceeds_beginRequest (engine : Engine κ τ) (request : Request τ) :
    engine.Proceeds (engine.beginRequest platform request) := by
  have waiting : engine.Proceeds (engine.next (.stage request)) := proceeds_next engine rfl
  unfold beginRequest
  split
  · exact waiting.trans (proceeds_flush platform _)
  · exact waiting

theorem proceeds_runTask (engine : Engine κ τ) (task : Task τ) :
    engine.Proceeds (engine.runTask platform task) := by
  cases task with
  | request command promise => exact proceeds_beginRequest platform engine _
  | job body =>
      exact .of_same rfl rfl (fun _ => rfl) ⟨[.started body], by simp [Event.isSignal], rfl⟩

theorem proceeds_takeTask {task : Task τ} {inbox : Inbox (Task τ)}
    (popped : engine.inbox.pop? = some (task, inbox)) :
    engine.Proceeds ({ engine with inbox := inbox }.runTask platform task) := by
  have taken : engine.Proceeds { engine with inbox := inbox } := by
    refine ⟨rfl, ?_, ⟨[], by simp, rfl⟩, .inl, id⟩
    rw [(Inbox.eq_of_pop? popped).2]
    exact List.suffix_cons _ _
  exact taken.trans (proceeds_runTask platform _ task)

theorem proceeds_shutdown (engine : Engine κ τ) : engine.Proceeds engine.shutdown := by
  rcases shutdown_cases engine with ⟨-, same⟩ | ⟨-, -, deferred⟩ | ⟨-, -, begun⟩
  · rw [same]
    exact .refl engine
  · rw [deferred]
    exact .of_silent rfl rfl (fun _ => rfl) rfl
  · rw [begun]
    exact .of_silent rfl rfl (fun _ => rfl) rfl

theorem proceeds_endDispatch (engine : Engine κ τ) (outer : Bool) :
    engine.Proceeds (engine.endDispatch outer) := by
  rcases endDispatch_cases engine outer with ⟨-, -, begun⟩ | ⟨-, left⟩
  · rw [begun]
    exact .of_silent rfl rfl (fun _ => rfl) rfl
  · rw [left]
    exact .of_silent rfl rfl (fun _ => rfl) rfl

theorem proceeds_armWake (engine : Engine κ τ) : engine.Proceeds (engine.armWake platform) := by
  rcases armWake_cases engine platform with ⟨-, same⟩ | ⟨descriptor, -, -, -, armed⟩
  · rw [same]
    exact .refl engine
  · rw [armed]
    exact .of_silent rfl rfl (fun _ => rfl) rfl

theorem proceeds_reap (engine : Engine κ τ) : engine.Proceeds (engine.reap platform) := by
  rcases reap_eq platform engine with ⟨batch, world, reaped⟩
  rw [reaped]
  exact .of_same rfl rfl (fun _ => rfl) ⟨[.drained batch], by simp [Event.isSignal], rfl⟩

theorem proceeds_enterKernel (engine : Engine κ τ) (wait : Wait) :
    engine.Proceeds (engine.enterKernel platform wait) := by
  have told (want : ℕ) (outcome : Except RingError ℕ) :
      ∀ event ∈ ([.waited want wait outcome] : List (Event τ)), event.isSignal = false := by
    simp [Event.isSignal]
  rcases enterKernel_eq platform engine wait with ⟨want, world, ⟨error, failed⟩ | ⟨count, entered⟩⟩
  · rw [failed]
    exact .of_same rfl rfl (fun _ => rfl) ⟨_, told want (.error error), rfl⟩
  · have logged : engine.Proceeds
        ({ engine with world := world }.log (.waited want wait (.ok count))) :=
      .of_same rfl rfl (fun _ => rfl) ⟨_, told want (.ok count), rfl⟩
    rw [entered]
    exact logged.trans (proceeds_reap platform _)

theorem proceeds_deliver (engine : Engine κ τ) (continuation : Continuation τ) (outcome : Outcome) :
    engine.Proceeds (engine.deliver (some continuation) outcome) := by
  have told : (continuation.event outcome).isSignal = false := by cases continuation <;> rfl
  rw [deliver_some]
  refine .of_same rfl (continuation.any_isPastInbox_frames _) (fun _ => rfl)
    ⟨[continuation.event outcome], ?_, rfl⟩
  simp [told]

theorem proceeds_turns {after : Engine κ τ} (turns : engine.Turns platform frame after) :
    (engine.next frame).Proceeds after := by
  have popped : (engine.next frame).Proceeds engine := proceeds_pop engine frame
  cases turns with
  | plans plans => exact proceeds_plans plans
  | answers answer after_eq =>
      rw [after_eq]
      exact popped.trans (proceeds_answer engine answer)
  | shutsDown between plans after_eq =>
      rw [after_eq]
      exact (proceeds_plans plans).trans (proceeds_shutdown between)
  | leavesBatch between plans outer after_eq =>
      rw [after_eq]
      exact (proceeds_plans plans).trans (proceeds_endDispatch between outer)
  | takesTask between plans task inbox found after_eq =>
      rw [after_eq]
      exact (proceeds_plans plans).trans (proceeds_takeTask platform found)
  | armsWake wait frame_eq after_eq =>
      have armed := popped.trans (proceeds_armWake platform engine)
      rw [after_eq]
      exact (armed.trans (proceeds_next _ rfl)).trans (proceeds_flush platform _)
  | entersKernel wait after_eq =>
      rw [after_eq]
      exact popped.trans (proceeds_enterKernel platform engine wait)
  | reaps between plans after_eq =>
      rw [after_eq]
      exact (proceeds_plans plans).trans (proceeds_reap platform between)

/-- The completion of the wake-up poll is acknowledged. -/
theorem runFrame_of_isWakeUp (engine : Engine κ τ) (wake : frame.isWakeUp) :
    ∃ (record : CompletionRecord) (rest : List CompletionRecord) (delivered : ℕ) (outer : Bool),
      frame = .dispatch (record :: rest) delivered outer ∧
        engine.runFrame platform frame =
          (engine.next (.dispatch rest delivered outer)).acknowledge platform := by
  cases frame with
  | dispatch completions delivered outer =>
      cases completions with
      | nil => cases wake
      | cons record rest =>
          have fired : record.userData = wakeUserData := of_decide_eq_true wake
          exact ⟨record, rest, delivered, outer, rfl, by rw [runFrame, if_pos fired]⟩
  | _ => cases wake

end Operations

namespace Sound

variable {engine : Engine κ τ} {flights : Multiset (Flight τ)}
  {hand : Multiset (Grip (Continuation τ))} {frame : Frame τ}

theorem proceeds_stage {request : Request τ} (sound : (engine.next (.stage request)).Sound flights hand)
    (platform : Platform κ) (spare : engine.inFlight + 2 ≤ UInt32.size) :
    engine.Proceeds (engine.runFrame platform (.stage request)) := by
  rcases sound.of_next rfl with ⟨below, -⟩
  cases opened : engine.closed with
  | true =>
      have rejected : engine.runFrame platform (.stage request) =
          engine.deliver (some request.continuation) ⟨request.command.kind, .error .closed⟩ := by
        simp [Engine.runFrame, Engine.stageRequest, opened, orRaise]
        rfl
      rw [rejected]
      exact proceeds_deliver engine _ _
  | false =>
      have running : engine.terminated ≠ true := fun terminated =>
        below.not_released_of_open opened (.inl terminated)
      rcases below.accounts.books.stageRequest engine (below.room spare) platform request with
        ⟨pools, tags, failure, rejected, -⟩ | ⟨-, pools, tags, admissions, admitted, -⟩
      · simp only [Engine.runFrame, rejected, orRaise]
        refine Proceeds.trans ?_ (proceeds_deliver _ _ _)
        exact .of_silent rfl rfl (fun terminated => absurd terminated running) rfl
      · simp only [Engine.runFrame, admitted, orRaise]
        exact .of_silent rfl rfl (fun terminated => absurd terminated running) rfl

theorem proceeds_unloads (sound : (engine.next frame).Sound flights hand) (platform : Platform κ)
    (loaded : frame.isLoaded) (other : frame.isWakeUp = false) :
    (engine.next frame).Proceeds (engine.runFrame platform frame) := by
  have running := sound.running_of_isLoaded loaded
  have left_any {left : Frame τ} (isLeft : left.IsLeftOf frame) :
      (engine.next left).frames.any Frame.isPastInbox =
        (engine.next frame).frames.any Frame.isPastInbox := by
    simp [Engine.next, isLeft.isPastInbox_eq]
  cases sound.unloads_runFrame platform loaded with
  | acknowledges record rest delivered outer frame_eq wake after_eq =>
      rw [frame_eq] at other
      simp [Frame.isWakeUp, wake] at other
  | disarms left isLeft after_eq =>
      rw [after_eq]
      exact .of_silent rfl (left_any isLeft) (fun _ => rfl) rfl
  | delivers left isLeft grip continuation holds pools held_eq tags world statistics outcome after_eq =>
      rw [after_eq]
      refine Proceeds.trans ?_ (proceeds_deliver _ _ _)
      exact .of_silent rfl (left_any isLeft) (fun terminated => absurd terminated running) rfl

theorem proceeds_runFrame (sound : (engine.next frame).Sound flights hand) (platform : Platform κ)
    (spare : engine.inFlight + 2 ≤ UInt32.size) (other : frame.isWakeUp = false) :
    (engine.next frame).Proceeds (engine.runFrame platform frame) := by
  cases business : frame.isBusiness with
  | false => exact proceeds_turns platform (engine.turns_runFrame platform business)
  | true =>
      rcases Frame.business_cases business with ⟨request, rfl⟩ | loaded | rfl | rfl
      · exact (proceeds_pop engine _).trans (sound.proceeds_stage platform spare)
      · exact sound.proceeds_unloads platform loaded other
      · exact ⟨rfl, List.suffix_rfl, ⟨[.released], by simp [Event.isSignal], rfl⟩,
          fun _ => .inl (.inr rfl), id⟩
      · exact ⟨rfl, List.suffix_rfl, ⟨[.terminated], by simp [Event.isSignal], rfl⟩,
          fun _ => .inl (.inr rfl), fun _ _ => engine.pools.bare_clear⟩

/-- An engine proceeds by itself, or consumes the signals that made the wake-up poll fire. -/
theorem proceeds_step (sound : engine.Sound flights hand) (platform : Platform κ)
    (spare : engine.inFlight + 2 ≤ UInt32.size) :
    engine.Proceeds (engine.step platform) ∨
      ∃ (below : Engine κ τ) (record : CompletionRecord) (rest : List CompletionRecord)
        (delivered : ℕ) (outer : Bool),
        engine = below.next (.dispatch (record :: rest) delivered outer) ∧
          engine.step platform = (below.next (.dispatch rest delivered outer)).acknowledge platform := by
  rcases step_cases engine platform with ⟨-, same⟩ | ⟨below, frame, rfl, stepped⟩
  · rw [same]
    exact .inl (.refl engine)
  · rw [stepped]
    cases wake : frame.isWakeUp with
    | false => exact .inl (sound.proceeds_runFrame platform spare wake)
    | true =>
        rcases runFrame_of_isWakeUp platform below wake with
          ⟨record, rest, delivered, outer, rfl, acknowledged⟩
        exact .inr ⟨below, record, rest, delivered, outer, rfl, acknowledged⟩

end Sound

end Engine

end CompletionEngine
