import CompletionEngine.Proofs.Engine.Tasks
import CompletionEngine.Proofs.Runs.Scene

/-!
# Moves other than steps

Callers and other threads leave most of an engine alone. Only a request may have dealings with the
ring, only a push queues tasks, and only pushes and other threads signal.
-/

namespace CompletionEngine

variable {κ τ : Type}

theorem PushEffect.isMarked_events (effect : PushEffect (Task τ)) (platform : Platform κ)
    (world : κ) : ∀ event ∈ effect.events platform world, event.isMarked = false := by
  cases effect with
  | reject task failure => cases task <;> simp [events, Event.isMarked]
  | _ => simp [events, Event.isMarked]

/-- The task that a push has not queued yet. -/
def PushPhase.task? {α : Type} : PushPhase α → Option α
  | .check task | .enqueue task => some task
  | _ => none

/-- The task that a step of a push rejects. -/
def PushEffect.rejected? {α : Type} : PushEffect α → Option α
  | .reject task _ => some task
  | _ => none

/-- A push queues its task or rejects it, and loses none of those that are queued but by rejecting
them. -/
theorem PushPhase.tasks_advance {α : Type} (phase : PushPhase α) (inbox : Inbox α) :
    (((phase.advance inbox).2.2.queue ++ ((phase.advance inbox).1.task?.toList ++
      (phase.advance inbox).2.1.rejected?.toList) : List α) : Multiset α) =
        (inbox.queue ++ phase.task?.toList : List α) := by
  cases phase with
  | check task =>
      simp only [advance]
      split <;> simp [task?, PushEffect.rejected?]
  | enqueue task =>
      by_cases room : inbox.queue.length < inbox.capacity
      · simp [advance, Inbox.enqueue?, room, task?, PushEffect.rejected?]
      · simp [advance, Inbox.enqueue?, room, task?, PushEffect.rejected?]
  | recheck =>
      simp only [advance]
      split <;> simp [task?, PushEffect.rejected?]
  | sweep =>
      cases queued : inbox.queue with
      | nil => simp [advance, Inbox.pop?, queued, task?, PushEffect.rejected?]
      | cons task rest =>
          simp only [advance, Inbox.pop?, queued, task?, PushEffect.rejected?, Option.toList,
            List.nil_append, List.append_nil, Multiset.coe_eq_coe]
          exact List.perm_append_singleton task rest
  | wake | returned => simp [advance, task?, PushEffect.rejected?]

/-- The request that a caller makes with a move. -/
def Move.request? : Move κ τ → Option (Request τ)
  | .request command label => some ⟨command.normalize, .caller label⟩
  | .requestPromise command promise => some ⟨command.normalize, .promise promise⟩
  | _ => none

namespace Scene

variable {platform : Platform κ} {engine : Engine κ τ}

theorem stays_finish (engine : Engine κ τ) : engine.Stays engine.finish := by
  unfold Engine.finish
  split
  · rename_i rest running
    refine .of_silent rfl id ?_ rfl
    simp [running, Frame.completions, Frame.refusals, Frame.isFail]
  · exact .refl engine

theorem stays_wake (engine : Engine κ τ) (platform : Platform κ) :
    engine.Stays (engine.wake platform) :=
  .of_same [.notified _] rfl id ⟨rfl, rfl, rfl⟩ (by simp [Event.isMarked]) rfl

theorem stays_advancePush (engine : Engine κ τ) (platform : Platform κ)
    (phase : PushPhase (Task τ)) : engine.Stays (engine.advancePush platform phase).2 := by
  rcases advancePush_eq engine platform phase with ⟨world, advanced⟩
  rw [advanced]
  exact .of_same _ rfl id ⟨rfl, rfl, rfl⟩ (PushEffect.isMarked_events _ platform engine.world) rfl

/-- Of all moves but a step, only a request may have dealings with the ring. -/
theorem deals_perform {pushes : List (PushPhase (Task τ))} {move : Move κ τ}
    (platform : Platform κ) (other : move ≠ .step) :
    engine.Deals ((Scene.mk engine pushes).perform platform move).engine := by
  cases move with
  | step => exact absurd rfl other
  | request command label => exact Engine.deals_beginRequest platform (.refl engine) _
  | requestPromise command promise => exact Engine.deals_beginRequest platform (.refl engine) _
  | cycle limit => exact .stays (Engine.stays_next engine ⟨rfl, rfl, rfl⟩)
  | work => exact .stays (Engine.stays_next engine ⟨rfl, rfl, rfl⟩)
  | shutdown => exact .stays (Engine.stays_shutdown engine)
  | finish => exact .stays (stays_finish engine)
  | drop =>
      simp only [perform, Engine.drop]
      split
      · exact .stays (.refl engine)
      · exact .stays (Engine.stays_shutdown engine)
  | push task => exact .stays (.refl engine)
  | advance index =>
      simp only [perform, advance]
      split
      · exact .stays (.refl engine)
      · exact .stays (stays_advancePush engine platform _)
  | closeInbox => exact .stays (.of_silent rfl id ⟨rfl, rfl, rfl⟩ rfl)
  | wake => exact .stays (stays_wake engine platform)
  | drift world => exact .stays (.of_silent rfl id ⟨rfl, rfl, rfl⟩ rfl)

/-- Only a step arms the wake-up poll, or tells that it is not armed any more. -/
theorem wakeArmed_perform {pushes : List (PushPhase (Task τ))} {move : Move κ τ}
    (platform : Platform κ) (other : move ≠ .step) :
    ((Scene.mk engine pushes).perform platform move).engine.wakeArmed = engine.wakeArmed := by
  have flushed (engine : Engine κ τ) : (engine.flush platform).wakeArmed = engine.wakeArmed := by
    rcases Engine.flush_cases platform engine with
      ⟨-, same⟩ | ⟨-, world, events, -, pushed | ⟨error, refused⟩⟩
    · rw [same]
    · rw [pushed]
    · rw [refused]
  have begun (request : Request τ) :
      (engine.beginRequest platform request).wakeArmed = engine.wakeArmed := by
    rcases Engine.beginRequest_eq platform engine request with plain | room
    · rw [plain]
      rfl
    · rw [room, flushed]
      rfl
  have closed : engine.shutdown.wakeArmed = engine.wakeArmed := by
    rcases Engine.shutdown_cases engine with ⟨-, same⟩ | ⟨-, -, deferred⟩ | ⟨-, -, begun⟩
    · rw [same]
    · rw [deferred]
    · rw [begun]
  cases move with
  | step => exact absurd rfl other
  | request command label => exact begun _
  | requestPromise command promise => exact begun _
  | shutdown => exact closed
  | finish =>
      simp only [perform, Engine.finish]
      split <;> rfl
  | drop =>
      simp only [perform, Engine.drop]
      split
      · rfl
      · exact closed
  | advance index =>
      simp only [perform, advance]
      split
      · rfl
      · rename_i phase _
        rcases advancePush_eq engine platform phase with ⟨world, advanced⟩
        rw [advanced]
  | _ => rfl

/-- Only steps and pushes have to do with the tasks of other threads. A caller may put a request on
top. -/
theorem leaves_perform {pushes : List (PushPhase (Task τ))} {move : Move κ τ}
    (platform : Platform κ) (notStep : move ≠ .step) (notPush : ∀ index, move ≠ .advance index) :
    (move.request?.elim engine fun request => engine.next (.stage request)).Leaves
      ((Scene.mk engine pushes).perform platform move).engine := by
  cases move with
  | step => exact absurd rfl notStep
  | advance index => exact absurd rfl (notPush index)
  | request command label => exact Engine.leaves_beginRequest platform engine _
  | requestPromise command promise => exact Engine.leaves_beginRequest platform engine _
  | cycle limit => exact Engine.leaves_next engine rfl
  | work => exact Engine.leaves_next engine rfl
  | shutdown => exact Engine.leaves_shutdown engine
  | finish =>
      simp only [perform, Engine.finish]
      split
      · rename_i rest running
        refine .of_silent rfl ?_ rfl
        change requestsIn rest = requestsIn engine.frames
        rw [running]
        rfl
      · exact .refl engine
  | drop =>
      simp only [perform, Engine.drop]
      split
      · exact .refl engine
      · exact Engine.leaves_shutdown engine
  | wake => exact .of_same [.notified _] rfl rfl (by simp [Event.isJob]) rfl
  | _ => exact .of_silent rfl rfl rfl

/-- Only a push that goes on may queue a task, and only steps, pushes and other threads have to do
with signals. -/
theorem proceeds_perform {pushes : List (PushPhase (Task τ))} {move : Move κ τ}
    (platform : Platform κ) (notStep : move ≠ .step) (notPush : ∀ index, move ≠ .advance index)
    (notWake : move ≠ .wake) :
    engine.Proceeds ((Scene.mk engine pushes).perform platform move).engine ∧
      pushes <+: ((Scene.mk engine pushes).perform platform move).pushes := by
  cases move with
  | step => exact absurd rfl notStep
  | advance index => exact absurd rfl (notPush index)
  | wake => exact absurd rfl notWake
  | push task => exact ⟨.refl engine, List.prefix_append pushes _⟩
  | request command label =>
      exact ⟨Engine.proceeds_beginRequest platform engine _, List.prefix_rfl⟩
  | requestPromise command promise =>
      exact ⟨Engine.proceeds_beginRequest platform engine _, List.prefix_rfl⟩
  | cycle limit => exact ⟨Engine.proceeds_next engine rfl, List.prefix_rfl⟩
  | work => exact ⟨Engine.proceeds_next engine rfl, List.prefix_rfl⟩
  | shutdown => exact ⟨Engine.proceeds_shutdown engine, List.prefix_rfl⟩
  | finish =>
      refine ⟨?_, List.prefix_rfl⟩
      simp only [perform, Engine.finish]
      split
      · rename_i rest running
        exact .of_silent rfl (by rw [running]; rfl) (fun _ => rfl) rfl
      · exact .refl engine
  | drop =>
      refine ⟨?_, List.prefix_rfl⟩
      simp only [perform, Engine.drop]
      split
      · exact .refl engine
      · exact Engine.proceeds_shutdown engine
  | closeInbox => exact ⟨.of_silent rfl rfl (fun _ => rfl) rfl, List.prefix_rfl⟩
  | drift world => exact ⟨.of_silent rfl rfl (fun _ => rfl) rfl, List.prefix_rfl⟩

end Scene

end CompletionEngine
