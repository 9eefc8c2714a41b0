import CompletionEngine.Proofs.Engine.Guises
import CompletionEngine.Proofs.Runs.Scene

/-!
# What there is to be seen of an engine

An engine never looks back at the signals that it has been sent. When nothing else on its platform
shows them either, two engines that differ in them only go on alike, whatever is asked of them.
-/

namespace CompletionEngine

variable {κ σ τ : Type}

namespace Engine

/-- An engine as it is seen through a view of its platform, without the signals it was sent. -/
def seen (view : κ → σ) (engine : Engine κ τ) : Engine σ τ where
  world := view engine.world
  configuration := engine.configuration
  pools := engine.pools
  tags := engine.tags
  staged := engine.staged
  inbox := engine.inbox
  statistics := engine.statistics
  wakeArmed := engine.wakeArmed
  closed := engine.closed
  dispatching := engine.dispatching
  shutdownDeferred := engine.shutdownDeferred
  terminated := engine.terminated
  frames := engine.frames
  answer := engine.answer
  fault := engine.fault
  journal := engine.journal.filter fun event => !event.isNotified

section Steps

variable {view : κ → σ} {platform : Platform κ} {shown : Platform σ}

theorem guise_seen (view : κ → σ) : Guise view (seen view : Engine κ τ → Engine σ τ) := by
  constructor
  case log =>
    intro engine event heard
    simp [seen, Engine.log, heard]
  all_goals
    intros
    rfl

variable (engine : Engine κ τ)

theorem seen_endDispatch (outer : Bool) :
    (engine.seen view).endDispatch outer = (engine.endDispatch outer).seen view := by
  simp only [endDispatch, apply_ite (seen view)]
  rfl

theorem seen_shutdown : (engine.seen view).shutdown = engine.shutdown.seen view := by
  simp only [shutdown, apply_ite (seen view)]
  rfl

variable (shows : platform.Shows shown view)

include shows

theorem seen_armWake : (engine.seen view).armWake shown = (engine.armWake platform).seen view := by
  have polled : shown.notifier.pollDescriptor (engine.seen view).world =
      platform.notifier.pollDescriptor engine.world :=
    shows.pollDescriptor engine.world
  simp only [armWake, apply_ite (seen view), polled]
  cases platform.notifier.pollDescriptor engine.world <;> rfl

theorem seen_reap : (engine.seen view).reap shown = (engine.reap platform).seen view := by
  have drained : shown.ring.drain (engine.seen view).world =
      (platform.ring.drain engine.world).map id view :=
    shows.ring.drain engine.world
  simp only [reap, drained]
  rfl

theorem seen_enterKernel (wait : Wait) :
    (engine.seen view).enterKernel shown wait = (engine.enterKernel platform wait).seen view := by
  have wanted :
      (if (engine.seen view).tags.isEmpty && !(engine.seen view).wakeArmed then 0 else 1) =
        if engine.tags.isEmpty && !engine.wakeArmed then 0 else 1 := rfl
  rcases waited : platform.ring.submitAndWait
      (if engine.tags.isEmpty && !engine.wakeArmed then 0 else 1) wait engine.world with
    ⟨outcome, world⟩
  have alike : shown.ring.submitAndWait
      (if engine.tags.isEmpty && !engine.wakeArmed then 0 else 1) wait (engine.seen view).world =
        (outcome, view world) :=
    (shows.ring.submitAndWait _ wait engine.world).trans (by rw [waited]; rfl)
  simp only [enterKernel, wanted, waited, alike]
  rw [(guise_seen view).setWorld, (guise_seen view).log _ _ rfl]
  cases outcome with
  | error error => rfl
  | ok count => exact seen_reap _ shows

theorem seen_releaseRing :
    (engine.seen view).releaseRing shown = (engine.releaseRing platform).seen view := by
  have released : shown.ring.release (engine.seen view).world =
      view (platform.ring.release engine.world) :=
    shows.ring.release engine.world
  simp only [releaseRing, released]
  rfl

theorem seen_runTask (task : Task τ) :
    (engine.seen view).runTask shown task = (engine.runTask platform task).seen view := by
  cases task with
  | request command promise => exact (guise_seen view).beginRequest shows _ engine
  | job body => rfl

theorem seen_runFrame (frame : Frame τ) :
    (engine.seen view).runFrame shown frame = (engine.runFrame platform frame).seen view := by
  have isGuise := guise_seen (κ := κ) (τ := τ) view
  -- What calls and batches do is done in every guise. The other frames look at the inbox, at the
  -- answer, or at a part of the platform of their own.
  cases frame with
  | client => rfl
  | stage request => exact isGuise.runFrame_stage shows request rfl
  | intake remaining wait =>
      cases remaining with
      | zero => rfl
      | succ remaining =>
          have same : (engine.seen view).inbox.pop? = engine.inbox.pop? := rfl
          simp only [runFrame, same]
          cases engine.inbox.pop? with
          | none => rfl
          | some taken =>
              exact seen_runTask (({ engine with inbox := taken.2 } : Engine κ τ).next _) shows
                taken.1
  | dispatch batch delivered outer =>
      cases batch with
      | nil => exact seen_endDispatch (engine.next (.report delivered)) outer
      | cons record rest => exact isGuise.runFrame_delivery shows rfl engine
  | refuse records failure outer =>
      cases records with
      | nil => exact seen_endDispatch engine outer
      | cons record rest => exact isGuise.runFrame_delivery shows rfl engine
  | observe wait =>
      simp only [runFrame, apply_ite (seen view), ← seen_shutdown]
      rfl
  | arm wait =>
      simp only [runFrame, apply_ite (seen view)]
      rw [← isGuise.flush shows, ← isGuise.next, ← seen_armWake engine shows]
      rfl
  | enter wait =>
      simp only [runFrame, apply_ite (seen view), ← seen_enterKernel engine shows]
      rfl
  | report delivered => rfl
  | emptyInbox =>
      have same : (engine.seen view).inbox.pop? = engine.inbox.pop? := rfl
      have now : shown.now (engine.seen view).world = platform.now engine.world :=
        shows.now engine.world
      simp only [runFrame, same, now]
      cases engine.inbox.pop? with
      | none => rfl
      | some taken =>
          exact seen_runTask (({ engine with inbox := taken.2 } : Engine κ τ).next _) shows taken.1
  | drain deadline =>
      have now : shown.now (engine.seen view).world = platform.now engine.world :=
        shows.now engine.world
      simp only [runFrame, apply_ite (seen view), now]
      rfl
  | drained deadline =>
      have same : (engine.seen view).answer = engine.answer := rfl
      simp only [runFrame, same]
      cases engine.answer <;> rfl
  | lastReap => exact seen_reap (engine.next .release) shows
  | release => exact seen_releaseRing engine shows
  | fail leftovers =>
      cases leftovers with
      | nil => rfl
      | cons leftover rest => exact isGuise.runFrame_fail platform shown leftover rest engine
  | work =>
      simp only [runFrame, apply_ite (seen view)]
      rfl
  | worked =>
      have same : (engine.seen view).answer = engine.answer := rfl
      simp only [runFrame, same]
      cases engine.answer with
      | error error => exact seen_shutdown engine
      | ok delivered => rfl

theorem seen_step : (engine.seen view).step shown = (engine.step platform).seen view := by
  by_cases turn : engine.awaitsCaller
  · have alike : (engine.seen view).awaitsCaller := turn
    rw [step, step, if_pos turn, if_pos alike]
  · have alike : ¬(engine.seen view).awaitsCaller := turn
    rw [step, step, if_neg turn, if_neg alike]
    have same : (engine.seen view).frames = engine.frames := rfl
    simp only [same]
    cases engine.frames with
    | nil => rfl
    | cons frame rest => exact seen_runFrame { engine with frames := rest } shows frame

end Steps

theorem seen_wake {view : κ → σ} {platform : Platform κ}
    (unheard : ∀ world, view (platform.notifier.notify world).2 = view world)
    (engine : Engine κ τ) : (engine.wake platform).seen view = engine.seen view := by
  simp only [wake, log, seen, unheard]
  rfl

end Engine

theorem outstanding_filter (journal : List (Event τ)) :
    outstanding (journal.filter fun event => !event.isNotified) = outstanding journal := by
  induction journal with
  | nil => rfl
  | cons event journal ih =>
      cases event with
      | pushed records outcome =>
          cases outcome with
          | error error => exact ih
          | ok done => exact congrArg (_ + ·) ih
      | drained batch => exact congrArg (· - _) ih
      | _ => exact ih

/-- A ring keeps its contract whatever signals are sent. -/
theorem keepsContract_filter (journal : List (Event τ)) :
    keepsContract (journal.filter fun event => !event.isNotified) = keepsContract journal := by
  induction journal with
  | nil => rfl
  | cons event journal ih =>
      cases event with
      | drained batch =>
          change (decide (_ ≤ outstanding (journal.filter _)) && keepsContract _) = _
          rw [outstanding_filter, ih]
          rfl
      | _ => exact ih

namespace Scene

/-- A scene as it is seen through a view of its platform, without the signals sent to its engine. -/
def seen (view : κ → σ) (scene : Scene κ τ) : Scene σ τ := ⟨scene.engine.seen view, scene.pushes⟩

variable {view : κ → σ} {platform : Platform κ} {shown : Platform σ} {left right : Scene κ τ}

theorem seen_finish (engine : Engine κ τ) :
    (engine.seen view).finish = engine.finish.seen view := by
  have same : (engine.seen view).frames = engine.frames := rfl
  simp only [Engine.finish, same]
  split <;> rfl

theorem seen_drop (engine : Engine κ τ) : (engine.seen view).drop = engine.drop.seen view := by
  simp only [Engine.drop, apply_ite (Engine.seen view), ← Engine.seen_shutdown]
  rfl

/-- Engines that look the same look the same after a push has gone on. -/
theorem seen_advancePush (unheard : ∀ world, view (platform.notifier.notify world).2 = view world)
    {left right : Engine κ τ} (same : left.seen view = right.seen view)
    (phase : PushPhase (Task τ)) :
    (left.advancePush platform phase).1 = (right.advancePush platform phase).1 ∧
      (left.advancePush platform phase).2.seen view =
        (right.advancePush platform phase).2.seen view := by
  have inbox_eq : left.inbox = right.inbox :=
    congrArg (fun engine : Engine σ τ => engine.inbox) same
  unfold Engine.advancePush
  rw [inbox_eq]
  rcases phase.advance right.inbox with ⟨next, effect, inbox⟩
  have kept : ({ left with inbox := inbox } : Engine κ τ).seen view =
      ({ right with inbox := inbox } : Engine κ τ).seen view :=
    congrArg (fun engine : Engine σ τ => { engine with inbox := inbox }) same
  cases effect with
  | nothing => exact ⟨rfl, kept⟩
  | reject task failure =>
      refine ⟨rfl, ?_⟩
      cases task with
      | request command promise =>
          exact congrArg (Engine.log (.settled promise ⟨command.kind, .error failure⟩)) kept
      | job body => exact congrArg (Engine.log (.dropped body failure)) kept
  | wake =>
      refine ⟨rfl, ?_⟩
      simp only [Engine.seen_wake unheard]
      exact kept

/-- Scenes that look the same look the same after each move. -/
theorem seen_perform (shows : platform.Shows shown view)
    (unheard : ∀ world, view (platform.notifier.notify world).2 = view world)
    (same : left.seen view = right.seen view) (move : Move κ τ) :
    (left.perform platform move).seen view = (right.perform platform move).seen view := by
  rcases left with ⟨left, pushes⟩
  rcases right with ⟨right, others⟩
  obtain ⟨agree, rfl⟩ : left.seen view = right.seen view ∧ pushes = others := by
    simpa only [seen, mk.injEq] using same
  -- What is done to engines in the same way through the view leaves them looking the same.
  have alike (change : Engine κ τ → Engine κ τ) (shownChange : Engine σ τ → Engine σ τ)
      (seen_change : ∀ engine, shownChange (engine.seen view) = (change engine).seen view) :
      (mk (change left) pushes).seen view = (mk (change right) pushes).seen view := by
    simp only [seen, ← seen_change, agree]
  have begun (request : Request τ) :=
    alike (·.beginRequest platform request) (·.beginRequest shown request)
      ((Engine.guise_seen view).beginRequest shows request)
  cases move with
  | step => exact alike (·.step platform) (·.step shown) fun engine => engine.seen_step shows
  | request command label => exact begun _
  | requestPromise command promise => exact begun _
  | cycle limit => exact alike (·.cycle limit) (·.cycle limit) fun engine => rfl
  | work => exact alike Engine.work Engine.work fun engine => rfl
  | shutdown => exact alike Engine.shutdown Engine.shutdown Engine.seen_shutdown
  | finish => exact alike Engine.finish Engine.finish seen_finish
  | drop => exact alike Engine.drop Engine.drop seen_drop
  | push task => exact congrArg (fun engine => mk engine (pushes ++ [.check task])) agree
  | advance index =>
      simp only [perform, advance]
      cases pushes[index]? with
      | none => exact same
      | some phase =>
          rcases seen_advancePush unheard agree phase with ⟨phases, engines⟩
          simp only [seen, phases, engines]
  | closeInbox =>
      exact alike (fun engine => { engine with inbox := engine.inbox.close })
        (fun engine => { engine with inbox := engine.inbox.close }) fun engine => rfl
  | wake =>
      simp only [perform, seen, Engine.seen_wake unheard]
      exact same
  | drift world =>
      exact alike (fun engine => { engine with world := world })
        (fun engine => { engine with world := view world }) fun engine => rfl

theorem allows_of_seen (same : left.seen view = right.seen view) (move : Move κ τ) :
    left.allows move = right.allows move := by
  have tags_eq := congrArg (fun scene : Scene σ τ => scene.engine.tags) same
  have frames_eq := congrArg (fun scene : Scene σ τ => scene.engine.frames) same
  have fault_eq := congrArg (fun scene : Scene σ τ => scene.engine.fault) same
  simp only [seen, Engine.seen] at tags_eq frames_eq fault_eq
  cases move with
  | step =>
      exact congrArg (fun tags : TagTable SlotRef => decide (tags.live + 2 ≤ UInt32.size)) tags_eq
  | _ => simp only [allows, Engine.awaitsCaller, frames_eq, fault_eq]

theorem seen_move (shows : platform.Shows shown view)
    (unheard : ∀ world, view (platform.notifier.notify world).2 = view world)
    (same : left.seen view = right.seen view) (move : Move κ τ) :
    (left.move? platform move).map (seen view) = (right.move? platform move).map (seen view) := by
  have after := seen_perform shows unheard same move
  have keeps : keepsContract (left.perform platform move).engine.journal =
      keepsContract (right.perform platform move).engine.journal := by
    have journal_eq := congrArg (fun scene : Scene σ τ => scene.engine.journal) after
    rw [← keepsContract_filter, ← keepsContract_filter (right.perform platform move).engine.journal]
    exact congrArg keepsContract journal_eq
  simp only [move?, allows_of_seen same move, keeps, apply_ite (Option.map (seen view)),
    Option.map_some, after]

/-- Scenes that look the same look the same after every run. -/
theorem seen_play (shows : platform.Shows shown view)
    (unheard : ∀ world, view (platform.notifier.notify world).2 = view world)
    (same : left.seen view = right.seen view) (moves : List (Move κ τ)) :
    (left.play? platform moves).map (seen view) = (right.play? platform moves).map (seen view) := by
  induction moves generalizing left right with
  | nil => exact congrArg some same
  | cons move moves ih =>
      have moved := seen_move shows unheard same move
      simp only [play?, List.foldlM_cons] at ih ⊢
      rcases one : left.move? platform move with _ | next <;>
        rcases other : right.move? platform move with _ | next' <;>
        simp only [one, other, Option.map_none, Option.map_some, reduceCtorEq] at moved
      · rfl
      · exact ih (Option.some.inj moved)

end Scene

end CompletionEngine
