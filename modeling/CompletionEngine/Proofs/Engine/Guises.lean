import CompletionEngine.Proofs.Operation.Shown

/-!
# Guises

A guise shows an engine otherwise than it is: on another platform, with more to be done below, or
with marks. It keeps the slots, the tags, what is staged and the counts, and what is entered into
the journal or put on top shows through it. An engine that stages requests, pushes what is staged
and ends operations touches nothing else, so it does all of this in every guise alike.
-/

namespace CompletionEngine

variable {κ σ τ : Type}

/-- Whether the frame lets a continuation run, or delivers a record of a batch. -/
def Frame.isDelivery : Frame τ → Bool
  | .client | .dispatch (_ :: _) .. | .refuse (_ :: _) .. => true
  | _ => false

/-- Whether an event is a signal sent to the engine. -/
def Event.isNotified : Event τ → Bool
  | .notified _ => true
  | _ => false

namespace Engine

/-- A map of engines that shows the platform through a view and leaves alone what operations
need. -/
structure Guise (view : κ → σ) (guise : Engine κ τ → Engine σ τ) : Prop where
  world_eq : ∀ engine, (guise engine).world = view engine.world
  pools_eq : ∀ engine, (guise engine).pools = engine.pools
  tags_eq : ∀ engine, (guise engine).tags = engine.tags
  staged_eq : ∀ engine, (guise engine).staged = engine.staged
  statistics_eq : ∀ engine, (guise engine).statistics = engine.statistics
  dispatching_eq : ∀ engine, (guise engine).dispatching = engine.dispatching
  setWorld : ∀ engine world,
    ({ guise engine with world := view world } : Engine σ τ) = guise { engine with world := world }
  setPools : ∀ engine pools,
    ({ guise engine with pools := pools } : Engine σ τ) = guise { engine with pools := pools }
  setTags : ∀ engine tags,
    ({ guise engine with tags := tags } : Engine σ τ) = guise { engine with tags := tags }
  setStaged : ∀ engine staged,
    ({ guise engine with staged := staged } : Engine σ τ) = guise { engine with staged := staged }
  setStatistics : ∀ engine statistics,
    ({ guise engine with statistics := statistics } : Engine σ τ) =
      guise { engine with statistics := statistics }
  setWakeArmed : ∀ engine armed,
    ({ guise engine with wakeArmed := armed } : Engine σ τ) =
      guise { engine with wakeArmed := armed }
  setDispatching : ∀ engine dispatching,
    ({ guise engine with dispatching := dispatching } : Engine σ τ) =
      guise { engine with dispatching := dispatching }
  log : ∀ engine event, event.isNotified = false →
    (guise engine).log event = guise (engine.log event)
  next : ∀ engine frame, (guise engine).next frame = guise (engine.next frame)
  raise : ∀ engine fault, (guise engine).raise fault = guise (engine.raise fault)

namespace Guise

variable {view : κ → σ} {guise : Engine κ τ → Engine σ τ} (is : Guise view guise)

include is

section Slots

theorem deliver (continuation : Option (Continuation τ)) (outcome : Outcome) (engine : Engine κ τ) :
    (guise engine).deliver continuation outcome = guise (engine.deliver continuation outcome) := by
  rcases continuation with _ | label | label | _
  · rfl
  · simp only [Engine.deliver, is.log _ (.called label outcome) rfl, is.next]
  · simp only [Engine.deliver, is.log _ (.settled label outcome) rfl]
  · simp only [Engine.deliver, is.log _ (.guarded outcome) rfl, is.statistics_eq, is.setStatistics]

theorem orRaise (result : Except Fault (Engine κ τ)) (engine : Engine κ τ) :
    (guise engine).orRaise (result.map guise) = guise (engine.orRaise result) := by
  cases result with
  | ok after => rfl
  | error fault => exact is.raise engine fault

theorem modifyEntry {α : Type} (reference : SlotRef)
    (action : Entry reference.kind (Continuation τ) →
      Except Fault (α × Entry reference.kind (Continuation τ))) (engine : Engine κ τ) :
    (guise engine).modifyEntry reference action =
      (engine.modifyEntry reference action).map (Prod.map id guise) := by
  simp only [Engine.modifyEntry, is.pools_eq, is.setPools]
  cases (engine.pools.get reference.kind).get reference.slot with
  | error fault => rfl
  | ok entry =>
      simp only [bind, Except.bind]
      cases action entry <;> rfl

theorem releaseSlot (reference : SlotRef) (engine : Engine κ τ) :
    (guise engine).releaseSlot reference = (engine.releaseSlot reference).map guise := by
  simp only [Engine.releaseSlot, is.pools_eq, is.setPools]
  cases (engine.pools.get reference.kind).release reference.slot <;> rfl

theorem resolveTag (tag : UInt32) (engine : Engine κ τ) :
    (guise engine).resolveTag tag = (engine.resolveTag tag).map (Prod.map id guise) := by
  simp only [Engine.resolveTag, is.tags_eq, is.setTags]
  cases engine.tags.resolve tag <;> rfl

theorem abortSlot (reference : SlotRef) (failure : Failure) (engine : Engine κ τ) :
    (guise engine).abortSlot reference failure =
      (engine.abortSlot reference failure).map guise := by
  simp only [Engine.abortSlot, is.modifyEntry]
  rcases engine.modifyEntry reference (·.abort failure) with fault | ⟨completion, engine⟩
  · rfl
  · simp only [Except.map, bind, Except.bind, Prod.map, id, is.releaseSlot]
    cases engine.releaseSlot reference with
    | error fault => rfl
    | ok engine => exact congrArg Except.ok (is.deliver _ _ engine)

theorem refuseOne (record : SubmitRecord) (failure : Failure) (engine : Engine κ τ) :
    (guise engine).refuseOne record failure = (engine.refuseOne record failure).map guise := by
  simp only [Engine.refuseOne, is.resolveTag]
  rcases engine.resolveTag record.userData.toUInt32 with fault | ⟨reference, engine⟩
  · rfl
  · exact is.abortSlot reference failure engine

theorem registerSlot (reference : SlotRef) (engine : Engine κ τ) :
    (guise engine).registerSlot reference =
      (engine.registerSlot reference).map (Prod.map id guise) := by
  simp only [Engine.registerSlot, is.tags_eq, is.setTags, is.modifyEntry]
  cases Engine.modifyEntry reference _ ({ engine with tags := _ } : Engine κ τ) <;> rfl

theorem stageSlot (reference : SlotRef) (engine : Engine κ τ) :
    (guise engine).stageSlot reference = (engine.stageSlot reference).map guise := by
  simp only [Engine.stageSlot, is.modifyEntry]
  generalize engine.modifyEntry reference _ = modified
  rcases modified with fault | ⟨record, engine⟩
  · rfl
  · simp only [Except.map, bind, Except.bind, Prod.map, id, is.staged_eq, is.setStaged]

theorem stagePair (reference : SlotRef) (guard : Option SlotRef) (engine : Engine κ τ) :
    (guise engine).stagePair reference guard = (engine.stagePair reference guard).map guise := by
  cases guard with
  | none => exact is.stageSlot reference engine
  | some guard =>
      simp only [Engine.stagePair, is.modifyEntry]
      generalize engine.modifyEntry reference _ = modified
      rcases modified with fault | ⟨linked, engine⟩
      · rfl
      · simp only [Except.map, bind, Except.bind, Prod.map, id, is.stageSlot]
        cases engine.stageSlot reference with
        | error fault => rfl
        | ok engine => exact is.stageSlot guard engine

theorem runFrame_fail (platform : Platform κ) (shown : Platform σ) (leftover : UInt32 × SlotRef)
    (rest : List (UInt32 × SlotRef)) (engine : Engine κ τ) :
    (guise engine).runFrame shown (.fail (leftover :: rest)) =
      guise (engine.runFrame platform (.fail (leftover :: rest))) := by
  simp only [Engine.runFrame, is.statistics_eq, is.setStatistics, is.next, is.abortSlot, is.orRaise]

end Slots

section Platforms

variable {platform : Platform κ} {shown : Platform σ} (shows : platform.Shows shown view)

include shows

theorem completeSlot (reference : SlotRef) (record : CompletionRecord) (engine : Engine κ τ) :
    (guise engine).completeSlot shown reference record =
      (engine.completeSlot platform reference record).map guise := by
  have filled (pools : Pools (Continuation τ)) :
      ({ guise engine with pools := pools, world := view engine.world } : Engine σ τ) =
        guise { engine with pools := pools } := by
    rw [← is.world_eq]
    exact is.setPools engine pools
  simp only [Engine.completeSlot, Engine.modifyEntry, is.pools_eq, is.world_eq, shows.now,
    shows.sockets.complete]
  cases (engine.pools.get reference.kind).get reference.slot with
  | error fault => rfl
  | ok entry =>
      simp only [bind, Except.bind]
      rcases (entry.receive record.written).complete platform.sockets (platform.now engine.world)
        record.result engine.world with fault | ⟨completion, entry, world⟩
      · rfl
      · simp only [Except.map, Prod.map, id, filled, is.setWorld, is.releaseSlot]
        cases Engine.releaseSlot reference ({ engine with pools := _, world } : Engine κ τ) with
        | error fault => rfl
        | ok engine => exact congrArg Except.ok (is.deliver _ _ engine)

theorem dispatchOne (record : CompletionRecord) (engine : Engine κ τ) :
    (guise engine).dispatchOne shown record = (engine.dispatchOne platform record).map guise := by
  simp only [Engine.dispatchOne, is.resolveTag]
  rcases engine.resolveTag (tagOfCompletion record.userData) with fault | ⟨reference, engine⟩
  · rfl
  · simp only [Except.map, bind, Except.bind, Prod.map, id, is.statistics_eq, is.setStatistics]
    exact is.completeSlot shows reference record _

theorem prepareSlot (reference : SlotRef) (params : reference.kind.Params)
    (continuation : Continuation τ) (engine : Engine κ τ) :
    (guise engine).prepareSlot shown reference params continuation =
      (engine.prepareSlot platform reference params continuation).map (Prod.map id guise) := by
  simp only [Engine.prepareSlot, is.pools_eq, is.setPools]
  simp only [is.world_eq, shows.now, is.modifyEntry]

theorem prepareGuard (limit : TimeLimit) (engine : Engine κ τ) :
    (guise engine).prepareGuard shown limit =
      (engine.prepareGuard platform limit).map (Prod.map id guise) := by
  simp only [Engine.prepareGuard, Engine.allocSlot, is.pools_eq, is.setPools]
  rcases (engine.pools.get .guard).alloc with ⟨failure | slot, pool⟩
  · rfl
  · have shownPrepared := is.prepareSlot shows ⟨.guard, slot⟩ limit .guard
      { engine with pools := engine.pools.set .guard pool }
    simp only [Except.map, shownPrepared]
    generalize Engine.prepareSlot platform ⟨.guard, slot⟩ limit .guard
      ({ engine with pools := _ } : Engine κ τ) = prepared
    rcases prepared with fault | ⟨failure | ⟨⟨⟩⟩, engine⟩
    · rfl
    · simp only [Except.map, bind, Except.bind, Prod.map, id, is.abortSlot]
      cases engine.abortSlot ⟨.guard, slot⟩ failure <;> rfl
    · simp only [Except.map, bind, Except.bind, Prod.map, id, is.registerSlot]
      cases engine.registerSlot ⟨.guard, slot⟩ <;> rfl

theorem prepareGuard? (limit : Option TimeLimit) (engine : Engine κ τ) :
    (guise engine).prepareGuard? shown limit =
      (engine.prepareGuard? platform limit).map (Prod.map id guise) := by
  cases limit with
  | none => rfl
  | some limit =>
      simp only [Engine.prepareGuard?, is.prepareGuard shows]
      rcases engine.prepareGuard platform limit with fault | ⟨guard, engine⟩ <;> rfl

/-- In a guise that does not close the engine, a request is staged or fails as it would otherwise.
-/
theorem stageRequest (request : Request τ)
    {engine : Engine κ τ} (closed : (guise engine).closed = engine.closed) :
    (guise engine).stageRequest shown request =
      (engine.stageRequest platform request).map guise := by
  rcases request with ⟨⟨kind, params, limit⟩, continuation⟩
  simp only [Engine.stageRequest]
  by_cases isClosed : engine.closed = true
  · rw [if_pos (closed.trans isClosed), if_pos isClosed]
    exact congrArg Except.ok (is.deliver _ _ engine)
  · rw [if_neg (closed.trans_ne isClosed), if_neg isClosed]
    simp only [is.pools_eq, is.setPools]
    rcases (engine.pools.get kind).alloc with ⟨failure | slot, pool⟩
    · exact congrArg Except.ok (is.deliver _ _ engine)
    · simp only [is.prepareSlot shows]
      generalize Engine.prepareSlot platform ⟨kind, slot⟩ params continuation
        ({ engine with pools := _ } : Engine κ τ) = prepared
      rcases prepared with fault | ⟨failure | ⟨⟨⟩⟩, engine⟩
      · rfl
      · exact is.abortSlot ⟨kind, slot⟩ failure engine
      · simp only [Except.map, bind, Except.bind, Prod.map, id, is.registerSlot]
        rcases engine.registerSlot ⟨kind, slot⟩ with fault | ⟨tag, engine⟩
        · rfl
        · simp only [is.prepareGuard? shows]
          rcases engine.prepareGuard? platform limit with fault | ⟨failure | guard, engine⟩
          · rfl
          · simp only [Except.map, Prod.map, id, is.resolveTag]
            rcases engine.resolveTag tag with fault | ⟨reference, engine⟩
            · rfl
            · exact is.abortSlot ⟨kind, slot⟩ failure engine
          · simp only [Except.map, Prod.map, id, is.stagePair]
            cases engine.stagePair ⟨kind, slot⟩ guard with
            | error fault => rfl
            | ok engine => simp only [is.statistics_eq, is.setStatistics]

theorem push (engine : Engine κ τ) :
    (guise engine).push shown = (engine.push platform).map id guise := by
  rcases pushed : platform.ring.push engine.staged engine.world with ⟨outcome, world⟩
  have alike : shown.ring.push (guise engine).staged (guise engine).world =
      (outcome, view world) := by
    rw [is.staged_eq, is.world_eq, shows.ring.push, pushed]
    rfl
  simp only [Engine.push, pushed, alike]
  rw [is.setWorld, is.staged_eq, is.log _ _ rfl]
  rfl

theorem submit (engine : Engine κ τ) :
    (guise engine).submit shown = (engine.submit platform).map id guise := by
  rcases submitted : platform.ring.submit engine.world with ⟨outcome, world⟩
  have alike : shown.ring.submit (guise engine).world = (outcome, view world) := by
    rw [is.world_eq, shows.ring.submit, submitted]
    rfl
  simp only [Engine.submit, submitted, alike]
  rw [is.setWorld, is.log _ _ rfl]
  rfl

theorem pushWithRoom (engine : Engine κ τ) :
    (guise engine).pushWithRoom shown = (engine.pushWithRoom platform).map id guise := by
  simp only [Engine.pushWithRoom, is.push shows]
  rcases engine.push platform with ⟨error | done, engine⟩
  · cases error with
    | full =>
        simp only [Prod.map, id, is.submit shows]
        rcases engine.submit platform with ⟨error | count, engine⟩
        · rfl
        · exact is.push shows engine
    | _ => rfl
  · rfl

theorem flush (engine : Engine κ τ) :
    (guise engine).flush shown = guise (engine.flush platform) := by
  simp only [Engine.flush, is.staged_eq]
  split
  · rfl
  · rw [is.pushWithRoom shows]
    rcases engine.pushWithRoom platform with ⟨error | done, after⟩
    · have inHand : ({ guise after with staged := [], dispatching := true } : Engine σ τ) =
          guise { after with staged := [], dispatching := true } := by
        have last := is.setDispatching { after with staged := [] } true
        rw [← is.setStaged] at last
        exact last
      dsimp only [Prod.map_apply, id]
      rw [inHand, is.dispatching_eq, is.staged_eq, is.next]
    · exact is.setStaged after []

theorem beginRequest (request : Request τ) (engine : Engine κ τ) :
    (guise engine).beginRequest shown request = guise (engine.beginRequest platform request) := by
  simp only [Engine.beginRequest, is.world_eq, is.staged_eq, shows.ring.capacity, is.next]
  split
  · exact is.flush shows _
  · rfl

theorem acknowledge (engine : Engine κ τ) :
    (guise engine).acknowledge shown = guise (engine.acknowledge platform) := by
  rcases acknowledged : platform.notifier.acknowledge engine.world with ⟨outcome, world⟩
  have alike : shown.notifier.acknowledge (guise engine).world = (outcome, view world) := by
    rw [is.world_eq, shows.acknowledge, acknowledged]
    rfl
  have consumed (counted : Statistics) :
      ({ guise engine with world := view world, wakeArmed := false, statistics := counted } :
        Engine σ τ) =
      guise { engine with world := world, wakeArmed := false, statistics := counted } := by
    have last := is.setStatistics { engine with world := world, wakeArmed := false } counted
    rw [← is.setWakeArmed { engine with world := world } false, ← is.setWorld] at last
    exact last
  simp only [Engine.acknowledge, acknowledged, alike, is.statistics_eq]
  rw [consumed, is.log _ _ rfl]

/-- As long as continuations run and records of batches are delivered, a guise changes nothing. -/
theorem runFrame_delivery {frame : Frame τ} (delivery : frame.isDelivery) (engine : Engine κ τ) :
    (guise engine).runFrame shown frame = guise (engine.runFrame platform frame) := by
  cases frame with
  | client => exact is.next engine .client
  | dispatch batch delivered outer =>
      cases batch with
      | nil => cases delivery
      | cons record rest =>
          simp only [Engine.runFrame, is.next, is.dispatchOne shows, is.orRaise,
            is.acknowledge shows]
          split <;> rfl
  | refuse records failure outer =>
      cases records with
      | nil => cases delivery
      | cons record rest =>
          simp only [Engine.runFrame, is.next, is.refuseOne, is.orRaise, is.setWakeArmed]
          split <;> rfl
  | _ => cases delivery

theorem runFrame_stage (request : Request τ) {engine : Engine κ τ}
    (closed : (guise engine).closed = engine.closed) :
    (guise engine).runFrame shown (.stage request) =
      guise (engine.runFrame platform (.stage request)) := by
  rw [Engine.runFrame, is.stageRequest shows request closed, is.orRaise]
  rfl

end Platforms

end Guise

end Engine

end CompletionEngine
