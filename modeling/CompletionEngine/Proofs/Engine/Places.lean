import CompletionEngine.Proofs.Engine.Tasks
import CompletionEngine.Proofs.Slots.Places

/-!
# The memory of entries lies apart after every step

Only a request, a completion, a refused record and a leftover touch entries at all, and of these only
a request prepares some. So the blocks of all entries go on to lie apart.
-/

namespace CompletionEngine

variable {κ τ : Type}

namespace Engine

variable {engine after : Engine κ τ} {kind : Kind} {slot : UInt32} {platform : Platform κ}

section Slots

theorem apart_modifyEntry {α : Type} {value : α}
    {action : Entry kind (Continuation τ) → Except Fault (α × Entry kind (Continuation τ))}
    (modified : engine.modifyEntry ⟨kind, slot⟩ action = .ok (value, after))
    (apart : engine.pools.Apart)
    (keeps : ∀ {entry replacement}, action entry = .ok (value, replacement) →
      (kind.places replacement.payload).Sublist (kind.places entry.payload)) :
    after.pools.Apart := by
  rcases exists_of_modifyEntry modified with ⟨entry, replacement, got, acts, replaced⟩
  rw [replaced]
  exact apart.set (Pool.shrinks_set got (keeps acts))

theorem apart_releaseSlot (released : engine.releaseSlot ⟨kind, slot⟩ = .ok after)
    (apart : engine.pools.Apart) : after.pools.Apart := by
  rcases exists_of_releaseSlot released with ⟨pool, gives, after_eq⟩
  rw [after_eq]
  exact apart.set (Pool.shrinks_release gives)

theorem apart_abortSlot {failure : Failure}
    (aborted : engine.abortSlot ⟨kind, slot⟩ failure = .ok after) (apart : engine.pools.Apart) :
    after.pools.Apart := by
  rcases exists_of_bind aborted with ⟨⟨completion, failed⟩, modified, releases⟩
  rcases exists_of_bind releases with ⟨given, released, same⟩
  cases same
  rw [pools_deliver]
  refine apart_releaseSlot released (apart_modifyEntry modified apart fun aborts => ?_)
  rw [Entry.payload_abort aborts]

theorem apart_registerSlot {tag : UInt32}
    (registered : engine.registerSlot ⟨kind, slot⟩ = .ok (tag, after))
    (apart : engine.pools.Apart) : after.pools.Apart := by
  rcases exists_of_bind registered with ⟨⟨_, bound⟩, modified, same⟩
  cases same
  refine apart_modifyEntry modified apart fun acts => ?_
  cases acts
  exact List.Sublist.refl _

theorem pools_resolveTag {tag : UInt32} {reference : SlotRef}
    (resolved : engine.resolveTag tag = .ok (reference, after)) : after.pools = engine.pools := by
  rcases exists_of_bind resolved with ⟨⟨found, tags⟩, -, same⟩
  cases same
  rfl

theorem apart_stageSlot (staged : engine.stageSlot ⟨kind, slot⟩ = .ok after)
    (apart : engine.pools.Apart) : after.pools.Apart := by
  rcases exists_of_bind staged with ⟨⟨record, marked⟩, modified, same⟩
  cases same
  have markedApart : marked.pools.Apart := by
    refine apart_modifyEntry modified apart fun acts => ?_
    rcases exists_of_bind acts with ⟨replacement, marks, same⟩
    cases same
    rw [Entry.payload_markSubmitted marks]
  exact markedApart

theorem apart_stagePair {guard : Option SlotRef}
    (staged : engine.stagePair ⟨kind, slot⟩ guard = .ok after) (apart : engine.pools.Apart) :
    after.pools.Apart := by
  cases guard with
  | none => exact apart_stageSlot staged apart
  | some guard =>
      rcases exists_of_bind staged with ⟨⟨_, linked⟩, modified, stages⟩
      rcases exists_of_bind stages with ⟨first, firstStaged, guardStaged⟩
      have linkedApart : linked.pools.Apart := by
        refine apart_modifyEntry modified apart fun acts => ?_
        cases acts
        exact List.Sublist.refl _
      exact apart_stageSlot guardStaged (apart_stageSlot firstStaged linkedApart)

theorem apart_prepareSlot {params : kind.Params} {continuation : Continuation τ}
    {outcome : Except Failure Unit}
    (prepared : engine.prepareSlot platform ⟨kind, slot⟩ params continuation =
      .ok (outcome, after)) (apart : engine.pools.Apart) : after.pools.Apart := by
  rcases exists_of_modifyEntry prepared with ⟨entry, replacement, got, prepares, replaced⟩
  simp only [Pools.get_growHeap] at got replaced
  rw [replaced]
  exact apart.prepare got rfl prepares

theorem apart_alloc {pool : Pool kind (Continuation τ)} {outcome : Except Failure UInt32}
    (allocates : (engine.pools.get kind).alloc = (outcome, pool)) (apart : engine.pools.Apart) :
    (engine.pools.set kind pool).Apart := by
  have shrinks := (engine.pools.get kind).shrinks_alloc
  rw [allocates] at shrinks
  exact apart.set shrinks

theorem apart_prepareGuard {limit : TimeLimit} {outcome : Except Failure SlotRef}
    (prepared : engine.prepareGuard platform limit = .ok (outcome, after))
    (apart : engine.pools.Apart) : after.pools.Apart := by
  unfold prepareGuard allocSlot at prepared
  rcases allocates : (engine.pools.get .guard).alloc with ⟨failure | slot, pool⟩
  · simp only [allocates, Except.map] at prepared
    cases prepared
    exact apart_alloc allocates apart
  · simp only [allocates, Except.map] at prepared
    rcases exists_of_bind prepared with ⟨⟨failure | ⟨⟨⟩⟩, ready⟩, readied, rest⟩
    · have readyApart := apart_prepareSlot readied (apart_alloc allocates apart)
      rcases exists_of_bind rest with ⟨given, aborted, same⟩
      cases same
      exact apart_abortSlot aborted readyApart
    · have readyApart := apart_prepareSlot readied (apart_alloc allocates apart)
      rcases exists_of_bind rest with ⟨⟨tag, bound⟩, registered, same⟩
      cases same
      exact apart_registerSlot registered readyApart

theorem apart_prepareGuard? {limit : Option TimeLimit} {outcome : Except Failure (Option SlotRef)}
    (prepared : engine.prepareGuard? platform limit = .ok (outcome, after))
    (apart : engine.pools.Apart) : after.pools.Apart := by
  cases limit with
  | none =>
      cases prepared
      exact apart
  | some limit =>
      rcases exists_of_bind prepared with ⟨⟨guard, ready⟩, readied, same⟩
      cases same
      exact apart_prepareGuard readied apart

/-- A request prepares entries with what the heap has, whether it is admitted or rejected. -/
theorem apart_stageRequest {request : Request τ}
    (staged : engine.stageRequest platform request = .ok after) (apart : engine.pools.Apart) :
    after.pools.Apart := by
  rcases request with ⟨⟨kind, params, limit⟩, continuation⟩
  unfold stageRequest at staged
  by_cases closed : engine.closed = true
  · simp only [if_pos closed] at staged
    cases staged
    rw [pools_deliver]
    exact apart
  · simp only [if_neg closed] at staged
    rcases allocates : (engine.pools.get kind).alloc with ⟨failure | slot, pool⟩
    · simp only [allocates] at staged
      cases staged
      rw [pools_deliver]
      exact apart
    · simp only [allocates] at staged
      rcases exists_of_bind staged with ⟨⟨failure | ⟨⟨⟩⟩, ready⟩, prepared, rest⟩
      · exact apart_abortSlot rest (apart_prepareSlot prepared (apart_alloc allocates apart))
      · have readyApart := apart_prepareSlot prepared (apart_alloc allocates apart)
        rcases exists_of_bind rest with ⟨⟨tag, bound⟩, registered, rest⟩
        have boundApart := apart_registerSlot registered readyApart
        rcases exists_of_bind rest with ⟨⟨failure | guard, guarded⟩, guards, rest⟩
        · have guardedApart := apart_prepareGuard? guards boundApart
          rcases exists_of_bind rest with ⟨⟨_, freed⟩, resolved, aborted⟩
          exact apart_abortSlot aborted (pools_resolveTag resolved ▸ guardedApart)
        · have guardedApart := apart_prepareGuard? guards boundApart
          rcases exists_of_bind rest with ⟨pair, paired, same⟩
          cases same
          have pairApart := apart_stagePair paired guardedApart
          exact pairApart

theorem apart_completeSlot {record : CompletionRecord}
    (completed : engine.completeSlot platform ⟨kind, slot⟩ record = .ok after)
    (apart : engine.pools.Apart) : after.pools.Apart := by
  rcases exists_of_bind completed with ⟨⟨⟨completion, world⟩, ended⟩, modified, releases⟩
  rcases exists_of_bind releases with ⟨given, released, same⟩
  cases same
  rw [pools_deliver]
  have endedApart : ended.pools.Apart := by
    refine apart_modifyEntry modified apart fun {entry replacement} acts => ?_
    rcases exists_of_bind acts with ⟨⟨told, left, world⟩, completes, same⟩
    cases same
    rw [Entry.places_complete completes, Entry.receive, Kind.places_receive]
  exact apart_releaseSlot released endedApart

theorem apart_dispatchOne {record : CompletionRecord}
    (dispatched : engine.dispatchOne platform record = .ok after) (apart : engine.pools.Apart) :
    after.pools.Apart := by
  rcases exists_of_bind dispatched with ⟨⟨reference, freed⟩, resolved, completed⟩
  exact apart_completeSlot completed (pools_resolveTag resolved ▸ apart)

theorem apart_refuseOne {record : SubmitRecord} {failure : Failure}
    (refused : engine.refuseOne record failure = .ok after) (apart : engine.pools.Apart) :
    after.pools.Apart := by
  rcases exists_of_bind refused with ⟨⟨reference, freed⟩, resolved, aborted⟩
  exact apart_abortSlot aborted (pools_resolveTag resolved ▸ apart)

end Slots

section Pools

variable (engine : Engine κ τ) (platform : Platform κ)

theorem pools_flush : (engine.flush platform).pools = engine.pools := by
  rcases flush_cases platform engine with
    ⟨-, same⟩ | ⟨-, world, events, -, pushed | ⟨error, refused⟩⟩
  · rw [same]
  · rw [pushed]
  · rw [refused]

theorem pools_beginRequest (request : Request τ) :
    (engine.beginRequest platform request).pools = engine.pools := by
  rcases beginRequest_eq platform engine request with plain | room
  · rw [plain]
    rfl
  · rw [room, pools_flush]
    rfl

theorem pools_shutdown : engine.shutdown.pools = engine.pools := by
  rcases shutdown_cases engine with ⟨-, same⟩ | ⟨-, -, deferred⟩ | ⟨-, -, begun⟩
  · rw [same]
  · rw [deferred]
  · rw [begun]

theorem pools_endDispatch (outer : Bool) : (engine.endDispatch outer).pools = engine.pools := by
  rcases endDispatch_cases engine outer with ⟨-, -, begun⟩ | ⟨-, ended⟩
  · rw [begun]
  · rw [ended]

theorem pools_armWake : (engine.armWake platform).pools = engine.pools := by
  rcases armWake_cases engine platform with ⟨-, same⟩ | ⟨descriptor, -, -, -, armed⟩
  · rw [same]
  · rw [armed]

theorem pools_enterKernel (wait : Wait) :
    (engine.enterKernel platform wait).pools = engine.pools := by
  rcases enterKernel_cases platform engine wait with ⟨world, event, -, ⟨error, failed⟩ | entered⟩
  · rw [failed]
    rfl
  · rw [entered]
    rfl

end Pools

/-- Whatever begins and ends no operation leaves all entries alone. -/
theorem Turns.pools_eq {frame : Frame τ} (turns : engine.Turns platform frame after) :
    after.pools = engine.pools := by
  cases turns with
  | plans plans => rw [plans.same]
  | answers answer after_eq => rw [after_eq]
  | shutsDown between plans after_eq => rw [after_eq, pools_shutdown, plans.same]
  | leavesBatch between plans outer after_eq => rw [after_eq, pools_endDispatch, plans.same]
  | takesTask between plans task inbox popped after_eq =>
      rw [after_eq]
      cases task with
      | request command promise =>
          simp only [runTask, pools_beginRequest]
          rw [plans.same]
      | job body =>
          rw [plans.same]
          rfl
  | armsWake wait frame_eq after_eq =>
      rw [after_eq, pools_flush]
      exact pools_armWake engine platform
  | entersKernel wait after_eq => rw [after_eq, pools_enterKernel]
  | reaps between plans after_eq =>
      rw [after_eq, plans.same]
      rfl

theorem apart_orRaise {result : Except Fault (Engine κ τ)} (apart : engine.pools.Apart)
    (kept : ∀ after, result = .ok after → after.pools.Apart) :
    (engine.orRaise result).pools.Apart := by
  cases result with
  | ok after => exact kept after rfl
  | error fault => exact apart

/-- A step on a frame leaves the blocks of all entries apart. -/
theorem apart_runFrame {frame : Frame τ} (apart : engine.pools.Apart) (platform : Platform κ) :
    (engine.runFrame platform frame).pools.Apart := by
  cases business : frame.isBusiness with
  | false =>
      rw [(engine.turns_runFrame platform business).pools_eq]
      exact apart
  | true =>
      cases frame with
      | stage request =>
          exact apart_orRaise apart fun _ staged => apart_stageRequest staged apart
      | dispatch batch delivered outer =>
          cases batch with
          | nil => cases business
          | cons record rest =>
              simp only [runFrame]
              split
              · exact apart
              · exact apart_orRaise apart fun _ dispatched => apart_dispatchOne dispatched apart
      | refuse records failure outer =>
          cases records with
          | nil => cases business
          | cons record rest =>
              simp only [runFrame]
              split
              · exact apart
              · exact apart_orRaise apart fun _ refused => apart_refuseOne refused apart
      | release => exact apart
      | fail leftovers =>
          cases leftovers with
          | nil => exact Pools.apart_clear engine.pools
          | cons leftover rest =>
              exact apart_orRaise apart fun _ aborted => apart_abortSlot aborted apart
      | _ => cases business

theorem apart_step (apart : engine.pools.Apart) (platform : Platform κ) :
    (engine.step platform).pools.Apart := by
  rcases step_cases engine platform with ⟨-, same⟩ | ⟨below, frame, rfl, stepped⟩
  · rwa [same]
  · have belowApart : below.pools.Apart := apart
    rw [stepped]
    exact apart_runFrame belowApart platform

end Engine

end CompletionEngine
