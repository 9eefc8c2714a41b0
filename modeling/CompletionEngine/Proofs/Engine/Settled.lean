import CompletionEngine.Proofs.Engine.Requests
import CompletionEngine.Proofs.Engine.Room
import CompletionEngine.Proofs.Engine.Traffic

/-!
# What is staged fits into the ring

An engine is settled while what is staged fits into the ring and nobody has been told that the
submission queue stayed full. A request keeps to this, because it makes room for its records before
it stages them. The wake-up poll does not: it is staged without a look at the capacity. When it
exceeds the capacity, the engine is crowded, and what it does next is to fail a whole batch.
-/

namespace CompletionEngine

variable {κ τ : Type}

theorem Continuation.isCrowdedOut_event (continuation : Continuation τ) {outcome : Outcome}
    (other : outcome.result ≠ .error (.exhausted .submissionQueue)) :
    (continuation.event outcome).isCrowdedOut = false := by
  have told := Outcome.isCrowdedOut_of_ne other
  cases continuation with
  | guard => rfl
  | caller label => exact told
  | promise label => exact told

/-- The first record staged is that of an operation that somebody awaits, not that of a guard. -/
def Engine.Leads (engine : Engine κ τ) : Prop :=
  ∀ record rest, engine.staged = record :: rest → ∀ tag grip, engine.InFlight tag grip →
    tag.toUInt64 = record.userData → grip.entry.continuation ≠ some .guard

/-- Frames none of which stages a request or fails what the ring refused. -/
def Clear (frames : List (Frame τ)) : Prop :=
  ∀ frame ∈ frames, frame.isStage = false ∧ frame.isRefuse = false

/-- What is staged fits into the ring, and nothing has been refused. -/
structure Settled (capacity : ℕ) (engine : Engine κ τ) : Prop where
  staged_le : engine.staged.length ≤ capacity
  named : ∀ record ∈ engine.staged, record.userData ≠ wakeUserData
  leads : engine.Leads
  clear : Clear engine.frames
  untold : ∀ event ∈ engine.journal, event.isCrowdedOut = false

/-- An engine is settled, also once the request on top, if there is one, has been staged. -/
def Orderly (capacity : ℕ) (engine : Engine κ τ) : Prop :=
  Settled capacity engine ∨ ∃ (below : Engine κ τ) (request : Request τ),
    engine = below.next (.stage request) ∧ Settled capacity below ∧
      below.staged.length + request.command.recordCount ≤ capacity ∧
      request.continuation ≠ .guard

theorem Clear.cons {frame : Frame τ} {frames : List (Frame τ)} (clear : Clear frames)
    (notStage : frame.isStage = false) (notRefuse : frame.isRefuse = false) :
    Clear (frame :: frames) := by
  intro other otherMem
  rcases List.mem_cons.mp otherMem with rfl | below
  · exact ⟨notStage, notRefuse⟩
  · exact clear other below

theorem Clear.deliver {frames : List (Frame τ)} (clear : Clear frames)
    (continuation : Continuation τ) : Clear (continuation.frames ++ frames) := by
  cases continuation with
  | caller label => exact clear.cons rfl rfl
  | promise label => exact clear
  | guard => exact clear

namespace Settled

variable {capacity : ℕ} {before after engine : Engine κ τ} {platform : Platform κ}

/-- An engine stays settled while what is staged stays the same or is given up. -/
theorem transfer (settled : Settled capacity before)
    (inFlight : ∀ tag grip, after.InFlight tag grip → before.InFlight tag grip)
    (staged : after.staged = before.staged ∨ after.staged = []) (clear : Clear after.frames)
    (journal : ∃ events, (∀ event ∈ events, event.isCrowdedOut = false) ∧
      after.journal = events ++ before.journal) : Settled capacity after := by
  have untold : ∀ event ∈ after.journal, event.isCrowdedOut = false := by
    rcases journal with ⟨events, untold, appended⟩
    intro event eventMem
    rw [appended] at eventMem
    exact (List.mem_append.mp eventMem).elim (untold event) (settled.untold event)
  rcases staged with same | nothing
  · refine ⟨by rw [same]; exact settled.staged_le, by rw [same]; exact settled.named, ?_, clear, untold⟩
    intro record rest staged_eq tag grip inFlightAfter
    exact settled.leads record rest (same ▸ staged_eq) tag grip (inFlight tag grip inFlightAfter)
  · refine ⟨by simp [nothing], by simp [nothing], ?_, clear, untold⟩
    intro record rest staged_eq
    rw [nothing] at staged_eq
    cases staged_eq

theorem of_same (settled : Settled capacity before) (pools_eq : after.pools = before.pools)
    (tags_eq : after.tags = before.tags) (staged_eq : after.staged = before.staged)
    (clear : Clear after.frames)
    (journal : ∃ events, (∀ event ∈ events, event.isCrowdedOut = false) ∧
      after.journal = events ++ before.journal) : Settled capacity after := by
  refine settled.transfer ?_ (.inl staged_eq) clear journal
  intro tag grip inFlight
  rwa [Engine.InFlight, pools_eq, tags_eq] at inFlight

theorem next (settled : Settled capacity engine) {frame : Frame τ}
    (notStage : frame.isStage = false) (notRefuse : frame.isRefuse = false) :
    Settled capacity (engine.next frame) :=
  settled.of_same rfl rfl rfl (settled.clear.cons notStage notRefuse) ⟨[], by simp, rfl⟩

theorem plans {frame : Frame τ} (settled : Settled capacity before)
    (plans : before.Plans frame after) : Settled capacity after := by
  induction plans with
  | nothing => exact settled
  | next plans emptyHanded pastInbox ih =>
      exact ih.next (Frame.isStage_of_isEmptyHanded emptyHanded)
        (Frame.isRefuse_of_isEmptyHanded emptyHanded)

theorem answer (settled : Settled capacity engine) (answer : Except RingError ℕ) :
    Settled capacity { engine with answer := answer } :=
  settled.of_same rfl rfl rfl settled.clear ⟨[], by simp, rfl⟩

theorem log (settled : Settled capacity engine) {event : Event τ}
    (untold : event.isCrowdedOut = false) : Settled capacity (engine.log event) :=
  settled.of_same rfl rfl rfl settled.clear ⟨[event], by simp [untold], rfl⟩

theorem shutdown (settled : Settled capacity engine) : Settled capacity engine.shutdown := by
  rcases Engine.shutdown_cases engine with ⟨-, same⟩ | ⟨-, -, deferred⟩ | ⟨-, -, begun⟩
  · rw [same]
    exact settled
  · rw [deferred]
    exact settled.of_same rfl rfl rfl settled.clear ⟨[], by simp, rfl⟩
  · rw [begun]
    exact settled.of_same rfl rfl rfl (settled.clear.cons rfl rfl) ⟨[], by simp, rfl⟩

theorem endDispatch (settled : Settled capacity engine) (outer : Bool) :
    Settled capacity (engine.endDispatch outer) := by
  rcases Engine.endDispatch_cases engine outer with ⟨-, -, begun⟩ | ⟨-, left⟩
  · rw [begun]
    exact settled.of_same rfl rfl rfl (settled.clear.cons rfl rfl) ⟨[], by simp, rfl⟩
  · rw [left]
    exact settled.of_same rfl rfl rfl settled.clear ⟨[], by simp, rfl⟩

theorem reap (settled : Settled capacity engine) (platform : Platform κ) :
    Settled capacity (engine.reap platform) := by
  rcases Engine.reap_eq platform engine with ⟨batch, world, reaped⟩
  rw [reaped]
  exact settled.of_same rfl rfl rfl (settled.clear.cons rfl rfl)
    ⟨[.drained batch], by simp [Event.isCrowdedOut], rfl⟩

theorem enterKernel (settled : Settled capacity engine) (platform : Platform κ) (wait : Wait) :
    Settled capacity (engine.enterKernel platform wait) := by
  rcases Engine.enterKernel_cases platform engine wait with
    ⟨world, event, quiet, ⟨error, failed⟩ | entered⟩
  · have untold : event.isCrowdedOut = false := by
      cases event <;> first | rfl | cases quiet
    rw [failed]
    exact settled.of_same rfl rfl rfl settled.clear ⟨[event], by simp [untold], rfl⟩
  · have untold : event.isCrowdedOut = false := by
      cases event <;> first | rfl | cases quiet
    rw [entered]
    refine reap ?_ platform
    exact settled.of_same rfl rfl rfl settled.clear ⟨[event], by simp [untold], rfl⟩

theorem deliver (settled : Settled capacity before)
    (inFlight : ∀ tag grip, after.InFlight tag grip → before.InFlight tag grip)
    (staged_eq : after.staged = before.staged) (clear : Clear after.frames)
    (journal_eq : after.journal = before.journal) (continuation : Continuation τ)
    {outcome : Outcome} (other : outcome.result ≠ .error (.exhausted .submissionQueue)) :
    Settled capacity (after.deliver (some continuation) outcome) := by
  rw [Engine.deliver_some]
  refine settled.transfer inFlight (.inl staged_eq) (clear.deliver continuation)
    ⟨[continuation.event outcome], ?_, by rw [journal_eq]; rfl⟩
  simp [continuation.isCrowdedOut_event other]

/-- A request makes room for its records before it stages them. -/
theorem beginRequest (settled : Settled capacity engine) (roomy : 2 ≤ capacity)
    (sized : engine.staged = [] ∨ platform.ring.capacity engine.world = capacity)
    {request : Request τ} (own : request.continuation ≠ .guard)
    (serves : servesWell capacity (engine.beginRequest platform request).journal) :
    Orderly capacity (engine.beginRequest platform request) := by
  have count := request.command.recordCount_le
  unfold Engine.beginRequest at serves ⊢
  split at serves
  · rename_i short
    have fits : (engine.next (.stage request)).staged.length ≤ capacity := settled.staged_le
    rcases Engine.flush_of_fits platform _ fits serves with ⟨world, events, untold, flushed⟩
    rw [if_pos short, flushed]
    refine .inr ⟨{ engine with
      world := world
      staged := []
      journal := events ++ engine.journal }, request, rfl, ?_, ?_, own⟩
    · exact settled.transfer (fun _ _ inFlight => inFlight) (.inr rfl) settled.clear
        ⟨events, untold, rfl⟩
    · simp only [List.length_nil]
      omega
  · rename_i enough
    rw [if_neg enough]
    refine .inr ⟨engine, request, rfl, settled, ?_, own⟩
    rcases sized with nothing | sized
    · simp only [nothing, List.length_nil]
      omega
    · omega

theorem runTask (settled : Settled capacity engine) (roomy : 2 ≤ capacity)
    (sized : engine.staged = [] ∨ platform.ring.capacity engine.world = capacity) {task : Task τ}
    (serves : servesWell capacity (engine.runTask platform task).journal) :
    Orderly capacity (engine.runTask platform task) := by
  cases task with
  | request command promise => exact settled.beginRequest roomy sized (by simp) serves
  | job body => exact .inl ((settled.log rfl).next rfl rfl)

section Flights

variable {flights : Multiset (Flight τ)} {hand : Multiset (Grip (Continuation τ))}

theorem stage {request : Request τ} (settled : Settled capacity engine)
    (sound : (engine.next (.stage request)).Sound flights hand)
    (fits : engine.staged.length + request.command.recordCount ≤ capacity)
    (own : request.continuation ≠ .guard) (platform : Platform κ)
    (spare : engine.inFlight + 2 ≤ UInt32.size) :
    Settled capacity (engine.runFrame platform (.stage request)) := by
  rcases sound.of_next rfl with ⟨below, -⟩
  rcases below.accounts.books.stageRequest engine (below.room spare) platform request with
    ⟨pools, tags, failure, rejected, books, other⟩ |
      ⟨opened, pools, tags, admissions, admitted, books, errands, -, proper⟩
  · simp only [Engine.runFrame, rejected, Engine.orRaise]
    refine settled.deliver ?_ ?_ ?_ ?_ _ ?_
    · exact below.accounts.books.inFlight_of_le books le_rfl
    · rfl
    · exact settled.clear
    · rfl
    · simpa using other
  · simp only [Engine.runFrame, admitted, Engine.orRaise]
    have count : admissions.length = request.command.recordCount := by
      rw [← request.length_errands (platform.now engine.world), ← errands, List.length_map]
    refine ⟨?_, ?_, ?_, settled.clear, settled.untold⟩
    · simp only [List.length_append, List.length_map]
      omega
    · intro record recordMem
      rcases List.mem_append.mp recordMem with old | new
      · exact settled.named record old
      · rcases List.mem_map.mp new with ⟨admission, admissionMem, rfl⟩
        rw [(proper admission admissionMem).named]
        exact tag_ne_wakeUserData _
    · intro record rest staged_eq tag grip inFlight named
      cases staged : engine.staged with
      | cons first others =>
          simp only [staged, List.cons_append, List.cons.injEq] at staged_eq
          have somewhere : tag.toUInt64 ∈ engine.staged.map SubmitRecord.userData := by
            simp [staged, staged_eq.1, named]
          exact settled.leads first others staged tag grip
            (below.inFlight_of_more opened books inFlight (.inl somewhere)) (staged_eq.1 ▸ named)
      -- With nothing staged before, the request's own record leads, and its guard's comes second.
      | nil =>
          cases admissions with
          | nil => simp [staged] at staged_eq
          | cons admission admissions =>
              simp only [staged, List.nil_append, List.map_cons, List.cons.injEq] at staged_eq
              have first := proper admission (by simp)
              obtain rfl : tag = admission.flight.tag := by
                rw [← staged_eq.1, first.named] at named
                exact UInt32.toUInt64_inj.mp named
              have same : grip = admission.flight.grip :=
                books.eq_of_inFlight (by simp) inFlight
              rcases first.holds with ⟨slot, entry, previous, heap, held, holds, -⟩
              have errand : admission.errand.continuation = request.continuation := by
                simp only [Request.errands, List.map_cons, List.cons.injEq] at errands
                rw [errands.1]
              rw [same, held]
              simp only [holds, errand]
              simpa using own

theorem dispatch {batch : List CompletionRecord} {delivered : ℕ} {outer : Bool}
    (settled : Settled capacity engine)
    (sound : (engine.next (.dispatch batch delivered outer)).Sound flights hand)
    (platform : Platform κ) :
    Settled capacity (engine.runFrame platform (.dispatch batch delivered outer)) := by
  cases batch with
  | nil => exact (settled.next rfl rfl).endDispatch outer
  | cons record rest =>
      simp only [Engine.runFrame]
      split
      · refine settled.of_same rfl rfl rfl (settled.clear.cons rfl rfl) ⟨[.acknowledged _], ?_, rfl⟩
        simp [Event.isCrowdedOut]
      · rename_i operation
        rcases sound.dispatchOne_eq platform operation with
          ⟨flight, others, continuation, pools, tags, rfl, -, -, books, dispatched⟩
        simp only [dispatched, Engine.orRaise]
        refine settled.deliver ?_ ?_ ?_ ?_ _ ?_
        · exact sound.accounts.books.inFlight_of_le books (Multiset.le_cons_self _ _)
        · rfl
        · exact settled.clear.cons rfl rfl
        · rfl
        · exact Kind.translate_ne_exhausted _ _ _ _ _ _ _

theorem fail {leftovers : List (UInt32 × SlotRef)} (settled : Settled capacity engine)
    (sound : (engine.next (.fail leftovers)).Sound flights hand) (platform : Platform κ) :
    Settled capacity (engine.runFrame platform (.fail leftovers)) := by
  cases leftovers with
  | nil =>
      rcases sound.finishFail with ⟨rfl, rfl, after⟩
      have logged := after.log (rfl : outstanding (.terminated :: engine.journal) = _)
      refine settled.transfer ?_ (.inl rfl) settled.clear ⟨[.terminated], ?_, rfl⟩
      · exact sound.accounts.books.inFlight_of_le logged.accounts.books le_rfl
      · simp [Event.isCrowdedOut]
  | cons leftover rest =>
      rcases sound.fail_eq platform with
        ⟨grip, others, continuation, pools, rfl, -, -, -, books, failed⟩
      rw [failed]
      refine settled.deliver ?_ ?_ ?_ ?_ _ ?_
      · exact sound.accounts.books.inFlight_of_le books le_rfl
      · rfl
      · exact settled.clear.cons rfl rfl
      · rfl
      · simp

theorem release (settled : Settled capacity engine)
    (sound : (engine.next .release).Sound flights hand) (platform : Platform κ) :
    Settled capacity (engine.releaseRing platform) := by
  have after := sound.releaseRing platform
  refine settled.transfer ?_ (.inr rfl) (settled.clear.cons rfl rfl) ⟨[.released], ?_, rfl⟩
  · exact sound.accounts.books.inFlight_of_le after.accounts.books (Multiset.zero_le _)
  · simp [Event.isCrowdedOut]

end Flights

end Settled

/-- Whether the wake-up poll is about to be staged although the ring has no room for it besides what
is staged already. -/
def Engine.isCrowded (platform : Platform κ) (capacity : ℕ) (engine : Engine κ τ) : Bool :=
  match engine.frames with
  | .arm _ :: _ =>
    !engine.wakeArmed && !engine.closed &&
      (platform.notifier.pollDescriptor engine.world).isSome && engine.staged.length == capacity
  | _ => false

namespace Settled

variable {capacity : ℕ} {engine : Engine κ τ} {platform : Platform κ}
  {flights : Multiset (Flight τ)} {hand : Multiset (Grip (Continuation τ))}

/-- Unless it is crowded, what is staged is pushed together with the wake-up poll. -/
theorem arm {wait : Wait} (settled : Settled capacity engine)
    (roomy : (engine.next (.arm wait)).isCrowded platform capacity = false)
    (serves : servesWell capacity (engine.runFrame platform (.arm wait)).journal) :
    Settled capacity (engine.runFrame platform (.arm wait)) := by
  simp only [Engine.runFrame] at serves ⊢
  split at serves
  · rename_i finished
    rw [if_pos finished]
    exact settled.of_same rfl rfl rfl settled.clear ⟨[], by simp, rfl⟩
  · rename_i unfinished
    rw [if_neg unfinished]
    have room := settled.staged_le
    rcases Engine.armWake_cases engine platform with ⟨-, same⟩ | ⟨descriptor, unarmed, opened, polls, armed⟩
    · rw [same] at serves ⊢
      have fits : (engine.next (.enter wait)).staged.length ≤ capacity := room
      rcases Engine.flush_of_fits platform _ fits serves with ⟨world, events, untold, flushed⟩
      rw [flushed]
      exact settled.transfer (fun _ _ inFlight => inFlight) (.inr rfl)
        (settled.clear.cons rfl rfl) ⟨events, untold, rfl⟩
    · have other : engine.staged.length ≠ capacity := by
        simpa [Engine.isCrowded, Engine.next, unarmed, opened, polls] using roomy
      rw [armed] at serves ⊢
      have fits : (({ engine with
          staged := engine.staged ++ [Engine.wakeRecord descriptor]
          wakeArmed := true } : Engine κ τ).next (.enter wait)).staged.length ≤ capacity := by
        simp only [Engine.next, List.length_append, List.length_singleton]
        omega
      rcases Engine.flush_of_fits platform _ fits serves with ⟨world, events, untold, flushed⟩
      rw [flushed]
      exact settled.transfer (fun _ _ inFlight => inFlight) (.inr rfl)
        (settled.clear.cons rfl rfl) ⟨events, untold, rfl⟩

theorem turns {frame : Frame τ} (settled : Settled capacity engine) (roomy : 2 ≤ capacity)
    (sized : engine.staged = [] ∨ platform.ring.capacity engine.world = capacity)
    (uncrowded : (engine.next frame).isCrowded platform capacity = false)
    (turns : engine.Turns platform frame (engine.runFrame platform frame))
    (serves : servesWell capacity (engine.runFrame platform frame).journal) :
    Orderly capacity (engine.runFrame platform frame) := by
  cases turns with
  | plans plans => exact .inl (settled.plans plans)
  | answers answer after_eq =>
      rw [after_eq]
      exact .inl (settled.answer answer)
  | shutsDown between plans after_eq =>
      rw [after_eq]
      exact .inl (settled.plans plans).shutdown
  | leavesBatch between plans outer after_eq =>
      rw [after_eq]
      exact .inl ((settled.plans plans).endDispatch outer)
  | takesTask between plans task inbox popped after_eq =>
      have planned := settled.plans plans
      have taken : Settled capacity { between with inbox := inbox } :=
        planned.of_same rfl rfl rfl planned.clear ⟨[], by simp, rfl⟩
      have sized : between.staged = [] ∨ platform.ring.capacity between.world = capacity := by
        rw [plans.same]
        exact sized
      rw [after_eq] at serves ⊢
      exact taken.runTask roomy sized serves
  | armsWake wait frame_eq after_eq =>
      subst frame_eq
      exact .inl (settled.arm uncrowded serves)
  | entersKernel wait after_eq =>
      rw [after_eq]
      exact .inl (settled.enterKernel platform wait)
  | reaps between plans after_eq =>
      rw [after_eq]
      exact .inl ((settled.plans plans).reap platform)

/-- A settled engine is in order again after whatever is to be done next, unless it is crowded. -/
theorem runFrame {frame : Frame τ} (whole : Settled capacity (engine.next frame))
    (sound : (engine.next frame).Sound flights hand) (roomy : 2 ≤ capacity)
    (sized : engine.staged = [] ∨ platform.ring.capacity engine.world = capacity)
    (uncrowded : (engine.next frame).isCrowded platform capacity = false)
    (serves : servesWell capacity (engine.runFrame platform frame).journal) :
    Orderly capacity (engine.runFrame platform frame) := by
  have settled : Settled capacity engine :=
    ⟨whole.staged_le, whole.named, whole.leads, fun frame frameMem =>
      whole.clear frame (List.mem_cons_of_mem _ frameMem), whole.untold⟩
  have kind := whole.clear frame List.mem_cons_self
  cases business : frame.isBusiness with
  | false =>
      exact settled.turns roomy sized uncrowded (engine.turns_runFrame platform business) serves
  | true =>
      cases frame with
      | stage request => cases kind.1
      | refuse records failure outer => cases kind.2
      | dispatch batch delivered outer => exact .inl (settled.dispatch sound platform)
      | release => exact .inl (settled.release sound platform)
      | fail leftovers => exact .inl (settled.fail sound platform)
      | _ => cases business

end Settled

/-- The next thing to do is to tell somebody that the submission queue stayed full. -/
def Engine.TellsNext (engine : Engine κ τ) : Prop :=
  ∃ (below : Engine κ τ) (record : SubmitRecord) (rest : List SubmitRecord) (outer : Bool),
    engine = below.next (.refuse (record :: rest) (.exhausted .submissionQueue) outer) ∧
      record.userData ≠ wakeUserData ∧
      ∀ tag grip, engine.InFlight tag grip → tag.toUInt64 = record.userData →
        grip.entry.continuation ≠ some .guard

namespace Engine.TellsNext

variable {before after engine : Engine κ τ} {platform : Platform κ}
  {flights : Multiset (Flight τ)} {hand : Multiset (Grip (Continuation τ))}

theorem of_same (tells : before.TellsNext) (pools_eq : after.pools = before.pools)
    (tags_eq : after.tags = before.tags) (frames_eq : after.frames = before.frames) :
    after.TellsNext := by
  rcases tells with ⟨below, record, rest, outer, rfl, operation, own⟩
  refine ⟨{ after with frames := below.frames }, record, rest, outer, ?_, operation, ?_⟩
  · exact (after.next_pop frames_eq).symm
  · intro tag grip inFlight
    rw [InFlight, pools_eq, tags_eq] at inFlight
    exact own tag grip inFlight

/-- It is not a caller's turn before it has been told. -/
theorem not_awaitsCaller (tells : engine.TellsNext) (healthy : engine.fault = none) :
    ¬engine.awaitsCaller := by
  rcases tells with ⟨below, record, rest, outer, rfl, -⟩
  intro turn
  rcases frames_of_awaitsCaller healthy turn with empty | ⟨others, running⟩
  · simp [Engine.next] at empty
  · simp [Engine.next] at running

theorem step (tells : engine.TellsNext) (sound : engine.Sound flights hand)
    (platform : Platform κ) :
    ∃ event, event.isCrowdedOut ∧ (engine.step platform).journal = event :: engine.journal := by
  have untimely := tells.not_awaitsCaller sound.healthy
  rcases tells with ⟨below, record, rest, outer, rfl, operation, own⟩
  rcases step_cases _ platform with ⟨turn, -⟩ | ⟨other, frame, same, stepped⟩
  · exact absurd turn untimely
  · rcases next_inj.mp same with ⟨rfl, rfl⟩
    rcases sound.refuseOne_eq operation with
      ⟨flight, others, continuation, pools, tags, rfl, named, awaited, -, refused⟩
    have inFlight := sound.accounts.books.inFlight_iff.mpr
      ⟨flight, Multiset.mem_cons_self _ _, rfl, rfl⟩
    have notGuard : continuation ≠ .guard := by
      rintro rfl
      exact own flight.tag flight.grip inFlight named awaited
    refine ⟨continuation.event ⟨flight.grip.reference.kind, .error (.exhausted .submissionQueue)⟩,
      ?_, ?_⟩
    · cases continuation with
      | guard => exact absurd rfl notGuard
      | caller label => rfl
      | promise label => rfl
    · rw [stepped]
      simp only [runFrame, if_neg operation, refused, orRaise, deliver_some]
      rfl

end Engine.TellsNext

/-- A crowded engine that steps on a ring that serves well, and that accepts nothing in excess, tells
somebody next that the submission queue stayed full. -/
theorem Settled.tellsNext_of_isCrowded {capacity : ℕ} {engine : Engine κ τ} {platform : Platform κ}
    (settled : Settled capacity engine) (roomy : 0 < capacity) (healthy : engine.fault = none)
    (crowded : engine.isCrowded platform capacity)
    (serves : servesWell capacity (engine.step platform).journal)
    (refuses : refusesExcess capacity (engine.step platform).journal) :
    (engine.step platform).TellsNext := by
  rcases Engine.step_cases engine platform with ⟨turn, -⟩ | ⟨below, frame, rfl, stepped⟩
  · rcases Engine.frames_of_awaitsCaller healthy turn with empty | ⟨rest, running⟩
    · simp [Engine.isCrowded, empty] at crowded
    · simp [Engine.isCrowded, running] at crowded
  · cases frame with
    | arm wait =>
        simp only [Engine.isCrowded, Engine.next, Bool.and_eq_true, Bool.not_eq_true', beq_iff_eq]
          at crowded
        rcases crowded with ⟨⟨⟨unarmed, opened⟩, polls⟩, whole⟩
        rcases Engine.armWake_cases below platform with
          ⟨armed | closed | silent, -⟩ | ⟨descriptor, -, -, -, armed⟩
        · rw [unarmed] at armed
          cases armed
        · rw [opened] at closed
          cases closed
        · rw [silent] at polls
          cases polls
        have unfinished : ¬below.isFinished := by simp [Engine.isFinished, opened]
        rw [stepped] at serves refuses ⊢
        simp only [Engine.runFrame, if_neg unfinished, armed] at serves refuses ⊢
        have excess : capacity < (({ below with
            staged := below.staged ++ [Engine.wakeRecord descriptor]
            wakeArmed := true } : Engine κ τ).next (.enter wait)).staged.length := by
          simp [Engine.next, whole]
        rcases Engine.flush_of_excess platform _ excess serves refuses with ⟨world, journal, flushed⟩
        rw [flushed]
        cases staged : below.staged with
        | nil =>
            simp only [staged, List.length_nil] at whole
            omega
        | cons record rest =>
            refine ⟨{ below with
              world := world
              staged := []
              wakeArmed := true
              dispatching := true
              journal := journal
              frames := .enter wait :: below.frames }, record,
              rest ++ [Engine.wakeRecord descriptor], below.dispatching, ?_, ?_, ?_⟩
            · simp [Engine.next]
            · exact settled.named record (by simp [Engine.next, staged])
            · exact fun tag grip inFlight named =>
                settled.leads record rest staged tag grip inFlight named
    | _ => cases crowded

end CompletionEngine
