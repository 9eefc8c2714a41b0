import CompletionEngine.Proofs.Engine.Sound

/-!
# Steps of sound engines

Every step of a sound engine leads to a sound engine again, as long as the ring keeps its contract
and tags are left. Each operation that steps are made of has its own lemma here; a step is then a
case analysis over what is to be done next.
-/

namespace CompletionEngine

theorem Inbox.eq_of_pop? {α : Type} {inbox left : Inbox α} {task : α}
    (popped : inbox.pop? = some (task, left)) :
    left = { inbox with queue := left.queue } ∧ inbox.queue = task :: left.queue := by
  unfold pop? at popped
  split at popped
  · cases popped
  · rename_i queued
    cases popped
    exact ⟨rfl, queued⟩

theorem Inbox.queue_of_pop? {α : Type} {inbox : Inbox α} (nothing : inbox.pop? = none) :
    inbox.queue = [] := by
  unfold pop? at nothing
  split at nothing
  · assumption
  · cases nothing

namespace Engine

variable {κ τ : Type}

/-- Whether no request waits for its staging on top. -/
def IsReady (engine : Engine κ τ) : Prop := engine.frames.head?.any Frame.isStage = false

theorem next_pop (engine : Engine κ τ) {frame : Frame τ} {rest : List (Frame τ)}
    (frames_eq : engine.frames = frame :: rest) :
    ({ engine with frames := rest } : Engine κ τ).next frame = engine := by
  cases engine
  simp only [next] at frames_eq ⊢
  rw [frames_eq]

theorem next_inj {left right : Engine κ τ} {frame other : Frame τ} :
    left.next frame = right.next other ↔ left = right ∧ frame = other := by
  constructor
  · intro same
    cases left
    cases right
    simp only [next, Engine.mk.injEq, List.cons.injEq] at same ⊢
    tauto
  · rintro ⟨rfl, rfl⟩
    rfl

/-- A shutdown has been asked for before, or waits for the batch in hand, or begins. -/
theorem shutdown_cases (engine : Engine κ τ) :
    engine.closed = true ∧ engine.shutdown = engine ∨
    engine.closed = false ∧ engine.dispatching = true ∧ engine.shutdown = { engine with
      closed := true
      inbox := engine.inbox.close
      shutdownDeferred := true } ∨
    engine.closed = false ∧ engine.dispatching = false ∧ engine.shutdown = { engine with
      closed := true
      inbox := engine.inbox.close
      frames := .emptyInbox :: engine.frames } := by
  unfold shutdown
  cases closed : engine.closed
  · cases dispatching : engine.dispatching
    · exact .inr (.inr ⟨rfl, rfl, rfl⟩)
    · exact .inr (.inl ⟨rfl, rfl, rfl⟩)
  · exact .inl ⟨rfl, rfl⟩

/-- The end of a batch lets a shutdown begin that waited for it, or nothing. -/
theorem endDispatch_cases (engine : Engine κ τ) (outer : Bool) :
    outer = false ∧ engine.shutdownDeferred = true ∧ engine.endDispatch outer = { engine with
      dispatching := false
      shutdownDeferred := false
      frames := .emptyInbox :: engine.frames } ∨
    (engine.shutdownDeferred = true → outer = true) ∧
      engine.endDispatch outer = { engine with dispatching := outer } := by
  unfold endDispatch
  cases deferred : engine.shutdownDeferred
  · exact .inr ⟨by simp, by simp⟩
  · cases outer
    · exact .inl ⟨rfl, rfl, by simp [next]⟩
    · exact .inr ⟨by simp, by simp⟩

/-- A step does what is to be done next, unless it is a caller's turn or nothing is to be done. -/
theorem step_cases (engine : Engine κ τ) (platform : Platform κ) :
    engine.awaitsCaller ∧ engine.step platform = engine ∨
      ∃ (below : Engine κ τ) (frame : Frame τ), engine = below.next frame ∧
        engine.step platform = below.runFrame platform frame := by
  unfold step
  by_cases turn : engine.awaitsCaller
  · exact .inl ⟨turn, by rw [if_pos turn]⟩
  · rw [if_neg turn]
    cases frames_eq : engine.frames with
    | nil => simp [awaitsCaller, frames_eq] at turn
    | cons frame rest =>
        exact .inr ⟨{ engine with frames := rest }, frame, (engine.next_pop frames_eq).symm, rfl⟩

theorem frames_of_awaitsCaller {engine : Engine κ τ} (healthy : engine.fault = none)
    (turn : engine.awaitsCaller) : engine.frames = [] ∨ ∃ rest, engine.frames = .client :: rest := by
  simp only [awaitsCaller, healthy, Option.isSome_none, Bool.false_or] at turn
  split at turn
  · rename_i empty
    exact .inl empty
  · rename_i rest running
    exact .inr ⟨rest, running⟩
  · cases turn

/-- Whatever is to be done next, unless a caller's code is running. -/
theorem step_of_frames {engine : Engine κ τ} {frame : Frame τ} {rest : List (Frame τ)}
    (healthy : engine.fault = none) (frames_eq : engine.frames = frame :: rest)
    (other : frame ≠ .client) (platform : Platform κ) :
    engine.step platform = ({ engine with frames := rest } : Engine κ τ).runFrame platform frame := by
  have busy : engine.awaitsCaller = false := by
    simp only [awaitsCaller, healthy, frames_eq]
    cases frame <;> first | rfl | exact absurd rfl other
  simp [step, busy, frames_eq]

/-- The wake-up poll is staged when it is not armed, on an engine that is open and has something to
poll. -/
theorem armWake_cases (engine : Engine κ τ) (platform : Platform κ) :
    (engine.wakeArmed = true ∨ engine.closed = true ∨
        platform.notifier.pollDescriptor engine.world = none) ∧
      engine.armWake platform = engine ∨
    ∃ descriptor, engine.wakeArmed = false ∧ engine.closed = false ∧
      platform.notifier.pollDescriptor engine.world = some descriptor ∧
      engine.armWake platform = { engine with
        staged := engine.staged ++ [wakeRecord descriptor]
        wakeArmed := true } := by
  unfold armWake
  cases armed : engine.wakeArmed
  · cases closed : engine.closed
    · cases polls : platform.notifier.pollDescriptor engine.world with
      | none => exact .inl ⟨.inr (.inr rfl), rfl⟩
      | some descriptor => exact .inr ⟨descriptor, rfl, rfl, rfl, rfl⟩
    · exact .inl ⟨.inr (.inl rfl), rfl⟩
  · exact .inl ⟨.inl rfl, rfl⟩

namespace Sound

variable {engine : Engine κ τ} {flights : Multiset (Flight τ)}
  {hand : Multiset (Grip (Continuation τ))} {frame : Frame τ}

theorem next (sound : engine.Sound flights hand) (ready : engine.IsReady) (plain : frame.isPlain) :
    (engine.next frame).Sound flights hand := by
  have kinds : frame.isBatch = false ∧ frame.isClosing = false := by simpa [Frame.isPlain] using plain
  refine ⟨sound.healthy, sound.disciplined.push plain ready, ?_⟩
  exact (Accounts.cons_iff (Frame.userData_of_not_batch kinds.1)
    (Frame.isFail_eq_false_of_isPlain plain)).mpr sound.accounts

theorem of_next (sound : (engine.next frame).Sound flights hand) (plain : frame.isPlain) :
    engine.Sound flights hand ∧ engine.IsReady := by
  have kinds : frame.isBatch = false ∧ frame.isClosing = false := by simpa [Frame.isPlain] using plain
  rcases sound.disciplined.pop plain with ⟨disciplined, ready⟩
  refine ⟨⟨sound.healthy, disciplined, ?_⟩, ready⟩
  exact (Accounts.cons_iff (Frame.userData_of_not_batch kinds.1)
    (Frame.isFail_eq_false_of_isPlain plain)).mp sound.accounts

theorem log (sound : engine.Sound flights hand) {event : Event τ}
    (neutral : outstanding (event :: engine.journal) = outstanding engine.journal) :
    (engine.log event).Sound flights hand := by
  refine ⟨sound.healthy, sound.disciplined, ?_⟩
  exact sound.accounts.transfer Iff.rfl rfl fun _ => inPlay_congr_journal neutral

/-- Delivering an outcome lets a caller's code run on an engine that is sound. -/
theorem deliver (sound : engine.Sound flights hand) (ready : engine.IsReady)
    (continuation : Continuation τ) (outcome : Outcome) :
    (engine.deliver (some continuation) outcome).Sound flights hand := by
  have logged : (engine.log (continuation.event outcome)).Sound flights hand :=
    sound.log (outstanding_event continuation outcome _)
  cases continuation with
  | caller label => exact logged.next ready rfl
  | promise label => exact logged
  | guard => exact ⟨logged.healthy, logged.disciplined, logged.accounts⟩

/-- A flush puts what is staged with the ring or in hand. -/
theorem flush (sound : engine.Sound flights hand) (platform : Platform κ) :
    (engine.flush platform).Sound flights hand := by
  rcases flush_cases platform engine with
    ⟨-, same⟩ | ⟨staged, world, events, quiet, pushed | ⟨error, refused⟩⟩
  · rw [same]
    exact sound
  · have notReleased : ¬Released engine.frames engine.terminated := fun released =>
      staged (sound.disciplined.released released).1
    rw [pushed]
    refine ⟨sound.healthy, sound.disciplined.restage notReleased [], ?_⟩
    refine sound.accounts.transfer Iff.rfl rfl fun _ => inPlay_accepted ?_
    rw [outstanding, outstanding_append_of_quiet quiet]
  · have notReleased : ¬Released engine.frames engine.terminated := fun released =>
      staged (sound.disciplined.released released).1
    rw [refused]
    refine ⟨sound.healthy, sound.disciplined.pushBatch notReleased rfl (.inl rfl) [], ?_⟩
    refine sound.accounts.transfer (Accounts.released_cons rfl) (Accounts.leftovers_cons rfl)
      fun _ => ?_
    rw [inPlay_refused, inPlay_congr_journal (outstanding_append_of_quiet quiet _)]

theorem beginRequest (sound : engine.Sound flights hand) (ready : engine.IsReady)
    (platform : Platform κ) (request : Request τ) :
    (engine.beginRequest platform request).Sound flights hand := by
  have waiting : (engine.next (.stage request)).Sound flights hand := sound.next ready rfl
  unfold Engine.beginRequest
  split
  · exact waiting.flush platform
  · exact waiting

theorem runTask (sound : engine.Sound flights hand) (ready : engine.IsReady)
    (platform : Platform κ) (task : Task τ) : (engine.runTask platform task).Sound flights hand := by
  cases task with
  | request command promise => exact sound.beginRequest ready platform _
  | job body => exact (sound.log rfl).next ready rfl

theorem shutdown (sound : engine.Sound flights hand) : engine.shutdown.Sound flights hand := by
  have disciplined := sound.disciplined
  rcases shutdown_cases engine with
    ⟨-, same⟩ | ⟨closed, dispatching, deferred⟩ | ⟨closed, dispatching, begun⟩
  · rw [same]
    exact sound
  · rw [Disciplined, closed, dispatching] at disciplined
    rw [deferred]
    refine ⟨sound.healthy, ?_, sound.accounts⟩
    rw [Disciplined, dispatching]
    exact disciplined.deferShutdown
  · rw [Disciplined, closed, dispatching] at disciplined
    rw [begun]
    refine ⟨sound.healthy, ?_, (Accounts.cons_iff rfl rfl).mpr sound.accounts⟩
    rw [Disciplined, dispatching]
    exact disciplined.beginShutdown

theorem endDispatch {outer : Bool} (sound : (engine.next frame).Sound flights hand)
    (noted : frame.outer? = some outer) (delivered : frame.userData = 0) :
    (engine.endDispatch outer).Sound flights hand := by
  have notFail : frame.isFail = false := by cases frame <;> simp_all [Frame.outer?, Frame.isFail]
  have accounts := (Accounts.cons_iff delivered notFail).mp sound.accounts
  have disciplined : Discipline (frame :: engine.frames) engine.staged engine.dispatching
      engine.shutdownDeferred engine.closed engine.terminated engine.inbox.closed :=
    sound.disciplined
  rcases endDispatch_cases engine outer with ⟨rfl, deferred, begun⟩ | ⟨goesOn, left⟩
  · rw [deferred] at disciplined
    rw [begun]
    exact ⟨sound.healthy, disciplined.popBatch_deferred noted,
      (Accounts.cons_iff rfl rfl).mpr accounts⟩
  · rw [left]
    exact ⟨sound.healthy, disciplined.popBatch noted goesOn, accounts⟩

/-- What the ring hands out is taken in hand, provided that the ring owed it. -/
theorem reap (sound : engine.Sound flights hand) (ready : engine.IsReady) (platform : Platform κ)
    (notReleased : ¬Released engine.frames engine.terminated)
    (keeps : keepsContract (engine.reap platform).journal) :
    (engine.reap platform).Sound flights hand := by
  rcases reap_eq platform engine with ⟨batch, world, reaped⟩
  rw [reaped] at keeps ⊢
  have owed : (batch.map CompletionRecord.userData : Multiset UInt64) ≤
      outstanding engine.journal := by
    simp only [keepsContract, Bool.and_eq_true, decide_eq_true_eq] at keeps
    exact keeps.1
  refine ⟨sound.healthy, sound.disciplined.pushBatch notReleased rfl (.inr ready) _, ?_⟩
  exact sound.accounts.transfer (Accounts.released_cons rfl) (Accounts.leftovers_cons rfl)
    fun _ => inPlay_drained owed 0 _

theorem not_released_of_batch (sound : (engine.next frame).Sound flights hand)
    (batch : frame.isBatch) : ¬Released (frame :: engine.frames) engine.terminated :=
  Discipline.not_released_of_batch sound.disciplined batch

theorem not_released_of_open (sound : engine.Sound flights hand) (opened : engine.closed = false) :
    ¬Released engine.frames engine.terminated := by
  intro released
  have closed := sound.disciplined.isClosed_of_released released
  rw [opened] at closed
  cases closed

/-- What is left of the engine's tags is left for its next request. -/
theorem room (sound : engine.Sound flights hand) (spare : engine.inFlight + 2 ≤ UInt32.size)
    (opened : engine.closed = false) :
    Multiset.card hand + engine.tags.live + 2 ≤ UInt32.size := by
  have calm := Accounts.calm_of_not_released (sound.not_released_of_open opened)
  rw [sound.accounts.hand_eq_zero calm, Multiset.card_zero, zero_add]
  exact spare

theorem stageRequest {request : Request τ}
    (sound : (engine.next (.stage request)).Sound flights hand) (platform : Platform κ)
    (spare : engine.inFlight + 2 ≤ UInt32.size) :
    ∃ flights, (engine.orRaise (engine.stageRequest platform request)).Sound flights hand := by
  rcases sound.of_next rfl with ⟨sound, ready⟩
  rcases sound.accounts.books.stageRequest engine (sound.room spare) platform request with
    ⟨pools, tags, failure, rejected, books, -⟩ |
      ⟨opened, pools, tags, admissions, admitted, books, -, -, proper⟩
  · rw [rejected]
    have kept : ({ engine with pools := pools, tags := tags } : Engine κ τ).Sound flights hand :=
      ⟨sound.healthy, sound.disciplined, { sound.accounts with books := books }⟩
    exact ⟨flights, kept.deliver ready _ _⟩
  · have notReleased := sound.not_released_of_open opened
    rw [admitted]
    exact ⟨_, sound.healthy, sound.disciplined.restage notReleased _,
      sound.accounts.enroll notReleased books proper⟩

/-- What a batch settles next names one operation in flight. -/
theorem exists_settled {next : Frame τ} {userData : UInt64}
    (sound : (engine.next frame).Sound flights hand) (batch : frame.isBatch)
    (settles : frame.userData = userData ::ₘ next.userData) (operation : userData ≠ wakeUserData) :
    ∃ flight others, flights = flight ::ₘ others ∧ flight.tag.toUInt64 = userData := by
  rcases sound.accounts.exists_flight (sound.not_released_of_batch batch)
    (inPlay_settle settles operation) with ⟨flight, others, rfl, named, -⟩
  exact ⟨flight, others, rfl, named⟩

theorem settle {next : Frame τ} {flight : Flight τ} {pools : Pools (Continuation τ)}
    {tags : TagTable SlotRef} (sound : (engine.next frame).Sound (flight ::ₘ flights) hand)
    (settles : frame.userData = flight.tag.toUInt64 ::ₘ next.userData) (batch : frame.isBatch)
    (outer : next.outer? = frame.outer?) (refuses : next.isRefuse = frame.isRefuse)
    (books : Books pools tags flights hand) :
    ({ engine.next next with pools := pools, tags := tags } : Engine κ τ).Sound flights hand := by
  have notReleased := sound.not_released_of_batch batch
  have notFail : next.isFail = false := by
    cases frame <;> cases next <;> simp_all [Frame.isBatch, Frame.outer?, Frame.isFail]
  exact ⟨sound.healthy, Discipline.continueBatch sound.disciplined batch outer refuses,
    sound.accounts.settle notReleased notFail settles books⟩

theorem settleWake {next : Frame τ} {userData : UInt64}
    (sound : (engine.next frame).Sound flights hand)
    (settles : frame.userData = userData ::ₘ next.userData) (wake : userData = wakeUserData)
    (batch : frame.isBatch) (outer : next.outer? = frame.outer?)
    (refuses : next.isRefuse = frame.isRefuse) :
    (engine.next next).Sound flights hand := by
  have notFail : frame.isFail = false ∧ next.isFail = false := by
    cases frame <;> cases next <;> simp_all [Frame.isBatch, Frame.outer?, Frame.isFail]
  refine ⟨sound.healthy, Discipline.continueBatch sound.disciplined batch outer refuses, ?_⟩
  refine sound.accounts.transfer ?_ ?_ fun _ => (inPlay_settle_wake settles wake).symm
  · exact (Accounts.released_cons notFail.2).trans (Accounts.released_cons notFail.1).symm
  · exact (Accounts.leftovers_cons notFail.2).trans (Accounts.leftovers_cons notFail.1).symm

theorem tagOfCompletion_toUInt64 (tag : UInt32) : tagOfCompletion tag.toUInt64 = tag := by
  have bound : tag.toUInt64.toNat < UInt32.size := by
    rw [UInt32.toNat_toUInt64]
    exact tag.toNat_lt
  rw [tagOfCompletion, if_pos bound, UInt32.toUInt32_toUInt64]

/-- Delivering a completion ends the operation in flight that it names, and calls its
continuation. -/
theorem dispatchOne_eq {record : CompletionRecord} {rest : List CompletionRecord} {delivered : ℕ}
    {outer : Bool} (platform : Platform κ)
    (sound : (engine.next (.dispatch (record :: rest) delivered outer)).Sound flights hand)
    (operation : record.userData ≠ wakeUserData) :
    ∃ flight others continuation pools tags, flights = flight ::ₘ others ∧
      flight.tag.toUInt64 = record.userData ∧
      flight.grip.entry.continuation = some continuation ∧ Books pools tags others hand ∧
      (engine.next (.dispatch rest (delivered + 1) outer)).dispatchOne platform record =
        .ok ({ engine.next (.dispatch rest (delivered + 1) outer) with
            pools := pools
            tags := tags
            statistics.completed := engine.statistics.completed + 1
            world := (flight.grip.outcome platform record engine.world).2 }.deliver
          (some continuation) (flight.grip.outcome platform record engine.world).1) := by
  have settles : (Frame.dispatch (record :: rest) delivered outer : Frame τ).userData =
      record.userData ::ₘ (Frame.dispatch rest (delivered + 1) outer : Frame τ).userData := rfl
  rcases sound.exists_settled rfl settles operation with ⟨flight, others, rfl, named⟩
  have ready := sound.accounts.ready flight (Multiset.mem_cons_self _ _)
  rcases Option.isSome_iff_exists.mp ready.awaited with ⟨continuation, awaited⟩
  have tagged : tagOfCompletion record.userData = flight.tag := by
    rw [← named, tagOfCompletion_toUInt64]
  rcases sound.accounts.books.dispatch (engine.next (.dispatch rest (delivered + 1) outer)) ready
    platform tagged with ⟨pools, tags, dispatched, books⟩
  rw [awaited] at dispatched
  exact ⟨flight, others, continuation, pools, tags, rfl, named, awaited, books, dispatched⟩

theorem dispatchOne {record : CompletionRecord} {rest : List CompletionRecord} {delivered : ℕ}
    {outer : Bool} (platform : Platform κ)
    (sound : (engine.next (.dispatch (record :: rest) delivered outer)).Sound flights hand)
    (operation : record.userData ≠ wakeUserData) :
    ∃ flights, ((engine.next (.dispatch rest (delivered + 1) outer)).orRaise
      ((engine.next (.dispatch rest (delivered + 1) outer)).dispatchOne platform record)).Sound
        flights hand := by
  rcases sound.dispatchOne_eq platform operation with
    ⟨flight, others, continuation, pools, tags, rfl, named, -, books, dispatched⟩
  have settles : (Frame.dispatch (record :: rest) delivered outer : Frame τ).userData =
      flight.tag.toUInt64 ::ₘ (Frame.dispatch rest (delivered + 1) outer : Frame τ).userData := by
    rw [named]
    rfl
  have settled := sound.settle settles rfl rfl rfl books
  rw [dispatched]
  refine ⟨others, ?_⟩
  simp only [orRaise]
  refine deliver ?_ ?_ _ _
  · exact ⟨settled.healthy, settled.disciplined, settled.accounts⟩
  · rfl

/-- Failing a refused record ends the operation in flight that it was staged for, and calls its
continuation. -/
theorem refuseOne_eq {record : SubmitRecord} {rest : List SubmitRecord} {failure : Failure}
    {outer : Bool} (sound : (engine.next (.refuse (record :: rest) failure outer)).Sound flights hand)
    (operation : record.userData ≠ wakeUserData) :
    ∃ flight others continuation pools tags, flights = flight ::ₘ others ∧
      flight.tag.toUInt64 = record.userData ∧
      flight.grip.entry.continuation = some continuation ∧ Books pools tags others hand ∧
      (engine.next (.refuse rest failure outer)).refuseOne record failure =
        .ok ({ engine.next (.refuse rest failure outer) with
            pools := pools
            tags := tags }.deliver (some continuation)
          ⟨flight.grip.reference.kind, .error failure⟩) := by
  have settles : (Frame.refuse (record :: rest) failure outer : Frame τ).userData =
      record.userData ::ₘ (Frame.refuse rest failure outer : Frame τ).userData := rfl
  rcases sound.exists_settled rfl settles operation with ⟨flight, others, rfl, named⟩
  have ready := sound.accounts.ready flight (Multiset.mem_cons_self _ _)
  rcases Option.isSome_iff_exists.mp ready.awaited with ⟨continuation, awaited⟩
  have tagged : record.userData.toUInt32 = flight.tag := by
    rw [← named, UInt32.toUInt32_toUInt64]
  rcases sound.accounts.books.refuse (engine.next (.refuse rest failure outer)) ready tagged failure
    with ⟨pools, tags, refused, books⟩
  rw [awaited] at refused
  exact ⟨flight, others, continuation, pools, tags, rfl, named, awaited, books, refused⟩

theorem refuseOne {record : SubmitRecord} {rest : List SubmitRecord} {failure : Failure}
    {outer : Bool} (sound : (engine.next (.refuse (record :: rest) failure outer)).Sound flights hand)
    (operation : record.userData ≠ wakeUserData) :
    ∃ flights, ((engine.next (.refuse rest failure outer)).orRaise
      ((engine.next (.refuse rest failure outer)).refuseOne record failure)).Sound flights hand := by
  rcases sound.refuseOne_eq operation with
    ⟨flight, others, continuation, pools, tags, rfl, named, -, books, refused⟩
  have settles : (Frame.refuse (record :: rest) failure outer : Frame τ).userData =
      flight.tag.toUInt64 ::ₘ (Frame.refuse rest failure outer : Frame τ).userData := by
    rw [named]
    rfl
  have settled := sound.settle settles rfl rfl rfl books
  rw [refused]
  refine ⟨others, ?_⟩
  simp only [orRaise]
  refine deliver ?_ ?_ _ _
  · exact ⟨settled.healthy, settled.disciplined, settled.accounts⟩
  · rfl

theorem releaseRing (sound : (engine.next .release).Sound flights hand) (platform : Platform κ) :
    (engine.releaseRing platform).Sound 0 (flights.map Flight.grip + hand) := by
  have accounts : Accounts engine.pools engine.tags engine.staged engine.frames engine.journal
    engine.terminated flights hand := (Accounts.cons_iff rfl rfl).mp sound.accounts
  refine ⟨sound.healthy, ?_, accounts.release (.released :: engine.journal)⟩
  exact Discipline.continueClosing sound.disciplined rfl rfl (fun _ => rfl) (fun _ => rfl)

/-- The next leftover to fail is an operation in hand. -/
theorem exists_leftover {leftover : UInt32 × SlotRef} {rest : List (UInt32 × SlotRef)}
    (sound : (engine.next (.fail (leftover :: rest))).Sound flights hand) :
    ∃ grip others, hand = grip ::ₘ others ∧ grip.reference = leftover.2 ∧
      others.map Grip.reference = (rest.map Prod.snd : Multiset SlotRef) +
        (engine.frames.map Frame.leftovers).sum := by
  have slots := sound.accounts.hand_eq
  simp only [Engine.next, List.map_cons, List.sum_cons, Frame.leftovers, ← Multiset.cons_coe,
    Multiset.cons_add] at slots
  have slotMem : leftover.2 ∈ hand.map Grip.reference := slots ▸ Multiset.mem_cons_self _ _
  rcases Multiset.mem_map.mp slotMem with ⟨grip, gripMem, same⟩
  rcases Multiset.exists_cons_of_mem gripMem with ⟨others, rfl⟩
  rw [Multiset.map_cons, same, Multiset.cons_inj_right] at slots
  exact ⟨grip, others, rfl, same, slots⟩

/-- Failing a leftover ends one operation in hand, counts it, and calls its continuation. -/
theorem fail_eq {leftover : UInt32 × SlotRef} {rest : List (UInt32 × SlotRef)}
    (sound : (engine.next (.fail (leftover :: rest))).Sound flights hand) (platform : Platform κ) :
    ∃ grip others continuation pools, hand = grip ::ₘ others ∧ grip.reference = leftover.2 ∧
      others.map Grip.reference = (rest.map Prod.snd : Multiset SlotRef) +
        (engine.frames.map Frame.leftovers).sum ∧
      grip.entry.continuation = some continuation ∧ Books pools engine.tags flights others ∧
      engine.runFrame platform (.fail (leftover :: rest)) = { engine.next (.fail rest) with
          pools := pools
          statistics.synthesized := engine.statistics.synthesized + 1 }.deliver (some continuation)
        ⟨grip.reference.kind, .error .closed⟩ := by
  rcases sound.exists_leftover with ⟨grip, others, rfl, same, slots⟩
  have pending := sound.accounts.pending grip (Multiset.mem_cons_self _ _)
  rcases Option.isSome_iff_exists.mp pending.2 with ⟨continuation, awaited⟩
  let counted : Engine κ τ := { engine with
    statistics.synthesized := engine.statistics.synthesized + 1 }
  have books : Books counted.pools counted.tags flights (grip ::ₘ others) := sound.accounts.books
  rcases books.abort (counted.next (.fail rest)) (.inr pending.1) .closed with
    ⟨pools, aborted, after⟩
  rw [awaited] at aborted
  refine ⟨grip, others, continuation, pools, rfl, same, slots, awaited, after, ?_⟩
  rw [Engine.runFrame, ← same, aborted]
  rfl

/-- When all leftovers have been failed, nothing is in use any more. -/
theorem finishFail (sound : (engine.next (.fail [])).Sound flights hand) :
    flights = 0 ∧ hand = 0 ∧
      ({ engine with pools := engine.pools.clear, terminated := true } : Engine κ τ).Sound 0 0 := by
  have disciplined := Discipline.finishClosing sound.disciplined
  have noFlight : flights = 0 := sound.accounts.landed (.inr rfl)
  subst noFlight
  have noLeftovers : (engine.frames.map Frame.leftovers).sum = 0 :=
    Accounts.sum_leftovers fun frame frameMem =>
      Frame.isFail_eq_false_of_isPlain (disciplined.isPlain_of_terminated frame frameMem)
  have noHand : hand = 0 := by
    have slots := sound.accounts.hand_eq
    simp only [Engine.next, List.map_cons, List.sum_cons, noLeftovers, add_zero] at slots
    exact Multiset.map_eq_zero.mp slots
  subst noHand
  refine ⟨rfl, rfl, sound.healthy, disciplined, ?_⟩
  refine ⟨⟨Pools.wellFormed_clear _, sound.accounts.books.tags_wellFormed, ?_, ?_⟩, by simp, by simp,
    ?_, fun _ => rfl, fun notReleased => absurd (.inl rfl) notReleased⟩
  · simp
  · exact sound.accounts.books.bindings_eq
  · simpa using noLeftovers.symm

theorem takeTask (sound : engine.Sound flights hand) {task : Task τ} {inbox : Inbox (Task τ)}
    (popped : engine.inbox.pop? = some (task, inbox)) :
    ({ engine with inbox := inbox } : Engine κ τ).Sound flights hand := by
  have same : inbox.closed = engine.inbox.closed := by rw [(Inbox.eq_of_pop? popped).1]
  refine ⟨sound.healthy, ?_, sound.accounts⟩
  have disciplined := sound.disciplined
  rw [Disciplined, ← same] at disciplined
  exact disciplined

theorem armWake (sound : engine.Sound flights hand) (platform : Platform κ) :
    (engine.armWake platform).Sound flights hand := by
  rcases armWake_cases engine platform with ⟨-, same⟩ | ⟨descriptor, -, opened, -, armed⟩
  · rw [same]
    exact sound
  · rw [armed]
    refine ⟨sound.healthy, sound.disciplined.restage (sound.not_released_of_open opened) _, ?_⟩
    refine sound.accounts.transfer Iff.rfl rfl fun _ => ?_
    simp only [inPlay, List.map_append, List.map_cons, List.map_nil, wakeRecord,
      ← Multiset.coe_add, Multiset.coe_singleton, Multiset.filter_add]
    rw [Multiset.filter_singleton, if_neg (by simp)]
    simp

/-- Once the ring has been given up, a cycle finds that the engine is finished. -/
theorem not_released_of_unfinished (sound : engine.Sound flights hand)
    (unfinished : ¬engine.isFinished) : ¬Released engine.frames engine.terminated := by
  intro released
  apply unfinished
  have empty : engine.tags.isEmpty := by
    rw [TagTable.isEmpty_iff sound.accounts.books.tags_wellFormed,
      sound.accounts.books.bindings_eq, sound.accounts.landed released, Multiset.map_zero]
  simp [isFinished, sound.disciplined.isClosed_of_released released, empty]

theorem continueClosing {next : Frame τ} (sound : (engine.next frame).Sound flights hand)
    (closing : frame.isClosing) (notFail : frame.isFail = false) (nextClosing : next.isClosing)
    (nextNotFail : next.isFail = false) : (engine.next next).Sound flights hand := by
  have notBatch := Frame.isBatch_eq_false_of_isClosing closing
  have nextNotBatch := Frame.isBatch_eq_false_of_isClosing nextClosing
  refine ⟨sound.healthy, ?_, ?_⟩
  · exact Discipline.continueClosing sound.disciplined closing nextClosing
      (by simp [nextNotFail]) (by simp [notFail])
  · exact (Accounts.cons_iff (Frame.userData_of_not_batch nextNotBatch) nextNotFail).mpr
      ((Accounts.cons_iff (Frame.userData_of_not_batch notBatch) notFail).mp sound.accounts)

/-- A cycle enters the kernel and takes in hand what the ring hands out. -/
theorem enterKernel (sound : engine.Sound flights hand) (ready : engine.IsReady)
    (platform : Platform κ) (wait : Wait) (unfinished : ¬engine.isFinished)
    (keeps : keepsContract (engine.enterKernel platform wait).journal) :
    (engine.enterKernel platform wait).Sound flights hand := by
  have notReleased := sound.not_released_of_unfinished unfinished
  rcases enterKernel_cases platform engine wait with ⟨world, event, quiet, entered⟩
  have logged := sound.log (outstanding_cons_of_not_traffic event engine.journal
    (Event.isTraffic_of_isQuiet quiet))
  rcases entered with ⟨error, failed⟩ | entered
  · rw [failed]
    exact ⟨logged.healthy, logged.disciplined, logged.accounts⟩
  · rw [entered] at keeps ⊢
    have moved : (({ engine with world := world } : Engine κ τ).log event).Sound flights hand :=
      ⟨logged.healthy, logged.disciplined, logged.accounts⟩
    exact moved.reap ready platform notReleased keeps

section Frames

variable (platform : Platform κ)

theorem runFrame_intake {remaining : ℕ} {wait : Wait}
    (sound : (engine.next (.intake remaining wait)).Sound flights hand) :
    (engine.runFrame platform (.intake remaining wait)).Sound flights hand := by
  rcases sound.of_next rfl with ⟨below, ready⟩
  cases remaining with
  | zero => exact below.next ready rfl
  | succ remaining =>
      simp only [Engine.runFrame]
      split
      · exact below.next ready rfl
      · rename_i task inbox popped
        have waiting : (({ engine with inbox := inbox } : Engine κ τ).next
            (.intake remaining wait)).Sound flights hand := (below.takeTask popped).next ready rfl
        exact waiting.runTask rfl platform task

theorem runFrame_observe {wait : Wait}
    (sound : (engine.next (.observe wait)).Sound flights hand) :
    (engine.runFrame platform (.observe wait)).Sound flights hand := by
  rcases sound.of_next rfl with ⟨below, ready⟩
  have waiting : (engine.next (.arm wait)).Sound flights hand := below.next ready rfl
  simp only [Engine.runFrame]
  split
  · exact waiting.shutdown
  · exact waiting

theorem runFrame_arm {wait : Wait} (sound : (engine.next (.arm wait)).Sound flights hand) :
    (engine.runFrame platform (.arm wait)).Sound flights hand := by
  rcases sound.of_next rfl with ⟨below, ready⟩
  simp only [Engine.runFrame]
  split
  · exact ⟨below.healthy, below.disciplined, below.accounts⟩
  · have armedReady : (engine.armWake platform).IsReady := by
      rcases armWake_cases engine platform with ⟨-, same⟩ | ⟨descriptor, -, -, -, armed⟩
      · rw [same]
        exact ready
      · rw [armed]
        exact ready
    exact ((below.armWake platform).next armedReady rfl).flush platform

theorem runFrame_enter {wait : Wait} (sound : (engine.next (.enter wait)).Sound flights hand)
    (keeps : keepsContract (engine.runFrame platform (.enter wait)).journal) :
    (engine.runFrame platform (.enter wait)).Sound flights hand := by
  rcases sound.of_next rfl with ⟨below, ready⟩
  simp only [Engine.runFrame] at keeps ⊢
  split
  · exact ⟨below.healthy, below.disciplined, below.accounts⟩
  · rename_i unfinished
    rw [if_neg unfinished] at keeps
    exact below.enterKernel ready platform wait unfinished keeps

theorem runFrame_dispatch {batch : List CompletionRecord} {delivered : ℕ} {outer : Bool}
    (sound : (engine.next (.dispatch batch delivered outer)).Sound flights hand) :
    ∃ flights, (engine.runFrame platform (.dispatch batch delivered outer)).Sound flights hand := by
  cases batch with
  | nil =>
      have reported : ((engine.next (.report delivered)).next (.dispatch [] delivered outer)).Sound
          flights hand := by
        refine ⟨sound.healthy, Discipline.insertReport sound.disciplined, ?_⟩
        exact (Accounts.cons_iff rfl rfl).mpr ((Accounts.cons_iff rfl rfl).mpr
          ((Accounts.cons_iff rfl rfl).mp sound.accounts))
      exact ⟨flights, reported.endDispatch rfl rfl⟩
  | cons record rest =>
      simp only [Engine.runFrame]
      split
      · rename_i wake
        have settles : (Frame.dispatch (record :: rest) delivered outer : Frame τ).userData =
            record.userData ::ₘ (Frame.dispatch rest delivered outer : Frame τ).userData := rfl
        have settled := sound.settleWake settles wake rfl rfl rfl
        refine ⟨flights, log ?_ ?_⟩
        · exact ⟨settled.healthy, settled.disciplined, settled.accounts⟩
        · rfl
      · rename_i operation
        exact sound.dispatchOne platform operation

theorem runFrame_refuse {records : List SubmitRecord} {failure : Failure} {outer : Bool}
    (sound : (engine.next (.refuse records failure outer)).Sound flights hand) :
    ∃ flights, (engine.runFrame platform (.refuse records failure outer)).Sound flights hand := by
  cases records with
  | nil => exact ⟨flights, sound.endDispatch rfl rfl⟩
  | cons record rest =>
      simp only [Engine.runFrame]
      split
      · rename_i wake
        have settles : (Frame.refuse (record :: rest) failure outer : Frame τ).userData =
            record.userData ::ₘ (Frame.refuse rest failure outer : Frame τ).userData := rfl
        have settled := sound.settleWake settles wake rfl rfl rfl
        exact ⟨flights, settled.healthy, settled.disciplined, settled.accounts⟩
      · rename_i operation
        exact sound.refuseOne operation

theorem runFrame_emptyInbox (sound : (engine.next .emptyInbox).Sound flights hand) :
    (engine.runFrame platform .emptyInbox).Sound flights hand := by
  simp only [Engine.runFrame]
  split
  · rename_i task inbox popped
    exact (sound.takeTask popped).runTask rfl platform task
  · exact sound.continueClosing rfl rfl rfl rfl

theorem runFrame_drain {deadline : Instant}
    (sound : (engine.next (.drain deadline)).Sound flights hand) :
    (engine.runFrame platform (.drain deadline)).Sound flights hand := by
  simp only [Engine.runFrame]
  split
  · exact sound.continueClosing rfl rfl rfl rfl
  · have waiting : (engine.next (.drained deadline)).Sound flights hand :=
      sound.continueClosing rfl rfl rfl rfl
    exact waiting.next rfl rfl

theorem runFrame_drained {deadline : Instant}
    (sound : (engine.next (.drained deadline)).Sound flights hand) :
    (engine.runFrame platform (.drained deadline)).Sound flights hand := by
  simp only [Engine.runFrame]
  split <;> exact sound.continueClosing rfl rfl rfl rfl

theorem runFrame_lastReap (sound : (engine.next .lastReap).Sound flights hand)
    (keeps : keepsContract (engine.runFrame platform .lastReap).journal) :
    (engine.runFrame platform .lastReap).Sound flights hand := by
  have last : (engine.next .release).Sound flights hand := sound.continueClosing rfl rfl rfl rfl
  exact last.reap rfl platform (Discipline.not_released_of_closing last.disciplined rfl rfl) keeps

theorem runFrame_fail {leftovers : List (UInt32 × SlotRef)}
    (sound : (engine.next (.fail leftovers)).Sound flights hand) :
    ∃ flights hand, (engine.runFrame platform (.fail leftovers)).Sound flights hand := by
  cases leftovers with
  | nil => exact ⟨0, 0, sound.finishFail.2.2.log rfl⟩
  | cons leftover rest =>
      rcases sound.fail_eq platform with
        ⟨grip, others, continuation, pools, rfl, -, slots, -, books, failed⟩
      rw [failed]
      refine ⟨flights, others, deliver ?_ ?_ _ _⟩
      · refine ⟨sound.healthy, ?_, ⟨books, sound.accounts.ready, ?_, slots, ?_, ?_⟩⟩
        · exact Discipline.continueClosing sound.disciplined rfl rfl
            (fun _ => (sound.disciplined.released (.inr rfl)).1) (fun _ => rfl)
        · exact fun grip gripMem => sound.accounts.pending grip (Multiset.mem_cons_of_mem gripMem)
        · exact fun _ => sound.accounts.landed (.inr rfl)
        · exact fun notReleased => absurd (.inr rfl) notReleased
      · rfl

theorem runFrame_work (sound : (engine.next .work).Sound flights hand) :
    (engine.runFrame platform .work).Sound flights hand := by
  rcases sound.of_next rfl with ⟨below, ready⟩
  simp only [Engine.runFrame]
  split
  · exact below
  · have waiting : (engine.next .worked).Sound flights hand := below.next ready rfl
    exact waiting.next rfl rfl

theorem runFrame_worked (sound : (engine.next .worked).Sound flights hand) :
    (engine.runFrame platform .worked).Sound flights hand := by
  rcases sound.of_next rfl with ⟨below, ready⟩
  simp only [Engine.runFrame]
  split
  · exact below.shutdown
  · exact below.next ready rfl

end Frames

theorem runFrame (sound : (engine.next frame).Sound flights hand) (platform : Platform κ)
    (spare : engine.inFlight + 2 ≤ UInt32.size)
    (keeps : keepsContract (engine.runFrame platform frame).journal) :
    ∃ flights hand, (engine.runFrame platform frame).Sound flights hand := by
  cases frame with
  | client => exact ⟨_, _, sound⟩
  | stage request => exact (sound.stageRequest platform spare).imp fun _ staged => ⟨hand, staged⟩
  | intake remaining wait => exact ⟨_, _, sound.runFrame_intake platform⟩
  | observe wait => exact ⟨_, _, sound.runFrame_observe platform⟩
  | arm wait => exact ⟨_, _, sound.runFrame_arm platform⟩
  | enter wait => exact ⟨_, _, sound.runFrame_enter platform keeps⟩
  | dispatch batch delivered outer =>
      exact (sound.runFrame_dispatch platform).imp fun _ dispatched => ⟨hand, dispatched⟩
  | report delivered =>
      rcases sound.of_next rfl with ⟨below, -⟩
      exact ⟨_, _, below.healthy, below.disciplined, below.accounts⟩
  | refuse records failure outer =>
      exact (sound.runFrame_refuse platform).imp fun _ refused => ⟨hand, refused⟩
  | emptyInbox => exact ⟨_, _, sound.runFrame_emptyInbox platform⟩
  | drain deadline => exact ⟨_, _, sound.runFrame_drain platform⟩
  | drained deadline => exact ⟨_, _, sound.runFrame_drained platform⟩
  | lastReap => exact ⟨_, _, sound.runFrame_lastReap platform keeps⟩
  | release => exact ⟨_, _, sound.releaseRing platform⟩
  | fail leftovers => exact sound.runFrame_fail platform
  | work => exact ⟨_, _, sound.runFrame_work platform⟩
  | worked => exact ⟨_, _, sound.runFrame_worked platform⟩

/-- A step of a sound engine leads to a sound engine. -/
theorem step (sound : engine.Sound flights hand) (platform : Platform κ)
    (spare : engine.inFlight + 2 ≤ UInt32.size)
    (keeps : keepsContract (engine.step platform).journal) :
    ∃ flights hand, (engine.step platform).Sound flights hand := by
  rcases step_cases engine platform with ⟨-, same⟩ | ⟨below, frame, rfl, stepped⟩
  · rw [same]
    exact ⟨_, _, sound⟩
  · rw [stepped] at keeps ⊢
    exact sound.runFrame platform spare keeps

end Sound

end Engine

end CompletionEngine
