import CompletionEngine.Proofs.Runs.Course
import CompletionEngine.Proofs.Runs.ExactlyOnce
import CompletionEngine.Proofs.Runs.Manifest
import CompletionEngine.Simulation.Script

/-!
# What a shutdown comes to

However a shutdown is asked for, each operation in flight ends once: with its completion when the
ring has handed that out, with the refusal of its record when the ring has refused it, and otherwise
as a leftover. Leftovers are failed, and their entries recycled, only after the ring has been given
up. In the end there is nothing left: no tag, no staged record, no entry in any pool, and no task but
those that a push has queued too late and is about to reject.

A request that makes room for itself may be overtaken by a shutdown, which the code of a refused
operation asks for. Its continuation is the only one that is called after everything has been given
up, and it is called next.
-/

namespace CompletionEngine

variable {κ τ : Type}

/-- Whether the push still looks after what is queued. -/
def PushPhase.isLooking {α : Type} : PushPhase α → Bool
  | .recheck | .sweep => true
  | _ => false

/-- Whether the push has returned. -/
def PushPhase.isReturned {α : Type} : PushPhase α → Bool
  | .returned _ => true
  | _ => false

/-- An operation has ended with what there was for its tag. -/
structure Ending.Agrees (ending : Ending κ τ) (tag : UInt32)
    (completions : Multiset CompletionRecord) (refusals : Multiset (SubmitRecord × Failure)) :
    Prop where
  completed : ∀ record, ending.fate = .completed record ↔
    record ∈ completions ∧ record.userData = tag.toUInt64
  refused : ∀ record failure, ending.fate = .refused record failure ↔
    (record, failure) ∈ refusals ∧ record.userData = tag.toUInt64
  leftOver : ending.fate = .leftOver ↔
    (∀ record ∈ completions, record.userData ≠ tag.toUInt64) ∧
      ∀ row ∈ refusals, row.1.userData ≠ tag.toUInt64

theorem Ending.agrees {ending : Ending κ τ} {tag : UInt32}
    {completions : Multiset CompletionRecord} {refusals : Multiset (SubmitRecord × Failure)}
    (completed : ∀ record, ending.fate = .completed record ↔
      record ∈ completions ∧ record.userData = tag.toUInt64)
    (refused : ∀ record failure, ending.fate = .refused record failure ↔
      (record, failure) ∈ refusals ∧ record.userData = tag.toUInt64) :
    ending.Agrees tag completions refusals where
  completed := completed
  refused := refused
  leftOver := by
    constructor
    · intro leftOver
      refine ⟨fun record recordMem named => ?_, fun row rowMem named => ?_⟩
      · cases leftOver.symm.trans ((completed record).mpr ⟨recordMem, named⟩)
      · cases leftOver.symm.trans ((refused row.1 row.2).mpr ⟨rowMem, named⟩)
    · rintro ⟨noCompletion, noRefusal⟩
      cases fate : ending.fate with
      | completed record =>
          rcases (completed record).mp fate with ⟨recordMem, named⟩
          exact absurd named (noCompletion record recordMem)
      | refused record failure =>
          rcases (refused record failure).mp fate with ⟨rowMem, named⟩
          exact absurd named (noRefusal _ rowMem)
      | leftOver => rfl

/-- What a shutdown has come to that was asked for in a scene, after some moves, when all these
continuations have been handed over. -/
structure Concluded (platform : Platform κ) (handed : Multiset (Continuation τ))
    (before : Scene κ τ) (moves : List (Move κ τ)) (scene : Scene κ τ) : Prop where
  terminated : scene.engine.terminated = true
  /-- Each operation that was in flight has ended once, and nothing else has ended. -/
  ended : ((before.endings platform moves).map Ending.grip : Multiset (Grip (Continuation τ))) =
    before.engine.pools.held
  /-- It has ended with its completion, if this was in hand or has been handed out since, with the
  refusal of its record, if this was in hand or the ring has refused it since, or else as a
  leftover. -/
  agrees : ∀ ending ∈ before.endings platform moves, ∃ tag,
    before.engine.InFlight tag ending.grip ∧ ending.Agrees tag
      (completionsInHand before.engine.frames + returned (before.engine.eventsSince scene.engine))
      (refusalsInHand before.engine.frames + refusals (before.engine.eventsSince scene.engine))
  told : ∀ ending ∈ before.endings platform moves, ending.Told platform scene.engine.journal
  /-- Until then its entry was in use. It is a leftover if and only if the ring had been given up. -/
  due : ∀ ending ∈ before.endings platform moves, ending.grip ∈ ending.moment.pools.held ∧
    (ending.isLeftOver ↔ .released ∈ ending.moment.journal)
  synthesized_eq : scene.engine.statistics.synthesized =
    before.engine.statistics.synthesized +
      (before.endings platform moves).countP Ending.isLeftOver
  released : .released ∈ scene.engine.journal
  bindings_eq : scene.engine.tags.bindings = []
  staged_eq : scene.engine.staged = []
  bare : scene.engine.pools.Bare
  queue_eq : (∀ push ∈ scene.pushes, push.isReturned) → scene.engine.inbox.queue = []
  invoked_eq : invoked scene.engine.journal + scene.engine.underway + scene.queued = handed
  /-- The continuation of a request that is under way is called next. -/
  underway : scene.engine.underway = 0 ∨ ∃ request rest,
    scene.engine.frames = .stage request :: rest ∧ (scene.engine.step platform).journal =
      request.continuation.event ⟨request.command.kind, .error .closed⟩ :: scene.engine.journal

namespace Scene

/-- What is queued once a shutdown has found the inbox empty is left to a push that still looks
after it, and the pools are bare once everything has been given up. -/
structure Emptied (scene : Scene κ τ) : Prop where
  tended : PastInbox scene.engine.frames scene.engine.terminated →
    scene.engine.inbox.queue = [] ∨ ∃ push ∈ scene.pushes, push.isLooking
  bare : scene.engine.terminated = true → scene.engine.pools.Bare

theorem Emptied.of_proceeds {before after : Scene κ τ} (emptied : before.Emptied)
    (proceeds : before.engine.Proceeds after.engine)
    (pushes : ∀ push ∈ before.pushes, push ∈ after.pushes) : after.Emptied where
  tended := by
    intro past
    rcases proceeds.pastInbox past with pastBefore | empty
    · rcases emptied.tended pastBefore with empty | ⟨push, pushMem, looking⟩
      · exact .inl (List.eq_nil_of_suffix_nil (empty ▸ proceeds.queue))
      · exact .inr ⟨push, pushes push pushMem, looking⟩
    · exact .inl empty
  bare := proceeds.bare emptied.bare

/-- A push on a closed inbox looks after what it queues, until it finds nothing. -/
theorem looks_advance {α : Type} (phase : PushPhase α) (inbox : Inbox α)
    (closed : inbox.closed = true) :
    (phase.advance inbox).1.isLooking ∨ (phase.advance inbox).2.2.queue = [] ∨
      phase.isLooking = false ∧ (phase.advance inbox).2.2.queue = inbox.queue := by
  cases phase with
  | check task => exact .inr (.inr ⟨rfl, by simp [PushPhase.advance, closed]⟩)
  | enqueue task =>
      cases room : inbox.enqueue? task with
      | none => exact .inr (.inr ⟨rfl, by simp [PushPhase.advance, room]⟩)
      | some larger => exact .inl (by simp [PushPhase.advance, room, PushPhase.isLooking])
  | recheck => exact .inl (by simp [PushPhase.advance, closed, PushPhase.isLooking])
  | sweep =>
      cases queued : inbox.queue with
      | nil => exact .inr (.inl (by simp [PushPhase.advance, Inbox.pop?, queued]))
      | cons task rest =>
          exact .inl (by simp [PushPhase.advance, Inbox.pop?, queued, PushPhase.isLooking])
  | wake => exact .inr (.inr ⟨rfl, rfl⟩)
  | returned result => exact .inr (.inr ⟨rfl, rfl⟩)

section Moves

variable {platform : Platform κ} {engine : Engine κ τ}

theorem emptied_advance {flights : Multiset (Flight τ)} {hand : Multiset (Grip (Continuation τ))}
    (sound : engine.Sound flights hand) {pushes : List (PushPhase (Task τ))}
    (emptied : (Scene.mk engine pushes).Emptied) (index : ℕ) :
    ((Scene.mk engine pushes).advance platform index).Emptied := by
  unfold advance
  cases found : pushes[index]? with
  | none => simpa only [found] using emptied
  | some phase =>
      rcases advancePush_eq engine platform phase with ⟨world, advanced⟩
      have inside : index < pushes.length := (List.getElem?_eq_some_iff.mp found).1
      simp only [advanced]
      refine ⟨?_, emptied.bare⟩
      · intro past
        have past : PastInbox engine.frames engine.terminated := past
        have closed : engine.inbox.closed = true :=
          sound.disciplined.closed_imp (past.isClosed sound.disciplined)
        rcases looks_advance phase engine.inbox closed with looking | empty | ⟨blind, queue_eq⟩
        · exact .inr ⟨_, List.mem_set inside _, looking⟩
        · exact .inl empty
        · rcases emptied.tended past with empty | ⟨push, pushMem, looking⟩
          · exact .inl (queue_eq.trans empty)
          · rcases List.mem_iff_getElem?.mp pushMem with ⟨other, here⟩
            have ne : index ≠ other := by
              rintro rfl
              cases found.symm.trans here
              rw [blind] at looking
              cases looking
            refine .inr ⟨push, List.mem_iff_getElem?.mpr ⟨other, ?_⟩, looking⟩
            rwa [List.getElem?_set_ne ne]

end Moves

/-- In every run, what a shutdown has emptied stays empty. -/
theorem emptied_of_play {platform : Platform κ} {configuration : Configuration} {world : κ}
    {moves : List (Move κ τ)} {scene : Scene κ τ}
    (played : (opening configuration world).play? platform moves = some scene) : scene.Emptied := by
  refine play?_induction (fun _ scene => scene.Emptied) ?_ ?_ played
  · refine ⟨?_, ?_⟩
    · rintro (terminated | past)
      · cases terminated
      · cases past
    · intro terminated
      cases terminated
  · rintro moves ⟨engine, pushes⟩ move after playedBefore emptied moved
    rcases move?_eq_some.mp moved with ⟨allowed, -, rfl⟩
    rcases sound_of_play playedBefore with ⟨flights, hand, sound⟩
    by_cases step : move = .step
    · subst step
      rcases sound.proceeds_step platform (by simpa [allows] using allowed) with
        proceeds | ⟨below, record, rest, delivered, outer, rfl, acknowledged⟩
      · exact emptied.of_proceeds proceeds fun _ pushMem => pushMem
      · refine ⟨?_, ?_⟩
        · intro past
          simp only [perform, acknowledged] at past ⊢
          exact emptied.tended past
        · intro terminated
          simp only [perform, acknowledged] at terminated ⊢
          exact emptied.bare terminated
    by_cases wakes : move = .wake
    · subst wakes
      exact ⟨emptied.tended, emptied.bare⟩
    by_cases advances : ∃ index, move = .advance index
    · rcases advances with ⟨index, rfl⟩
      exact emptied_advance sound emptied index
    · rcases proceeds_perform platform step
        (fun index same => advances ⟨index, same⟩) wakes with ⟨proceeds, further⟩
      exact emptied.of_proceeds proceeds fun _ pushMem => further.subset pushMem

end Scene

namespace Engine

theorem Flows.completed_iff {platform : Platform κ} {before after : Engine κ τ}
    {begun : List (Admission τ)} {ended : List (Ending κ τ)} {events : List (Event τ)}
    (flows : before.Flows platform begun ended events after)
    (idle : completionsInHand after.frames = 0) {record : CompletionRecord}
    (operation : record.userData ≠ wakeUserData) :
    (∃ ending ∈ ended, ending.fate = .completed record) ↔
      record ∈ completionsInHand before.frames + returned events := by
  have total := flows.completions_eq
  rw [idle, ofOperations, Multiset.filter_zero, add_zero, ← ofOperations_add] at total
  have settled (ending : Ending κ τ) :
      ending.completion? = some record ↔ ending.fate = .completed record := by
    unfold Ending.completion?
    cases ending.fate <;> simp
  have member : record ∈ (ended.filterMap Ending.completion? : Multiset CompletionRecord) ↔
      ∃ ending ∈ ended, ending.fate = .completed record := by
    simp [List.mem_filterMap, settled]
  rw [← member, total, ofOperations, Multiset.mem_filter]
  exact and_iff_left operation

theorem Flows.refused_iff {platform : Platform κ} {before after : Engine κ τ}
    {begun : List (Admission τ)} {ended : List (Ending κ τ)} {events : List (Event τ)}
    (flows : before.Flows platform begun ended events after)
    (idle : refusalsInHand after.frames = 0) {record : SubmitRecord} {failure : Failure}
    (operation : record.userData ≠ wakeUserData) :
    (∃ ending ∈ ended, ending.fate = .refused record failure) ↔
      (record, failure) ∈ refusalsInHand before.frames + refusals events := by
  have total := flows.refusals_eq
  rw [idle, ofRefused, Multiset.filter_zero, add_zero, ← ofRefused_add] at total
  have settled (ending : Ending κ τ) :
      ending.refusal? = some (record, failure) ↔ ending.fate = .refused record failure := by
    unfold Ending.refusal?
    cases ending.fate <;> simp
  have member : (record, failure) ∈
        (ended.filterMap Ending.refusal? : Multiset (SubmitRecord × Failure)) ↔
      ∃ ending ∈ ended, ending.fate = .refused record failure := by
    simp [List.mem_filterMap, settled]
  rw [← member, total, ofRefused, Multiset.mem_filter]
  exact and_iff_left operation

namespace Sound

variable {engine : Engine κ τ} {flights : Multiset (Flight τ)}
  {hand : Multiset (Grip (Continuation τ))}

/-- Once everything has been given up, nothing is in use, registered, staged or in hand. -/
theorem nothing_left (sound : engine.Sound flights hand) (terminated : engine.terminated = true) :
    engine.pools.held = 0 ∧ engine.tags.bindings = [] ∧ engine.staged = [] ∧
      completionsInHand engine.frames = 0 ∧ refusalsInHand engine.frames = 0 := by
  have disciplined := sound.disciplined
  rw [Disciplined, terminated] at disciplined
  have plain := disciplined.isPlain_of_terminated
  have noFlight : flights = 0 := sound.accounts.landed (.inl terminated)
  have noHand : hand = 0 := sound.accounts.hand_eq_zero fun frame frameMem =>
    Frame.isFail_eq_false_of_isPlain (plain frame frameMem)
  have empty (frame : Frame τ) (frameMem : frame ∈ engine.frames) :
      frame.completions = 0 ∧ frame.refusals = 0 := by
    have framePlain := plain frame frameMem
    cases frame <;> first | exact ⟨rfl, rfl⟩ | cases framePlain
  refine ⟨?_, ?_, (disciplined.released (.inl rfl)).1, ?_, ?_⟩
  · rw [sound.accounts.books.held_eq, noFlight, noHand]
    rfl
  · have none := sound.accounts.books.bindings_eq
    rw [noFlight, Multiset.map_zero] at none
    exact Multiset.coe_eq_zero _ |>.mp none
  · apply List.sum_eq_zero
    intro completions completionsMem
    rcases List.mem_map.mp completionsMem with ⟨frame, frameMem, rfl⟩
    exact (empty frame frameMem).1
  · apply List.sum_eq_zero
    intro refusals refusalsMem
    rcases List.mem_map.mp refusalsMem with ⟨frame, frameMem, rfl⟩
    exact (empty frame frameMem).2

/-- With nothing in hand, each entry in use is that of an operation in flight, and bears its tag. -/
theorem exists_flight_of_held (sound : engine.Sound flights 0) {grip : Grip (Continuation τ)}
    (gripMem : grip ∈ engine.pools.held) :
    ∃ flight ∈ flights, flight.grip = grip ∧ grip.entry.tag = some flight.tag := by
  rw [sound.accounts.books.held_eq, zero_add] at gripMem
  rcases Multiset.mem_map.mp gripMem with ⟨flight, flightMem, rfl⟩
  exact ⟨flight, flightMem, rfl, (sound.accounts.ready flight flightMem).tag_eq⟩

theorem nodup_entry_tags (sound : engine.Sound flights 0) :
    (engine.pools.held.map fun grip => grip.entry.tag).Nodup := by
  have tags : engine.pools.held.map (fun grip => grip.entry.tag) =
      flights.map fun flight => some flight.tag := by
    calc engine.pools.held.map (fun grip => grip.entry.tag)
        = flights.map fun flight => flight.grip.entry.tag := by
          rw [sound.accounts.books.held_eq, zero_add, Multiset.map_map]
          rfl
      _ = flights.map fun flight => some flight.tag :=
          Multiset.map_congr rfl fun flight flightMem =>
            (sound.accounts.ready flight flightMem).tag_eq
  have distinct := sound.accounts.books.nodup_tags.map (Option.some_injective UInt32)
  rw [Multiset.map_map] at distinct
  rw [tags]
  exact distinct

/-- When all operations that were in flight have ended, each has ended with what there was for its
tag. -/
theorem agrees_of_flows {platform : Platform κ} {after : Engine κ τ} {ended : List (Ending κ τ)}
    {events : List (Event τ)} (sound : engine.Sound flights 0)
    (flows : engine.Flows platform [] ended events after)
    (all : (ended.map Ending.grip : Multiset (Grip (Continuation τ))) = engine.pools.held)
    (idle : completionsInHand after.frames = 0 ∧ refusalsInHand after.frames = 0)
    {ending : Ending κ τ} (endingMem : ending ∈ ended) :
    ∃ tag, engine.InFlight tag ending.grip ∧ ending.Agrees tag
      (completionsInHand engine.frames + returned events)
      (refusalsInHand engine.frames + refusals events) := by
  have inFlight (ending : Ending κ τ) (endingMem : ending ∈ ended) :
      ∃ flight ∈ flights, flight.grip = ending.grip ∧ ending.grip.entry.tag = some flight.tag := by
    refine sound.exists_flight_of_held ?_
    rw [← all]
    exact Multiset.mem_coe.mpr (List.mem_map_of_mem endingMem)
  have unique : (ended.map fun ending => ending.grip.entry.tag).Nodup := by
    have distinct := sound.nodup_entry_tags
    rwa [← all, Multiset.map_coe, List.map_map, Multiset.coe_nodup] at distinct
  rcases inFlight ending endingMem with ⟨flight, flightMem, same, tag_eq⟩
  -- Whatever bears that tag and has ended an operation has ended this one.
  have settles (fate : Fate) (present : Prop) (userData : UInt64)
      (named : ∀ other ∈ ended, other.fate = fate →
        other.grip.entry.tag.map UInt32.toUInt64 = some userData)
      (present_iff : userData ≠ wakeUserData → ((∃ other ∈ ended, other.fate = fate) ↔ present)) :
      ending.fate = fate ↔ present ∧ userData = flight.tag.toUInt64 := by
    constructor
    · intro ends
      have bears := named ending endingMem ends
      rw [tag_eq] at bears
      have bears : userData = flight.tag.toUInt64 := (Option.some.inj bears).symm
      exact ⟨(present_iff (bears ▸ tag_ne_wakeUserData _)).mp ⟨ending, endingMem, ends⟩, bears⟩
    · rintro ⟨here, bears⟩
      rcases (present_iff (bears ▸ tag_ne_wakeUserData _)).mpr here with ⟨other, otherMem, ends⟩
      rcases inFlight other otherMem with ⟨otherFlight, -, -, otherTag⟩
      have same : other = ending := by
        apply List.inj_on_of_nodup_map unique otherMem endingMem
        have bearsOther := named other otherMem ends
        rw [otherTag, bears] at bearsOther
        rw [otherTag, tag_eq, UInt32.toUInt64_inj.mp (Option.some.inj bearsOther)]
      rwa [same] at ends
  refine ⟨flight.tag, sound.accounts.books.inFlight_iff.mpr ⟨flight, flightMem, rfl, same⟩, ?_⟩
  apply Ending.agrees
  · intro record
    refine settles (.completed record) _ record.userData ?_ fun operation =>
      flows.completed_iff idle.1 operation
    intro other otherMem ends
    have named := flows.named other otherMem
    rwa [Ending.Named, ends] at named
  · intro record failure
    refine settles (.refused record failure) _ record.userData ?_ fun operation =>
      flows.refused_iff idle.2 operation
    intro other otherMem ends
    have named := flows.named other otherMem
    rwa [Ending.Named, ends] at named

/-- Only a request that is under way still has a continuation to call, and calls it next. -/
theorem underway_of_terminated (sound : engine.Sound flights hand)
    (terminated : engine.terminated = true) (platform : Platform κ) :
    engine.underway = 0 ∨ ∃ request rest, engine.frames = .stage request :: rest ∧
      (engine.step platform).journal =
        request.continuation.event ⟨request.command.kind, .error .closed⟩ :: engine.journal := by
  cases frames_eq : engine.frames with
  | nil => exact .inl (by rw [underway, frames_eq]; rfl)
  | cons frame rest =>
      cases staging : frame.isStage with
      | false =>
          refine .inl ?_
          rw [underway, frames_eq]
          exact Frame.waiting_of_not_stage staging
      | true =>
          cases frame with
          | stage request =>
              exact .inr ⟨request, rest, rfl,
                sound.journal_step_of_terminated terminated platform frames_eq⟩
          | _ => cases staging

end Sound

end Engine

/-- In every run, whichever move closes the engine: once everything has been given up, or nothing is
left to be done, the shutdown has come to what it should. -/
theorem concluded_of_play {platform : Platform κ} {configuration : Configuration} {world : κ}
    {moves later : List (Move κ τ)} {call : Move κ τ} {before called scene : Scene κ τ}
    (played : (Scene.opening configuration world).play? platform moves = some before)
    (opened : before.engine.closed = false) (moved : before.move? platform call = some called)
    (closed : called.engine.closed = true) (went : called.play? platform later = some scene)
    (ended : scene.engine.terminated = true ∨ scene.engine.frames = []) :
    Concluded platform (handedOver (moves ++ call :: later)) before (call :: later) scene := by
  have whole : (Scene.opening configuration world).play? platform (moves ++ call :: later) =
      some scene := by
    rw [Scene.play?_append played]
    simpa [Scene.play?, moved] using went
  rcases Scene.sound_of_play played with ⟨flights, hand, sound⟩
  have calm := Accounts.calm_of_not_released (sound.not_released_of_open opened)
  obtain rfl : hand = 0 := sound.accounts.hand_eq_zero calm
  have candid := Scene.candid_of_play played
  rcases Scene.flows_of_closing ⟨flights, 0, sound⟩ candid moved closed went with
    ⟨⟨others, otherHand, soundAfter⟩, closedAfter, events, flows⟩
  have terminated : scene.engine.terminated = true := by
    rcases ended with terminated | rest
    · exact terminated
    · exact soundAfter.terminated_of_rest closedAfter rest
  rcases soundAfter.nothing_left terminated with
    ⟨held_eq, bindings_eq, staged_eq, noCompletion, noRefusal⟩
  have all : ((before.endings platform (call :: later)).map Ending.grip :
      Multiset (Grip (Continuation τ))) = before.engine.pools.held := by
    simpa [held_eq] using flows.held_eq
  have since := Engine.eventsSince_eq flows.journal_eq
  have emptied := Scene.emptied_of_play whole
  refine
    { terminated := terminated
      ended := all
      agrees := ?_
      told := flows.told
      due := fun ending endingMem => ⟨flows.placed ending endingMem, flows.due ending endingMem⟩
      synthesized_eq := flows.synthesized_eq
      released := (flows.candid candid).mp (.inl terminated)
      bindings_eq := bindings_eq
      staged_eq := staged_eq
      bare := emptied.bare terminated
      queue_eq := ?_
      invoked_eq := Scene.invoked_of_terminated whole terminated
      underway := soundAfter.underway_of_terminated terminated platform }
  · intro ending endingMem
    rw [since]
    exact sound.agrees_of_flows flows all ⟨noCompletion, noRefusal⟩ endingMem
  · intro idle
    rcases emptied.tended (.inl terminated) with empty | ⟨push, pushMem, looking⟩
    · exact empty
    · have returned := idle push pushMem
      cases push <;> simp [PushPhase.isLooking, PushPhase.isReturned] at looking returned

open Simulation in
/-- Of two operations that are in flight, one is completed while the shutdown waits. The other and its
guard are left over. -/
theorem concluded_unanswered_read :
    ∃ (moves later : List (Move Script String)) (before called scene : Scene Script String),
      (Scene.opening .default
          (.new 8 .wait none [⟨some .nop, some ⟨.fixed 0, .none⟩⟩])).play?
            (Script.platform (.silent _)) moves = some before ∧
        before.engine.closed = false ∧
        before.move? (Script.platform (.silent _)) .shutdown = some called ∧
        called.engine.closed = true ∧
        called.play? (Script.platform (.silent _)) later = some scene ∧
        scene.engine.statistics.completed = 1 ∧ scene.engine.statistics.synthesized = 2 ∧
        Concluded (Script.platform (.silent _)) (handedOver (moves ++ Move.shutdown :: later)) before
          (Move.shutdown :: later) scene := by
  let moves : List (Move Script String) :=
    [Move.request ⟨.nop, (), none⟩ "answered", Move.step,
      Move.request ⟨.read, ⟨⟨3⟩, ⟨4096, 16⟩, .current⟩, some (.ofMillis 5)⟩ "unanswered", Move.step]
  let later : List (Move Script String) :=
    List.replicate 7 Move.step ++ [Move.finish] ++ List.replicate 17 Move.step ++ [Move.finish] ++
      List.replicate 2 Move.step
  have plays : ((Scene.opening .default
      (Script.new 8 .wait none [⟨some .nop, some ⟨.fixed 0, .none⟩⟩])).play?
      (Script.platform (.silent _)) moves).any fun before =>
        !before.engine.closed &&
          (before.move? (Script.platform (.silent _)) .shutdown).any fun called =>
            called.engine.closed &&
              (called.play? (Script.platform (.silent _)) later).any fun scene =>
                scene.engine.terminated && scene.engine.statistics.completed == 1 &&
                  scene.engine.statistics.synthesized == 2 := by
    decide +kernel
  simp only [Option.any_eq_true, Bool.and_eq_true, Bool.not_eq_true', beq_iff_eq] at plays
  rcases plays with ⟨before, played, opened, called, moved, closed, scene, went, ⟨terminated, shows⟩,
    failed⟩
  exact ⟨moves, later, before, called, scene, played, opened, moved, closed, went, shows, failed,
    concluded_of_play played opened moved closed went (.inl terminated)⟩

open Simulation in
/-- A request makes room for itself, and the ring refuses what is staged. The code of the refused
operation shuts the engine down, and everything is given up before the continuation of the request
is called. -/
theorem untold_when_terminated :
    ∃ (moves : List (Move Script String)) (before scene : Scene Script String),
      (Scene.opening .default
          { Script.new 1 .wait none [] with errors := [(.push, some (.system 11))] }).play?
            (Script.platform (.silent _)) moves = some before ∧
        before.engine.terminated = false ∧
        before.move? (Script.platform (.silent _)) .step = some scene ∧
        scene.engine.terminated = true ∧ scene.pushes = [] ∧
        Multiset.card (invoked scene.engine.journal) = 1 ∧
        Multiset.card (handedOver (moves ++ [.step])) = 2 := by
  let nop (label : String) : Move Script String := .request ⟨.nop, (), none⟩ label
  let moves : List (Move Script String) :=
    [nop "first", Move.step, nop "second", Move.step, Move.shutdown, Move.finish] ++
      List.replicate 7 Move.step
  have plays : ((Scene.opening .default
      { Script.new 1 .wait none [] with errors := [(.push, some (.system 11))] }).play?
      (Script.platform (.silent _)) moves).any fun before =>
        !before.engine.terminated &&
          (before.move? (Script.platform (.silent _)) .step).any fun scene =>
            scene.engine.terminated && scene.pushes.isEmpty &&
              Multiset.card (invoked scene.engine.journal) == 1 := by
    decide +kernel
  simp only [Option.any_eq_true, Bool.and_eq_true, Bool.not_eq_true', beq_iff_eq,
    List.isEmpty_iff] at plays
  rcases plays with ⟨before, played, running, scene, moved, ⟨terminated, noPush⟩, told⟩
  exact ⟨moves, before, scene, played, running, moved, terminated, noPush, told, by decide +kernel⟩

end CompletionEngine
