import CompletionEngine.Proofs.Engine.Tallies
import CompletionEngine.Proofs.Runs.Course
import CompletionEngine.Proofs.Runs.Stream
import CompletionEngine.Simulation.Script

/-!
# Operations are conserved

What an engine counts is what happened. Every operation that was counted when it began has been
counted again when its completion was delivered or when it was failed at the end of a shutdown, or
its record was refused by the ring, or it is still in flight. Completions of the wake-up poll have a
count of their own, and so have the two ways in which timeout guards end. No count ever falls.
-/

namespace CompletionEngine

variable {κ τ : Type}

/-- No count is lower than before. -/
structure Statistics.Grows (before after : Statistics) : Prop where
  submitted : before.submitted ≤ after.submitted
  completed : before.completed ≤ after.completed
  guardsFired : before.guardsFired ≤ after.guardsFired
  guardsDisarmed : before.guardsDisarmed ≤ after.guardsDisarmed
  synthesized : before.synthesized ≤ after.synthesized
  wakeups : before.wakeups ≤ after.wakeups

/-- Every operation ends in one of three ways. -/
theorem length_eq_of_fates (ended : List (Ending κ τ)) :
    ended.length = (ended.filterMap Ending.completion?).length +
      (ended.filterMap Ending.refusal?).length + ended.countP Ending.isLeftOver := by
  induction ended with
  | nil => rfl
  | cons ending ended ih =>
      rcases ending with ⟨moment, grip, fate⟩
      cases fate with
      | completed record =>
          simp only [List.length_cons, List.filterMap_cons, List.countP_cons, Ending.completion?,
            Ending.refusal?, Ending.isLeftOver, ih]
          simp only [Bool.false_eq_true, if_false]
          omega
      | refused record failure =>
          simp only [List.length_cons, List.filterMap_cons, List.countP_cons, Ending.completion?,
            Ending.refusal?, Ending.isLeftOver, ih]
          simp only [Bool.false_eq_true, if_false]
          omega
      | leftOver =>
          simp only [List.length_cons, List.filterMap_cons, List.countP_cons, Ending.completion?,
            Ending.refusal?, Ending.isLeftOver, ih, if_true]
          omega

theorem Errand.HeldBy.told {errand : Errand τ} {grip : Grip (Continuation τ)}
    (held : errand.HeldBy grip) :
    grip.reference.kind = errand.kind ∧ grip.entry.continuation = some errand.continuation := by
  rcases held with ⟨slot, entry, previous, heap, rfl, awaited, -⟩
  exact ⟨rfl, awaited⟩

namespace Engine

/-- What the counts of an engine say about its journal and about what it has in hand. -/
structure Balanced (engine : Engine κ τ) : Prop where
  operations : engine.statistics.submitted +
      Multiset.card (ofRefused (refusalsInHand engine.frames)) =
    engine.statistics.completed + engine.statistics.synthesized +
      Multiset.card (ofRefused (refusals engine.journal)) + engine.inFlight +
      Multiset.card (engine.frames.map Frame.leftovers).sum
  completions : engine.statistics.completed +
      Multiset.card (ofOperations (completionsInHand engine.frames)) =
    Multiset.card (ofOperations (returned engine.journal))
  wakeups : engine.statistics.wakeups + wakesAmong (completionsInHand engine.frames) =
    wakesAmong (returned engine.journal)

namespace Flows

variable {platform : Platform κ} {before after : Engine κ τ} {begun : List (Admission τ)}
  {ended : List (Ending κ τ)} {events others : List (Event τ)}

theorem grows (flows : before.Flows platform begun ended events after)
    (tallies : before.Tallies platform ended others after) :
    before.statistics.Grows after.statistics where
  submitted := by rw [flows.submitted_eq]; omega
  completed := by rw [flows.completed_eq]; omega
  guardsFired := by
    have fired := tallies.guards_eq .fired
    simp only [Statistics.guards] at fired
    omega
  guardsDisarmed := by
    have disarmed := tallies.guards_eq .disarmed
    simp only [Statistics.guards] at disarmed
    omega
  synthesized := by rw [flows.synthesized_eq]; omega
  wakeups := by rw [tallies.wakeups_eq]; omega

/-- From an engine on which nothing has happened yet, the counts are balanced. -/
theorem balanced (flows : before.Flows platform begun ended events after)
    (tallies : before.Tallies platform ended others after)
    (nothing : before.journal = [] ∧ before.frames = [] ∧ before.pools.held = 0 ∧
      before.statistics = .zero)
    {flights : Multiset (Flight τ)} {hand : Multiset (Grip (Continuation τ))}
    (sound : after.Sound flights hand) : after.Balanced := by
  rcases nothing with ⟨journal_eq, frames_eq, held_eq, statistics_eq⟩
  have whole : after.journal = events := by
    rw [flows.journal_eq, journal_eq, List.append_nil]
  have same : after.journal = others := by
    rw [tallies.journal_eq, journal_eq, List.append_nil]
  have completions := congrArg Multiset.card flows.completions_eq
  have refused := congrArg Multiset.card flows.refusals_eq
  have held := congrArg Multiset.card flows.held_eq
  have wakes := tallies.wakes_eq
  rw [← whole, frames_eq] at completions refused
  rw [← same, frames_eq] at wakes
  rw [held_eq, sound.accounts.books.held_eq] at held
  have leftovers := congrArg Multiset.card sound.accounts.hand_eq
  simp only [completionsInHand, refusalsInHand, List.map_nil, List.sum_nil, Multiset.card_add,
    Multiset.coe_card, Multiset.card_map, List.length_map, ofOperations, ofRefused,
    Multiset.filter_zero, wakesAmong_zero, zero_add, sound.accounts.books.card_flights]
    at completions refused held wakes leftovers
  -- Every operation that began is still held, or has ended in one of three ways.
  have fates := length_eq_of_fates ended
  have begunEq := flows.submitted_eq
  have completedEq := flows.completed_eq
  have synthesizedEq := flows.synthesized_eq
  have wakeupsEq := tallies.wakeups_eq
  rw [statistics_eq] at begunEq completedEq synthesizedEq wakeupsEq
  rw [← same] at wakeupsEq
  simp only [Statistics.zero, zero_add] at begunEq completedEq synthesizedEq wakeupsEq
  refine ⟨?_, ?_, ?_⟩
  · simp only [ofRefused, refusalsInHand, inFlight]
    omega
  · simp only [ofOperations, completionsInHand]
    omega
  · simp only [completionsInHand]
    omega

end Flows

/-- The engine itself awaits the timeout guards, and nothing else. -/
def Minds (engine : Engine κ τ) : Prop :=
  ∀ grip ∈ engine.pools.held, grip.entry.continuation = some .guard ↔ grip.reference.kind = .guard

theorem Flows.minds {platform : Platform κ} {before after : Engine κ τ} {ended : List (Ending κ τ)}
    {events : List (Event τ)} (flows : before.Flows platform [] ended events after)
    (minds : before.Minds) : after.Minds := by
  intro grip gripMem
  apply minds
  have held := flows.held_eq
  rw [List.map_nil, Multiset.coe_nil, add_zero] at held
  rw [← held]
  exact Multiset.mem_add.mpr (.inr gripMem)

namespace Sound

variable {engine : Engine κ τ} {flights : Multiset (Flight τ)}
  {hand : Multiset (Grip (Continuation τ))} {frame : Frame τ} (platform : Platform κ)

theorem minds_stage {request : Request τ}
    (sound : (engine.next (.stage request)).Sound flights hand)
    (spare : engine.inFlight + 2 ≤ UInt32.size) (kind : request.command.kind ≠ .guard)
    (own : request.continuation ≠ .guard) (minds : engine.Minds) :
    (engine.runFrame platform (.stage request)).Minds := by
  rcases sound.stage_cases platform spare with
    ⟨failure, stays, -⟩ | ⟨-, pools, tags, admissions, admitted, books, errands, -, proper⟩
  · rcases stays.flows platform with ⟨events, flows⟩
    exact flows.minds minds
  · rw [admitted]
    intro grip gripMem
    have before : engine.pools.held = hand + flights.map Flight.grip := sound.accounts.books.held_eq
    rw [books.held_eq, Multiset.map_add, Multiset.map_coe, List.map_map, add_left_comm, ← before]
      at gripMem
    rcases Multiset.mem_add.mp gripMem with new | old
    · rcases List.mem_map.mp (Multiset.mem_coe.mp new) with ⟨admission, admissionMem, rfl⟩
      have asked : admission.errand ∈ request.errands (platform.now engine.world) := by
        rw [← errands]
        exact List.mem_map_of_mem admissionMem
      rcases (proper admission admissionMem).holds.told with ⟨kind_eq, awaited⟩
      rw [Function.comp_apply, awaited, kind_eq, Option.some.injEq]
      rcases List.mem_cons.mp asked with same | guards
      · simp [same, kind, own]
      · split at guards
        · cases guards
        · simp [List.mem_singleton.mp guards]
    · exact minds grip old

theorem minds_step (sound : engine.Sound flights hand) (spare : engine.inFlight + 2 ≤ UInt32.size)
    (keeps : keepsContract (engine.step platform).journal) (candid : engine.Candid)
    (asked : ∀ request ∈ requestsIn engine.frames, request.command.kind ≠ .guard)
    (own : ∀ request ∈ requestsIn engine.frames, request.continuation ≠ .guard)
    (minds : engine.Minds) : (engine.step platform).Minds := by
  rcases step_cases engine platform with ⟨-, same⟩ | ⟨below, frame, rfl, stepped⟩
  · rwa [same]
  · rw [stepped] at keeps ⊢
    cases stages : frame.isStage with
    | false =>
        rcases sound.flows_of_not_stage platform keeps candid stages with ⟨events, flows⟩
        exact flows.minds minds
    | true =>
        cases frame with
        | stage request =>
            have top : request ∈ requestsIn (below.next (.stage request)).frames :=
              List.mem_cons_self
            exact sound.minds_stage platform spare (asked request top) (own request top) minds
        | _ => cases stages

end Sound

end Engine

namespace Scene

variable {platform : Platform κ}

/-- Nobody but the engine itself asks for timeout guards, or awaits them. -/
structure Watchful (scene : Scene κ τ) : Prop where
  modest : scene.Modest
  own : ∀ request ∈ requestsIn scene.engine.frames, request.continuation ≠ .guard
  minds : scene.engine.Minds

theorem own_perform {engine : Engine κ τ} {flights : Multiset (Flight τ)}
    {hand : Multiset (Grip (Continuation τ))} (sound : engine.Sound flights hand)
    {pushes : List (PushPhase (Task τ))} {move : Move κ τ}
    (allowed : (Scene.mk engine pushes).allows move)
    (own : ∀ request ∈ requestsIn engine.frames, request.continuation ≠ .guard) :
    ∀ request ∈ requestsIn ((Scene.mk engine pushes).perform platform move).engine.frames,
      request.continuation ≠ .guard := by
  intro request requestMem
  by_cases step : move = .step
  · subst step
    rcases sound.takes_step platform (by simpa [allows] using allowed) with
      leaves | ⟨task, takes⟩
    · exact own request (leaves.requests.subset requestMem)
    · simp only [perform, takes.requests_eq, List.mem_append, Option.mem_toList] at requestMem
      rcases requestMem with new | old
      · cases task with
        | request command promise =>
            cases new
            simp
        | job body => cases new
      · exact own request old
  by_cases advances : ∃ index, move = .advance index
  · rcases advances with ⟨index, rfl⟩
    simp only [perform, advance] at requestMem
    split at requestMem
    · exact own request requestMem
    · rename_i phase _
      rcases advancePush_eq engine platform phase with ⟨world, advanced⟩
      rw [advanced] at requestMem
      exact own request requestMem
  -- Any other move brings in at most the request that a caller makes with it.
  · have leaves : (move.request?.elim engine fun request => engine.next (.stage request)).Leaves
        ((Scene.mk engine pushes).perform platform move).engine :=
      leaves_perform platform step fun index same => advances ⟨index, same⟩
    have known := leaves.requests.subset requestMem
    cases named : move.request? with
    | none =>
        rw [named] at known
        exact own request known
    | some new =>
        rw [named] at known
        rcases List.mem_cons.mp known with rfl | old
        · cases move <;> cases named <;> simp
        · exact own request old

theorem watchful_of_play {configuration : Configuration} {world : κ} {moves : List (Move κ τ)}
    {scene : Scene κ τ} (played : (opening configuration world).play? platform moves = some scene)
    (asked : ∀ move ∈ moves, ∀ request ∈ move.asked?, request.command.kind ≠ .guard) :
    scene.Watchful ∧
      ∀ ending ∈ (opening configuration world : Scene κ τ).endings platform moves,
        ending.grip.entry.continuation = some .guard ↔ ending.grip.reference.kind = .guard := by
  revert asked
  refine play?_induction (fun moves scene =>
    (∀ move ∈ moves, ∀ request ∈ move.asked?, request.command.kind ≠ .guard) → scene.Watchful ∧
      ∀ ending ∈ (opening configuration world : Scene κ τ).endings platform moves,
        ending.grip.entry.continuation = some .guard ↔ ending.grip.reference.kind = .guard) ?_ ?_
    played
  · intro _
    refine ⟨⟨⟨?_, ?_, ?_⟩, ?_, ?_⟩, ?_⟩
    · simp [opening, Engine.new, requestsIn]
    · simp [opening, Engine.new, Inbox.new]
    · simp [opening]
    · simp [opening, Engine.new, requestsIn]
    · simp [Engine.Minds, opening, Engine.new]
    · simp [endings, knows, observed]
  · rintro moves ⟨engine, pushes⟩ move after playedBefore known moved asked
    rcases known (fun earlier earlierMem => asked earlier (List.mem_append_left _ earlierMem)) with
      ⟨watchful, endings_eq⟩
    rcases move?_eq_some.mp moved with ⟨allowed, keeps, rfl⟩
    have candid := candid_of_play playedBefore
    rcases sound_of_play playedBefore with ⟨flights, hand, sound⟩
    have asks := asked move (List.mem_append_right _ (List.mem_singleton_self move))
    refine ⟨⟨modest_perform watchful.modest sound allowed asks,
      own_perform sound allowed watchful.own, ?_⟩, ?_⟩
    · by_cases step : move = .step
      · subst step
        exact sound.minds_step platform (by simpa [allows] using allowed) keeps candid
          watchful.modest.frames watchful.own watchful.minds
      · have dealt : engine.Deals ((Scene.mk engine pushes).perform platform move).engine :=
          deals_perform platform step
        rcases dealt.flows platform with ⟨events, flows⟩
        exact flows.minds watchful.minds
    · intro ending endingMem
      rw [endings, knows_concat platform _ _ playedBefore] at endingMem
      rcases List.mem_append.mp endingMem with new | old
      · rcases flows_perform sound allowed keeps candid with ⟨begun, events, flows, -⟩
        have placed := flows.placed ending new
        have now : ending.moment = engine := by
          cases move with
          | step => exact Engine.moment_of_ending? (Option.mem_toList.mp new)
          | _ => cases new
        rw [now] at placed
        exact watchful.minds ending.grip placed
      · exact endings_eq ending old

theorem tallies_perform {engine : Engine κ τ} {flights : Multiset (Flight τ)}
    {hand : Multiset (Grip (Continuation τ))} (sound : engine.Sound flights hand)
    {pushes : List (PushPhase (Task τ))} {move : Move κ τ}
    (allowed : (Scene.mk engine pushes).allows move)
    (keeps : keepsContract ((Scene.mk engine pushes).perform platform move).engine.journal) :
    ∃ events, engine.Tallies platform (move.endings engine) events
      ((Scene.mk engine pushes).perform platform move).engine := by
  by_cases step : move = .step
  · subst step
    exact sound.tallies_step platform (by simpa [allows] using allowed) keeps
  · have none : move.endings engine = [] := by
      cases move with
      | step => exact absurd rfl step
      | _ => rfl
    have dealt : engine.Deals ((Scene.mk engine pushes).perform platform move).engine :=
      deals_perform platform step
    rw [none]
    exact dealt.tallies platform

/-- Between two scenes of a run, the counts of wake-ups and of guards account for what happened. -/
theorem tallies_of_play {start scene : Scene κ τ} {moves : List (Move κ τ)} (sound : start.Sound)
    (played : start.play? platform moves = some scene) :
    scene.Sound ∧ ∃ events, start.engine.Tallies platform (start.endings platform moves) events
      scene.engine := by
  refine play?_induction (fun moves scene => scene.Sound ∧ ∃ events,
    start.engine.Tallies platform (start.endings platform moves) events scene.engine) ?_ ?_ played
  · exact ⟨sound, [], .refl start.engine⟩
  · rintro moves before move after playedBefore ⟨soundBefore, events, tallies⟩ moved
    rcases move?_eq_some.mp moved with ⟨allowed, keeps, rfl⟩
    rcases soundBefore with ⟨flights, hand, soundBefore⟩
    rcases tallies_perform soundBefore allowed keeps with ⟨later, talliesOn⟩
    rw [endings, knows_concat platform _ _ playedBefore]
    exact ⟨sound_perform soundBefore allowed keeps, _, tallies.trans talliesOn⟩

theorem balanced_of_play {configuration : Configuration} {world : κ} {moves : List (Move κ τ)}
    {scene : Scene κ τ} (played : (opening configuration world).play? platform moves = some scene) :
    scene.engine.Balanced := by
  have sound := sound_opening (τ := τ) configuration world
  rcases flows_of_play sound (candid_opening configuration world) played with
    ⟨⟨flights, hand, soundAfter⟩, begun, events, flows⟩
  rcases tallies_of_play sound played with ⟨-, others, tallies⟩
  refine flows.balanced tallies ⟨rfl, rfl, ?_, rfl⟩ soundAfter
  simp [opening, Engine.new]

end Scene

/-- What the counts of an engine say while none of its calls is running, when these operations have
ended. -/
structure Conserves (platform : Platform κ) (ended : List (Ending κ τ)) (engine : Engine κ τ) :
    Prop where
  /-- What was submitted was completed, failed by a shutdown or refused by the ring, or is still in
  flight. -/
  operations : engine.statistics.submitted =
    engine.statistics.completed + engine.statistics.synthesized +
      Multiset.card (ofRefused (refusals engine.journal)) + engine.inFlight
  /-- What was completed are the completions that the ring has handed out, without those of the
  wake-up poll. -/
  completed : engine.statistics.completed = Multiset.card (ofOperations (returned engine.journal))
  /-- Those of the wake-up poll are counted by themselves. -/
  wakeups : engine.statistics.wakeups = wakesAmong (returned engine.journal)
  /-- The guards that are counted are those that were completed with a success, -/
  guards : engine.statistics.guardsFired + engine.statistics.guardsDisarmed =
    (ended.filterMap (Ending.expiry? platform)).length
  /-- each as what it told. -/
  expiries : ∀ expiry, engine.statistics.guards expiry =
    (ended.filterMap (Ending.expiry? platform)).count expiry

theorem length_expiries (expiries : List Expiry) :
    expiries.length = expiries.count .fired + expiries.count .disarmed := by
  induction expiries with
  | nil => rfl
  | cons expiry expiries ih =>
      cases expiry <;> simp [ih] <;> omega

/-- In every run, operations are conserved whenever no call is running, and no count ever falls.
A completion of the wake-up poll changes no count but that of the wake-ups. As long as nobody asks
for timeout guards, which only the engine itself can make, the operations that are counted as guards
are those of the guards' kind. -/
theorem conservation_of_play {platform : Platform κ} {configuration : Configuration} {world : κ}
    {moves later : List (Move κ τ)} {scene after : Scene κ τ}
    (played : (Scene.opening configuration world).play? platform moves = some scene)
    (went : scene.play? platform later = some after) :
    (scene.engine.frames = [] →
      Conserves platform ((Scene.opening configuration world).endings platform moves)
        scene.engine) ∧
      scene.engine.statistics.Grows after.engine.statistics ∧
      (∀ record rest delivered outer frames,
        scene.engine.frames = .dispatch (record :: rest) delivered outer :: frames →
        record.userData = wakeUserData →
        (scene.engine.step platform).statistics =
          { scene.engine.statistics with wakeups := scene.engine.statistics.wakeups + 1 }) ∧
      ((∀ move ∈ moves, ∀ request ∈ move.asked?, request.command.kind ≠ .guard) →
        ∀ ending ∈ (Scene.opening configuration world).endings platform moves,
          ending.grip.entry.continuation = some .guard ↔
            ending.grip.reference.kind = .guard) := by
  have sound := Scene.sound_opening (τ := τ) configuration world
  refine ⟨fun idle => ?_, ?_, ?_, fun asked => (Scene.watchful_of_play played asked).2⟩
  · have balanced := Scene.balanced_of_play played
    rcases Scene.tallies_of_play sound played with ⟨-, events, tallies⟩
    have operations := balanced.operations
    have completions := balanced.completions
    have wakeups := balanced.wakeups
    have fired := tallies.guards_eq .fired
    have disarmed := tallies.guards_eq .disarmed
    rw [idle] at operations completions wakeups
    refine ⟨operations, completions, wakeups, ?_, fun expiry => ?_⟩
    · rw [length_expiries]
      exact congrArg₂ (· + ·) (fired.trans (Nat.zero_add _)) (disarmed.trans (Nat.zero_add _))
    · cases expiry
      · exact fired.trans (Nat.zero_add _)
      · exact disarmed.trans (Nat.zero_add _)
  · have soundHere := Scene.sound_of_play played
    rcases Scene.flows_of_play soundHere (Scene.candid_of_play played) went with
      ⟨-, begun, events, flows⟩
    rcases Scene.tallies_of_play soundHere went with ⟨-, others, tallies⟩
    exact flows.grows tallies
  · intro record rest delivered outer frames running wake
    rcases Scene.sound_of_play played with ⟨flights, hand, healthy, -, -⟩
    rw [Engine.step_of_frames healthy running (by simp), Engine.runFrame_wake _ platform wake]
    rfl

open Simulation in
/-- An operation is refused by the ring, then another one is completed before its time limit, and
its guard is disarmed. Three operations were submitted, two completed and one refused, and the
wake-up poll was completed besides. -/
theorem conservation_of_guarded_open :
    let start := Scene.opening .default { Script.new 8 .wait (some 7)
        [⟨some .pollAdd, some ⟨.fixed 1, .none⟩⟩, ⟨some .openAt, some ⟨.fixed 3, .none⟩⟩,
          ⟨some .linkTimeout, some ⟨.fixed (-125), .none⟩⟩] with
      errors := [(.push, some (.system 5))] }
    let platform := Script.platform Script.notifier
    ∃ (moves later : List (Move Script String)) (scene after : Scene Script String),
      start.play? platform moves = some scene ∧ scene.play? platform later = some after ∧
        scene.engine.frames = [] ∧ scene.engine.statistics = ⟨3, 2, 0, 1, 0, 1⟩ ∧
        Conserves platform (start.endings platform moves) scene.engine ∧
        scene.engine.statistics.Grows after.engine.statistics ∧
        ∀ ending ∈ start.endings platform moves,
          ending.grip.entry.continuation = some .guard ↔ ending.grip.reference.kind = .guard := by
  intro start platform
  let moves : List (Move Script String) :=
    [Move.request ⟨.nop, (), none⟩ "nop", Move.step, Move.cycle none] ++
      List.replicate 4 Move.step ++ [Move.finish] ++ List.replicate 5 Move.step ++
      [Move.request ⟨.opening, .ofPath [46], some (.ofMillis 5)⟩ "open", Move.step,
        Move.cycle none] ++
      List.replicate 5 Move.step ++ [Move.finish] ++ List.replicate 5 Move.step
  have plays : (start.play? platform moves).any fun scene =>
      scene.engine.frames.isEmpty && decide (scene.engine.statistics = ⟨3, 2, 0, 1, 0, 1⟩) &&
        (scene.play? platform [.cycle none]).isSome := by
    decide +kernel
  simp only [Option.any_eq_true, Bool.and_eq_true, List.isEmpty_iff, decide_eq_true_eq] at plays
  rcases plays with ⟨scene, played, ⟨idle, counts⟩, goes⟩
  rcases Option.isSome_iff_exists.mp goes with ⟨after, went⟩
  have asked : ∀ move ∈ moves, ∀ request ∈ move.asked?, request.command.kind ≠ .guard := by
    simp [moves, Move.asked?, Move.request?, Command.normalize]
  have conserved := conservation_of_play played went
  exact ⟨moves, [.cycle none], scene, after, played, went, idle, counts, conserved.1 idle,
    conserved.2.1, conserved.2.2.2 asked⟩

end CompletionEngine
