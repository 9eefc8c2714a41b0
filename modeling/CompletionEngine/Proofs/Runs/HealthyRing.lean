import CompletionEngine.Proofs.Engine.Settled
import CompletionEngine.Proofs.Runs.Manifest
import CompletionEngine.Simulation.Script

/-!
# When a healthy ring refuses work

On a ring that serves well, with room for at least two records, an operation is told that the
submission queue stayed full in one case only: the wake-up poll was staged when what was staged
already took up the whole capacity. The poll makes the batch exceed the capacity, so the ring refuses
it even when its queue is empty, and every operation in the batch fails. As long as no such step is
taken, no request is ever refused; as soon as one is taken, the first request of the batch is.
-/

namespace CompletionEngine

variable {κ τ : Type}

namespace Scene

/-- The ring has served well so far, and has its capacity as long as it has not been given up. -/
structure Serves (platform : Platform κ) (capacity : ℕ) (scene : Scene κ τ) : Prop where
  servesWell : servesWell capacity scene.engine.journal
  capacity_eq : ¬Released scene.engine.frames scene.engine.terminated →
    platform.ring.capacity scene.engine.world = capacity

/-- Somewhere in a run the engine takes a step that stages the wake-up poll without room for it. -/
def Crowds (platform : Platform κ) (capacity : ℕ) (moves : List (Move κ τ)) (start : Scene κ τ) :
    Prop :=
  ∃ earlier later visited, moves = earlier ++ .step :: later ∧
    start.play? platform earlier = some visited ∧ visited.engine.isCrowded platform capacity

section Moves

variable {platform : Platform κ} {capacity : ℕ} {before after engine : Engine κ τ}

theorem settled_finish (settled : Settled capacity engine) : Settled capacity engine.finish := by
  unfold Engine.finish
  split
  · rename_i rest running
    refine settled.of_same rfl rfl rfl ?_ ⟨[], by simp, rfl⟩
    intro frame frameMem
    exact settled.clear frame (by simp [running, frameMem])
  · exact settled

/-- What other threads do leaves an engine in order. -/
theorem orderly_of_same (orderly : Orderly capacity before) (pools_eq : after.pools = before.pools)
    (tags_eq : after.tags = before.tags) (staged_eq : after.staged = before.staged)
    (frames_eq : after.frames = before.frames)
    (journal : ∃ events, (∀ event ∈ events, event.isCrowdedOut = false) ∧
      after.journal = events ++ before.journal) : Orderly capacity after := by
  rcases orderly with settled | ⟨below, request, rfl, settled, fits, own⟩
  · exact .inl (settled.of_same pools_eq tags_eq staged_eq (frames_eq ▸ settled.clear) journal)
  · refine .inr ⟨{ after with frames := below.frames }, request, ?_, ?_, ?_, own⟩
    · exact (after.next_pop frames_eq).symm
    · exact settled.of_same pools_eq tags_eq staged_eq settled.clear journal
    · rw [staged_eq]
      exact fits

/-- A task that is rejected is told of an inbox that is closed or full. -/
theorem untold_advance (phase : PushPhase (Task τ)) (inbox : Inbox (Task τ)) (platform : Platform κ)
    (world : κ) :
    ∀ event ∈ (phase.advance inbox).2.1.events platform world, event.isCrowdedOut = false := by
  have other (task : Task τ) (failure : Failure) (given : failure ≠ .exhausted .submissionQueue) :
      ∀ event ∈ (PushEffect.reject task failure).events platform world,
        event.isCrowdedOut = false := by
    cases task with
    | request command promise =>
        simpa [PushEffect.events, Event.isCrowdedOut] using
          Outcome.isCrowdedOut_of_ne (by simpa using given)
    | job body => simp [PushEffect.events, Event.isCrowdedOut]
  cases phase with
  | check task =>
      simp only [PushPhase.advance]
      split
      · exact other task .closed (by simp)
      · simp [PushEffect.events]
  | enqueue task =>
      simp only [PushPhase.advance]
      split
      · simp [PushEffect.events]
      · exact other task (.exhausted .requestQueue) (by simp)
  | sweep =>
      simp only [PushPhase.advance]
      split
      · exact other _ .closed (by simp)
      · simp [PushEffect.events]
  | recheck | wake | returned => simp [PushPhase.advance, PushEffect.events, Event.isCrowdedOut]

/-- In a caller's turn no request waits for its staging. -/
theorem settled_of_awaitsCaller (orderly : Orderly capacity engine) (healthy : engine.fault = none)
    (turn : engine.awaitsCaller) : Settled capacity engine := by
  rcases orderly with settled | ⟨below, request, rfl, -⟩
  · exact settled
  · rcases Engine.frames_of_awaitsCaller healthy turn with empty | ⟨rest, running⟩
    · simp [Engine.next] at empty
    · simp [Engine.next] at running

section Flights

variable {flights : Multiset (Flight τ)} {hand : Multiset (Grip (Continuation τ))}

/-- Nothing is staged once the ring has been given up; until then it has its capacity. -/
theorem staged_eq_nil_or_capacity_eq (sound : engine.Sound flights hand)
    (sized : ¬Released engine.frames engine.terminated →
      platform.ring.capacity engine.world = capacity) :
    engine.staged = [] ∨ platform.ring.capacity engine.world = capacity := by
  by_cases released : Released engine.frames engine.terminated
  · exact .inl (sound.disciplined.released released).1
  · exact .inr (sized released)

theorem orderly_step (orderly : Orderly capacity engine) (sound : engine.Sound flights hand)
    (roomy : 2 ≤ capacity) (spare : engine.inFlight + 2 ≤ UInt32.size)
    (sized : engine.staged = [] ∨ platform.ring.capacity engine.world = capacity)
    (uncrowded : engine.isCrowded platform capacity = false)
    (serves : servesWell capacity (engine.step platform).journal) :
    Orderly capacity (engine.step platform) := by
  rcases Engine.step_cases engine platform with ⟨-, same⟩ | ⟨below, frame, rfl, stepped⟩
  · rw [same]
    exact orderly
  · rw [stepped] at serves ⊢
    rcases orderly with settled | ⟨other, request, same, settled, fits, own⟩
    · exact settled.runFrame sound roomy sized uncrowded serves
    · rcases Engine.next_inj.mp same with ⟨rfl, rfl⟩
      exact .inl (settled.stage sound fits own platform spare)

/-- An engine in order is in order after every move, unless it steps while it is crowded. -/
theorem orderly_perform (orderly : Orderly capacity engine) (sound : engine.Sound flights hand)
    (roomy : 2 ≤ capacity) {pushes : List (PushPhase (Task τ))} {move : Move κ τ}
    (allowed : (Scene.mk engine pushes).allows move)
    (healthy : (Scene.mk engine pushes).Serves platform capacity)
    (uncrowded : move = .step → engine.isCrowded platform capacity = false)
    (serves : servesWell capacity ((Scene.mk engine pushes).perform platform move).engine.journal) :
    Orderly capacity ((Scene.mk engine pushes).perform platform move).engine := by
  have sized := staged_eq_nil_or_capacity_eq sound healthy.capacity_eq
  have turned := settled_of_awaitsCaller orderly sound.healthy
  cases move with
  | step =>
      exact orderly_step orderly sound roomy (by simpa [allows] using allowed) sized (uncrowded rfl)
        serves
  | request command label => exact (turned allowed).beginRequest roomy sized (by simp) serves
  | requestPromise command promise =>
      exact (turned allowed).beginRequest roomy sized (by simp) serves
  | cycle limit => exact .inl ((turned allowed).next rfl rfl)
  | work => exact .inl ((turned allowed).next rfl rfl)
  | shutdown => exact .inl (turned allowed).shutdown
  | finish => exact .inl (settled_finish (turned allowed))
  | drop =>
      have settled := turned (by
        simp only [allows, List.isEmpty_iff] at allowed
        simp [Engine.awaitsCaller, allowed])
      simp only [perform, Engine.drop]
      split
      · exact .inl settled
      · exact .inl settled.shutdown
  | push task => exact orderly
  | advance index =>
      simp only [perform, advance]
      split
      · exact orderly
      · rename_i phase _
        rcases advancePush_eq engine platform phase with ⟨world, advanced⟩
        simp only [advanced]
        exact orderly_of_same orderly rfl rfl rfl rfl
          ⟨_, untold_advance phase engine.inbox platform engine.world, rfl⟩
  | closeInbox => exact orderly_of_same orderly rfl rfl rfl rfl ⟨[], by simp, rfl⟩
  | wake =>
      exact orderly_of_same orderly rfl rfl rfl rfl ⟨[.notified _], by simp [Event.isCrowdedOut], rfl⟩
  | drift world => exact orderly_of_same orderly rfl rfl rfl rfl ⟨[], by simp, rfl⟩

end Flights

/-- What a sound engine is about to tell it tells in its next step, and keeps in mind until then. -/
theorem tellsNext_perform {flights : Multiset (Flight τ)} {hand : Multiset (Grip (Continuation τ))}
    (tells : engine.TellsNext) (sound : engine.Sound flights hand)
    {pushes : List (PushPhase (Task τ))} {move : Move κ τ}
    (allowed : (Scene.mk engine pushes).allows move) :
    (∃ event ∈ ((Scene.mk engine pushes).perform platform move).engine.journal,
      event.isCrowdedOut) ∨
        ((Scene.mk engine pushes).perform platform move).engine.TellsNext := by
  have untimely := tells.not_awaitsCaller sound.healthy
  cases move with
  | step =>
      rcases tells.step sound platform with ⟨event, told, journal_eq⟩
      refine .inl ⟨event, ?_, told⟩
      simp [perform, journal_eq]
  | request | requestPromise | cycle | work | shutdown | finish => exact absurd allowed untimely
  | drop =>
      simp only [allows, List.isEmpty_iff] at allowed
      exact absurd (by simp [Engine.awaitsCaller, allowed]) untimely
  | push task => exact .inr tells
  | advance index =>
      simp only [perform, advance]
      split
      · exact .inr tells
      · rename_i phase _
        rcases advancePush_eq engine platform phase with ⟨world, advanced⟩
        simp only [advanced]
        exact .inr (tells.of_same rfl rfl rfl)
  | closeInbox => exact .inr (tells.of_same rfl rfl rfl)
  | wake => exact .inr (tells.of_same rfl rfl rfl)
  | drift world => exact .inr (tells.of_same rfl rfl rfl)

theorem journal_perform {flights : Multiset (Flight τ)} {hand : Multiset (Grip (Continuation τ))}
    (sound : engine.Sound flights hand) {pushes : List (PushPhase (Task τ))} {move : Move κ τ}
    (allowed : (Scene.mk engine pushes).allows move)
    (keeps : keepsContract ((Scene.mk engine pushes).perform platform move).engine.journal) :
    ∃ events, ((Scene.mk engine pushes).perform platform move).engine.journal =
      events ++ engine.journal := by
  cases move with
  | step => exact sound.journal_step platform (by simpa [allows] using allowed) keeps
  | _ => exact (passes_perform platform (by simp)).journal

end Moves

section Runs

variable {platform : Platform κ} {capacity : ℕ} {configuration : Configuration} {world : κ}
  {moves : List (Move κ τ)} {scene : Scene κ τ}

/-- The ring is healthy at every point of a run. -/
def StaysHealthy (platform : Platform κ) (capacity : ℕ) (moves : List (Move κ τ))
    (start : Scene κ τ) : Prop :=
  ∀ earlier visited, earlier <+: moves → start.play? platform earlier = some visited →
    visited.Serves platform capacity

theorem StaysHealthy.of_concat {start : Scene κ τ} {move : Move κ τ}
    (healthy : start.StaysHealthy platform capacity (moves ++ [move])) :
    start.StaysHealthy platform capacity moves :=
  fun earlier visited earlierPrefix =>
    healthy earlier visited (earlierPrefix.trans (List.prefix_append moves [move]))

theorem settled_opening (configuration : Configuration) (world : κ) :
    Settled capacity (opening configuration world : Scene κ τ).engine := by
  refine ⟨by simp [opening, Engine.new], by simp [opening, Engine.new], ?_,
    by simp [Clear, opening, Engine.new], by simp [opening, Engine.new]⟩
  intro record rest staged
  simp [opening, Engine.new] at staged

/-- A run ends in a crowded step or has one before. -/
theorem crowds_concat {start before : Scene κ τ} {move : Move κ τ}
    (played : start.play? platform moves = some before)
    (crowds : start.Crowds platform capacity (moves ++ [move])) :
    start.Crowds platform capacity moves ∨
      move = .step ∧ before.engine.isCrowded platform capacity := by
  rcases crowds with ⟨earlier, later, visited, moves_eq, playedEarlier, crowded⟩
  rcases List.eq_nil_or_concat later with rfl | ⟨others, last, rfl⟩
  · rcases List.append_inj' moves_eq rfl with ⟨rfl, same⟩
    rw [played] at playedEarlier
    cases playedEarlier
    exact .inr ⟨by simpa using same, crowded⟩
  · have moves_eq : moves ++ [move] = (earlier ++ .step :: others) ++ [last] := by
      simpa using moves_eq
    rcases List.append_inj' moves_eq rfl with ⟨rfl, -⟩
    exact .inl ⟨earlier, others, visited, rfl, playedEarlier, crowded⟩

/-- A run in which no crowded engine steps leads to an engine in order. -/
theorem orderly_of_play (roomy : 2 ≤ capacity)
    (played : (opening configuration world).play? platform moves = some scene)
    (healthy : (opening configuration world).StaysHealthy platform capacity moves)
    (uncrowded : ¬(opening configuration world).Crowds platform capacity moves) :
    Orderly capacity scene.engine := by
  revert healthy uncrowded
  refine play?_induction (fun moves scene =>
    (opening configuration world).StaysHealthy platform capacity moves →
      ¬(opening configuration world).Crowds platform capacity moves →
        Orderly capacity scene.engine) ?_ ?_ played
  · intro _ _
    exact .inl (settled_opening configuration world)
  · intro moves before move after playedBefore ih moved healthy uncrowded
    have playedAfter := play?_concat_eq_some.mpr ⟨before, playedBefore, moved⟩
    have healthyBefore := healthy moves before (List.prefix_append moves [move]) playedBefore
    have healthyAfter := healthy (moves ++ [move]) after List.prefix_rfl playedAfter
    have orderly : Orderly capacity before.engine := by
      refine ih healthy.of_concat ?_
      rintro ⟨earlier, later, visited, rfl, playedEarlier, crowded⟩
      exact uncrowded ⟨earlier, later ++ [move], visited, by simp, playedEarlier, crowded⟩
    rcases move?_eq_some.mp moved with ⟨allowed, keeps, rfl⟩
    rcases sound_of_play playedBefore with ⟨flights, hand, sound⟩
    refine orderly_perform orderly sound roomy allowed healthyBefore ?_ healthyAfter.servesWell
    rintro rfl
    by_contra crowded
    exact uncrowded ⟨moves, [], before, rfl, playedBefore, by simpa using crowded⟩

/-- A run with a crowded step has told somebody that the submission queue stayed full, or is about
to. -/
theorem told_or_tellsNext_of_play (roomy : 2 ≤ capacity)
    (played : (opening configuration world).play? platform moves = some scene)
    (healthy : (opening configuration world).StaysHealthy platform capacity moves)
    (refuses : refusesExcess capacity scene.engine.journal)
    (crowds : (opening configuration world).Crowds platform capacity moves) :
    (∃ event ∈ scene.engine.journal, event.isCrowdedOut) ∨ scene.engine.TellsNext := by
  revert healthy refuses crowds
  refine play?_induction (fun moves scene =>
    (opening configuration world).StaysHealthy platform capacity moves →
      refusesExcess capacity scene.engine.journal →
        (opening configuration world).Crowds platform capacity moves →
          (∃ event ∈ scene.engine.journal, event.isCrowdedOut) ∨ scene.engine.TellsNext) ?_ ?_ played
  · rintro - - ⟨earlier, later, visited, nothing, -⟩
    simp at nothing
  · intro moves before move after playedBefore ih moved healthy refuses crowds
    have playedAfter := play?_concat_eq_some.mpr ⟨before, playedBefore, moved⟩
    have serves := (healthy (moves ++ [move]) after List.prefix_rfl playedAfter).servesWell
    rcases move?_eq_some.mp moved with ⟨allowed, keeps, rfl⟩
    rcases sound_of_play playedBefore with ⟨flights, hand, sound⟩
    -- A crowded step before this move has told or is about to; otherwise this move is the first.
    by_cases crowdsBefore : (opening configuration world).Crowds platform capacity moves
    · rcases journal_perform sound allowed keeps with ⟨events, journal_eq⟩
      rw [journal_eq] at refuses
      rcases ih healthy.of_concat (refusesExcess_of_append refuses) crowdsBefore with
        ⟨event, eventMem, told⟩ | tells
      · refine .inl ⟨event, ?_, told⟩
        rw [journal_eq]
        exact List.mem_append_right events eventMem
      · exact tellsNext_perform tells sound allowed
    · rcases (crowds_concat playedBefore crowds).resolve_left crowdsBefore with ⟨rfl, crowded⟩
      rcases orderly_of_play roomy playedBefore healthy.of_concat crowdsBefore with
        settled | ⟨below, request, waits, -⟩
      · exact .inr (settled.tellsNext_of_isCrowded (by omega) sound.healthy crowded serves refuses)
      · simp [Engine.isCrowded, waits, Engine.next] at crowded

end Runs

end Scene

/-- On a ring that stays healthy, with room for at least two records, nobody is told that the
submission queue stayed full before the engine has staged the wake-up poll without room for it. When
it does so, and the ring refuses all that exceeds its capacity, somebody has been told in the end, or
is told in the next step. -/
theorem crowdedOut_of_play {platform : Platform κ} {capacity : ℕ} {configuration : Configuration}
    {world : κ} {moves : List (Move κ τ)} {scene : Scene κ τ} (roomy : 2 ≤ capacity)
    (played : (Scene.opening configuration world).play? platform moves = some scene)
    (healthy : (Scene.opening configuration world).StaysHealthy platform capacity moves) :
    ((∃ event ∈ scene.engine.journal, event.isCrowdedOut) →
        (Scene.opening configuration world).Crowds platform capacity moves) ∧
      (refusesExcess capacity scene.engine.journal →
        (Scene.opening configuration world).Crowds platform capacity moves →
          (∃ event ∈ scene.engine.journal, event.isCrowdedOut) ∨
            ∃ event, event.isCrowdedOut ∧
              (scene.engine.step platform).journal = event :: scene.engine.journal) := by
  constructor
  · rintro ⟨event, eventMem, told⟩
    by_contra uncrowded
    have untold : event.isCrowdedOut = false := by
      rcases Scene.orderly_of_play roomy played healthy uncrowded with
        settled | ⟨below, request, waits, settled, -⟩
      · exact settled.untold event eventMem
      · rw [waits] at eventMem
        exact settled.untold event eventMem
    simp [untold] at told
  · intro refuses crowds
    rcases Scene.told_or_tellsNext_of_play roomy played healthy refuses crowds with told | tells
    · exact .inl told
    · rcases Scene.sound_of_play played with ⟨flights, hand, sound⟩
      exact .inr (tells.step sound platform)

open Simulation in
/-- Two operations fill a ring of capacity two, and the wake-up poll crowds them out. -/
theorem crowdedOut_full_ring :
    ∃ (moves : List (Move Script String)) (scene : Scene Script String),
      let start := Scene.opening .default (.new 2 .wait (some 7) [])
      start.play? (Script.platform Script.notifier) moves = some scene ∧
        start.StaysHealthy (Script.platform Script.notifier) 2 moves ∧
        (∃ event ∈ scene.engine.journal, event.isCrowdedOut) ∧
        start.Crowds (Script.platform Script.notifier) 2 moves := by
  let moves : List (Move Script String) :=
    [Move.request ⟨.nop, ⟨⟩, none⟩ "first", Move.step, Move.request ⟨.nop, ⟨⟩, none⟩ "second",
        Move.step, Move.cycle none] ++
      List.replicate 4 Move.step
  let start : Scene Script String := .opening .default (.new 2 .wait (some 7) [])
  have plays : (start.play? (Script.platform Script.notifier) moves).any fun scene =>
      scene.engine.journal.any Event.isCrowdedOut := by
    decide +kernel
  have checks : moves.inits.all fun earlier =>
      (start.play? (Script.platform Script.notifier) earlier).all fun visited =>
        servesWell 2 visited.engine.journal && visited.engine.world.capacity == 2 := by
    decide +kernel
  have healthy : start.StaysHealthy (Script.platform Script.notifier) 2 moves := by
    intro earlier visited earlierPrefix played
    have checked := List.all_eq_true.mp checks earlier ((List.mem_inits _ _).mpr earlierPrefix)
    rw [played, Option.all_some, Bool.and_eq_true, beq_iff_eq] at checked
    exact ⟨checked.1, fun _ => checked.2⟩
  rcases (Option.any_eq_true _ _).mp plays with ⟨scene, played, shows⟩
  have told := List.any_eq_true.mp shows
  exact ⟨moves, scene, played, healthy, told,
    (crowdedOut_of_play le_rfl played healthy).1 told⟩

end CompletionEngine
