import CompletionEngine.Proofs.Runs.Docket

/-!
# Tasks that are swept away

A push that fails has given its task up at once. A push that succeeds has had its task queued, and
as a rule the engine runs it. But a push that finds the inbox closed at its second look sweeps away
whatever is queued, and succeeds nevertheless; so does every push whose task it rejects. These are
the only tasks whose pushes succeed and that never run, as long as the engine is not broken off.
-/

namespace CompletionEngine

variable {κ τ : Type}

theorem PushPhase.eq_of_isSweeper {α : Type} (phase : PushPhase α) (returned : phase.isReturned)
    (sweeps : phase.isSweeper) : phase = .returned (.ok ()) := by
  cases phase with
  | returned result =>
      cases result with
      | ok value => rfl
      | error failure => cases sweeps
  | _ => cases returned

namespace Docket

def disposals (docket : Docket τ) (index : ℕ) : List Disposal :=
  docket.settled.filterMap fun row => if row.1.push = index then some row.2 else none

/-- What the answer of a push tells about its task. -/
structure Answers (docket : Docket τ) (scene : Scene κ τ) (index : ℕ) : Prop where
  /-- A push fails when its task is given up before it is queued, and only then. -/
  failed_iff : ∀ failure, scene.pushes[index]? = some (.returned (.error failure)) ↔
    docket.disposals index = [.refused failure]
  /-- When a push succeeds, its task waits, or has been run once, or has been swept away once. -/
  succeeded : scene.pushes[index]? = some (.returned (.ok ())) →
    (∃ ticket ∈ docket.queued, ticket.push = index) ∧ docket.disposals index = [] ∨
      docket.disposals index = [.run] ∨ ∃ sweeper, docket.disposals index = [.swept sweeper]
  /-- What has been swept away has been so by a push that succeeds too, or is still sweeping. -/
  swept : ∀ sweeper, docket.disposals index = [.swept sweeper] →
    ∃ phase, scene.pushes[sweeper]? = some phase ∧ phase.isSweeper

section Agreement

variable {docket : Docket τ} {tasks : List (Task τ)} {scene : Scene κ τ} {index : ℕ}
  {ticket : Ticket τ} {disposal : Disposal}

theorem mem_disposals : disposal ∈ docket.disposals index ↔
    ∃ ticket, (ticket, disposal) ∈ docket.settled ∧ ticket.push = index := by
  simp only [disposals, List.mem_filterMap, Option.ite_none_right_eq_some, Option.some.injEq]
  constructor
  · rintro ⟨⟨ticket, other⟩, settled, own, rfl⟩
    exact ⟨ticket, settled, own⟩
  · rintro ⟨ticket, settled, own⟩
    exact ⟨(ticket, disposal), settled, own, rfl⟩

theorem disposals_eq_nil (others : ∀ row ∈ docket.settled, row.1.push ≠ index) :
    docket.disposals index = [] := by
  rw [disposals, List.filterMap_eq_nil_iff]
  intro row rowMem
  rw [if_neg (others row rowMem)]

/-- A task is settled once. -/
theorem Agrees.disposals_eq (agrees : docket.Agrees tasks scene)
    (settled : (ticket, disposal) ∈ docket.settled) :
    docket.disposals ticket.push = [disposal] := by
  have nodup := agrees.nodup
  rw [tickets, List.map_append, List.map_map] at nodup
  have once := nodup.of_append_right
  rcases List.append_of_mem settled with ⟨front, back, parts⟩
  rw [parts, List.map_append, List.map_cons, List.nodup_append] at once
  rcases once with ⟨-, later, apart⟩
  -- Neither in front of this row nor behind it is there another of the same push.
  have before : front.filterMap (fun row => if row.1.push = ticket.push then some row.2 else none) =
      [] := by
    refine List.filterMap_eq_nil_iff.mpr fun row rowMem => if_neg ?_
    exact apart _ (List.mem_map_of_mem rowMem) _ List.mem_cons_self
  have behind : back.filterMap (fun row => if row.1.push = ticket.push then some row.2 else none) =
      [] := by
    refine List.filterMap_eq_nil_iff.mpr fun row rowMem => if_neg fun same => ?_
    exact (List.nodup_cons.mp later).1 (List.mem_map.mpr ⟨row, rowMem, same⟩)
  rw [disposals, parts, List.filterMap_append, before, List.nil_append, List.filterMap_cons, behind,
    if_pos rfl]

theorem Agrees.disposals_of_queued (agrees : docket.Agrees tasks scene)
    (queued : ticket ∈ docket.queued) : docket.disposals ticket.push = [] := by
  have nodup := agrees.nodup
  rw [tickets, List.map_append, List.nodup_append] at nodup
  refine disposals_eq_nil fun row rowMem same => ?_
  refine nodup.2.2 _ (List.mem_map_of_mem queued) _ ?_ same.symm
  exact List.mem_map_of_mem (List.mem_map_of_mem rowMem)

theorem Agrees.disposals_of_accepted (agrees : docket.Agrees tasks scene)
    (accepted : docket.Accepted ticket) :
    ticket ∈ docket.queued ∧ docket.disposals ticket.push = [] ∨
      docket.disposals ticket.push = [.run] ∨
      ∃ sweeper, docket.disposals ticket.push = [.swept sweeper] := by
  rcases accepted with waiting | ⟨disposal, settled, accepted⟩
  · exact .inl ⟨waiting, agrees.disposals_of_queued waiting⟩
  · have own := agrees.disposals_eq settled
    cases disposal with
    | run => exact .inr (.inl own)
    | refused failure => exact absurd rfl (accepted failure)
    | swept sweeper => exact .inr (.inr ⟨sweeper, own⟩)

theorem Agrees.failed_of_refused (agrees : docket.Agrees tasks scene) {failure : Failure}
    (refused : (ticket, .refused failure) ∈ docket.settled) :
    scene.pushes[ticket.push]? = some (.returned (.error failure)) := by
  have written : ticket ∈ docket.tickets :=
    List.mem_append_right _ (List.mem_map_of_mem refused)
  have inside : ticket.push < scene.pushes.length := by
    rw [agrees.length_eq]
    exact (List.getElem?_eq_some_iff.mp (agrees.known ticket written)).1
  have only := agrees.disposals_eq refused
  have found := List.getElem?_eq_getElem inside
  rcases stands_cases (agrees.stands ticket.push _ found) with
    ⟨task, -, -, apart⟩ | ⟨task, reason, failed, other⟩ | ⟨-, task, accepted⟩
  · exact absurd rfl (apart ticket written)
  · have again := agrees.disposals_eq other
    cases only.symm.trans again
    rw [found, failed]
  · rcases agrees.disposals_of_accepted accepted with ⟨-, other⟩ | other | ⟨sweeper, other⟩
    · cases only.symm.trans other
    · cases only.symm.trans other
    · cases only.symm.trans other

theorem Agrees.answers (agrees : docket.Agrees tasks scene) (index : ℕ) :
    docket.Answers scene index where
  failed_iff := by
    intro failure
    constructor
    · intro failed
      rcases agrees.stands index _ failed with ⟨task, refused⟩
      exact agrees.disposals_eq refused
    · intro settled
      have member : .refused failure ∈ docket.disposals index := settled ▸ List.mem_cons_self
      rcases mem_disposals.mp member with ⟨ticket, refused, rfl⟩
      exact agrees.failed_of_refused refused
  succeeded := by
    intro succeeded
    rcases agrees.stands index _ succeeded with ⟨task, accepted⟩
    exact (agrees.disposals_of_accepted accepted).imp_left fun waits => ⟨⟨_, waits.1, rfl⟩, waits.2⟩
  swept := by
    intro sweeper settled
    have member : .swept sweeper ∈ docket.disposals index := settled ▸ List.mem_cons_self
    rcases mem_disposals.mp member with ⟨ticket, swept, rfl⟩
    exact agrees.swept ticket sweeper swept

end Agreement

end Docket

/-- In every run, however its moves are interleaved: a push fails if and only if its task has been
given up without being queued, which happens once and is told, and then the task never runs. When a
push succeeds and everything has been given up in the end, its task has been run once, or swept away
once by a push that found the inbox closed only when it looked again. -/
theorem answers_of_play {platform : Platform κ} {configuration : Configuration} {world : κ}
    {moves : List (Move κ τ)} {scene : Scene κ τ}
    (played : (Scene.opening configuration world).play? platform moves = some scene) (index : ℕ) :
    let docket := (Scene.opening configuration world).docket platform moves
    docket.Answers scene index ∧
      (∀ row ∈ docket.settled, (pushedTasks moves)[row.1.push]? = some row.1.task) ∧
      scene.engine.journal.filter Event.isJob =
        docket.settled.filterMap (fun row => row.1.task.job?.map row.2.event) ∧
      (scene.engine.terminated = true → (∀ push ∈ scene.pushes, push.isReturned) →
        scene.pushes[index]? = some (.returned (.ok ())) →
        docket.disposals index = [.run] ∨ ∃ sweeper, docket.disposals index = [.swept sweeper]) := by
  have agrees := Scene.docket_agrees_of_play played
  have answers := agrees.answers index
  refine ⟨answers, ?_, agrees.jobs_eq, ?_⟩
  · intro row rowMem
    exact agrees.known row.1 (List.mem_append_right _ (List.mem_map_of_mem rowMem))
  · intro terminated returned succeeded
    rcases answers.succeeded succeeded with ⟨⟨ticket, queued, -⟩, -⟩ | settled
    · have empty := (Scene.emptied_of_play played).queue_eq_nil terminated returned
      rw [(agrees.complete empty returned).1] at queued
      cases queued
    · exact settled

open Simulation in
/-- Two jobs are pushed. The push of the second returns before the inbox is closed, and that of the
first has only looked once by then: it sweeps both jobs away, and succeeds as the other has done. -/
theorem answers_swept_jobs :
    ∃ (moves : List (Move Script String)) (scene : Scene Script String),
      let start := Scene.opening .default (Script.new 8 .wait none [])
      let docket := start.docket (Script.platform (.silent _)) moves
      start.play? (Script.platform (.silent _)) moves = some scene ∧
        pushedTasks moves = [.job "first", .job "second"] ∧
        scene.engine.terminated = true ∧
        scene.pushes.length = 2 ∧ (∀ push ∈ scene.pushes, push = .returned (.ok ())) ∧
        docket.disposals 0 = [.swept 0] ∧ docket.disposals 1 = [.swept 0] ∧
        docket.Answers scene 0 ∧ docket.Answers scene 1 := by
  let moves : List (Move Script String) :=
    [Move.push (.job "first"), Move.push (.job "second"), Move.advance 0] ++
      List.replicate 4 (Move.advance 1) ++ [Move.closeInbox] ++ List.replicate 5 (Move.advance 0) ++
      [Move.shutdown] ++ List.replicate 8 Move.step
  have plays : ((Scene.opening .default (Script.new 8 .wait none [])).play?
      (Script.platform (.silent _)) moves).any fun scene =>
        scene.engine.terminated && scene.pushes.length == 2 &&
          scene.pushes.all fun push => push.isReturned && push.isSweeper := by
    decide +kernel
  have swept : ((Scene.opening .default (Script.new 8 .wait none [])).docket
      (Script.platform (.silent _)) moves).disposals 0 = [.swept 0] ∧
      ((Scene.opening .default (Script.new 8 .wait none [])).docket
        (Script.platform (.silent _)) moves).disposals 1 = [.swept 0] := by
    decide +kernel
  rcases (Option.any_eq_true _ _).mp plays with ⟨scene, played, shown⟩
  simp only [Bool.and_eq_true, beq_iff_eq, List.all_eq_true] at shown
  rcases shown with ⟨⟨terminated, number⟩, succeeded⟩
  refine ⟨moves, scene, played, rfl, terminated, number, ?_, swept.1, swept.2,
    (answers_of_play played 0).1, (answers_of_play played 1).1⟩
  intro push pushMem
  exact push.eq_of_isSweeper (succeeded push pushMem).1 (succeeded push pushMem).2

namespace Engine

variable {engine : Engine κ τ}

/-- An engine that is broken off while it delivers a batch closes its inbox, but nothing goes on
with its shutdown: what is queued then stays queued, and never runs. -/
theorem queue_eq_of_unwind (platform : Platform κ) (batch : engine.dispatching = true)
    (opened : engine.closed = false) (fuel : ℕ) :
    (engine.unwind.run platform fuel).inbox.queue = engine.inbox.queue ∧
      (engine.unwind.run platform fuel).inbox.closed = true ∧
      (engine.unwind.run platform fuel).terminated = engine.terminated := by
  have left : engine.unwind = { engine with
      frames := [], closed := true, inbox := engine.inbox.close, shutdownDeferred := true } := by
    simp [unwind, drop, shutdown, batch, opened]
  have rests : engine.unwind.run platform fuel = engine.unwind := by
    cases fuel with
    | zero => rfl
    | succ fuel =>
        have turn : engine.unwind.awaitsCaller = true := by simp [left, awaitsCaller]
        rw [run, if_pos turn]
  rw [rests, left]
  exact ⟨rfl, rfl, rfl⟩

end Engine

end CompletionEngine
