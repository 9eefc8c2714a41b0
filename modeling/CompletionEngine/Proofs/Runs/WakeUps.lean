import CompletionEngine.Proofs.Runs.Conservation
import CompletionEngine.Proofs.Runs.WakePoll

/-!
# There is at most one wake-up poll

The mark for the wake-up poll is a single bit, so at no moment of a run, between calls or in the
middle of a caller's code, there are two polls. No operation can be taken for the poll, and each
completion of it clears the mark and is acknowledged to the notifier once, neither more nor less.
-/

namespace CompletionEngine

variable {κ τ : Type}

theorem Frame.exists_dispatch {frame : Frame τ} {batch : List CompletionRecord} {outer : Bool}
    (batch_eq : frame.batch? = some batch) (outer_eq : frame.outer? = some outer) :
    ∃ delivered, frame = .dispatch batch delivered outer := by
  cases frame with
  | dispatch held delivered =>
      cases batch_eq
      cases outer_eq
      exact ⟨delivered, rfl⟩
  | _ => cases batch_eq

/-- In every run, as long as the ring has not been given up, there is one wake-up poll if it is
marked as armed, and none otherwise: staged, refused and in hand, with the ring, or completed and in
hand. No entry renders to the user data of the poll. Of the completions of the poll that the ring
has handed out, each has been acknowledged to the notifier once or is still in hand, and the step
that takes it out of hand clears the mark and acknowledges it. -/
theorem wakePoll_of_play {platform : Platform κ} {configuration : Configuration} {world : κ}
    {moves : List (Move κ τ)} {scene : Scene κ τ}
    (played : (Scene.opening configuration world).play? platform moves = some scene) :
    (.released ∉ scene.engine.journal →
      scene.engine.copies wakeUserData = scene.engine.wakeArmed.toNat) ∧
      (∀ (kind : Kind) (entry : Entry kind (Continuation τ)) (record : SubmitRecord),
        (entry.render record).userData ≠ wakeUserData) ∧
      acknowledgements scene.engine.journal + wakesAmong (completionsInHand scene.engine.frames) =
        wakesAmong (returned scene.engine.journal) ∧
      ∀ record rest delivered outer frames,
        scene.engine.frames = .dispatch (record :: rest) delivered outer :: frames →
        record.userData = wakeUserData →
        let after := scene.engine.step platform
        let (outcome, world) := platform.notifier.acknowledge scene.engine.world
        after.wakeArmed = false ∧ after.journal = .acknowledged outcome :: scene.engine.journal ∧
          after.world = world ∧ after.frames = .dispatch rest delivered outer :: frames := by
  refine ⟨fun kept => ?_, fun kind entry record => tag_ne_wakeUserData _, ?_, ?_⟩
  · exact Scene.polls_of_play played ((Scene.candid_of_play played).not.mpr kept)
  · have sound := Scene.sound_opening (τ := τ) configuration world
    rcases Scene.tallies_of_play sound played with ⟨-, events, tallies⟩
    have whole : scene.engine.journal = events := by
      rw [tallies.journal_eq]
      exact List.append_nil events
    rw [whole, tallies.wakes_eq]
    exact Nat.zero_add _
  · intro record rest delivered outer frames running wake
    rcases Scene.sound_of_play played with ⟨flights, hand, healthy, -, -⟩
    rw [Engine.step_of_frames healthy running (by simp), Engine.runFrame_wake _ platform wake]
    exact ⟨rfl, rfl, rfl, rfl⟩

open Simulation in
/-- A caller's code is entered while the wake-up poll is with the ring, and runs a cycle of its own.
That cycle arms no second poll, and the one there is is completed within it. -/
theorem wakePoll_of_nested_cycle :
    let start := Scene.opening .default { Script.new 8 .wait (some 7)
        [⟨some .nop, some ⟨.fixed 0, .none⟩⟩] with
      batches := [[], [⟨wakeUserData, 1, 0, .none⟩]] }
    let platform := Script.platform Script.notifier
    ∃ (moves : List (Move Script String)) (scene : Scene Script String) (record : CompletionRecord)
      (rest : List CompletionRecord) (delivered : ℕ) (frames : List (Frame String)),
      start.play? platform moves = some scene ∧
        scene.engine.frames = .dispatch (record :: rest) delivered true :: frames ∧
        record.userData = wakeUserData ∧ scene.engine.wakeArmed = true ∧
        scene.engine.copies wakeUserData = 1 ∧
        acknowledgements scene.engine.journal + wakesAmong (completionsInHand scene.engine.frames) =
          wakesAmong (returned scene.engine.journal) ∧
        (scene.engine.step platform).wakeArmed = false := by
  intro start platform
  let moves : List (Move Script String) :=
    [Move.request ⟨.nop, (), none⟩ "outer", Move.step, Move.cycle none] ++
      List.replicate 5 Move.step ++ [Move.cycle none] ++ List.replicate 4 Move.step
  let completion : CompletionRecord := ⟨wakeUserData, 1, 0, .nothing⟩
  have plays : (start.play? platform moves).any fun scene =>
      (scene.engine.frames.head?.any fun frame =>
        frame.batch? = some [completion] && frame.outer? = some true) &&
          scene.engine.wakeArmed && !scene.engine.terminated &&
            !scene.engine.frames.any Frame.isFail := by
    decide +kernel
  simp only [Option.any_eq_true, Bool.and_eq_true, Bool.not_eq_true', decide_eq_true_eq] at plays
  rcases plays with
    ⟨scene, played, ⟨⟨⟨top, onTop, batch, outer⟩, armed⟩, unterminated⟩, calm⟩
  rcases List.head?_eq_some_iff.mp onTop with ⟨frames, frames_eq⟩
  rcases Frame.exists_dispatch batch outer with ⟨delivered, rfl⟩
  have kept : .released ∉ scene.engine.journal := by
    apply (Scene.candid_of_play played).not.mp
    simp [Released, unterminated, calm]
  rcases wakePoll_of_play played with ⟨one, -, acknowledged, clears⟩
  have cleared := (clears completion [] delivered true frames frames_eq rfl).1
  refine ⟨moves, scene, completion, [], delivered, frames, played, frames_eq, rfl, armed, ?_,
    acknowledged, cleared⟩
  rw [one kept, armed]
  rfl

end CompletionEngine
