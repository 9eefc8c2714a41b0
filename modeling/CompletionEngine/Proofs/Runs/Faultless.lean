import CompletionEngine.Proofs.Runs.Scene
import CompletionEngine.Simulation.Script

/-!
# Runs without a fault

A fault is a promise that one part of an engine broke to another: an entry used out of turn, a tag
that nobody holds, a slot outside its pool or one given back twice. No run meets one. What might be
met next is in order, too: the batches in hand bear tags that are in use, each at most once, and a
shutdown that has begun finds no batch in hand but those of its own cycles.
-/

namespace CompletionEngine

variable {κ τ : Type}

/-- The promises between the parts of an engine hold. -/
structure Engine.Intact (engine : Engine κ τ) : Prop where
  healthy : engine.fault = none
  /-- What is in hand bears tags in use, each at most once. -/
  registered : (engine.frames.map Frame.userData).sum.filter (· ≠ wakeUserData) ≤
    (engine.tags.bindings : Multiset (UInt32 × SlotRef)).map fun binding => binding.1.toUInt64
  /-- No batch lies below a shutdown. -/
  closing : ∀ above frame below, engine.frames = above ++ frame :: below → frame.isClosing →
    ∀ other ∈ below, other.isBatch = false
  /-- A shutdown goes on only with no batch in hand. -/
  idle : engine.frames.head?.any Frame.isClosing → engine.dispatching = false

theorem Stacked.of_append {above below : List (Frame τ)} (stacked : Stacked (above ++ below)) :
    Stacked below := by
  induction above with
  | nil => exact stacked
  | cons frame above ih => exact ih stacked.2

namespace Engine.Sound

variable {engine : Engine κ τ} {flights : Multiset (Flight τ)}
  {hand : Multiset (Grip (Continuation τ))}

/-- Once the ring has been given up there is no batch, and until then all that is in play is in
flight. -/
theorem inHand_le (sound : engine.Sound flights hand) :
    (engine.frames.map Frame.userData).sum.filter (· ≠ wakeUserData) ≤
      flights.map fun flight => flight.tag.toUInt64 := by
  by_cases released : Released engine.frames engine.terminated
  · have idle := (sound.disciplined.released released).2
    rw [sound.disciplined.dispatching_eq, List.any_eq_false] at idle
    have nothing : (engine.frames.map Frame.userData).sum = 0 := by
      apply List.sum_eq_zero
      intro userData userDataMem
      rcases List.mem_map.mp userDataMem with ⟨frame, frameMem, rfl⟩
      exact Frame.userData_of_not_batch (by simpa using idle frame frameMem)
    rw [nothing, Multiset.filter_zero]
    exact Multiset.zero_le _
  · rw [← sound.accounts.inPlay_eq released, inPlay]
    apply Multiset.filter_le_filter
    exact (Multiset.le_add_left _ _).trans (Multiset.le_add_right _ _)

theorem intact (sound : engine.Sound flights hand) : engine.Intact where
  healthy := sound.healthy
  registered := by
    rw [sound.accounts.books.bindings_eq, Multiset.map_map]
    exact sound.inHand_le
  closing := by
    intro above frame below frames_eq closing other otherMem
    have stacked := sound.disciplined.stacked
    rw [frames_eq] at stacked
    have noBatch := stacked.of_append.1.closing closing
    rw [List.any_eq_false] at noBatch
    simpa using noBatch other otherMem
  idle := by
    intro closing
    have dispatching_eq := sound.disciplined.dispatching_eq
    have stacked := sound.disciplined.stacked
    cases frames_eq : engine.frames with
    | nil => simp [frames_eq] at closing
    | cons frame below =>
        rw [frames_eq] at closing dispatching_eq stacked
        have onTop : frame.isClosing := by simpa using closing
        rw [dispatching_eq, List.any_cons, stacked.1.closing onTop,
          Frame.isBatch_eq_false_of_isClosing onTop]
        rfl

end Engine.Sound

/-- Whatever the callers and the ring do, no step of a run meets a fault, and no shutdown goes on
while tags in hand are still to be resolved. -/
theorem intact_of_play {platform : Platform κ} {configuration : Configuration} {world : κ}
    {moves : List (Move κ τ)} {scene : Scene κ τ}
    (played : (Scene.opening configuration world).play? platform moves = some scene) :
    scene.engine.Intact := by
  rcases Scene.sound_of_play played with ⟨flights, hand, sound⟩
  exact sound.intact

open Simulation in
/-- A continuation shuts the engine down in the middle of its batch. The shutdown waits until the
rest of the batch has been delivered. -/
theorem intact_shutdown_within_batch :
    ∃ (moves : List (Move Script String)) (scene : Scene Script String),
      (Scene.opening .default (.new 8 .wait none [⟨none, some ⟨.fixed 0, .none⟩⟩])).play?
          (Script.platform (.silent _)) moves = some scene ∧
        scene.engine.statistics.completed = 2 ∧
        scene.engine.frames.head?.any Frame.isClosing ∧ scene.engine.Intact := by
  let nop (label : String) : Move Script String := .request ⟨.nop, (), none⟩ label
  let moves : List (Move Script String) :=
    [nop "first", Move.step, nop "second", Move.step, Move.cycle none] ++
      List.replicate 5 Move.step ++
      [Move.shutdown, Move.finish, Move.step, Move.finish, Move.step]
  have plays : ((Scene.opening .default
      (Script.new 8 .wait none [⟨none, some ⟨.fixed 0, .none⟩⟩])).play?
      (Script.platform (.silent _)) moves).any fun scene =>
        scene.engine.statistics.completed == 2 &&
          scene.engine.frames.head?.any Frame.isClosing := by
    decide +kernel
  rcases (Option.any_eq_true _ _).mp plays with ⟨scene, played, shows⟩
  simp only [Bool.and_eq_true, beq_iff_eq] at shows
  exact ⟨moves, scene, played, shows.1, shows.2, intact_of_play played⟩

end CompletionEngine
