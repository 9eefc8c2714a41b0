import CompletionEngine.Proofs.Engine.Endings
import CompletionEngine.Proofs.Runs.Moves

/-!
# The course of a run

An observer of a run writes down each operation that a step ends. Between any two scenes of a run,
what the moves begin and what the observer has written down accounts for all that has changed.
-/

namespace CompletionEngine

variable {κ τ : Type}

/-- The operations that a move ends. -/
def Move.endings (move : Move κ τ) (engine : Engine κ τ) : List (Ending κ τ) :=
  match move with
  | .step => engine.ending?.toList
  | _ => []

namespace Scene

/-- The operations that some moves end, the last in front. -/
def endings (platform : Platform κ) (moves : List (Move κ τ)) (start : Scene κ τ) :
    List (Ending κ τ) :=
  start.knows platform (fun move before _ ended => move.endings before.engine ++ ended) [] moves

theorem endings_cons (platform : Platform κ) (move : Move κ τ) (moves : List (Move κ τ))
    (start : Scene κ τ) :
    start.endings platform (move :: moves) =
      (start.perform platform move).endings platform moves ++ move.endings start.engine := by
  have further (ended : List (Ending κ τ)) (moves : List (Move κ τ)) (start : Scene κ τ) :
      start.knows platform (fun move before _ ended => move.endings before.engine ++ ended) ended
        moves = start.endings platform moves ++ ended := by
    induction moves generalizing start ended with
    | nil => rfl
    | cons first rest ih => rw [endings, knows_cons, knows_cons, ih, ih]; simp
  rw [endings, knows_cons, further]
  simp

section Moves

variable {platform : Platform κ} {engine : Engine κ τ}

theorem flows_perform {flights : Multiset (Flight τ)} {hand : Multiset (Grip (Continuation τ))}
    (sound : engine.Sound flights hand) {pushes : List (PushPhase (Task τ))} {move : Move κ τ}
    (allowed : (Scene.mk engine pushes).allows move)
    (keeps : keepsContract ((Scene.mk engine pushes).perform platform move).engine.journal)
    (candid : engine.Candid) :
    ∃ begun events, engine.Flows platform begun (move.endings engine) events
        ((Scene.mk engine pushes).perform platform move).engine ∧
      (begun ≠ [] → ((Scene.mk engine pushes).perform platform move).engine.closed = false) := by
  by_cases step : move = .step
  · subst step
    exact sound.flows_step platform (by simpa [allows] using allowed) keeps candid
  · have none : move.endings engine = [] := by
      cases move with
      | step => exact absurd rfl step
      | _ => rfl
    have dealt : engine.Deals ((Scene.mk engine pushes).perform platform move).engine :=
      deals_perform platform step
    rcases dealt.flows platform with ⟨events, flows⟩
    rw [none]
    exact ⟨[], events, flows, by simp⟩

end Moves

/-- From any sound scene on, what moves begin and what the observer writes down accounts for all that
they change. -/
theorem flows_of_play {platform : Platform κ} {start scene : Scene κ τ} {moves : List (Move κ τ)}
    (sound : start.Sound) (candid : start.engine.Candid)
    (played : start.play? platform moves = some scene) :
    scene.Sound ∧ ∃ begun events, start.engine.Flows platform begun (start.endings platform moves)
      events scene.engine := by
  refine play?_induction (fun moves scene => scene.Sound ∧ ∃ begun events,
    start.engine.Flows platform begun (start.endings platform moves) events scene.engine) ?_ ?_ played
  · exact ⟨sound, [], [], .refl start.engine⟩
  · rintro moves before move after playedBefore ⟨soundBefore, begun, events, flows⟩ moved
    rcases move?_eq_some.mp moved with ⟨allowed, keeps, rfl⟩
    rcases soundBefore with ⟨flights, hand, soundBefore⟩
    rcases flows_perform soundBefore allowed keeps (flows.candid candid) with
      ⟨more, later, flowsOn, -⟩
    rw [endings, knows_concat platform _ _ playedBefore]
    exact ⟨sound_perform soundBefore allowed keeps, _, _, flows.trans flowsOn⟩

/-- A closed engine stays closed. -/
theorem closed_of_move {platform : Platform κ} {before after : Scene κ τ} {move : Move κ τ}
    (sound : before.Sound) (candid : before.engine.Candid)
    (moved : before.move? platform move = some after) (closed : before.engine.closed = true) :
    after.engine.closed = true := by
  rcases move?_eq_some.mp moved with ⟨allowed, keeps, rfl⟩
  rcases sound with ⟨flights, hand, sound⟩
  rcases flows_perform sound allowed keeps candid with ⟨begun, events, flows, -⟩
  exact (flows.closed closed).1

/-- From a move on that closes the engine, nothing begins. -/
theorem flows_of_closing {platform : Platform κ} {before called scene : Scene κ τ}
    {call : Move κ τ} {later : List (Move κ τ)} (sound : before.Sound)
    (candid : before.engine.Candid) (moved : before.move? platform call = some called)
    (closed : called.engine.closed = true) (went : called.play? platform later = some scene) :
    scene.Sound ∧ scene.engine.closed = true ∧ ∃ events, before.engine.Flows platform []
      (before.endings platform (call :: later)) events scene.engine := by
  rcases move?_eq_some.mp moved with ⟨allowed, keeps, rfl⟩
  rcases sound with ⟨flights, hand, sound⟩
  rcases flows_perform sound allowed keeps candid with ⟨begun, events, flows, opens⟩
  have soundCalled : (before.perform platform call).Sound := sound_perform sound allowed keeps
  rcases flows_of_play soundCalled (flows.candid candid) went with
    ⟨soundAfter, more, others, flowsOn⟩
  rcases flowsOn.closed closed with ⟨closedAfter, noMore⟩
  have nothing : begun = [] := by
    by_contra something
    cases (opens something).symm.trans closed
  rw [endings_cons]
  have whole := flows.trans flowsOn
  rw [nothing, noMore] at whole
  exact ⟨soundAfter, closedAfter, _, whole⟩

theorem candid_opening (configuration : Configuration) (world : κ) :
    (opening configuration world : Scene κ τ).engine.Candid := by
  simp [Engine.Candid, opening, Engine.new, Released]

/-- In every run, the journal tells whether the ring has been given up. -/
theorem candid_of_play {platform : Platform κ} {configuration : Configuration} {world : κ}
    {moves : List (Move κ τ)} {scene : Scene κ τ}
    (played : (opening configuration world).play? platform moves = some scene) :
    scene.engine.Candid := by
  have candid := candid_opening (τ := τ) configuration world
  rcases flows_of_play (sound_opening configuration world) candid played with
    ⟨-, begun, events, flows⟩
  exact flows.candid candid

end Scene

end CompletionEngine
