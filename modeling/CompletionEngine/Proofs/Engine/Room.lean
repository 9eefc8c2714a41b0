import CompletionEngine.Proofs.Engine.Journal

/-!
# Room in the ring

A ring of some capacity serves well when it refuses a push only because the records would exceed the
capacity together with what is queued already, and when every submission succeeds and empties the
queue. On such a ring a flush succeeds as long as no more records are staged than the capacity: the
second push finds the queue empty.
-/

namespace CompletionEngine

variable {κ τ : Type}

/-- How many records wait for the next submission. -/
def queued : List (Event τ) → ℕ
  | [] => 0
  | .pushed records (.ok ()) :: journal => records.length + queued journal
  | .submitted (.ok _) :: _ | .waited _ _ (.ok _) :: _ => 0
  | _ :: journal => queued journal

/-- Whether a ring has refused pushes only for want of room, and nothing else has failed. -/
def servesWell (capacity : ℕ) : List (Event τ) → Bool
  | [] => true
  | .pushed records (.error .full) :: journal =>
    decide (capacity < queued journal + records.length) && servesWell capacity journal
  | .pushed _ (.error _) :: _ | .submitted (.error _) :: _ | .waited _ _ (.error _) :: _ => false
  | _ :: journal => servesWell capacity journal

/-- Whether a ring has accepted a push only when there was room for it. -/
def refusesExcess (capacity : ℕ) : List (Event τ) → Bool
  | [] => true
  | .pushed records (.ok ()) :: journal =>
    decide (queued journal + records.length ≤ capacity) && refusesExcess capacity journal
  | _ :: journal => refusesExcess capacity journal

/-- Whether the outcome is that the submission queue stayed full. -/
def Outcome.isCrowdedOut (outcome : Outcome) : Bool :=
  match outcome.result with
  | .error (.exhausted .submissionQueue) => true
  | _ => false

/-- Whether a caller's code or a promise is told that the submission queue stayed full. -/
def Event.isCrowdedOut : Event τ → Bool
  | .called _ outcome | .settled _ outcome => outcome.isCrowdedOut
  | _ => false

theorem Outcome.isCrowdedOut_of_ne {outcome : Outcome}
    (other : outcome.result ≠ .error (.exhausted .submissionQueue)) :
    outcome.isCrowdedOut = false := by
  unfold isCrowdedOut
  split
  · rename_i told
    exact absurd told other
  · rfl

theorem refusesExcess_of_cons {capacity : ℕ} {event : Event τ} {journal : List (Event τ)}
    (refuses : refusesExcess capacity (event :: journal)) : refusesExcess capacity journal := by
  cases event with
  | pushed records outcome =>
      rcases outcome with error | value
      · exact refuses
      · simp_all [refusesExcess]
  | _ => exact refuses

theorem refusesExcess_of_append {capacity : ℕ} {events journal : List (Event τ)}
    (refuses : refusesExcess capacity (events ++ journal)) : refusesExcess capacity journal := by
  induction events with
  | nil => exact refuses
  | cons event events ih => exact ih (refusesExcess_of_cons refuses)

/-- How a flush of something ends on a ring that serves well. -/
theorem Engine.flush_of_servesWell {capacity : ℕ} (platform : Platform κ) (engine : Engine κ τ)
    (something : engine.staged ≠ [])
    (serves : servesWell capacity (engine.flush platform).journal) :
    ∃ world events, (∀ event ∈ events, event.isCrowdedOut = false) ∧
      (engine.flush platform = { engine with
          world := world
          staged := []
          journal := .pushed engine.staged (.ok ()) :: (events ++ engine.journal) } ∨
        capacity < engine.staged.length ∧ engine.flush platform = { engine with
          world := world
          staged := []
          dispatching := true
          journal := .pushed engine.staged (.error .full) :: (events ++ engine.journal)
          frames := .refuse engine.staged (.exhausted .submissionQueue) engine.dispatching ::
            engine.frames }) := by
  have full : engine.staged.isEmpty = false := by simpa using something
  rcases pushWithRoom_eq platform engine with ⟨error | ⟨⟨⟩⟩, world, events, pushes, told⟩
  · have refused : engine.flush platform = { engine with
        world := world
        staged := []
        dispatching := true
        journal := events ++ engine.journal
        frames := .refuse engine.staged error.toFailure engine.dispatching :: engine.frames } := by
      rw [flush, if_neg (by simp [full]), pushes]
      rfl
    rw [refused] at serves ⊢
    rcases told with ⟨other, rfl⟩ | ⟨_, -, rfl⟩ | ⟨count, rfl⟩
    · cases error <;> first | exact absurd rfl other | cases serves
    · cases serves
    · cases error <;> first | cases serves | skip
      simp only [List.cons_append, List.nil_append, servesWell, queued, Bool.and_eq_true,
        decide_eq_true_eq, zero_add] at serves
      exact ⟨world, [.submitted (.ok count), .pushed engine.staged (.error .full)],
        by simp [Event.isCrowdedOut], .inr ⟨serves.1, rfl⟩⟩
  · have pushed : engine.flush platform = { engine with
        world := world
        staged := []
        journal := events ++ engine.journal } := by
      rw [flush, if_neg (by simp [full]), pushes]
    rw [pushed]
    rcases told with ⟨-, rfl⟩ | ⟨_, fails, -⟩ | ⟨count, rfl⟩
    · exact ⟨world, [], by simp, .inl rfl⟩
    · cases fails
    · exact ⟨world, [.submitted (.ok count), .pushed engine.staged (.error .full)],
        by simp [Event.isCrowdedOut], .inl rfl⟩

theorem Engine.flush_of_fits {capacity : ℕ} (platform : Platform κ) (engine : Engine κ τ)
    (fits : engine.staged.length ≤ capacity)
    (serves : servesWell capacity (engine.flush platform).journal) :
    ∃ world events, (∀ event ∈ events, event.isCrowdedOut = false) ∧
      engine.flush platform = { engine with
        world := world
        staged := []
        journal := events ++ engine.journal } := by
  by_cases nothing : engine.staged = []
  · refine ⟨engine.world, [], by simp, ?_⟩
    rcases engine with ⟨_, _, _, _, staged⟩
    cases nothing
    rfl
  · rcases engine.flush_of_servesWell platform nothing serves with
      ⟨world, events, untold, pushed | ⟨excess, -⟩⟩
    · refine ⟨world, .pushed engine.staged (.ok ()) :: events, ?_, pushed⟩
      simpa [Event.isCrowdedOut] using untold
    · omega

/-- What exceeds the capacity is taken in hand, and will be told so. -/
theorem Engine.flush_of_excess {capacity : ℕ} (platform : Platform κ) (engine : Engine κ τ)
    (excess : capacity < engine.staged.length)
    (serves : servesWell capacity (engine.flush platform).journal)
    (refuses : refusesExcess capacity (engine.flush platform).journal) :
    ∃ world journal, engine.flush platform = { engine with
      world := world
      staged := []
      dispatching := true
      journal := journal
      frames := .refuse engine.staged (.exhausted .submissionQueue) engine.dispatching ::
        engine.frames } := by
  have something : engine.staged ≠ [] := by
    rintro nothing
    simp [nothing] at excess
  rcases engine.flush_of_servesWell platform something serves with
    ⟨world, events, -, pushed | ⟨-, refused⟩⟩
  · rw [pushed] at refuses
    simp only [refusesExcess, Bool.and_eq_true, decide_eq_true_eq] at refuses
    omega
  · exact ⟨world, _, refused⟩

end CompletionEngine
