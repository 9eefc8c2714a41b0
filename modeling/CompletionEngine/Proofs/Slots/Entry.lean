import CompletionEngine.Proofs.Operation.Rendering
import CompletionEngine.Slots.Entry

/-!
# Turns of an entry

What each action does to an entry whose turn has come. None of them is a fault then, and only the
closing loses what the entry knows of its operation.
-/

namespace CompletionEngine

/-- What succeeds as a whole has succeeded in its first part, and then in the rest. -/
theorem exists_of_bind {ε α β : Type} {first : Except ε α} {rest : α → Except ε β} {result : β}
    (succeeds : first >>= rest = .ok result) :
    ∃ value, first = .ok value ∧ rest value = .ok result := by
  cases first with
  | error failure => cases succeeds
  | ok value => exact ⟨value, rfl, succeeds⟩

variable {kind : Kind} {γ : Type}

/-- An entry between two operations: it knows nothing of either. -/
structure Entry.Idle (entry : Entry kind γ) : Prop where
  state_eq : entry.state = .free
  tag_eq : entry.tag = none
  flags_eq : entry.flags = .empty
  continuation_eq : entry.continuation = none

namespace Entry

variable {entry : Entry kind γ}

theorem idle_fresh : (fresh : Entry kind γ).Idle := ⟨rfl, rfl, rfl, rfl⟩

theorem idle_reset (entry : Entry kind γ) : entry.reset.Idle := ⟨rfl, rfl, rfl, rfl⟩

theorem expect_of_mem {allowed : List EntryState} (turn : entry.state ∈ allowed)
    (action : EntryAction) : entry.expect allowed action = .ok () := by
  simp only [expect, turn, if_true]

theorem expect_of_notMem {allowed : List EntryState} (outOfTurn : entry.state ∉ allowed)
    (action : EntryAction) :
    entry.expect allowed action = .error (.outOfTurn kind action entry.state) := by
  simp only [expect, outOfTurn, if_false]

theorem close_of_completed (completed : entry.state = .completed) :
    ∃ closed, entry.close = .ok closed ∧ closed.Idle := by
  refine ⟨_, ?_, idle_reset { entry with payload := kind.operation.recycle entry.payload }⟩
  have turn : entry.state ∈ [EntryState.free, .completed] := by simp [completed]
  simp only [close, expect_of_mem turn, bind, Except.bind]

theorem abort_of_pending (pending : entry.state = .prepared ∨ entry.state = .submitted)
    (failure : Failure) : entry.abort failure = .ok (entry.finish (.error failure)) := by
  have turn : entry.state ∈ [EntryState.prepared, .submitted] := by simpa using pending
  simp only [abort, expect_of_mem turn, bind, Except.bind]

theorem markSubmitted_of_prepared (prepared : entry.state = .prepared) :
    entry.markSubmitted = .ok { entry with state := .submitted } := by
  have turn : entry.state ∈ [EntryState.prepared] := by simp [prepared]
  simp only [markSubmitted, expect_of_mem turn, bind, Except.bind]

/-- Completing hands out the continuation with the translated result. -/
theorem complete_of_submitted {σ : Type} (submitted : entry.state = .submitted)
    (calls : SocketCalls σ) (now : Instant) (result : Int32) (system : σ) :
    entry.complete calls now result system =
      let translated := kind.operation.translate calls now result entry.payload system
      let completed := finish translated.1 { entry with payload := translated.2.1 }
      .ok (completed.1, completed.2, translated.2.2) := by
  have turn : entry.state ∈ [EntryState.submitted] := by simp [submitted]
  simp only [complete, expect_of_mem turn, bind, Except.bind]

/-- The flags of a record are those of the entry that it is rendered from. -/
theorem flags_render (entry : Entry kind γ) (record : SubmitRecord) :
    (entry.render record).flags = entry.flags := by
  simp only [render, Kind.flags_fill]
  exact entry.flags.empty_union

theorem opcode_render (entry : Entry kind γ) (record : SubmitRecord) :
    (entry.render record).opcode = .linkTimeout ↔ kind = .guard :=
  kind.opcode_fill entry.payload record.clear

theorem flags_link (unlinked : entry.flags = .empty) : entry.link.flags = .ioLink := by
  rw [link, unlinked]
  exact Flags.empty_union _

/-- Preparing takes the continuation over, also when the payload refuses the parameters. -/
theorem prepare_of_idle (idle : entry.Idle) (now : Moment) (params : kind.Params)
    (continuation : γ) :
    ∃ outcome payload, entry.prepare now params continuation =
        .ok (outcome, ⟨.prepared, none, .empty, some continuation, payload⟩) ∧
      (outcome = .ok () ∧ kind.operation.prepare now params entry.payload = .ok payload ∨
        ∃ failure, outcome = .error failure ∧
          kind.operation.prepare now params entry.payload = .error failure) := by
  rcases entry with ⟨state, tag, flags, held, payload⟩
  rcases idle with ⟨rfl, rfl, rfl, rfl⟩
  cases prepared : kind.operation.prepare now params payload with
  | error failure =>
      refine ⟨.error failure, payload, ?_, .inr ⟨failure, rfl, rfl⟩⟩
      simp only [prepare, prepared]
      rfl
  | ok after =>
      refine ⟨.ok (), after, ?_, .inl ⟨rfl, rfl⟩⟩
      simp only [prepare, prepared]
      rfl

end Entry

end CompletionEngine
