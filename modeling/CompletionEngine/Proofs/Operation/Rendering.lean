import CompletionEngine.Operation.Catalogue

/-!
# What operations render

An operation of any kind renders an opcode of its own. It leaves the submission flags to its entry,
which alone knows whether it is linked, and only a guard renders a linked timeout.
-/

namespace CompletionEngine

theorem Flags.empty_union {family : FlagFamily} (set : Flags family) : empty.union set = set := by
  rcases set with ⟨bits⟩
  simp [union, empty]

namespace Kind

theorem flags_fill (kind : Kind) (payload : kind.Payload) (record : SubmitRecord) :
    (kind.operation.fill payload record).flags = record.flags := by
  cases kind with
  | splice | socket => cases payload <;> rfl
  | listen =>
      rcases payload with ⟨params | params, scratch⟩
      · rfl
      · rfl
  | _ => rfl

theorem opcode_fill (kind : Kind) (payload : kind.Payload) (record : SubmitRecord) :
    (kind.operation.fill payload record).opcode = .linkTimeout ↔ kind = .guard := by
  cases kind with
  | guard => exact iff_of_true rfl rfl
  | splice | socket =>
      refine iff_of_false ?_ (by simp)
      cases payload <;> simp [operation, Operation.splice, Operation.socket, SocketParams.fill]
  | listen =>
      refine iff_of_false ?_ (by simp)
      rcases payload with ⟨params | params, scratch⟩
      · simp [operation, Operation.listen]
      · simp [operation, Operation.listen, SocketParams.fill]
  | _ => exact iff_of_false (fun same => by cases same) (by simp)

end Kind

end CompletionEngine
