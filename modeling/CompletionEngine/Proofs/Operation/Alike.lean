import CompletionEngine.Proofs.Operation.Supplies

/-!
# Payloads that are alike

A payload outlives the operation it was prepared for: time specifications, address blocks and status
blocks stay for the next operation of their kind, together with flags and modes. Preparing a payload
overwrites all of that, where it lies. The one thing it leaves alone is the address block of a
listener, which is written before it is read when the listener is established.

Two payloads prepared with the same parameters are therefore alike, whatever both held before, and
wherever. Alike payloads render the same record, apart from the places of their memory, take over what
the kernel writes in the same way, and translate a raw result to the same outcome, apart from the time
that a delay measured. They stay alike when they are recycled or disposed of.
-/

namespace CompletionEngine

/-- The block as if it lay at the first of all places. -/
def Owned.unplaced {α : Type} (block : Owned α) : Owned α := ⟨⟨0⟩, block.content⟩

/-- The operand as if its memory lay at the first of all places. -/
def Operand.unplaced : Operand → Operand
  | .word value => .word value
  | .block _ memory => .block ⟨0⟩ memory

/-- The record with what its memory holds, wherever that lies. -/
def SubmitRecord.unplaced (record : SubmitRecord) : SubmitRecord :=
  { record with
    address := record.address.unplaced
    address2 := record.address2.unplaced }

namespace Kind

/-- A payload without what no use of it tells: where its memory lies, when a delay was started, and
what is left in the address block of a listener. -/
def bare : (kind : Kind) → kind.Payload → kind.Payload
  | delay, payload => (⟨(DelayPayload.spec payload).map .unplaced, none⟩ : DelayPayload)
  | guard, payload => Option.map (α := Owned TimeSpec) .unplaced payload
  | opening, payload =>
    { (payload : OpenPayload) with path := (OpenPayload.path payload).map .unplaced }
  | listen, payload => { (payload : ListenPayload) with scratch := none }
  | accept, payload =>
    { (payload : AcceptPayload) with peer := (AcceptPayload.peer payload).map .unplaced }
  | connect, payload =>
    { (payload : ConnectPayload) with address := (ConnectPayload.address payload).map .unplaced }
  | status, payload =>
    { (payload : StatusPayload) with
      path := (StatusPayload.path payload).map .unplaced
      block := (StatusPayload.block payload).map .unplaced }
  | _, payload => payload

/-- Payloads that no use of theirs tells apart. -/
def Alike (kind : Kind) (left right : kind.Payload) : Prop := kind.bare left = kind.bare right

/-- A result without the time that a delay measured. -/
def timeless : (kind : Kind) → Except Failure kind.Output → Except Failure kind.Output
  | delay, result => result.map fun _ => (0 : Elapsed)
  | _, result => result

variable {kind : Kind}

/-- Accepted parameters overwrite whatever two payloads held before. -/
theorem prepare_of_accepts {params : kind.Params} (accepts : kind.Accepts params)
    (now now' : Moment) (left right : kind.Payload) :
    ∃ left' right', kind.operation.prepare now params left = .ok left' ∧
      kind.operation.prepare now' params right = .ok right' ∧ kind.Alike left' right' := by
  cases kind with
  | opening =>
      have path := NativePath.ofBytes_of_notMem accepts
      simp only [operation, Operation.opening, path]
      exact ⟨_, _, rfl, rfl, rfl⟩
  | status =>
      have path := NativePath.ofBytes_of_notMem accepts
      simp only [operation, Operation.status, path]
      exact ⟨_, _, rfl, rfl, rfl⟩
  | _ => exact ⟨_, _, rfl, rfl, rfl⟩

theorem fill_bare (payload : kind.Payload) (record : SubmitRecord) :
    (kind.operation.fill (kind.bare payload) record).unplaced =
      (kind.operation.fill payload record).unplaced := by
  cases kind with
  | delay =>
      rcases payload with ⟨spec, started⟩
      cases spec <;> rfl
  | guard => cases payload <;> rfl
  | opening =>
      rcases payload with ⟨path, flags, mode⟩
      cases path <;> rfl
  | accept =>
      rcases payload with ⟨socket, flags, peer⟩
      cases peer <;> rfl
  | connect =>
      rcases payload with ⟨socket, address⟩
      cases address <;> rfl
  | status =>
      rcases payload with ⟨directory, path, flags, mask, block⟩
      cases path <;> cases block <;> rfl
  | _ => rfl

theorem receive_bare (payload : kind.Payload) (written : KernelWrite) :
    kind.bare (kind.operation.receive written (kind.bare payload)) =
      kind.bare (kind.operation.receive written payload) := by
  cases kind with
  | delay =>
      rcases payload with ⟨spec, started⟩
      cases spec <;> rfl
  | guard => cases payload <;> rfl
  | opening =>
      rcases payload with ⟨path, flags, mode⟩
      cases path <;> rfl
  | accept =>
      rcases payload with ⟨socket, flags, peer⟩
      cases peer <;> cases written <;> rfl
  | connect =>
      rcases payload with ⟨socket, address⟩
      cases address <;> rfl
  | status =>
      rcases payload with ⟨directory, path, flags, mask, block⟩
      cases path <;> cases block <;> cases written <;> rfl
  | _ => rfl

theorem recycle_bare (payload : kind.Payload) :
    kind.bare (kind.operation.recycle (kind.bare payload)) =
      kind.bare (kind.operation.recycle payload) := by
  cases kind with
  | delay =>
      rcases payload with ⟨spec, started⟩
      cases spec <;> rfl
  | guard => cases payload <;> rfl
  | accept =>
      rcases payload with ⟨socket, flags, peer⟩
      cases peer <;> rfl
  | connect =>
      rcases payload with ⟨socket, address⟩
      cases address <;> rfl
  | status =>
      rcases payload with ⟨directory, path, flags, mask, block⟩
      cases block <;> rfl
  | _ => rfl

theorem dispose_bare (payload : kind.Payload) :
    kind.bare (kind.operation.dispose (kind.bare payload)) =
      kind.bare (kind.operation.dispose payload) := by
  cases kind <;> rfl

/-- Whatever block a listener is established with, the address is written to it first. -/
theorem establish_eq {σ : Type} (calls : SocketCalls σ) (socket : Descriptor)
    (params : ListenParams) (left right : Option AddressBlock) (system : σ) :
    (establish calls socket params left system).1 =
        (establish calls socket params right system).1 ∧
      (establish calls socket params left system).2.2 =
        (establish calls socket params right system).2.2 := by
  unfold establish
  rcases setOptions calls socket (NativeOption.ofSet params.options) system with
    ⟨error | done, system⟩
  · exact ⟨rfl, rfl⟩
  · -- Assigning an address forgets the block it is assigned to.
    exact ⟨rfl, rfl⟩

/-- A payload comes to the outcome that it comes to without what no use of it tells. -/
theorem translate_bare {σ : Type} (payload : kind.Payload) (calls : SocketCalls σ)
    (now now' : Instant) (result : Int32) (system : σ) :
    kind.timeless (kind.operation.translate calls now result (kind.bare payload) system).1 =
        kind.timeless (kind.operation.translate calls now' result payload system).1 ∧
      kind.bare (kind.operation.translate calls now result (kind.bare payload) system).2.1 =
        kind.bare (kind.operation.translate calls now' result payload system).2.1 ∧
      (kind.operation.translate calls now result (kind.bare payload) system).2.2 =
        (kind.operation.translate calls now' result payload system).2.2 := by
  cases kind with
  | delay =>
      rcases payload with ⟨spec, started⟩
      -- Only a success tells when the delay was started.
      refine ⟨?_, by cases spec <;> rfl, rfl⟩
      simp only [operation, Operation.delay, timeless]
      split <;> rfl
  | guard =>
      refine ⟨rfl, ?_, rfl⟩
      cases payload <;> rfl
  | opening =>
      rcases payload with ⟨path, flags, mode⟩
      refine ⟨rfl, ?_, rfl⟩
      cases path <;> rfl
  | listen =>
      rcases payload with ⟨params, scratch⟩
      have bare_eq : listen.bare (⟨params, scratch⟩ : ListenPayload) =
          (⟨params, none⟩ : ListenPayload) := rfl
      rw [bare_eq]
      simp only [operation, Operation.listen, timeless]
      cases checkResult result descriptorOfResult with
      | error failure => exact ⟨rfl, rfl, rfl⟩
      | ok socket =>
          cases params with
          | none => exact ⟨rfl, rfl, rfl⟩
          | some params =>
              rcases establish_eq calls socket params none scratch system with
                ⟨outcome_eq, system_eq⟩
              dsimp only
              generalize establish calls socket params none system = left at *
              generalize establish calls socket params scratch system = right at *
              rcases left with ⟨outcome, block, after⟩
              rcases right with ⟨outcome', block', after'⟩
              cases outcome_eq
              cases system_eq
              cases outcome with
              | error error => exact ⟨rfl, rfl, rfl⟩
              | ok listener => exact ⟨rfl, rfl, rfl⟩
  | accept =>
      rcases payload with ⟨socket, flags, peer⟩
      cases peer <;> exact ⟨rfl, rfl, rfl⟩
  | connect =>
      rcases payload with ⟨socket, address⟩
      refine ⟨rfl, ?_, rfl⟩
      cases address <;> rfl
  | status =>
      rcases payload with ⟨directory, path, flags, mask, block⟩
      cases path <;> cases block <;> exact ⟨rfl, rfl, rfl⟩
  | _ => exact ⟨rfl, rfl, rfl⟩

section Alike

variable {left right : kind.Payload} (alike : kind.Alike left right)

include alike

theorem Alike.fill_eq (record : SubmitRecord) :
    (kind.operation.fill left record).unplaced = (kind.operation.fill right record).unplaced := by
  rw [← fill_bare left, ← fill_bare right, alike]

theorem Alike.receive (written : KernelWrite) :
    kind.Alike (kind.operation.receive written left) (kind.operation.receive written right) := by
  rw [Alike, ← receive_bare left, ← receive_bare right, alike]

theorem Alike.recycle : kind.Alike (kind.operation.recycle left) (kind.operation.recycle right) := by
  rw [Alike, ← recycle_bare left, ← recycle_bare right, alike]

theorem Alike.dispose : kind.Alike (kind.operation.dispose left) (kind.operation.dispose right) := by
  rw [Alike, ← dispose_bare left, ← dispose_bare right, alike]

/-- Alike payloads come to the same outcome and leave the system in the same state. -/
theorem Alike.translate {σ : Type} (calls : SocketCalls σ) (now now' : Instant) (result : Int32)
    (system : σ) :
    kind.timeless (kind.operation.translate calls now result left system).1 =
        kind.timeless (kind.operation.translate calls now' result right system).1 ∧
      kind.Alike (kind.operation.translate calls now result left system).2.1
        (kind.operation.translate calls now' result right system).2.1 ∧
      (kind.operation.translate calls now result left system).2.2 =
        (kind.operation.translate calls now' result right system).2.2 := by
  rcases translate_bare left calls now now result system with ⟨leftOutcome, leftAlike, leftSystem⟩
  rcases translate_bare right calls now now' result system with
    ⟨rightOutcome, rightAlike, rightSystem⟩
  rw [alike] at leftOutcome leftAlike leftSystem
  exact ⟨leftOutcome.symm.trans rightOutcome, leftAlike.symm.trans rightAlike,
    leftSystem.symm.trans rightSystem⟩

end Alike

end Kind

end CompletionEngine
