import CompletionEngine.Failure
import CompletionEngine.Platform.Sockets
import CompletionEngine.Submission.Record

/-!
# Operations

What is particular to one kind of operation: the parameters it takes, the value it yields, and the
payload that holds its native parameters between the two. A payload is prepared, rendered into a
submission record, written to by the kernel, and translated together with the raw result. It is
recycled for the next operation of its kind, or disposed of.
-/

namespace CompletionEngine

/-- What an operation is prepared with: the time, and a heap for the blocks that it lacks. -/
structure Moment where
  time : Instant
  heap : Heap

/-- The particulars of one kind of operation. -/
structure Operation where
  /-- What a caller asks for. -/
  Params : Type
  /-- What a success yields. -/
  Output : Type
  /-- The native parameters of one operation, with the memory it owns. -/
  Payload : Type
  /-- A payload that owns no memory yet. -/
  fresh : Payload
  /-- Take over parameters at a moment. Memory that the payload has already stays where it is, and no
  more than two blocks are made. A payload that refuses the parameters stays as it is. -/
  prepare : Moment → Params → Payload → Except Failure Payload
  /-- Fill the payload's fields into a record. -/
  fill : Payload → SubmitRecord → SubmitRecord
  /-- Take over what the kernel wrote into the payload's memory. -/
  receive : KernelWrite → Payload → Payload
  /-- Read a raw result at a moment, making whatever system calls finish the operation. -/
  translate : {σ : Type} → SocketCalls σ → Instant → Int32 → Payload → σ →
    Except Failure Output × Payload × σ
  /-- Drop what belongs to one operation only. -/
  recycle : Payload → Payload
  /-- Give up all memory. -/
  dispose : Payload → Payload

/-- A result that is an error when negative and a value otherwise. -/
def checkResult {α : Type} (result : Int32) (value : UInt32 → α) : Except Failure α :=
  if result < 0 then .error (.ofResult result) else .ok (value result.toUInt32)

/-- The descriptor that a non-negative result names. -/
def descriptorOfResult (result : UInt32) : Descriptor := ⟨result.toInt32⟩

end CompletionEngine
