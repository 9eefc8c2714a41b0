import CompletionEngine.Operation.Catalogue

/-!
# Entries

An entry couples the payload of one operation with the continuation that awaits its result. It runs
through four states: free, prepared, submitted, completed, and back to free. An abort takes a
prepared or submitted entry straight to completed with a failure of the engine's own. Whatever is
asked of an entry out of turn is a fault and leaves it as it is.

The continuation is a value of any type; the entry only keeps it and hands it back once.
-/

namespace CompletionEngine

/-- A result on its way to the continuation that awaits it. -/
structure Completion (kind : Kind) (γ : Type) where
  continuation : Option γ
  result : Except Failure kind.Output

/-- Whether a result is a success. -/
def Completion.isOk {kind : Kind} {γ : Type} (completion : Completion kind γ) : Bool :=
  completion.result.isOk

/-- One slot for an operation of a kind, with continuations of type `γ`. -/
structure Entry (kind : Kind) (γ : Type) where
  state : EntryState
  tag : Option UInt32
  flags : SubmitFlags
  continuation : Option γ
  payload : kind.Payload

namespace Entry

variable {kind : Kind} {γ : Type}

/-- An entry that was never used. -/
def fresh : Entry kind γ := ⟨.free, none, .empty, none, kind.operation.fresh⟩

/-- Check that an action's turn has come. -/
def expect (entry : Entry kind γ) (allowed : List EntryState) (action : EntryAction) :
    Except Fault Unit :=
  if entry.state ∈ allowed then .ok () else .error (.outOfTurn kind action entry.state)

/--
Take over a continuation and parameters at a moment. The entry is prepared even when its payload
refuses the parameters, so that it can be aborted and the continuation still be called.
-/
def prepare (now : Moment) (params : kind.Params) (continuation : γ) (entry : Entry kind γ) :
    Except Fault (Except Failure Unit × Entry kind γ) := do
  entry.expect [.free] .prepare
  let entry := { entry with continuation := some continuation, state := .prepared }
  match kind.operation.prepare now params entry.payload with
  | .ok payload => .ok (.ok (), { entry with payload := payload })
  | .error failure => .ok (.error failure, entry)

/-- Give the entry the tag it is registered under. -/
def assignTag (tag : UInt32) (entry : Entry kind γ) : Entry kind γ := { entry with tag := some tag }

/-- Link the entry to the submission after it. -/
def link (entry : Entry kind γ) : Entry kind γ :=
  { entry with flags := entry.flags.union .ioLink }

/-- The user data an entry without a tag renders. -/
def untagged : UInt32 := UInt32.ofNat (UInt32.size - 1)

/-- Render the entry into a record, of which nothing is kept. -/
def render (entry : Entry kind γ) (record : SubmitRecord) : SubmitRecord :=
  let filled := kind.operation.fill entry.payload record.clear
  { filled with
    flags := filled.flags.union entry.flags
    userData := (entry.tag.getD untagged).toUInt64 }

/-- Record that the entry's submission is on its way to the kernel. -/
def markSubmitted (entry : Entry kind γ) : Except Fault (Entry kind γ) := do
  entry.expect [.prepared] .submit
  .ok { entry with state := .submitted }

/-- Take over what the kernel wrote into the entry's memory. -/
def receive (written : KernelWrite) (entry : Entry kind γ) : Entry kind γ :=
  { entry with payload := kind.operation.receive written entry.payload }

/-- End the operation with a result, and hand the continuation out. -/
def finish (result : Except Failure kind.Output) (entry : Entry kind γ) :
    Completion kind γ × Entry kind γ :=
  (⟨entry.continuation, result⟩, { entry with state := .completed, continuation := none })

/-- End the operation with the kernel's raw result. -/
def complete {σ : Type} (calls : SocketCalls σ) (now : Instant) (result : Int32)
    (entry : Entry kind γ) (system : σ) :
    Except Fault (Completion kind γ × Entry kind γ × σ) := do
  entry.expect [.submitted] .complete
  let (outcome, payload, system) :=
    kind.operation.translate calls now result entry.payload system
  let (completion, entry) := finish outcome { entry with payload := payload }
  .ok (completion, entry, system)

/-- End the operation with a failure of the engine's own. -/
def abort (failure : Failure) (entry : Entry kind γ) :
    Except Fault (Completion kind γ × Entry kind γ) := do
  entry.expect [.prepared, .submitted] .abort
  .ok (entry.finish (.error failure))

/-- Forget everything that belongs to the operation, apart from the payload. -/
def reset (entry : Entry kind γ) : Entry kind γ :=
  { entry with continuation := none, tag := none, flags := .empty, state := .free }

/-- Recycle the entry for the next operation. -/
def close (entry : Entry kind γ) : Except Fault (Entry kind γ) := do
  entry.expect [.free, .completed] .close
  .ok { entry with payload := kind.operation.recycle entry.payload }.reset

/-- Give up the entry's memory, whatever its state. -/
def dispose (entry : Entry kind γ) : Entry kind γ :=
  { entry with payload := kind.operation.dispose entry.payload }.reset

/-- The entry as diagnostics show it. -/
def debugText (entry : Entry kind γ) : String :=
  let tag := match entry.tag with
    | some tag => "Some(" ++ toString tag.toNat ++ ")"
    | none => "None"
  "ExchangeEntry \x7b kind: " ++ kind.debugText ++ ", state: " ++ entry.state.name ++ ", tag: " ++
    tag ++ ", flags: " ++ entry.flags.debugText ++ " \x7d"

end Entry

end CompletionEngine
