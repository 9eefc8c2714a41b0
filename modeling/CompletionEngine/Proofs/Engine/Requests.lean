import CompletionEngine.Engine.Requests

/-!
# What requests ask for

The requests make exactly the commands that the engine takes as they are, apart from timeout guards,
which only the engine itself asks for. So whatever is known of all commands is known of all requests,
and the other way round. A request through a handle, once the engine takes it up, is the request of
code on its own thread that resolves a promise.
-/

namespace CompletionEngine

variable {κ τ : Type}

namespace Command

/-- A command needs a record of its own, and at most one for a guard. -/
theorem recordCount_le (command : Command) : command.recordCount ≤ 2 := by
  unfold recordCount
  split <;> omega

/-- The commands that requests make. -/
inductive IsRequest : Command → Prop where
  | nop : IsRequest .nop
  | delay (time : TimeLimit) : IsRequest (.delay time)
  | close (descriptor : Descriptor) (limit : Option TimeLimit) : IsRequest (.close descriptor limit)
  | read (descriptor : Descriptor) (span : BufferSpan) (offset : Offset)
      (limit : Option TimeLimit) : IsRequest (.read descriptor span offset limit)
  | write (descriptor : Descriptor) (span : BufferSpan) (offset : Offset)
      (limit : Option TimeLimit) : IsRequest (.write descriptor span offset limit)
  | readVector (descriptor : Descriptor) (span : VectorSpan) (offset : Offset)
      (limit : Option TimeLimit) : IsRequest (.readVector descriptor span offset limit)
  | writeVector (descriptor : Descriptor) (span : VectorSpan) (offset : Offset)
      (limit : Option TimeLimit) : IsRequest (.writeVector descriptor span offset limit)
  | splice (params : SpliceParams) (limit : Option TimeLimit) : IsRequest (.splice params limit)
  | opening (params : OpenParams) (limit : Option TimeLimit) : IsRequest (.opening params limit)
  | socket (params : SocketParams) (limit : Option TimeLimit) : IsRequest (.socket params limit)
  | listen (params : ListenParams) (limit : Option TimeLimit) : IsRequest (.listen params limit)
  | accept (socket : Descriptor) (flags : SocketFlags) (limit : Option TimeLimit) :
      IsRequest (.accept socket flags limit)
  | connect (socket : Descriptor) (address : SocketAddress) (limit : Option TimeLimit) :
      IsRequest (.connect socket address limit)
  | status (params : StatusParams) (limit : Option TimeLimit) : IsRequest (.status params limit)

variable {command : Command}

theorem IsRequest.normalize_eq (asked : command.IsRequest) : command.normalize = command := by
  cases asked <;> rfl

theorem IsRequest.kind_ne_guard (asked : command.IsRequest) : command.kind ≠ .guard := by
  cases asked <;> exact Kind.noConfusion

/-- Any command with the limit that its kind may have is made by a request, unless it asks for a
guard. -/
theorem isRequest_normalize (own : command.kind ≠ .guard) : command.normalize.IsRequest := by
  rcases command with ⟨kind, params, limit⟩
  cases kind with
  | nop => exact .nop
  | delay => exact .delay params
  | guard => exact absurd rfl own
  | close => exact .close params limit
  | read => exact .read params.descriptor params.span params.offset limit
  | write => exact .write params.descriptor params.span params.offset limit
  | readVector => exact .readVector params.descriptor params.span params.offset limit
  | writeVector => exact .writeVector params.descriptor params.span params.offset limit
  | splice => exact .splice params limit
  | opening => exact .opening params limit
  | socket => exact .socket params limit
  | listen => exact .listen params limit
  | accept => exact .accept params.1 params.2 limit
  | connect => exact .connect params.1 params.2 limit
  | status => exact .status params limit

/-- Requests make the commands that are taken as they are, and ask for no guard. -/
theorem isRequest_iff : command.IsRequest ↔ command.normalize = command ∧ command.kind ≠ .guard := by
  constructor
  · intro asked
    exact ⟨asked.normalize_eq, asked.kind_ne_guard⟩
  · rintro ⟨same, own⟩
    rw [← same]
    exact isRequest_normalize own

end Command

namespace Engine

/-- A handle hands the command of a request on as it is. -/
theorem submitCommand_eq {command : Command} (asked : command.IsRequest) (platform : Platform κ)
    (promise : τ) (engine : Engine κ τ) :
    engine.submitCommand platform command promise =
      (engine.submitTask platform (.request command promise)).2 := by
  rw [submitCommand, asked.normalize_eq]

/-- Once it is taken up, it is the request that resolves the promise from the engine's own thread. -/
theorem runTask_request {command : Command} (asked : command.IsRequest) (platform : Platform κ)
    (promise : τ) (engine : Engine κ τ) :
    engine.runTask platform (.request command promise) =
      engine.requestPromise platform command promise := by
  rw [requestPromise, asked.normalize_eq]
  rfl

end Engine

end CompletionEngine
