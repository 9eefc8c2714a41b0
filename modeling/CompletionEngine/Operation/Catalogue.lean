import CompletionEngine.Operation.File
import CompletionEngine.Operation.Socket
import CompletionEngine.Operation.Timer
import CompletionEngine.Operation.Transfer

/-!
# The operation of each kind
-/

namespace CompletionEngine

/-- A round trip through the ring with no effect. -/
def Operation.nop : Operation where
  Params := Unit
  Output := Unit
  Payload := Unit
  fresh := ()
  prepare _ _ _ := .ok ()
  fill _ record := { record with opcode := .nop }
  receive _ _ := ()
  translate _ _ result _ system := (checkResult result fun _ => (), (), system)
  recycle _ := ()
  dispose _ := ()

namespace Kind

/-- The particulars of a kind. -/
def operation : Kind → Operation
  | nop => .nop
  | delay => .delay
  | guard => .guard
  | close => .close
  | read => .read
  | write => .write
  | readVector => .readVector
  | writeVector => .writeVector
  | splice => .splice
  | opening => .opening
  | socket => .socket
  | listen => .listen
  | accept => .accept
  | connect => .connect
  | status => .status

/-- What a caller asks an operation of this kind for. -/
abbrev Params (kind : Kind) : Type := kind.operation.Params

/-- What an operation of this kind yields. -/
abbrev Output (kind : Kind) : Type := kind.operation.Output

/-- The native parameters of an operation of this kind. -/
abbrev Payload (kind : Kind) : Type := kind.operation.Payload

end Kind

end CompletionEngine
