import CompletionEngine.Document.Values
import CompletionEngine.Engine.Task

/-!
# Commands in documents

How commands are read from documents, and how their outcomes, the records they are rendered into and
the events of an engine are written. Parameters that a document leaves out are those of the shortest
way to ask for the operation. The time that a delay took is not written, as it differs from run to
run, nor is the number of a port that the system has assigned.
-/

namespace CompletionEngine

/-- The socket type in a document, or else a default. -/
def socketTypeOf (document : Document) (default : SocketType) : SocketType :=
  (SocketType.ofName? (document.get "type")).getD default

/-- The parameters of an operation in a document. -/
def Kind.paramsOf (kind : Kind) (document : Document) : kind.Params :=
  let descriptor : Descriptor := document.get "fd"
  let offset := document.getD "off" Offset.current
  match kind with
  | .nop => ()
  | .delay | .guard => (document.get "ns" : TimeLimit)
  | .close => descriptor
  | .read | .write =>
    (⟨descriptor, ⟨document.get "addr", document.get "len"⟩, offset⟩ : Transfer)
  | .readVector | .writeVector =>
    (⟨descriptor, ⟨document.get "addr", document.get "count"⟩, offset⟩ : VectorTransfer)
  | .splice =>
    let base :=
      SpliceParams.between (document.get "from") (document.get "to") (document.get "bytes")
    { base with
      sourceOffset := document.getD "from_off" base.sourceOffset
      targetOffset := document.getD "to_off" base.targetOffset
      flags := document.getD "flags" base.flags }
  | .opening =>
    let base := OpenParams.ofPath (document.get "path" : Blob).bytes
    { base with
      flags := document.getD "flags" base.flags
      mode := document.getD "mode" base.mode }
  | .socket =>
    let family := if document.get "family" = "inet6" then .inet6 else .inet
    let base := SocketParams.stream family
    { base with
      type := socketTypeOf document base.type
      flags := document.getD "flags" base.flags
      options := document.getD "options" base.options }
  | .listen =>
    let base := ListenParams.on (document.get "addr")
    { base with
      type := socketTypeOf document base.type
      flags := document.getD "flags" base.flags
      options := document.getD "options" base.options
      queueDepth := document.getD "depth" base.queueDepth }
  | .accept => (descriptor, document.get "flags")
  | .connect => (descriptor, document.get "addr")
  | .status =>
    let base := match (document.get "path" : Option Blob) with
      | some path => StatusParams.ofPath path.bytes
      | none => StatusParams.ofDescriptor descriptor
    { base.withFlags (document.get "flags") with mask := document.getD "mask" base.mask }

/-- The command of the kind with a name. -/
def Command.ofDocument? (kind : String) (document : Document) : Option Command :=
  (Kind.ofName? kind).map fun kind =>
    ⟨kind, kind.paramsOf (document.part "params"), document.get "timeout"⟩

/-- A port of a listener as a document. -/
def listenerPort (port : UInt16) : Document := if port = 0 then 0 else "assigned"

/-- What an operation yields as a document. -/
def Kind.outputDocument : (kind : Kind) → kind.Output → Document
  | .nop, _ | .close, _ => .null
  | .delay, _ => "elapsed"
  | .guard, (expiry : Expiry) => expiry.debugText
  | .read, (count : UInt64) | .write, (count : UInt64) | .readVector, (count : UInt64)
  | .writeVector, (count : UInt64) | .splice, (count : UInt64) => count
  | .opening, (descriptor : Descriptor) | .socket, (descriptor : Descriptor)
  | .connect, (descriptor : Descriptor) => descriptor
  | .listen, (listener : Listener) =>
    .record
      [("socket", listener.socket), ("address", listener.address.document listenerPort),
        ("queue_depth", listener.queueDepth)]
  | .accept, (connection : Connection) =>
    .record [("socket", connection.socket), ("peer", connection.peer)]
  | .status, (found : FileStatus) => found

/-- The result of an operation as a document. -/
def Kind.resultDocument (kind : Kind) (result : Except Failure kind.Output) : Document :=
  result.map kind.outputDocument

instance : Writable Outcome := ⟨fun outcome => outcome.kind.resultDocument outcome.result⟩

/-- What memory that a record points at holds. -/
def NativeBlock.document (opcode : Opcode) : NativeBlock → Document
  | timeSpec spec => .record [("timespec", spec)]
  | path name => .record [("path", (⟨name.bytes⟩ : Blob))]
  | address block =>
    if opcode = .connect then .record [("sockaddr", Bytes.hex block.encoded)]
    else .record [("peer_zeroed", block.isZeroed)]
  | addressLength block =>
    .record [("socklen", block.length), ("at", (addressLength block).offset)]
  | status block => .record [("statx_zeroed", (block = .zero : Bool))]

/-- An operand as a document. -/
def Operand.document (opcode : Opcode) : Operand → Document
  | word value => value
  | block _ memory => memory.document opcode

/-- The opcode and user data of a record, and its other fields where they are not zero. -/
instance : Writable SubmitRecord where
  write record :=
    let fields : Document.Fields :=
      [("flags", record.flags), ("fd", record.descriptor), ("len", record.length),
        ("off", record.offset), ("op_flags", record.operationFlags),
        ("aux_fd", record.secondDescriptor), ("addr", record.address.document record.opcode),
        ("addr2", record.address2.document record.opcode)]
    .record <|
      [("opcode", write record.opcode.name), ("user_data", write record.userData)] ++
        fields.filter fun field => !field.2.isZero

instance : Readable SubmitRecord where
  read document :=
    { opcode := (Opcode.ofName? (document.get "opcode")).getD .nop
      flags := document.get "flags"
      descriptor := document.get "fd"
      address := .word (document.get "addr")
      length := document.get "len"
      offset := document.get "off"
      address2 := .word (document.get "addr2")
      operationFlags := document.get "op_flags"
      secondDescriptor := document.get "aux_fd"
      userData := document.get "user_data" }

instance : Writable CompletionRecord where
  write completion := .list [completion.userData, completion.result, completion.flags]

instance : Writable Statistics where
  write statistics :=
    [statistics.submitted, statistics.completed, statistics.guardsFired,
      statistics.guardsDisarmed, statistics.synthesized, statistics.wakeups]

/-- How long a wait may last. -/
instance : Writable Wait where
  write
    | .caller limit => limit
    | .drain _ => "drain"

/-- An event with its particulars, where `name` writes the label of a caller. -/
def Event.document? {τ : Type} (name : τ → Document) : Event τ → Option Document
  | pushed records outcome =>
    some (.list ["push", records, outcome.map fun _ => records.length])
  | submitted outcome => some (.list ["submit", outcome])
  | waited want wait outcome => some (.list ["enter", want, wait, outcome])
  | drained batch => some (.list ["drain", batch.length])
  | released => some (.list ["release"])
  | notified outcome => some (.list ["notify", outcome.isOk])
  | acknowledged outcome => some (.list ["ack", outcome.isOk])
  | called label outcome => some (.list ["done", name label, outcome])
  | settled label outcome => some (.list ["resolved", name label, outcome])
  | started body => some (.list ["task", name body])
  | dropped .. | guarded _ | terminated => none

end CompletionEngine
