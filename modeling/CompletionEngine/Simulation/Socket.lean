import CompletionEngine.Address.Block
import CompletionEngine.ErrorNumber
import CompletionEngine.Flags.Catalogue
import CompletionEngine.Submission.Record

/-!
# Sockets of the model

Sockets on a machine that lets them bind to any address, whether it is its own or not. A port that is
asked for as zero is assigned.
-/

namespace CompletionEngine.Simulation

/-- A socket. -/
structure Socket where
  family : AddressFamily
  type : SocketType
  bound : Option SocketAddress
  isListening : Bool
  deriving DecidableEq

namespace Socket

/-- The bits of a socket's type word that name the type. -/
def typeMask : UInt64 := 0xf

/-- The family and the type that a submission record asks a socket of. -/
def requested? (record : SubmitRecord) : Option (AddressFamily × SocketType) := do
  guard (record.opcode = .socket)
  let family ← [AddressFamily.inet, .inet6].find? (·.native = record.descriptor)
  let type ← SocketType.all.find? fun type =>
    type.native.toInt64.toUInt64 = record.offset &&& typeMask
  return (family, type)

/-- A socket just created. -/
def fresh (family : AddressFamily) (type : SocketType) : Socket := ⟨family, type, none, false⟩

/-- The port that a socket gets when it asks for none in particular. -/
def assignedPort : UInt16 := 49152

/-- Switch an option on. -/
def setOption (option : NativeOption) (socket : Socket) : Except ErrorNumber Socket :=
  if option.level = 1 then .ok socket
  else if option = ⟨6, 1⟩ ∧ socket.type = .stream then .ok socket
  else .error .noSuchOption

/-- The address that a socket bound to `address` has: its own port, and nothing but host and port. -/
def settledAddress (address : SocketAddress) : SocketAddress :=
  let port := if address.port = 0 then assignedPort else address.port
  match address with
  | .v4 host _ => .v4 host port
  | .v6 host _ _ _ => .v6 host port 0 0

/-- Bind to the address in a block. -/
def bind (block : AddressBlock) (socket : Socket) : Except ErrorNumber Socket :=
  match block.extract? with
  | none => .error .invalidArgument
  | some address => .ok { socket with bound := some (settledAddress address) }

/-- Listen, with any backlog. -/
def listen (socket : Socket) : Except ErrorNumber Socket :=
  if socket.type = .stream then .ok { socket with isListening := true }
  else .error .notSupported

/-- The address of a socket, which is the unspecified one before it is bound. -/
def address (socket : Socket) : SocketAddress :=
  socket.bound.getD <| match socket.family with
    | .inet => .v4 (Vector.replicate 4 0) 0
    | .inet6 => .v6 (Vector.replicate 16 0) 0 0 0

end Socket

end CompletionEngine.Simulation
