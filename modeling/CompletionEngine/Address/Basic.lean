import CompletionEngine.Flags.Catalogue

/-!
# Socket addresses

Addresses of the two internet families, and the families and types a socket is created with.
-/

namespace CompletionEngine

/-- The address family of a socket. -/
inductive AddressFamily where
  | inet
  | inet6
  deriving DecidableEq

/-- The kernel's number for a family. -/
def AddressFamily.native : AddressFamily → Int32
  | inet => 2
  | inet6 => 10

/-- The name of a family in diagnostics. -/
def AddressFamily.debugText : AddressFamily → String
  | inet => "Inet"
  | inet6 => "Inet6"

/-- The type of a socket. -/
inductive SocketType where
  | stream
  | datagram
  | seqPacket
  | raw
  deriving DecidableEq

/-- Every socket type. -/
def SocketType.all : List SocketType := [stream, datagram, seqPacket, raw]

/-- The name of a socket type. -/
def SocketType.name : SocketType → String
  | stream => "stream"
  | datagram => "datagram"
  | seqPacket => "seqpacket"
  | raw => "raw"

/-- The socket type that bears a name. -/
def SocketType.ofName? (name : String) : Option SocketType := all.find? fun type => type.name = name

/-- The kernel's number for a socket type. -/
def SocketType.native : SocketType → Int32
  | stream => 1
  | datagram => 2
  | seqPacket => 5
  | raw => 3

/-- A socket address: host and port, for the newer family also flow information and scope. -/
inductive SocketAddress where
  | v4 (host : Vector UInt8 4) (port : UInt16)
  | v6 (host : Vector UInt8 16) (port : UInt16) (flow scope : UInt32)
  deriving DecidableEq

namespace SocketAddress

/-- The family an address belongs to. -/
def family : SocketAddress → AddressFamily
  | v4 .. => .inet
  | v6 .. => .inet6

/-- The port. -/
def port : SocketAddress → UInt16
  | v4 _ port => port
  | v6 _ port _ _ => port

end SocketAddress

end CompletionEngine
