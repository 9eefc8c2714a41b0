import CompletionEngine.Platform.Sockets
import CompletionEngine.Simulation.Socket

/-!
# Descriptor tables

What each open descriptor of a process refers to. New descriptors get the lowest number that is free
from a base on. Socket calls need nothing but the table.
-/

namespace CompletionEngine.Simulation

/-- One component of a path. -/
abbrev FileName := List UInt8

/-- What an open file may be used for. -/
structure Access where
  reads : Bool
  writes : Bool
  deriving DecidableEq

/-- What a descriptor refers to. -/
inductive OpenFile where
  | socket (socket : Socket)
  | pipeReader (pipe : Nat)
  | pipeWriter (pipe : Nat)
  | counter (index : Nat)
  /-- A file under its path. Appending ones write at the end, whatever the position. -/
  | file (path : List FileName) (access : Access) (appends : Bool) (position : Nat)
  deriving DecidableEq

/-- The open descriptors with what they refer to. -/
abbrev DescriptorTable := List (Int32 × OpenFile)

namespace DescriptorTable

/-- What a descriptor refers to. -/
def file? (table : DescriptorTable) (number : Int32) : Option OpenFile := table.lookup number

/-- Close a descriptor. -/
def remove (number : Int32) (table : DescriptorTable) : DescriptorTable :=
  table.filter fun row => row.1 ≠ number

/-- Let a descriptor refer to something. -/
def insert (number : Int32) (file : OpenFile) (table : DescriptorTable) : DescriptorTable :=
  (number, file) :: table.remove number

/-- The numbers that are free, from a base on; one more than are in use is enough to find one. -/
def candidates (base : Nat) (table : DescriptorTable) : List Int32 :=
  (List.range (table.length + 1)).map fun offset => Int32.ofNat (base + offset)

/-- Open a descriptor under the lowest free number from a base on. -/
def allocate (base : Nat) (file : OpenFile) (table : DescriptorTable) :
    Descriptor × DescriptorTable :=
  let number := ((table.candidates base).find? fun number => (table.file? number).isNone).getD (-1)
  (⟨number⟩, table.insert number file)

/-- The sockets that are open. -/
def sockets (table : DescriptorTable) : List Int32 :=
  table.filterMap fun row => match row.2 with
    | .socket _ => some row.1
    | _ => none

/-- Act on a socket. -/
def onSocket (descriptor : Descriptor) (action : Socket → Except ErrorNumber Socket)
    (table : DescriptorTable) : Except ErrorNumber Unit × DescriptorTable :=
  match table.file? descriptor.number with
  | none => (.error .badDescriptor, table)
  | some (.socket socket) =>
    match action socket with
    | .ok socket => (.ok (), table.insert descriptor.number (.socket socket))
    | .error error => (.error error, table)
  | some _ => (.error .notSocket, table)

/-- The address of a socket, written into a block. -/
def boundAddress (descriptor : Descriptor) (block : AddressBlock) (table : DescriptorTable) :
    Except ErrorNumber AddressBlock :=
  match table.file? descriptor.number with
  | none => .error .badDescriptor
  | some (.socket socket) =>
    let bytes := socket.address.encode
    .ok (block.receive bytes (UInt32.ofNat bytes.length))
  | some _ => .error .notSocket

/-- The socket calls of a process. -/
def socketCalls : SocketCalls DescriptorTable where
  setOption descriptor option := onSocket descriptor (Socket.setOption option)
  bind descriptor block := onSocket descriptor (Socket.bind block)
  listen descriptor _ := onSocket descriptor Socket.listen
  boundAddress descriptor block table := (table.boundAddress descriptor block, table)
  close descriptor table := table.remove descriptor.number

end DescriptorTable

end CompletionEngine.Simulation
