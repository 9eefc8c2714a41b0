import CompletionEngine.Address.Basic
import CompletionEngine.Bytes

/-!
# Address blocks

A socket address block is what connect and accept hand to the kernel: 128 bytes of storage and the
length in use. The layouts of the two families mix byte orders: the port is written highest byte
first, family, flow information and scope lowest byte first, and the host as its bytes stand.
-/

namespace CompletionEngine

/-- Storage for a socket address of any family, with the length in use. -/
structure AddressBlock where
  storage : Vector UInt8 128
  length : UInt32
  deriving DecidableEq

/-- The native bytes of an address, as long as its family's layout. -/
def SocketAddress.encode : SocketAddress → List UInt8
  | .v4 host port =>
    Bytes.littleEndian 2 2 ++ Bytes.bigEndian 2 port.toNat ++ host.toList ++ List.replicate 8 0
  | .v6 host port flow scope =>
    Bytes.littleEndian 2 10 ++ Bytes.bigEndian 2 port.toNat ++ Bytes.littleEndian 4 flow.toNat ++
      host.toList ++ Bytes.littleEndian 4 scope.toNat

namespace AddressBlock

/-- A block with every byte available for the kernel to write. -/
def blank : AddressBlock := ⟨Vector.replicate 128 0, 128⟩

/-- Make the whole block available for the kernel to write. -/
def reset (_block : AddressBlock) : AddressBlock := blank

/-- Encode an address. The length becomes that of its family's layout, the rest is zero. -/
def assign (address : SocketAddress) (_block : AddressBlock) : AddressBlock :=
  ⟨Bytes.overwrite address.encode (Vector.replicate 128 0), UInt32.ofNat address.encode.length⟩

/-- The family number stored in a block. -/
def familyNumber (block : AddressBlock) : Nat := Bytes.ofLittleEndian (Bytes.field block.storage 0 2)

/-- The port stored in a block. -/
def port (block : AddressBlock) : UInt16 :=
  UInt16.ofNat (Bytes.ofBigEndian (Bytes.field block.storage 2 2))

/-- The address stored in a block. There is none when the family is another or the length too short. -/
def extract? (block : AddressBlock) : Option SocketAddress :=
  if block.familyNumber = 2 ∧ 16 ≤ block.length.toNat then
    some (.v4 (Vector.ofFn fun index : Fin 4 => block.storage[4 + index.val]) block.port)
  else if block.familyNumber = 10 ∧ 28 ≤ block.length.toNat then
    some (.v6 (Vector.ofFn fun index : Fin 16 => block.storage[8 + index.val]) block.port
      (UInt32.ofNat (Bytes.ofLittleEndian (Bytes.field block.storage 4 4)))
      (UInt32.ofNat (Bytes.ofLittleEndian (Bytes.field block.storage 24 4))))
  else
    none

/-- What the kernel writes: bytes over the start of the storage, and the length. -/
def receive (bytes : List UInt8) (length : UInt32) (block : AddressBlock) : AddressBlock :=
  ⟨Bytes.overwrite bytes block.storage, length⟩

/-- The bytes that the length covers. -/
def encoded (block : AddressBlock) : List UInt8 := block.storage.toList.take block.length.toNat

/-- Whether every byte of the storage is zero. -/
def isZeroed (block : AddressBlock) : Bool := block.storage.all (· = 0)

end AddressBlock

end CompletionEngine
