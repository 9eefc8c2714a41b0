import CompletionEngine.Address.Block
import CompletionEngine.Descriptor
import CompletionEngine.File.Path
import CompletionEngine.File.Status
import CompletionEngine.Memory.Place
import CompletionEngine.Time.Limit

/-!
# Submission and completion records

A submission record is one kernel operation before it is laid out natively. What a field means
depends on the opcode; a field the opcode has no use for is zero.

| opcode        | descriptor | address    | length   | offset     | address2       | operation flags | second descriptor |
|---------------|------------|------------|----------|------------|----------------|-----------------|-------------------|
| read, write   | file       | buffer     | bytes    | offset     |                |                 |                   |
| readv, writev | file       | vector     | entries  | offset     |                |                 |                   |
| timeout       |            | timespec   |          | count      |                | timeout flags   |                   |
| linkTimeout   |            | timespec   |          |            |                | timeout flags   |                   |
| splice        | to         |            | bytes    | to offset  | from offset    | splice flags    | from              |
| openAt        | directory  | path       | mode     |            |                | open flags      |                   |
| statx         | directory  | path       | mask     |            | status block   | lookup flags    |                   |
| socket        | family     |            | protocol | type       |                |                 |                   |
| accept        | socket     | peer       |          |            | peer length    | socket flags    |                   |
| connect       | socket     | address    |          | its length |                |                 |                   |
| pollAdd       | file       |            |          |            |                | poll mask       |                   |

An operand is a plain word, or the place of memory that the operation itself owns. With the place,
the record carries what the kernel finds there.
-/

namespace CompletionEngine

/-- What the kernel is asked to do. -/
inductive Opcode where
  | nop
  | readv
  | writev
  | pollAdd
  | timeout
  | accept
  | linkTimeout
  | connect
  | openAt
  | close
  | statx
  | read
  | write
  | splice
  | socket
  deriving DecidableEq

namespace Opcode

/-- Every opcode, lowest code first. -/
def all : List Opcode :=
  [nop, readv, writev, pollAdd, timeout, accept, linkTimeout, connect, openAt, close, statx, read,
    write, splice, socket]

/-- The kernel's number for an opcode. -/
def code : Opcode → UInt8
  | nop => 0
  | readv => 1
  | writev => 2
  | pollAdd => 6
  | timeout => 11
  | accept => 13
  | linkTimeout => 15
  | connect => 16
  | openAt => 18
  | close => 19
  | statx => 21
  | read => 22
  | write => 23
  | splice => 30
  | socket => 45

/-- The name of an opcode. -/
def name : Opcode → String
  | nop => "NOP"
  | readv => "READV"
  | writev => "WRITEV"
  | pollAdd => "POLL_ADD"
  | timeout => "TIMEOUT"
  | accept => "ACCEPT"
  | linkTimeout => "LINK_TIMEOUT"
  | connect => "CONNECT"
  | openAt => "OPENAT"
  | close => "CLOSE"
  | statx => "STATX"
  | read => "READ"
  | write => "WRITE"
  | splice => "SPLICE"
  | socket => "SOCKET"

/-- The opcode that bears a name. -/
def ofName? (name : String) : Option Opcode := all.find? fun opcode => opcode.name = name

end Opcode

/-- What memory that an operation owns holds. -/
inductive NativeBlock where
  /-- A time specification. -/
  | timeSpec (spec : TimeSpec)
  /-- A path and the NUL byte after it. -/
  | path (path : NativePath)
  /-- The storage of an address block. -/
  | address (block : AddressBlock)
  /-- The same from its length field on, which lies right behind the storage. -/
  | addressLength (block : AddressBlock)
  /-- A status block. -/
  | status (block : StatusBlock)
  deriving DecidableEq

/-- How far behind the start of its block memory begins. -/
def NativeBlock.offset : NativeBlock → Nat
  | addressLength block => block.storage.size
  | _ => 0

/-- A word of a record: a number, or the address of memory that the operation owns. -/
inductive Operand where
  | word (value : UInt64)
  /-- Memory in the block at a place. -/
  | block (place : Place) (memory : NativeBlock)
  deriving DecidableEq

/-- The operand of a block that may not be there. -/
def Operand.ofBlock? {α : Type} (memory : α → NativeBlock) : Option (Owned α) → Operand
  | some owned => block owned.place (memory owned.content)
  | none => word 0

/-- One kernel submission, before it is laid out natively. -/
structure SubmitRecord where
  opcode : Opcode
  flags : SubmitFlags
  descriptor : Int32
  address : Operand
  length : UInt32
  offset : UInt64
  address2 : Operand
  operationFlags : UInt32
  secondDescriptor : Int32
  userData : UInt64
  deriving DecidableEq

namespace SubmitRecord

/-- A record that asks for nothing. -/
def blank : SubmitRecord where
  opcode := .nop
  flags := .empty
  descriptor := 0
  address := .word 0
  length := 0
  offset := 0
  address2 := .word 0
  operationFlags := 0
  secondDescriptor := 0
  userData := 0

/-- Make a used record blank, so that nothing of it carries over. -/
def clear (_record : SubmitRecord) : SubmitRecord := blank

end SubmitRecord

/-- The user data of the wake-up poll. No tag is ever issued with this value. -/
def wakeUserData : UInt64 := UInt64.ofNat (UInt64.size - 1)

/-- What the kernel wrote into the memory of an operation before completing it. -/
inductive KernelWrite where
  | nothing
  /-- Bytes over the start of a peer's storage, and its length. -/
  | peer (bytes : List UInt8) (length : UInt32)
  /-- A whole status block. -/
  | status (block : StatusBlock)
  deriving DecidableEq

/-- One kernel completion. -/
structure CompletionRecord where
  userData : UInt64
  /-- Non-negative on success, the negated error number otherwise. -/
  result : Int32
  flags : UInt32
  written : KernelWrite
  deriving DecidableEq

end CompletionEngine
