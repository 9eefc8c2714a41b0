import CompletionEngine.Flags.Catalogue

/-!
# Descriptors, offsets and spans

The small native values that operations are about. A span only names memory that belongs to the
caller; the caller keeps it alive until the operation is done with it.
-/

namespace CompletionEngine

/-- A file or socket descriptor. -/
structure Descriptor where
  number : Int32
  deriving DecidableEq

namespace Descriptor

/-- A number that is never an open descriptor. -/
def invalid : Descriptor := ⟨-1⟩

/-- The descriptors every process starts with, and the invalid one. -/
def standard : List Descriptor := [⟨0⟩, ⟨1⟩, ⟨2⟩, invalid]

/-- Whether the number could be an open descriptor. -/
def isValid (descriptor : Descriptor) : Bool := 0 ≤ descriptor.number

/-- The descriptor as people read it. -/
def text (descriptor : Descriptor) : String := "fd(" ++ toString descriptor.number.toInt ++ ")"

/-- The descriptor as diagnostics show it. -/
def debugText (descriptor : Descriptor) : String :=
  "FileDescriptor(" ++ toString descriptor.number.toInt ++ ")"

/-- The directory that relative paths start from. -/
def workingDirectory : Descriptor := ⟨-100⟩

end Descriptor

/-- A byte offset into a file. -/
abbrev Offset := UInt64

/-- The offset that means the descriptor's own position, which the operation then advances. -/
def Offset.current : Offset := UInt64.ofNat (UInt64.size - 1)

/-- The longest transfer that a single operation may ask for. -/
def maxTransfer : UInt32 := 0x7ffff000

/-- Memory of the caller that a read or write uses. -/
structure BufferSpan where
  address : UInt64
  length : UInt32
  deriving DecidableEq

/-- An array of the caller that lists the memory of a vectored read or write. -/
structure VectorSpan where
  address : UInt64
  count : UInt32
  deriving DecidableEq

end CompletionEngine
