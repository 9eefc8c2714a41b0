import CompletionEngine.Failure

/-!
# Buffers

A buffer is zero-initialised memory for reads and writes that remembers how many of its leading
bytes mean something, so that what a read brought can go out again as it came. Its size never
changes and its length in use never exceeds it.
-/

namespace CompletionEngine

/-- The largest size of a buffer: a 32-bit length has to be able to say it. -/
def maxBufferSize : Nat := UInt32.size - 1

/--
Memory for reads and writes. `written` holds its leading bytes up to the last one ever written; every
byte after those is zero, as it was when the buffer was allocated.
-/
structure Buffer where
  size : Nat
  written : List UInt8
  used : Nat
  deriving DecidableEq

namespace Buffer

/-- The half of a 64-bit address space that one piece of memory must fit in. -/
def addressSpace : Nat := 0x8000000000000000

/-- Whether memory of this size can be laid out at this alignment. -/
def isLayout (size alignment : Nat) : Bool :=
  alignment ≠ 0 && alignment &&& (alignment - 1) = 0 && size + alignment ≤ addressSpace

/-- A zeroed buffer. The size is checked before the alignment. -/
def allocate (size alignment : Nat) : Except Failure Buffer :=
  if size = 0 ∨ maxBufferSize < size then
    .error .bufferSize
  else if !isLayout size alignment then
    .error .bufferAlignment
  else
    .ok ⟨size, [], 0⟩

/-- The alignment of a page. -/
def pageAlignment : Nat := 4096

/-- A zeroed buffer at the start of a page. -/
def ofSize (size : Nat) : Except Failure Buffer := allocate size pageAlignment

/-- The byte at an index. -/
def byte (buffer : Buffer) (index : Nat) : UInt8 := buffer.written.getD index 0

/-- The first `count` bytes. -/
def take (buffer : Buffer) (count : Nat) : List UInt8 :=
  (buffer.written ++ List.replicate (count - buffer.written.length) 0).take count

/-- Record how many leading bytes mean something, at most all of them. -/
def setUsed (used : Nat) (buffer : Buffer) : Buffer := { buffer with used := min used buffer.size }

/-- Write bytes from `start` on, as many as fit. -/
def write (start : Nat) (data : List UInt8) (buffer : Buffer) : Buffer :=
  let fitting := data.take (buffer.size - start)
  { buffer with
    written := buffer.take start ++ fitting ++ buffer.written.drop (start + fitting.length) }

/-- Copy bytes to the front, as many as fit. They are what is in use afterwards. -/
def fill (data : List UInt8) (buffer : Buffer) : Nat × Buffer :=
  let count := min data.length buffer.size
  (count, { buffer.write 0 data with used := count })

/-- A page-aligned buffer that holds a copy of `data`, or one unused byte when there is none. -/
def ofData (data : List UInt8) : Except Failure Buffer :=
  (ofSize (max data.length 1)).map fun buffer => (buffer.fill data).2

/-- The bytes in use. -/
def contents (buffer : Buffer) : List UInt8 := buffer.take buffer.used

/-- The length of the whole buffer as a read's target. -/
def spanLength (buffer : Buffer) : UInt32 := UInt32.ofNat buffer.size

/-- The length in use as a write's source. -/
def usedSpanLength (buffer : Buffer) : UInt32 := UInt32.ofNat buffer.used

/-- The buffer as diagnostics show it, at the address it has. -/
def debugText (address : String) (buffer : Buffer) : String :=
  "OffHeapBuffer \x7b address: " ++ address ++ ", size: " ++ toString buffer.size ++ ", used: " ++
    toString buffer.used ++ " \x7d"

end Buffer

/-- A buffer and the address it has. -/
abbrev PlacedBuffer := Nat × Buffer

/-- What a vectored operation goes through: addresses, each with the number of bytes there. -/
structure GatherList where
  entries : List (Nat × Nat)
  deriving DecidableEq

namespace GatherList

/-- The whole of each buffer, as the targets of a vectored read. -/
def readable (buffers : List PlacedBuffer) : GatherList :=
  ⟨buffers.map fun placed => (placed.1, placed.2.size)⟩

/-- The bytes in use of each buffer, as the sources of a vectored write. -/
def writable (buffers : List PlacedBuffer) : GatherList :=
  ⟨buffers.map fun placed => (placed.1, placed.2.used)⟩

/-- All the bytes together, added up in 64-bit words. -/
def total (list : GatherList) : UInt64 :=
  list.entries.foldl (fun sum entry => sum + UInt64.ofNat entry.2) 0

/-- The number of buffers listed. -/
def count (list : GatherList) : UInt32 := UInt32.ofNat list.entries.length

end GatherList

end CompletionEngine
