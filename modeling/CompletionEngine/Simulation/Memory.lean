import CompletionEngine.Descriptor
import CompletionEngine.Memory.Buffer

/-!
# Memory of callers

The buffers that callers own, and the arrays that list several of them, at the addresses where a
kernel finds them. Addresses are given out page by page and never twice.
-/

namespace CompletionEngine.Simulation

/-- The memory of callers. -/
structure Memory where
  buffers : List (Nat × Buffer)
  /-- Arrays of addresses and lengths. -/
  vectors : List (Nat × List (Nat × Nat))
  /-- The next address to give out. -/
  next : Nat

namespace Memory

/-- Memory without anything in it. -/
def empty : Memory := ⟨[], [], 0x100000⟩

/-- The address after so many bytes, at the start of a page. -/
def advance (memory : Memory) (size : Nat) : Nat :=
  memory.next + (size / Buffer.pageAlignment + 1) * Buffer.pageAlignment

/-- Place a buffer. -/
def placeBuffer (buffer : Buffer) (memory : Memory) : Nat × Memory :=
  (memory.next,
    { memory with
      buffers := memory.buffers ++ [(memory.next, buffer)]
      next := memory.advance buffer.size })

/-- Place an array that lists addresses and lengths. -/
def placeVector (vector : List (Nat × Nat)) (memory : Memory) : Nat × Memory :=
  (memory.next,
    { memory with
      vectors := (memory.next, vector) :: memory.vectors
      next := memory.advance (vector.length * 16) })

/-- Whether an address lies in a placed buffer. -/
def covers (address : Nat) (row : Nat × Buffer) : Bool :=
  row.1 ≤ address && address < row.1 + row.2.size

/-- The bytes at an address, as many as its buffer has. -/
def read? (memory : Memory) (address count : Nat) : Option (List UInt8) :=
  if count = 0 then some []
  else (memory.buffers.find? (covers address)).map fun row =>
    let offset := address - row.1
    (row.2.take (min (offset + count) row.2.size)).drop offset

/-- Write bytes at an address, as many as its buffer takes. -/
def write (address : Nat) (bytes : List UInt8) (memory : Memory) : Memory :=
  { memory with
    buffers := memory.buffers.map fun row =>
      if covers address row then (row.1, row.2.write (address - row.1) bytes) else row }

/-- The places that a transfer is about: the memory of one buffer, or what an array lists. -/
abbrev Places := List (Nat × Nat)

/-- The places listed by an array. -/
def vector? (memory : Memory) (address count : Nat) : Option Places :=
  if count = 0 then some [] else (memory.vectors.lookup address).map (·.take count)

/-- All the bytes at some places, in order. -/
def gather? (memory : Memory) (places : Places) : Option (List UInt8) :=
  (places.mapM fun place => memory.read? place.1 place.2).map List.flatten

/-- Whether every place that is not empty lies in a buffer. -/
def isMapped (memory : Memory) (places : Places) : Bool :=
  places.all fun place => place.2 = 0 || memory.buffers.any (covers place.1)

/-- Fill places with bytes, in order. -/
def scatter : Places → List UInt8 → Memory → Memory
  | [], _, memory => memory
  | (address, count) :: rest, bytes, memory =>
    scatter rest (bytes.drop count) (memory.write address (bytes.take count))

end Memory

end CompletionEngine.Simulation
