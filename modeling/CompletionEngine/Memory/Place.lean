/-!
# Places

Memory that the kernel reads or writes on its own must not move. It lies in blocks, apart from
whatever owns them: an owner may move, as entries do when their pool grows, but a block stays at the
place that it got when it was made. A place stands for the address of a block as long as the block
exists, and is never given out twice.
-/

namespace CompletionEngine

/-- Where a block of memory lies. -/
structure Place where
  number : Nat
  deriving DecidableEq

/-- A block of memory, in the hands of its owner: where it lies and what it holds. -/
structure Owned (α : Type) where
  place : Place
  content : α
  deriving DecidableEq

/-- The block with its content changed, where it lies. -/
def Owned.map {α β : Type} (change : α → β) (block : Owned α) : Owned β :=
  ⟨block.place, change block.content⟩

/-- What blocks are made from. -/
structure Heap where
  /-- The number of places given out. -/
  used : Nat
  deriving DecidableEq

namespace Heap

/-- A heap of which nothing has been given out. -/
def untouched : Heap := ⟨0⟩

/-- The place of the next block. -/
def place (heap : Heap) : Place := ⟨heap.used⟩

/-- The heap once its next place has been given out. -/
def grow (heap : Heap) : Heap := ⟨heap.used + 1⟩

end Heap

end CompletionEngine
