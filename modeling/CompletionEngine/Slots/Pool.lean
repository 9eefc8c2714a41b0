import CompletionEngine.Slots.Entry

/-!
# Slot pools

A pool holds the entries of one kind under slot numbers that never move. A slot given back lies on
top of the free stack and is handed out first, so a steady workload keeps to the same few entries. A
pool grows only while no slot is free and its ceiling allows it, and shrinks only when cleared. When
it grows its entries may move, but not the blocks of memory that they own.
-/

namespace CompletionEngine

/-- The entries of one kind, with the slots that are free. -/
structure Pool (kind : Kind) (γ : Type) where
  entries : Array (Entry kind γ)
  /-- Free slots, the one given back last in front. -/
  free : List UInt32
  /-- The most entries the pool may grow to. Without one it grows as needed. -/
  ceiling : Option Nat

/-- How full a pool is. -/
structure PoolStatistics where
  capacity : Nat
  available : Nat
  deriving DecidableEq

/-- Slots handed out and not given back. -/
def PoolStatistics.inUse (statistics : PoolStatistics) : Nat :=
  statistics.capacity - statistics.available

namespace Pool

variable {kind : Kind} {γ : Type}

/-- A pool without entries. -/
def new (ceiling : Option Nat) : Pool kind γ := ⟨#[], [], ceiling⟩

/-- Whether the pool may not grow. -/
def isFull (pool : Pool kind γ) : Bool :=
  match pool.ceiling with
  | some ceiling => ceiling ≤ pool.entries.size
  | none => false

/-- Hand out a slot: the one given back last, or a fresh one when none is free. -/
def alloc (pool : Pool kind γ) : Except Failure UInt32 × Pool kind γ :=
  match pool.free with
  | slot :: rest => (.ok slot, { pool with free := rest })
  | [] =>
    if pool.isFull then
      (.error (.exhausted (.pool kind.name)), pool)
    else
      (.ok (UInt32.ofNat pool.entries.size), { pool with entries := pool.entries.push .fresh })

/-- The entry in a slot. -/
def get (pool : Pool kind γ) (slot : UInt32) : Except Fault (Entry kind γ) :=
  match pool.entries[slot.toNat]? with
  | some entry => .ok entry
  | none => .error (.slotOutOfRange pool.entries.size slot.toNat)

/-- Replace the entry in a slot. -/
def set (pool : Pool kind γ) (slot : UInt32) (entry : Entry kind γ) : Pool kind γ :=
  { pool with entries := pool.entries.setIfInBounds slot.toNat entry }

/-- Recycle the entry in a slot and give the slot back, which may be done once. -/
def release (pool : Pool kind γ) (slot : UInt32) : Except Fault (Pool kind γ) := do
  let entry ← (← pool.get slot).close
  let pool := pool.set slot entry
  if slot ∈ pool.free then .error (.releasedTwice kind slot)
  else .ok { pool with free := slot :: pool.free }

/-- Give up every entry, in use or not. -/
def clear (pool : Pool kind γ) : Pool kind γ := { pool with entries := #[], free := [] }

/-- How full the pool is. -/
def statistics (pool : Pool kind γ) : PoolStatistics := ⟨pool.entries.size, pool.free.length⟩

/-- The number of entries in a state. -/
def countIn (pool : Pool kind γ) (state : EntryState) : Nat :=
  pool.entries.countP fun entry => entry.state = state

end Pool

end CompletionEngine
