import CompletionEngine.Slots.Pool

/-!
# The pools of all kinds

One pool for each kind of operation, all under the same ceiling. Their entries get the memory that
they own from one heap.
-/

namespace CompletionEngine

/-- A pool for every kind. -/
structure Pools (γ : Type) where
  nop : Pool .nop γ
  delay : Pool .delay γ
  guard : Pool .guard γ
  close : Pool .close γ
  read : Pool .read γ
  write : Pool .write γ
  readVector : Pool .readVector γ
  writeVector : Pool .writeVector γ
  splice : Pool .splice γ
  opening : Pool .opening γ
  socket : Pool .socket γ
  listen : Pool .listen γ
  accept : Pool .accept γ
  connect : Pool .connect γ
  status : Pool .status γ
  /-- Where the entries get their memory from. -/
  heap : Heap

namespace Pools

variable {γ : Type}

/-- Pools without entries, all under one ceiling. -/
def new (ceiling : Option Nat) : Pools γ where
  nop := .new ceiling
  delay := .new ceiling
  guard := .new ceiling
  close := .new ceiling
  read := .new ceiling
  write := .new ceiling
  readVector := .new ceiling
  writeVector := .new ceiling
  splice := .new ceiling
  opening := .new ceiling
  socket := .new ceiling
  listen := .new ceiling
  accept := .new ceiling
  connect := .new ceiling
  status := .new ceiling
  heap := .untouched

/-- The pool of a kind. -/
def get (pools : Pools γ) : (kind : Kind) → Pool kind γ
  | .nop => pools.nop
  | .delay => pools.delay
  | .guard => pools.guard
  | .close => pools.close
  | .read => pools.read
  | .write => pools.write
  | .readVector => pools.readVector
  | .writeVector => pools.writeVector
  | .splice => pools.splice
  | .opening => pools.opening
  | .socket => pools.socket
  | .listen => pools.listen
  | .accept => pools.accept
  | .connect => pools.connect
  | .status => pools.status

/-- Replace the pool of a kind. -/
def set (pools : Pools γ) : (kind : Kind) → Pool kind γ → Pools γ
  | .nop, pool => { pools with nop := pool }
  | .delay, pool => { pools with delay := pool }
  | .guard, pool => { pools with guard := pool }
  | .close, pool => { pools with close := pool }
  | .read, pool => { pools with read := pool }
  | .write, pool => { pools with write := pool }
  | .readVector, pool => { pools with readVector := pool }
  | .writeVector, pool => { pools with writeVector := pool }
  | .splice, pool => { pools with splice := pool }
  | .opening, pool => { pools with opening := pool }
  | .socket, pool => { pools with socket := pool }
  | .listen, pool => { pools with listen := pool }
  | .accept, pool => { pools with accept := pool }
  | .connect, pool => { pools with connect := pool }
  | .status, pool => { pools with status := pool }

/-- The pools once an operation has been prepared, with the memory that it may have taken. -/
def growHeap (pools : Pools γ) : Pools γ := { pools with heap := pools.heap.grow.grow }

/-- Give up every entry of every kind. -/
def clear (pools : Pools γ) : Pools γ :=
  Kind.all.foldl (fun cleared kind => cleared.set kind (cleared.get kind).clear) pools

/-- How full each pool is, in the order of the kinds. -/
def statistics (pools : Pools γ) : List (Kind × PoolStatistics) :=
  Kind.all.map fun kind => (kind, (pools.get kind).statistics)

/-- Slots handed out and not given back, over all kinds. -/
def inUse (pools : Pools γ) : Nat := pools.statistics.foldr (fun row total => row.2.inUse + total) 0

end Pools

end CompletionEngine
