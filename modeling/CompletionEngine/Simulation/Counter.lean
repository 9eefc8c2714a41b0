import CompletionEngine.ErrorNumber

/-!
# Event counters

A counter of 64 bits that never waits: what would overflow it, or take from it while it is empty, is
refused for the moment. The largest word is kept out of the counter.
-/

namespace CompletionEngine.Simulation

/-- An event counter. -/
structure EventCounter where
  count : Nat
  deriving DecidableEq

namespace EventCounter

/-- The most a counter holds. -/
def limit : Nat := UInt64.size - 2

/-- An empty counter. -/
def zero : EventCounter := ⟨0⟩

/-- Add to a counter. -/
def add (amount : UInt64) (counter : EventCounter) : Except ErrorNumber EventCounter :=
  if limit < amount.toNat then .error .invalidArgument
  else if limit < counter.count + amount.toNat then .error .tryAgain
  else .ok ⟨counter.count + amount.toNat⟩

/-- Take everything from a counter. -/
def take (counter : EventCounter) : Except ErrorNumber (UInt64 × EventCounter) :=
  if counter.count = 0 then .error .tryAgain else .ok (UInt64.ofNat counter.count, zero)

/-- Whether there is something to take. -/
def isReadable (counter : EventCounter) : Bool := 0 < counter.count

end EventCounter

end CompletionEngine.Simulation
