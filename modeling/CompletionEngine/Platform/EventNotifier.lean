import CompletionEngine.Platform.Basic

/-!
# Event counter notifiers

A notifier over an event counter of the system. Signals add to the counter and one acknowledgement
takes them all, so many signals between two acknowledgements wake the engine once. A counter that is
full has a signal pending, and one that is empty has none to take; neither is an error.

A notifier that made its counter closes it in the end, one that borrows it does not.
-/

namespace CompletionEngine

/-- The calls on event counters of a system whose state is `σ`. -/
structure EventCalls (σ : Type) where
  /-- Make a counter. -/
  create : σ → Except ErrorNumber Descriptor × σ
  /-- Add to a counter. -/
  add : Descriptor → UInt64 → σ → Except ErrorNumber Unit × σ
  /-- Take what a counter holds. -/
  take : Descriptor → σ → Except ErrorNumber UInt64 × σ
  /-- Close a descriptor. -/
  close : Descriptor → σ → σ

/-- A notifier on the counter behind a descriptor. -/
structure EventNotifier where
  descriptor : Descriptor
  /-- Whether the notifier made the counter. -/
  isOwner : Bool
  deriving DecidableEq

namespace EventNotifier

variable {σ : Type}

/-- A notifier on a counter that somebody else closes. -/
def borrow (descriptor : Descriptor) : EventNotifier := ⟨descriptor, false⟩

/-- A notifier on a counter of its own. -/
def create (calls : EventCalls σ) (system : σ) : Except RingError EventNotifier × σ :=
  match calls.create system with
  | (.ok descriptor, system) => (.ok ⟨descriptor, true⟩, system)
  | (.error error, system) => (.error (.system error.number), system)

/-- The outcome of a call on a counter that would have had to wait is a success. -/
def tolerate {α : Type} : Except ErrorNumber α → Except RingError Unit
  | .ok _ => .ok ()
  | .error error => if error = .tryAgain then .ok () else .error (.system error.number)

/-- Signal that work is waiting. -/
def notify (calls : EventCalls σ) (notifier : EventNotifier) (system : σ) :
    Except RingError Unit × σ :=
  let (outcome, system) := calls.add notifier.descriptor 1 system
  (tolerate outcome, system)

/-- Take the pending signals. -/
def acknowledge (calls : EventCalls σ) (notifier : EventNotifier) (system : σ) :
    Except RingError Unit × σ :=
  let (outcome, system) := calls.take notifier.descriptor system
  (tolerate outcome, system)

/-- Give the notifier up, and close its counter if it made it. -/
def drop (calls : EventCalls σ) (notifier : EventNotifier) (system : σ) : σ :=
  if notifier.isOwner && notifier.descriptor.isValid then calls.close notifier.descriptor system
  else system

end EventNotifier

end CompletionEngine
