import CompletionEngine.Platform.EventNotifier
import CompletionEngine.Platform.SystemRing

/-!
# Systems as platforms

A system that offers rings, event counters, sockets and a clock is all an engine needs. `start` sets
up what an engine with a given configuration runs on.
-/

namespace CompletionEngine

/-- Everything an engine needs of a system whose state is `σ`. -/
structure SystemCalls (σ : Type) where
  rings : RingCalls σ
  events : EventCalls σ
  sockets : SocketCalls σ
  now : σ → Instant

/-- An engine's ring and notifier with the system they are on. -/
structure Station (σ : Type) where
  ring : SystemRing
  notifier : Option EventNotifier
  system : σ

namespace Station

variable {σ : Type}

/-- Set up the ring and, when other threads are to wake the engine, the notifier. -/
def start (calls : SystemCalls σ) (configuration : Configuration) (system : σ) :
    Except RingError (Station σ) × σ :=
  match SystemRing.setUp calls.rings configuration.ring system with
  | (.error error, system) => (.error error, system)
  | (.ok ring, system) =>
    if configuration.wakePoll then
      match EventNotifier.create calls.events system with
      | (.error error, system) => (.error error, system)
      | (.ok notifier, system) => (.ok ⟨ring, some notifier, system⟩, system)
    else
      (.ok ⟨ring, none, system⟩, system)

/-- The station with its system replaced. -/
def onSystem {α : Type} (action : σ → α × σ) (station : Station σ) : α × Station σ :=
  let (value, system) := action station.system
  (value, { station with system := system })

/-- The ring of a station. -/
def ringOf (calls : RingCalls σ) : Ring (Station σ) where
  capacity station := station.ring.capacity
  push records station :=
    let (outcome, ring) := station.ring.push records
    (outcome, { station with ring := ring })
  submit station :=
    let (outcome, ring, system) := station.ring.submit calls station.system
    (outcome, { station with ring := ring, system := system })
  submitAndWait want wait station :=
    let (outcome, ring, system) := station.ring.submitAndWait calls want wait.limit? station.system
    (outcome, { station with ring := ring, system := system })
  drain station := station.onSystem fun system => (station.ring.drain calls [] system).2
  release station :=
    let (ring, system) := station.ring.release calls station.system
    { station with ring := ring, system := system }

/-- The notifier of a station, which wakes nobody when there is none. -/
def notifierOf (calls : EventCalls σ) : Notifier (Station σ) where
  pollDescriptor station := station.notifier.map fun notifier => notifier.descriptor.number
  notify station :=
    match station.notifier with
    | some notifier => station.onSystem (notifier.notify calls)
    | none => (.ok (), station)
  acknowledge station :=
    match station.notifier with
    | some notifier => station.onSystem (notifier.acknowledge calls)
    | none => (.ok (), station)

/-- The platform that a station is. -/
def platform (calls : SystemCalls σ) : Platform (Station σ) where
  ring := ringOf calls.rings
  notifier := notifierOf calls.events
  sockets := calls.sockets.lift Station.system fun system station =>
    { station with system := system }
  now station := calls.now station.system

end Station

end CompletionEngine
