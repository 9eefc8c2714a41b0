import CompletionEngine.Engine.Step

/-!
# Calls

What callers may do. The first group is for code on the engine's own thread, which holds the engine:
each call begins something that steps then carry out. The second group is for handles, which any
thread may hold; they reach the engine only through its inbox and its notifier.
-/

namespace CompletionEngine.Engine

variable {κ τ : Type}

/-- Ask for an operation whose outcome goes to code of the caller. -/
def request (platform : Platform κ) (command : Command) (label : τ) (engine : Engine κ τ) :
    Engine κ τ :=
  engine.beginRequest platform ⟨command.normalize, .caller label⟩

/-- Ask for an operation whose outcome resolves a promise. -/
def requestPromise (platform : Platform κ) (command : Command) (promise : τ)
    (engine : Engine κ τ) : Engine κ τ :=
  engine.beginRequest platform ⟨command.normalize, .promise promise⟩

/-- Run one cycle, waiting in the kernel at most for the limit. -/
def cycle (limit : Option TimeLimit) (engine : Engine κ τ) : Engine κ τ :=
  engine.beginCycle (.caller limit)

/-- Run cycles on this thread until the engine is closed. -/
def work (engine : Engine κ τ) : Engine κ τ := engine.next .work

/-- Return from code that the engine entered. -/
def finish (engine : Engine κ τ) : Engine κ τ :=
  match engine.frames with
  | .client :: rest => { engine with frames := rest }
  | _ => engine

/-- Give the engine up: shut it down unless that has been done. -/
def drop (engine : Engine κ τ) : Engine κ τ := if engine.closed then engine else engine.shutdown

/-- Break off all code that is running, and give the engine up. -/
def unwind (engine : Engine κ τ) : Engine κ τ := { engine with frames := [] }.drop

/-- Wake the engine through its notifier. -/
def wake (platform : Platform κ) (engine : Engine κ τ) : Engine κ τ :=
  let (outcome, world) := platform.notifier.notify engine.world
  { engine with world := world }.log (.notified outcome)

/-- Tell a task that it will never run. -/
def reject (task : Task τ) (failure : Failure) (engine : Engine κ τ) : Engine κ τ :=
  match task with
  | .request command promise => engine.log (.settled promise ⟨command.kind, .error failure⟩)
  | .job body => engine.log (.dropped body failure)

/-- One atomic step of a handle's push. -/
def advancePush (platform : Platform κ) (phase : PushPhase (Task τ)) (engine : Engine κ τ) :
    PushPhase (Task τ) × Engine κ τ :=
  let (phase, effect, inbox) := phase.advance engine.inbox
  let engine := { engine with inbox := inbox }
  match effect with
  | .nothing => (phase, engine)
  | .reject task failure => (phase, engine.reject task failure)
  | .wake => (phase, engine.wake platform)

/-- Let a push make at most `fuel` steps with nothing in between. -/
def runPush (platform : Platform κ) :
    Nat → PushPhase (Task τ) → Engine κ τ → Except Failure Unit × Engine κ τ
  | _, .returned result, engine => (result, engine)
  | 0, _, engine => (.ok (), engine)
  | fuel + 1, phase, engine =>
    let (phase, engine) := engine.advancePush platform phase
    runPush platform fuel phase engine

/-- Push a task from a handle, with nothing in between. -/
def submitTask (platform : Platform κ) (task : Task τ) (engine : Engine κ τ) :
    Except Failure Unit × Engine κ τ :=
  engine.runPush platform (engine.inbox.queue.length + 6) (.check task)

/-- Ask for an operation through a handle. -/
def submitCommand (platform : Platform κ) (command : Command) (promise : τ)
    (engine : Engine κ τ) : Engine κ τ :=
  (engine.submitTask platform (.request command.normalize promise)).2

/-- Ask for code to be run on the engine's thread, and tell whether it will be. -/
def execute (platform : Platform κ) (body : τ) (engine : Engine κ τ) :
    Except Failure Unit × Engine κ τ :=
  engine.submitTask platform (.job body)

/-- Ask for shutdown through a handle: the next cycle will see it. -/
def requestShutdown (platform : Platform κ) (engine : Engine κ τ) : Engine κ τ :=
  { engine with inbox := engine.inbox.close }.wake platform

end CompletionEngine.Engine
