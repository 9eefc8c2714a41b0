import CompletionEngine.Engine.Staging

/-!
# Steps

An engine moves in small steps, each of which takes the next frame and does what it says. Steps end
when it is a caller's turn, or at a fault.

A cycle runs the tasks of other threads, arms the wake-up poll, pushes what is staged, enters the
kernel once and delivers what came back. A shutdown waits until the batch in hand is delivered, runs
what is queued, waits for operations in flight for a while, gives the ring up, and only then fails
what is left, since the kernel may write into the memory of an operation as long as it has the ring.

A worker runs cycles, each waiting for the configured time, until somebody shuts the engine down or
a cycle fails, which shuts it down too.
-/

namespace CompletionEngine.Engine

variable {κ τ : Type}

/-- Leave a batch in hand. A shutdown that waited for the outermost one goes on now. -/
def endDispatch (outer : Bool) (engine : Engine κ τ) : Engine κ τ :=
  let engine := { engine with dispatching := outer }
  if !outer && engine.shutdownDeferred then
    { engine with shutdownDeferred := false }.next .emptyInbox
  else
    engine

/-- Close the engine and begin to shut down, once the batch in hand is delivered. -/
def shutdown (engine : Engine κ τ) : Engine κ τ :=
  if engine.closed then engine
  else
    let engine := { engine with closed := true, inbox := engine.inbox.close }
    if engine.dispatching then
      { engine with shutdownDeferred := true }
    else
      engine.next .emptyInbox

/-- Take what the kernel completed in hand, and deliver it. -/
def reap (platform : Platform κ) (engine : Engine κ τ) : Engine κ τ :=
  let (batch, world) := platform.ring.drain engine.world
  ({ engine with world := world, dispatching := true }.log (.drained batch)).next
    (.dispatch batch 0 engine.dispatching)

/-- Begin a cycle. -/
def beginCycle (wait : Wait) (engine : Engine κ τ) : Engine κ τ :=
  engine.next (.intake (max engine.configuration.completionBatch.toNat 1) wait)

/-- Make room for a request, then stage it. -/
def beginRequest (platform : Platform κ) (request : Request τ) (engine : Engine κ τ) :
    Engine κ τ :=
  let engine' := engine.next (.stage request)
  if platform.ring.capacity engine.world < engine.staged.length + request.command.recordCount then
    engine'.flush platform
  else
    engine'

/-- Do what another thread asked for. -/
def runTask (platform : Platform κ) (task : Task τ) (engine : Engine κ τ) : Engine κ τ :=
  match task with
  | .request command promise => engine.beginRequest platform ⟨command, .promise promise⟩
  | .job body => (engine.log (.started body)).next .client

/-- Consume the signals that made the wake-up poll fire. -/
def acknowledge (platform : Platform κ) (engine : Engine κ τ) : Engine κ τ :=
  let (outcome, world) := platform.notifier.acknowledge engine.world
  { engine with
    world := world
    wakeArmed := false
    statistics.wakeups := engine.statistics.wakeups + 1 }.log (.acknowledged outcome)

/-- Deliver one completion to the operation it belongs to. -/
def dispatchOne (platform : Platform κ) (record : CompletionRecord) (engine : Engine κ τ) :
    Except Fault (Engine κ τ) := do
  let (reference, engine) ← engine.resolveTag (tagOfCompletion record.userData)
  { engine with statistics.completed := engine.statistics.completed + 1 }.completeSlot platform
    reference record

/-- Fail the operation of one record that the ring refused. -/
def refuseOne (record : SubmitRecord) (failure : Failure) (engine : Engine κ τ) :
    Except Fault (Engine κ τ) := do
  let (reference, engine) ← engine.resolveTag record.userData.toUInt32
  engine.abortSlot reference failure

/-- Wait in the kernel, then take what it completed in hand. -/
def enterKernel (platform : Platform κ) (wait : Wait) (engine : Engine κ τ) : Engine κ τ :=
  let want := if engine.tags.isEmpty && !engine.wakeArmed then 0 else 1
  let (outcome, world) := platform.ring.submitAndWait want wait engine.world
  let engine := { engine with world := world }.log (.waited want wait outcome)
  match outcome with
  | .error error => { engine with answer := .error error }
  | .ok _ => engine.reap platform

/-- Give the ring up and take what is still in flight in hand. -/
def releaseRing (platform : Platform κ) (engine : Engine κ τ) : Engine κ τ :=
  let (leftovers, tags) := engine.tags.drain
  ({ engine with
    world := platform.ring.release engine.world
    staged := []
    wakeArmed := false
    tags := tags }.log .released).next (.fail leftovers)

/-- Do what a frame says, on an engine that has the frame no more. -/
def runFrame (platform : Platform κ) (frame : Frame τ) (engine : Engine κ τ) : Engine κ τ :=
  match frame with
  | .client => engine.next .client
  | .stage request => engine.orRaise (engine.stageRequest platform request)
  | .intake 0 wait => engine.next (.observe wait)
  | .intake (remaining + 1) wait =>
    match engine.inbox.pop? with
    | none => engine.next (.observe wait)
    | some (task, inbox) =>
      ({ engine with inbox := inbox }.next (.intake remaining wait)).runTask platform task
  | .observe wait =>
    let engine := engine.next (.arm wait)
    if engine.inbox.closed then engine.shutdown else engine
  | .arm wait =>
    if engine.isFinished then { engine with answer := .ok 0 }
    else ((engine.armWake platform).next (.enter wait)).flush platform
  | .enter wait =>
    if engine.isFinished then { engine with answer := .ok 0 } else engine.enterKernel platform wait
  | .dispatch [] delivered outer => (engine.next (.report delivered)).endDispatch outer
  | .dispatch (record :: rest) delivered outer =>
    if record.userData = wakeUserData then
      (engine.next (.dispatch rest delivered outer)).acknowledge platform
    else
      let engine := engine.next (.dispatch rest (delivered + 1) outer)
      engine.orRaise (engine.dispatchOne platform record)
  | .report delivered => { engine with answer := .ok delivered }
  | .refuse [] _ outer => engine.endDispatch outer
  | .refuse (record :: rest) failure outer =>
    let engine := engine.next (.refuse rest failure outer)
    if record.userData = wakeUserData then { engine with wakeArmed := false }
    else engine.orRaise (engine.refuseOne record failure)
  | .emptyInbox =>
    match engine.inbox.pop? with
    | some (task, inbox) => ({ engine with inbox := inbox }.next .emptyInbox).runTask platform task
    | none =>
      let limit := engine.configuration.shutdownDrain
      engine.next (.drain (platform.now engine.world + limit.nanos.toNat))
  | .drain deadline =>
    let now := platform.now engine.world
    if engine.tags.isEmpty || deadline ≤ now then engine.next .lastReap
    else
      let left := UInt64.ofNat (min (deadline - now) (UInt64.size - 1))
      (engine.next (.drained deadline)).beginCycle (.drain ⟨left⟩)
  | .drained deadline =>
    match engine.answer with
    | .error _ => engine.next .lastReap
    | .ok _ => engine.next (.drain deadline)
  | .lastReap => (engine.next .release).reap platform
  | .release => engine.releaseRing platform
  | .fail [] => { engine with pools := engine.pools.clear, terminated := true }.log .terminated
  | .fail ((_, reference) :: rest) =>
    let engine :=
      { engine with statistics.synthesized := engine.statistics.synthesized + 1 }.next (.fail rest)
    engine.orRaise (engine.abortSlot reference .closed)
  | .work =>
    if engine.closed then engine
    else (engine.next .worked).beginCycle (.caller (some engine.configuration.waitLimit))
  | .worked =>
    match engine.answer with
    | .error _ => engine.shutdown
    | .ok _ => engine.next .work

/-- One step of an engine, which rests while it is a caller's turn. -/
def step (platform : Platform κ) (engine : Engine κ τ) : Engine κ τ :=
  if engine.awaitsCaller then engine
  else match engine.frames with
    | [] => engine
    | frame :: rest => { engine with frames := rest }.runFrame platform frame

/-- Let an engine step until something holds or it is a caller's turn, at most `fuel` times. -/
def runUntil (platform : Platform κ) (holds : Engine κ τ → Bool) : Nat → Engine κ τ → Engine κ τ
  | 0, engine => engine
  | fuel + 1, engine =>
    if holds engine || engine.awaitsCaller then engine
    else runUntil platform holds fuel (engine.step platform)

/-- Let an engine step until it is a caller's turn, at most `fuel` times. -/
def run (platform : Platform κ) : Nat → Engine κ τ → Engine κ τ
  | 0, engine => engine
  | fuel + 1, engine =>
    if engine.awaitsCaller then engine else run platform fuel (engine.step platform)

end CompletionEngine.Engine
