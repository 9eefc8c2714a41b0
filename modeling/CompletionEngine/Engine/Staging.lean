import CompletionEngine.Engine.Delivery

/-!
# Staging

A request is allocated a slot, prepared, registered under a tag, rendered, and staged for the next
push; with a time limit, so is the guard right behind it. Whatever fails before the staging goes to
the continuation at once and leaves nothing behind. A push that the ring refuses, even after what was
queued before has been handed over, fails every operation it holds.
-/

namespace CompletionEngine.Engine

variable {κ τ : Type}

/-- Allocate a slot of a kind. -/
def allocSlot (kind : Kind) (engine : Engine κ τ) : Except Failure SlotRef × Engine κ τ :=
  let (slot, pool) := (engine.pools.get kind).alloc
  (slot.map fun slot => ⟨kind, slot⟩, { engine with pools := engine.pools.set kind pool })

/-- Prepare the entry in a slot, with a heap for the memory that it lacks. -/
def prepareSlot (platform : Platform κ) (reference : SlotRef) (params : reference.kind.Params)
    (continuation : Continuation τ) (engine : Engine κ τ) :
    Except Fault (Except Failure Unit × Engine κ τ) :=
  { engine with pools := engine.pools.growHeap }.modifyEntry reference
    (Entry.prepare ⟨platform.now engine.world, engine.pools.heap⟩ params continuation)

/-- Register a slot under a tag, and give its entry the tag. -/
def registerSlot (reference : SlotRef) (engine : Engine κ τ) :
    Except Fault (UInt32 × Engine κ τ) := do
  let (tag, tags) := engine.tags.register reference
  let ((), engine) ← { engine with tags := tags }.modifyEntry reference fun entry =>
    .ok ((), entry.assignTag tag)
  .ok (tag, engine)

/-- Render the entry in a slot, count it as submitted and stage its record. -/
def stageSlot (reference : SlotRef) (engine : Engine κ τ) : Except Fault (Engine κ τ) := do
  let (record, engine) ← engine.modifyEntry reference fun entry => do
    let record := entry.render .blank
    .ok (record, ← entry.markSubmitted)
  .ok { engine with staged := engine.staged ++ [record] }

/-- Allocate, prepare and register a timeout guard. -/
def prepareGuard (platform : Platform κ) (limit : TimeLimit) (engine : Engine κ τ) :
    Except Fault (Except Failure SlotRef × Engine κ τ) := do
  match engine.allocSlot .guard with
  | (.error failure, engine) => .ok (.error failure, engine)
  | (.ok ⟨_, slot⟩, engine) =>
    let reference : SlotRef := ⟨.guard, slot⟩
    let (prepared, engine) ← engine.prepareSlot platform reference limit .guard
    match prepared with
    | .error failure => .ok (.error failure, ← engine.abortSlot reference failure)
    | .ok () =>
      let (_, engine) ← engine.registerSlot reference
      .ok (.ok reference, engine)

/-- Prepare the guard of a command that has a time limit. -/
def prepareGuard? (platform : Platform κ) (limit : Option TimeLimit) (engine : Engine κ τ) :
    Except Fault (Except Failure (Option SlotRef) × Engine κ τ) :=
  match limit with
  | none => .ok (.ok none, engine)
  | some limit => do
    let (guard, engine) ← engine.prepareGuard platform limit
    .ok (guard.map some, engine)

/-- Link a slot's entry to the guard behind it, when there is one, and stage both. -/
def stagePair (reference : SlotRef) (guard : Option SlotRef) (engine : Engine κ τ) :
    Except Fault (Engine κ τ) := do
  match guard with
  | none => engine.stageSlot reference
  | some guard =>
    let ((), engine) ← engine.modifyEntry reference fun entry => .ok ((), entry.link)
    (← engine.stageSlot reference).stageSlot guard

/-- Register and stage a request, or fail its continuation at once. -/
def stageRequest (platform : Platform κ) (request : Request τ) (engine : Engine κ τ) :
    Except Fault (Engine κ τ) := do
  let ⟨⟨kind, params, limit⟩, continuation⟩ := request
  if engine.closed then
    return engine.deliver (some continuation) ⟨kind, .error .closed⟩
  match (engine.pools.get kind).alloc with
  | (.error failure, _) => .ok (engine.deliver (some continuation) ⟨kind, .error failure⟩)
  | (.ok slot, pool) =>
    let reference : SlotRef := ⟨kind, slot⟩
    let engine := { engine with pools := engine.pools.set kind pool }
    let (prepared, engine) ← engine.prepareSlot platform reference params continuation
    match prepared with
    | .error failure => engine.abortSlot reference failure
    | .ok () =>
      let (tag, engine) ← engine.registerSlot reference
      let (guard, engine) ← engine.prepareGuard? platform limit
      match guard with
      | .error failure =>
        let (_, engine) ← engine.resolveTag tag
        engine.abortSlot reference failure
      | .ok guard =>
        let engine ← engine.stagePair reference guard
        let added := if limit.isSome then 2 else 1
        .ok { engine with statistics.submitted := engine.statistics.submitted + added }

/-- The record of the wake-up poll on a descriptor. -/
def wakeRecord (descriptor : Int32) : SubmitRecord :=
  { SubmitRecord.blank with
    opcode := .pollAdd
    descriptor := descriptor
    operationFlags := 1
    userData := wakeUserData }

/-- Stage the wake-up poll, unless it is armed already. -/
def armWake (platform : Platform κ) (engine : Engine κ τ) : Engine κ τ :=
  if engine.wakeArmed || engine.closed then engine
  else match platform.notifier.pollDescriptor engine.world with
    | none => engine
    | some descriptor =>
      { engine with
        staged := engine.staged ++ [wakeRecord descriptor]
        wakeArmed := true }

/-- Push the staged records onto the ring, once. -/
def push (platform : Platform κ) (engine : Engine κ τ) : Except RingError Unit × Engine κ τ :=
  let (outcome, world) := platform.ring.push engine.staged engine.world
  (outcome, { engine with world := world }.log (.pushed engine.staged outcome))

/-- Hand what is queued to the kernel. -/
def submit (platform : Platform κ) (engine : Engine κ τ) : Except RingError Nat × Engine κ τ :=
  let (outcome, world) := platform.ring.submit engine.world
  (outcome, { engine with world := world }.log (.submitted outcome))

/-- Push the staged records. A full ring is emptied into the kernel, and the push tried again. -/
def pushWithRoom (platform : Platform κ) (engine : Engine κ τ) :
    Except RingError Unit × Engine κ τ :=
  match engine.push platform with
  | (.error .full, engine) =>
    match engine.submit platform with
    | (.error error, engine) => (.error error, engine)
    | (.ok _, engine) => engine.push platform
  | result => result

/--
Push everything staged. When the ring refuses it, what was staged is taken in hand and failed record
by record.
-/
def flush (platform : Platform κ) (engine : Engine κ τ) : Engine κ τ :=
  if engine.staged.isEmpty then engine
  else match engine.pushWithRoom platform with
    | (.ok (), engine) => { engine with staged := [] }
    | (.error error, engine) =>
      { engine with staged := [], dispatching := true }.next
        (.refuse engine.staged error.toFailure engine.dispatching)

end CompletionEngine.Engine
