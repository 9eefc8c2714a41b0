import CompletionEngine.Engine.State

/-!
# Delivery

How an operation ends: its entry gives out the continuation with the result, the slot is given back,
and only then the continuation is called, so that the code it enters finds the engine ready for
anything.
-/

namespace CompletionEngine.Engine

variable {κ τ : Type}

/-- Hand an outcome to the continuation that awaits it. -/
def deliver (continuation : Option (Continuation τ)) (outcome : Outcome) (engine : Engine κ τ) :
    Engine κ τ :=
  match continuation with
  | none => engine
  | some (.caller label) => (engine.log (.called label outcome)).next .client
  | some (.promise label) => engine.log (.settled label outcome)
  | some .guard =>
    { engine.log (.guarded outcome) with
      statistics := engine.statistics.recordGuard outcome }

/-- End an operation with a kernel completion. -/
def completeSlot (platform : Platform κ) (reference : SlotRef) (record : CompletionRecord)
    (engine : Engine κ τ) : Except Fault (Engine κ τ) := do
  let ((completion, world), engine) ← engine.modifyEntry reference fun entry => do
    let (completion, entry, world) ← (entry.receive record.written).complete platform.sockets
      (platform.now engine.world) record.result engine.world
    .ok ((completion, world), entry)
  let engine ← releaseSlot reference { engine with world := world }
  .ok (engine.deliver completion.continuation ⟨reference.kind, completion.result⟩)

/-- End an operation with a failure of the engine's own. -/
def abortSlot (reference : SlotRef) (failure : Failure) (engine : Engine κ τ) :
    Except Fault (Engine κ τ) := do
  let (completion, engine) ← engine.modifyEntry reference (·.abort failure)
  let engine ← engine.releaseSlot reference
  .ok (engine.deliver completion.continuation ⟨reference.kind, completion.result⟩)

/-- Free a tag and tell which slot it stood for. -/
def resolveTag (tag : UInt32) (engine : Engine κ τ) : Except Fault (SlotRef × Engine κ τ) := do
  let (reference, tags) ← engine.tags.resolve tag
  .ok (reference, { engine with tags := tags })

/-- The tag in a completion's user data. What is too large for a tag becomes the largest. -/
def tagOfCompletion (userData : UInt64) : UInt32 :=
  if userData.toNat < UInt32.size then userData.toUInt32 else UInt32.ofNat (UInt32.size - 1)

end CompletionEngine.Engine
