import CompletionEngine.Operation.Basic

/-!
# Timers

A delay succeeds when its timer runs out, which the kernel reports as an error. A guard is a timer
linked to the operation before it: either it fires and the kernel cancels that operation, or the
operation ends first and the guard is disarmed. Both keep their time specification for the next
operation of their kind.
-/

namespace CompletionEngine

/-- The native parameters of a delay. -/
structure DelayPayload where
  spec : Option (Owned TimeSpec)
  started : Option Instant

/-- The time that a delay took, in nanoseconds. -/
abbrev Elapsed := Nat

/-- How a timeout guard ended. -/
inductive Expiry where
  /-- The guard ran out, and the kernel cancelled the operation it guarded. -/
  | fired
  /-- The guarded operation ended first. -/
  | disarmed
  deriving DecidableEq

/-- The name of an ending in diagnostics. -/
def Expiry.debugText : Expiry → String
  | fired => "Fired"
  | disarmed => "Disarmed"

/-- Set a time specification, making its block from a heap when there is none. -/
def setTimeSpec (heap : Heap) (limit : TimeLimit) (spec : Option (Owned TimeSpec)) :
    Option (Owned TimeSpec) :=
  some ((spec.getD ⟨heap.place, .zero⟩).map (·.set limit))

/-- How a guard ended, as its raw result tells it. -/
def Expiry.ofResult (result : Int32) : Except Failure Expiry :=
  if -result = 62 then .ok fired
  else if -result = 0 ∨ -result = 125 ∨ -result = 2 ∨ -result = 114 then .ok disarmed
  else .error (.ofResult result)

namespace Operation

/-- Wait for some time. -/
def delay : Operation where
  Params := TimeLimit
  Output := Elapsed
  Payload := DelayPayload
  fresh := ⟨none, none⟩
  prepare now limit payload := .ok ⟨setTimeSpec now.heap limit payload.spec, some now.time⟩
  fill payload record :=
    { record with
      opcode := .timeout
      address := .ofBlock? .timeSpec payload.spec
      offset := 0 }
  receive _ payload := payload
  translate _ now result payload system :=
    let elapsed := match payload.started with
      | some started => now - started
      | none => 0
    (if 0 ≤ result ∨ result = -62 then .ok elapsed else .error (.ofResult result), payload, system)
  recycle payload := { payload with started := none }
  dispose _ := ⟨none, none⟩

/-- Bound the operation before by a time limit. -/
def guard : Operation where
  Params := TimeLimit
  Output := Expiry
  Payload := Option (Owned TimeSpec)
  fresh := none
  prepare now limit payload := .ok (setTimeSpec now.heap limit payload)
  fill payload record :=
    { record with opcode := .linkTimeout, address := .ofBlock? .timeSpec payload }
  receive _ payload := payload
  translate _ _ result payload system := (Expiry.ofResult result, payload, system)
  recycle payload := payload
  dispose _ := none

end Operation

end CompletionEngine
