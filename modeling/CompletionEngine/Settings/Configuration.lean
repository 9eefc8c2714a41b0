import CompletionEngine.Settings.Variable
import CompletionEngine.Time.Limit

/-!
# Configuration

The settings of an engine: defaults, overridden by environment variables, each field by its own
variable only. A variable that is unset or unreadable leaves the default in force.
-/

namespace CompletionEngine

/-- The sizes a ring is set up with. -/
structure RingSize where
  submissions : UInt32
  /-- Without one, the kernel takes twice the submissions. -/
  completions : Option UInt32

/-- The sizes of a ring when nothing is said about them. -/
def RingSize.default : RingSize := ⟨256, none⟩

/-- The settings of an engine. -/
structure Configuration where
  ring : RingSize
  /-- The most requests of other threads that may wait. -/
  inboxCapacity : UInt64
  /-- The most entries a pool may grow to. -/
  poolCeiling : Option UInt64
  /-- The most requests of other threads taken up in one cycle, and the completions reserved. -/
  completionBatch : UInt64
  /-- How long a worker waits in the kernel at a time. -/
  waitLimit : TimeLimit
  /-- How long a shutdown waits for operations in flight. -/
  shutdownDrain : TimeLimit
  /-- Whether other threads can wake the engine through a poll. -/
  wakePoll : Bool

namespace Configuration

/-- The settings when nothing is said about them. -/
def default : Configuration where
  ring := .default
  inboxCapacity := 4096
  poolCeiling := none
  completionBatch := 256
  waitLimit := .ofMillis 100
  shutdownDrain := .ofSeconds 1
  wakePoll := true

/-- The settings of an environment. -/
def ofEnvironment (environment : Environment) : Configuration :=
  let word32? (name : String) : Option UInt32 :=
    (environment.integer? (.unsigned 32) name).map fun value => UInt32.ofNat value.toNat
  let word64? (name : String) : Option UInt64 :=
    (environment.integer? (.unsigned 64) name).map fun value => UInt64.ofNat value.toNat
  { ring :=
      { submissions := (word32? "PROACTOR_SQ_ENTRIES").getD default.ring.submissions
        completions := (word32? "PROACTOR_CQ_ENTRIES").or default.ring.completions }
    inboxCapacity := (word64? "PROACTOR_INBOX_CAPACITY").getD default.inboxCapacity
    poolCeiling := (word64? "PROACTOR_POOL_CEILING").or default.poolCeiling
    completionBatch := (word64? "PROACTOR_COMPLETION_BATCH").getD default.completionBatch
    waitLimit := ((word64? "PROACTOR_WAIT_TIMEOUT_MS").map .ofMillis).getD default.waitLimit
    shutdownDrain :=
      ((word64? "PROACTOR_SHUTDOWN_DRAIN_MS").map .ofMillis).getD default.shutdownDrain
    wakePoll := environment.switch "PROACTOR_WAKE_POLL" default.wakePoll }

end Configuration

end CompletionEngine
