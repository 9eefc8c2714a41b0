import CompletionEngine.ErrorNumber
import CompletionEngine.Operation.Kind
import CompletionEngine.Text.Quoted

/-!
# Failures

`Failure` says why an operation did not succeed; it reaches the caller through the operation's own
continuation. `RingError` is an error of the ring itself, and `Fault` a broken promise between the
parts of the engine: an operation used out of turn, a tag nobody holds, a slot that does not exist or
one given back twice.
-/

namespace CompletionEngine

/-- Something bounded that ran out while a request was accepted. -/
inductive Resource where
  /-- The pool with a name is at its ceiling. -/
  | pool (name : String)
  /-- The submission queue stayed full after its records were handed over. -/
  | submissionQueue
  /-- The queue of requests from other threads is full. -/
  | requestQueue
  /-- Native memory. -/
  | memory
  deriving DecidableEq

namespace Resource

/-- The resource as people read it. -/
def message : Resource → String
  | pool name => name ++ " exchange pool"
  | submissionQueue => "submission queue"
  | requestQueue => "request queue"
  | memory => "native memory"

/-- The resource as diagnostics show it. -/
def debugText : Resource → String
  | pool name => "ExchangePool(" ++ Text.quoted name ++ ")"
  | submissionQueue => "SubmissionQueue"
  | requestQueue => "RequestQueue"
  | memory => "Memory"

end Resource

/-- Why an operation did not succeed. -/
inductive Failure where
  /-- The kernel completed the operation with an error. -/
  | native (error : ErrorNumber)
  /-- The engine was shut down before the request was handled, or while it was. -/
  | closed
  /-- A bounded resource ran out, and the request never reached the kernel. -/
  | exhausted (resource : Resource)
  /-- The kernel could never accept the parameters. -/
  | invalidInput (reason : String)
  deriving DecidableEq

namespace Failure

/-- The failure of a raw completion result. -/
def ofResult (result : Int32) : Failure := native (.ofResult result)

/-- The error number, when the kernel gave one. -/
def errorNumber? : Failure → Option ErrorNumber
  | native error => some error
  | _ => none

/-- Whether the kernel cancelled the operation. -/
def isCancelled (failure : Failure) : Bool := failure.errorNumber? = some .cancelled

/-- Whether the operation ran out of time. -/
def isTimedOut (failure : Failure) : Bool :=
  failure.errorNumber? = some .timerExpired || failure.errorNumber? = some .timedOut

/-- The failure as people read it. -/
def message : Failure → String
  | native error => error.message
  | closed => "proactor is closed"
  | exhausted resource => resource.message ++ " exhausted"
  | invalidInput reason => "invalid input: " ++ reason

/-- The failure as diagnostics show it. -/
def debugText : Failure → String
  | native error => "Native(" ++ error.debugText ++ ")"
  | closed => "Closed"
  | exhausted resource => "Exhausted(" ++ resource.debugText ++ ")"
  | invalidInput reason => "InvalidInput(" ++ Text.quoted reason ++ ")"

/-- A path holds a NUL byte, which would end it early. -/
def pathHoldsNul : Failure := invalidInput "path contains an interior NUL byte"

/-- A buffer is empty or longer than a 32-bit length can say. -/
def bufferSize : Failure := invalidInput "buffer size must be in 1..=u32::MAX"

/-- A buffer is to be aligned to something other than a power of two. -/
def bufferAlignment : Failure := invalidInput "buffer alignment must be a power of two"

/-- A status query completed although it was never prepared. -/
def noStatusBlock : Failure := invalidInput "stat completed without a result buffer"

/-- A listen completed although it was never prepared. -/
def noListenParameters : Failure := invalidInput "listen completed without parameters"

end Failure

/-- An error of the ring itself. Its numbers are kept as the system gave them. -/
inductive RingError where
  /-- The submission queue cannot take the records. -/
  | full
  /-- The ring could not be set up. -/
  | setup (number : Int32)
  /-- Entering the kernel failed. -/
  | submit (number : Int32)
  /-- The ring has been released. -/
  | released
  /-- Another system call failed. -/
  | system (number : Int32)
  deriving DecidableEq

namespace RingError

/-- The error as people read it. -/
def message : RingError → String
  | full => "ring full"
  | setup number => "io_uring setup: errno " ++ toString number.toInt
  | submit number => "io_uring submit: errno " ++ toString number.toInt
  | released => "ring released"
  | system number => "OS error: errno " ++ toString number.toInt

/-- The error as diagnostics show it. -/
def debugText : RingError → String
  | full => "RingFull"
  | setup number => "Setup(" ++ toString number.toInt ++ ")"
  | submit number => "Submit(" ++ toString number.toInt ++ ")"
  | released => "Closed"
  | system number => "Os(" ++ toString number.toInt ++ ")"

/-- The number to report for a system error, which may come without one. -/
def numberOf (reported : Option Int32) : Int32 := reported.getD (-1)

/-- What an operation fails with when the ring refuses its record. -/
def toFailure : RingError → Failure
  | full => .exhausted .submissionQueue
  | released => .closed
  | setup number | submit number | system number => .ofResult number

end RingError

/-- Where an operation stands between being asked for and being delivered. -/
inductive EntryState where
  | free
  | prepared
  | submitted
  | completed
  deriving DecidableEq

/-- The name of a state in messages. -/
def EntryState.name : EntryState → String
  | free => "Free"
  | prepared => "Prepared"
  | submitted => "Submitted"
  | completed => "Completed"

/-- A step of an operation that only some states allow. -/
inductive EntryAction where
  | prepare
  | submit
  | complete
  | abort
  | close
  deriving DecidableEq

/-- The name of an action in messages. -/
def EntryAction.name : EntryAction → String
  | prepare => "prepare"
  | submit => "submit"
  | complete => "complete"
  | abort => "abort"
  | close => "close"

/-- A broken promise between the parts of the engine. -/
inductive Fault where
  /-- An operation was used out of turn. -/
  | outOfTurn (kind : Kind) (action : EntryAction) (state : EntryState)
  /-- A completion bears a tag that nothing is registered under. -/
  | unknownTag (tag : UInt32)
  /-- A slot lies outside its pool. -/
  | slotOutOfRange (length index : Nat)
  /-- A slot is given back that is free already. -/
  | releasedTwice (kind : Kind) (slot : UInt32)
  /-- Code of a caller broke off. -/
  | callerBroke
  deriving DecidableEq

/-- The fault in words. -/
def Fault.message : Fault → String
  | outOfTurn kind action state => kind.name ++ " entry: " ++ action.name ++ " while " ++ state.name
  | unknownTag tag => "completion registry: unknown tag " ++ toString tag.toNat
  | slotOutOfRange length index =>
    "index out of bounds: the len is " ++ toString length ++ " but the index is " ++ toString index
  | releasedTwice kind slot =>
    kind.name ++ " slot " ++ toString slot.toNat ++ " released twice"
  | callerBroke => "caller broke off"

end CompletionEngine
