/-!
# Operation kinds

The closed set of things the engine can ask the kernel to do. A registered operation carries its
kind, so that its completion finds the pool that holds it.
-/

namespace CompletionEngine

/-- What an operation does. -/
inductive Kind where
  | nop
  | delay
  | guard
  | close
  | read
  | write
  | readVector
  | writeVector
  | splice
  | opening
  | socket
  | listen
  | accept
  | connect
  | status
  deriving DecidableEq

namespace Kind

/-- Every kind, in the order of the pools. -/
def all : List Kind :=
  [nop, delay, guard, close, read, write, readVector, writeVector, splice, opening, socket, listen,
    accept, connect, status]

/-- The name of a kind in messages. -/
def name : Kind → String
  | nop => "nop"
  | delay => "delay"
  | guard => "timeout-guard"
  | close => "close"
  | read => "read"
  | write => "write"
  | readVector => "read-vector"
  | writeVector => "write-vector"
  | splice => "splice"
  | opening => "open"
  | socket => "socket"
  | listen => "listen"
  | accept => "accept"
  | connect => "connect"
  | status => "stat"

/-- The name of a kind in diagnostics. -/
def debugText : Kind → String
  | nop => "Nop"
  | delay => "Delay"
  | guard => "TimeoutGuard"
  | close => "Close"
  | read => "Read"
  | write => "Write"
  | readVector => "ReadVector"
  | writeVector => "WriteVector"
  | splice => "Splice"
  | opening => "Open"
  | socket => "Socket"
  | listen => "Listen"
  | accept => "Accept"
  | connect => "Connect"
  | status => "Stat"

/-- The kind that bears a name. -/
def ofName? (name : String) : Option Kind := all.find? fun kind => kind.name = name

/-- Whether callers may put a time limit on operations of this kind. -/
def isLimitable : Kind → Bool
  | nop | delay | guard => false
  | _ => true

end Kind

end CompletionEngine
