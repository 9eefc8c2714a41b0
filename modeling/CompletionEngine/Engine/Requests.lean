import CompletionEngine.Engine.Calls

/-!
# Requests

What callers ask for, by name. A request makes the command of its kind from what it is given. The
engine takes it from code on its own thread, with the code that awaits the outcome; a handle takes it
from any thread, with a promise. Neither a round trip nor a delay has a time limit; whatever else is
asked for may have one.
-/

namespace CompletionEngine

namespace Command

/-- Go through the ring and back. -/
def nop : Command := ⟨.nop, (), none⟩

/-- Sleep for some time. -/
def delay (time : TimeLimit) : Command := ⟨.delay, time, none⟩

/-- Close a descriptor. -/
def close (descriptor : Descriptor) (limit : Option TimeLimit) : Command :=
  ⟨.close, descriptor, limit⟩

/-- Read into a buffer. -/
def read (descriptor : Descriptor) (span : BufferSpan) (offset : Offset)
    (limit : Option TimeLimit) : Command :=
  ⟨.read, ⟨descriptor, span, offset⟩, limit⟩

/-- Write what a buffer holds. -/
def write (descriptor : Descriptor) (span : BufferSpan) (offset : Offset)
    (limit : Option TimeLimit) : Command :=
  ⟨.write, ⟨descriptor, span, offset⟩, limit⟩

/-- Read into several buffers. -/
def readVector (descriptor : Descriptor) (span : VectorSpan) (offset : Offset)
    (limit : Option TimeLimit) : Command :=
  ⟨.readVector, ⟨descriptor, span, offset⟩, limit⟩

/-- Write what several buffers hold. -/
def writeVector (descriptor : Descriptor) (span : VectorSpan) (offset : Offset)
    (limit : Option TimeLimit) : Command :=
  ⟨.writeVector, ⟨descriptor, span, offset⟩, limit⟩

/-- Move bytes from one descriptor to another. -/
def splice (params : SpliceParams) (limit : Option TimeLimit) : Command := ⟨.splice, params, limit⟩

/-- Open a file. -/
def opening (params : OpenParams) (limit : Option TimeLimit) : Command := ⟨.opening, params, limit⟩

/-- Create a socket. -/
def socket (params : SocketParams) (limit : Option TimeLimit) : Command := ⟨.socket, params, limit⟩

/-- Create a socket, bind it and listen on it. -/
def listen (params : ListenParams) (limit : Option TimeLimit) : Command := ⟨.listen, params, limit⟩

/-- Accept a connection. -/
def accept (socket : Descriptor) (flags : SocketFlags) (limit : Option TimeLimit) : Command :=
  ⟨.accept, (socket, flags), limit⟩

/-- Connect a socket. -/
def connect (socket : Descriptor) (address : SocketAddress) (limit : Option TimeLimit) : Command :=
  ⟨.connect, (socket, address), limit⟩

/-- Ask for the status of a file. -/
def status (params : StatusParams) (limit : Option TimeLimit) : Command := ⟨.status, params, limit⟩

end Command

variable {κ τ : Type}

/-! On the engine's own thread, the outcome of a request goes to code of the caller. -/

namespace Engine

variable (platform : Platform κ)

def nop (label : τ) (engine : Engine κ τ) : Engine κ τ := engine.request platform .nop label

def delay (time : TimeLimit) (label : τ) (engine : Engine κ τ) : Engine κ τ :=
  engine.request platform (.delay time) label

def close (descriptor : Descriptor) (limit : Option TimeLimit) (label : τ) (engine : Engine κ τ) :
    Engine κ τ :=
  engine.request platform (.close descriptor limit) label

def read (descriptor : Descriptor) (span : BufferSpan) (offset : Offset)
    (limit : Option TimeLimit) (label : τ) (engine : Engine κ τ) : Engine κ τ :=
  engine.request platform (.read descriptor span offset limit) label

def write (descriptor : Descriptor) (span : BufferSpan) (offset : Offset)
    (limit : Option TimeLimit) (label : τ) (engine : Engine κ τ) : Engine κ τ :=
  engine.request platform (.write descriptor span offset limit) label

def readVector (descriptor : Descriptor) (span : VectorSpan) (offset : Offset)
    (limit : Option TimeLimit) (label : τ) (engine : Engine κ τ) : Engine κ τ :=
  engine.request platform (.readVector descriptor span offset limit) label

def writeVector (descriptor : Descriptor) (span : VectorSpan) (offset : Offset)
    (limit : Option TimeLimit) (label : τ) (engine : Engine κ τ) : Engine κ τ :=
  engine.request platform (.writeVector descriptor span offset limit) label

def splice (params : SpliceParams) (limit : Option TimeLimit) (label : τ) (engine : Engine κ τ) :
    Engine κ τ :=
  engine.request platform (.splice params limit) label

def opening (params : OpenParams) (limit : Option TimeLimit) (label : τ) (engine : Engine κ τ) :
    Engine κ τ :=
  engine.request platform (.opening params limit) label

def socket (params : SocketParams) (limit : Option TimeLimit) (label : τ) (engine : Engine κ τ) :
    Engine κ τ :=
  engine.request platform (.socket params limit) label

def listen (params : ListenParams) (limit : Option TimeLimit) (label : τ) (engine : Engine κ τ) :
    Engine κ τ :=
  engine.request platform (.listen params limit) label

def accept (socket : Descriptor) (flags : SocketFlags) (limit : Option TimeLimit) (label : τ)
    (engine : Engine κ τ) : Engine κ τ :=
  engine.request platform (.accept socket flags limit) label

def connect (socket : Descriptor) (address : SocketAddress) (limit : Option TimeLimit) (label : τ)
    (engine : Engine κ τ) : Engine κ τ :=
  engine.request platform (.connect socket address limit) label

def status (params : StatusParams) (limit : Option TimeLimit) (label : τ) (engine : Engine κ τ) :
    Engine κ τ :=
  engine.request platform (.status params limit) label

end Engine

/-! Through a handle, it resolves a promise. -/

namespace Handle

variable (platform : Platform κ)

def nop (promise : τ) (engine : Engine κ τ) : Engine κ τ :=
  engine.submitCommand platform .nop promise

def delay (time : TimeLimit) (promise : τ) (engine : Engine κ τ) : Engine κ τ :=
  engine.submitCommand platform (.delay time) promise

def close (descriptor : Descriptor) (limit : Option TimeLimit) (promise : τ)
    (engine : Engine κ τ) : Engine κ τ :=
  engine.submitCommand platform (.close descriptor limit) promise

def read (descriptor : Descriptor) (span : BufferSpan) (offset : Offset)
    (limit : Option TimeLimit) (promise : τ) (engine : Engine κ τ) : Engine κ τ :=
  engine.submitCommand platform (.read descriptor span offset limit) promise

def write (descriptor : Descriptor) (span : BufferSpan) (offset : Offset)
    (limit : Option TimeLimit) (promise : τ) (engine : Engine κ τ) : Engine κ τ :=
  engine.submitCommand platform (.write descriptor span offset limit) promise

def readVector (descriptor : Descriptor) (span : VectorSpan) (offset : Offset)
    (limit : Option TimeLimit) (promise : τ) (engine : Engine κ τ) : Engine κ τ :=
  engine.submitCommand platform (.readVector descriptor span offset limit) promise

def writeVector (descriptor : Descriptor) (span : VectorSpan) (offset : Offset)
    (limit : Option TimeLimit) (promise : τ) (engine : Engine κ τ) : Engine κ τ :=
  engine.submitCommand platform (.writeVector descriptor span offset limit) promise

def splice (params : SpliceParams) (limit : Option TimeLimit) (promise : τ)
    (engine : Engine κ τ) : Engine κ τ :=
  engine.submitCommand platform (.splice params limit) promise

def opening (params : OpenParams) (limit : Option TimeLimit) (promise : τ)
    (engine : Engine κ τ) : Engine κ τ :=
  engine.submitCommand platform (.opening params limit) promise

def socket (params : SocketParams) (limit : Option TimeLimit) (promise : τ)
    (engine : Engine κ τ) : Engine κ τ :=
  engine.submitCommand platform (.socket params limit) promise

def listen (params : ListenParams) (limit : Option TimeLimit) (promise : τ)
    (engine : Engine κ τ) : Engine κ τ :=
  engine.submitCommand platform (.listen params limit) promise

def accept (socket : Descriptor) (flags : SocketFlags) (limit : Option TimeLimit) (promise : τ)
    (engine : Engine κ τ) : Engine κ τ :=
  engine.submitCommand platform (.accept socket flags limit) promise

def connect (socket : Descriptor) (address : SocketAddress) (limit : Option TimeLimit)
    (promise : τ) (engine : Engine κ τ) : Engine κ τ :=
  engine.submitCommand platform (.connect socket address limit) promise

def status (params : StatusParams) (limit : Option TimeLimit) (promise : τ)
    (engine : Engine κ τ) : Engine κ τ :=
  engine.submitCommand platform (.status params limit) promise

end Handle

end CompletionEngine
