import CompletionEngine.Address.Block
import CompletionEngine.Descriptor
import CompletionEngine.ErrorNumber

/-!
# Socket calls

The system calls that finish a socket once the ring has created it. A system is any state with
these five calls on it; each may fail with any error number. The number is the one that the program
reads after the call: the last error of its thread, where numbers that its table of errors does not
list read as 0.
-/

namespace CompletionEngine

/-- The socket calls of a system whose state is `σ`. -/
structure SocketCalls (σ : Type) where
  /-- Switch an option on. -/
  setOption : Descriptor → NativeOption → σ → Except ErrorNumber Unit × σ
  /-- Bind to the address in a block. -/
  bind : Descriptor → AddressBlock → σ → Except ErrorNumber Unit × σ
  /-- Listen with a backlog. -/
  listen : Descriptor → Int32 → σ → Except ErrorNumber Unit × σ
  /-- The bound address, written into a block. -/
  boundAddress : Descriptor → AddressBlock → σ → Except ErrorNumber AddressBlock × σ
  /-- Close a descriptor. Its failure would change nothing, so none is told. -/
  close : Descriptor → σ → σ

/-- Socket calls on part of a larger state. -/
def SocketCalls.lift {σ κ : Type} (calls : SocketCalls σ) (get : κ → σ) (set : σ → κ → κ) :
    SocketCalls κ where
  setOption socket option state :=
    let (outcome, part) := calls.setOption socket option (get state)
    (outcome, set part state)
  bind socket block state :=
    let (outcome, part) := calls.bind socket block (get state)
    (outcome, set part state)
  listen socket backlog state :=
    let (outcome, part) := calls.listen socket backlog (get state)
    (outcome, set part state)
  boundAddress socket block state :=
    let (outcome, part) := calls.boundAddress socket block (get state)
    (outcome, set part state)
  close socket state := set (calls.close socket (get state)) state

end CompletionEngine
