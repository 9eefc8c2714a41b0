import CompletionEngine.Document.Values
import CompletionEngine.Simulation.Script

/-!
# Scripts in documents

How scripted platforms are read from documents: rules by the names of opcodes or a star for all
others, completions to post, and errors for calls to come.
-/

namespace CompletionEngine.Simulation

instance : Readable Effects where
  read document :=
    { peer := (document.get "sockaddr" : Option Blob).map fun written =>
        let bytes := written.bytes.take 128
        (bytes, document.getD "socklen" (UInt32.ofNat bytes.length))
      status := document.get "statx"
      createsSocket := document.get "real" }

/-- The result that a reply gives: a number, or the length of the record under any text. -/
def ScriptedResult.ofDocument? : Document → Option ScriptedResult
  | .int value => some (.fixed (Int32.ofInt value))
  | .text _ => some .length
  | _ => none

/-- The reply in a document: its result alone, or a record that holds the result and effects. -/
def Reply.ofDocument? (document : Document) : Option Reply :=
  match document with
  | .record _ => some ⟨(ScriptedResult.ofDocument? (document.part "result")).getD (.fixed 0),
      read document⟩
  | _ => (ScriptedResult.ofDocument? document).map fun result => ⟨result, .none⟩

/-- The rule for the opcode with a name, or for all others under a star. -/
def Rule.ofDocument? (name : String) (reply : Document) : Option Rule :=
  if name = "*" then some ⟨none, Reply.ofDocument? reply⟩
  else (Opcode.ofName? name).map fun opcode => ⟨some opcode, Reply.ofDocument? reply⟩

/-- The rules in a document. -/
def Rule.allOf : Document → List Rule
  | .record rules => rules.filterMap fun rule => Rule.ofDocument? rule.1 rule.2
  | _ => []

instance : Readable Posting where
  read document :=
    { userData := if document.holds "wake" then wakeUserData else document.get "tag"
      result := document.get "result"
      flags := document.get "flags"
      effects := read document }

/-- The name of a call. -/
def RingCall.name : RingCall → String
  | push => "push"
  | submit => "submit"
  | enter => "enter"
  | notify => "notify"
  | acknowledge => "ack"

/-- The errors in a document, for the calls of a kind to come. -/
def RingCall.errorsOf (call : RingCall) (errors : List Document) :
    List (RingCall × Option RingError) :=
  errors.map fun error => (call, read error)

/-- The call that bears a name. -/
def RingCall.ofName? (name : String) : Option RingCall :=
  [push, submit, enter, notify, acknowledge].find? fun call => call.name = name

/-- The scripted platform of a configuration and rules. -/
def Script.ofDocument (configuration rules : Document) : Script :=
  .new (configuration.getD "capacity" 64)
    (if configuration.get "idle" = "error" then .fail else .wait) (configuration.get "poll_fd")
    (Rule.allOf rules)

/-- The descriptors of the sockets that are open, lowest first. -/
def DescriptorTable.document (table : DescriptorTable) : Document :=
  (table.sockets.map Int32.toInt).mergeSort

end CompletionEngine.Simulation
