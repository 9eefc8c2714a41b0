import CompletionEngine.Platform.Basic
import CompletionEngine.Simulation.Descriptors

/-!
# Scripted platforms

A platform that does what a script says: which records it completes at once and how, what else it
completes and when, and which calls fail. Its clock moves only while a shutdown waits in vain. With
it every course of events can be brought about, also those that a real kernel would hardly take.
-/

namespace CompletionEngine.Simulation

/-- What the kernel does besides giving a result. -/
structure Effects where
  /-- Bytes and length written to the peer's address of an accept. -/
  peer : Option (List UInt8 × UInt32)
  /-- The block written by a status query. -/
  status : Option StatusBlock
  /-- Whether a socket is created, at the descriptor that is the result. -/
  createsSocket : Bool

namespace Effects

/-- Nothing besides the result. -/
def none : Effects := ⟨.none, .none, false⟩

/-- What is written into the memory of a record. -/
def written (effects : Effects) (record : SubmitRecord) : KernelWrite :=
  match record.opcode, effects.peer, effects.status with
  | .accept, some (bytes, length), _ => .peer bytes length
  | .statx, _, some block => .status block
  | _, _, _ => .nothing

/-- The descriptors after a record has been completed with a result. -/
def onDescriptors (effects : Effects) (record : SubmitRecord) (result : Int32)
    (table : DescriptorTable) : DescriptorTable :=
  match effects.createsSocket, Socket.requested? record with
  | true, some (family, type) => table.insert result (.socket (.fresh family type))
  | _, _ => table

end Effects

/-- A result that a script gives. -/
inductive ScriptedResult where
  | fixed (result : Int32)
  /-- The length in the record. -/
  | length

/-- How a script completes a record. -/
structure Reply where
  result : ScriptedResult
  effects : Effects

/-- A rule: what it does with the records of an opcode, or with all records that no rule is for. -/
structure Rule where
  opcode : Option Opcode
  /-- Without a reply the record is left unanswered. -/
  reply : Option Reply

/-- A completion to post. -/
structure Posting where
  userData : UInt64
  result : Int32
  flags : UInt32
  effects : Effects

/-- What happens when a shutdown waits and nothing is ready. -/
inductive Idle where
  /-- The wait lasts as long as it may. -/
  | wait
  /-- The wait fails. -/
  | fail

/-- The calls that a script can let fail. -/
inductive RingCall where
  | push
  | submit
  | enter
  | notify
  | acknowledge
  deriving DecidableEq

/-- The state of a scripted platform. -/
structure Script where
  capacity : Nat
  queued : Nat
  isReleased : Bool
  rules : List Rule
  /-- Errors to come, each for the next call of its kind. Without one, the call is let through. -/
  errors : List (RingCall × Option RingError)
  /-- Completions to post, one batch for each wait. -/
  batches : List (List Posting)
  ready : List CompletionRecord
  /-- The record pushed last with each user data, as long as it is unanswered. -/
  unanswered : List SubmitRecord
  descriptors : DescriptorTable
  clock : Instant
  idle : Idle
  pollDescriptor : Option Int32

namespace Script

/-- A platform at rest. -/
def new (capacity : Nat) (idle : Idle) (pollDescriptor : Option Int32) (rules : List Rule) :
    Script where
  capacity := capacity
  queued := 0
  isReleased := false
  rules := rules
  errors := []
  batches := []
  ready := []
  unanswered := []
  descriptors := []
  clock := 0
  idle := idle
  pollDescriptor := pollDescriptor

/-- Post a completion. It answers the record pushed last with its user data. -/
def post (posting : Posting) (script : Script) : Script :=
  let completion := fun written : KernelWrite =>
    (⟨posting.userData, posting.result, posting.flags, written⟩ : CompletionRecord)
  match script.unanswered.find? (·.userData = posting.userData) with
  | none => { script with ready := script.ready ++ [completion .nothing] }
  | some record =>
    { script with
      ready := script.ready ++ [completion (posting.effects.written record)]
      unanswered := script.unanswered.filter (·.userData ≠ posting.userData)
      descriptors :=
        posting.effects.onDescriptors record posting.result script.descriptors }

/-- The reply to a record. A rule for its opcode comes before the one for all others. -/
def reply? (script : Script) (record : SubmitRecord) : Option Reply :=
  match script.rules.find? (·.opcode = some record.opcode) with
  | some rule => rule.reply
  | none => (script.rules.find? (·.opcode = none)).bind Rule.reply

/-- Take a record in, and answer it if there is a reply to it. -/
def accept (record : SubmitRecord) (script : Script) : Script :=
  let script :=
    { script with
      unanswered := record :: script.unanswered.filter (·.userData ≠ record.userData) }
  match script.reply? record with
  | none => script
  | some reply =>
    let result := match reply.result with
      | .fixed result => result
      | .length => record.length.toInt32
    script.post ⟨record.userData, result, 0, reply.effects⟩

/-- The error that the script has for a call, which is then spent. -/
def takeError (call : RingCall) (script : Script) : Option RingError × Script :=
  match script.errors.find? (·.1 = call) with
  | none => (none, script)
  | some row => (row.2, { script with errors := script.errors.eraseP (·.1 = call) })

/-- Go on with a call unless the script has an error for it. -/
def unlessError {α : Type} (call : RingCall) (script : Script)
    (action : Script → Except RingError α × Script) : Except RingError α × Script :=
  match script.takeError call with
  | (some error, script) => (.error error, script)
  | (none, script) => action script

/-- Push records. -/
def push (records : List SubmitRecord) (script : Script) : Except RingError Unit × Script :=
  script.unlessError .push fun script =>
    if script.isReleased then (.error .released, script)
    else if script.capacity < script.queued + records.length then (.error .full, script)
    else
      let script := { script with queued := script.queued + records.length }
      (.ok (), records.foldl (fun script record => script.accept record) script)

/-- Hand over what is queued. -/
def submit (script : Script) : Except RingError Nat × Script :=
  script.unlessError .submit fun script =>
    if script.isReleased then (.error .released, script)
    else (.ok script.queued, { script with queued := 0 })

/-- Post the next batch. -/
def postBatch (script : Script) : Script :=
  match script.batches with
  | [] => script
  | batch :: rest =>
    batch.foldl (fun script posting => script.post posting) { script with batches := rest }

/-- Wait with nothing ready, which takes time only on behalf of a shutdown. -/
def waitInVain (wait : Wait) (count : Nat) (script : Script) : Except RingError Nat × Script :=
  match wait, script.idle with
  | .caller _, _ => (.ok count, script)
  | .drain _, .fail => (.error (.submit ErrorNumber.timerExpired.number), script)
  | .drain limit, .wait => (.ok count, { script with clock := script.clock + limit.nanos.toNat })

/-- Hand over what is queued and wait. -/
def submitAndWait (wait : Wait) (script : Script) : Except RingError Nat × Script :=
  script.unlessError .enter fun script =>
    if script.isReleased then (.error .released, script)
    else
      let count := script.queued
      let script := { script with queued := 0 }.postBatch
      if script.ready.isEmpty then script.waitInVain wait count else (.ok count, script)

/-- The ring of a scripted platform. -/
def ring : Ring Script where
  capacity script := script.capacity
  push := push
  submit := submit
  submitAndWait _ := submitAndWait
  drain script := (script.ready, { script with ready := [] })
  release script := { script with isReleased := true, queued := 0 }

/-- The notifier of a scripted platform. -/
def notifier : Notifier Script where
  pollDescriptor script := script.pollDescriptor
  notify script := script.unlessError .notify fun script => (.ok (), script)
  acknowledge script := script.unlessError .acknowledge fun script => (.ok (), script)

/-- A scripted platform with a notifier. -/
def platform (notifier : Notifier Script) : Platform Script where
  ring := ring
  notifier := notifier
  sockets := DescriptorTable.socketCalls.lift descriptors fun table script =>
    { script with descriptors := table }
  now script := script.clock

end Script

end CompletionEngine.Simulation
