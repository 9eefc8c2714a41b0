import CompletionEngine.Engine.Step
import CompletionEngine.Proofs.Engine.Books

/-!
# How operations end

Whatever ends an operation takes it off the books before its continuation is called. So the code
that is entered finds the books in order, with the operation's tag and slot free again.
-/

namespace CompletionEngine

variable {κ τ : Type}

namespace Continuation

/-- What the journal says when an outcome reaches a continuation. -/
def event (continuation : Continuation τ) (outcome : Outcome) : Event τ :=
  match continuation with
  | .caller label => .called label outcome
  | .promise label => .settled label outcome
  | .guard => .guarded outcome

/-- What is to be done first once an outcome has reached a continuation. -/
def frames (continuation : Continuation τ) : List (Frame τ) :=
  match continuation with
  | .caller _ => [.client]
  | .promise _ | .guard => []

/-- The counts after an outcome has reached a continuation. -/
def account (continuation : Continuation τ) (outcome : Outcome) (statistics : Statistics) :
    Statistics :=
  match continuation with
  | .caller _ | .promise _ => statistics
  | .guard => statistics.recordGuard outcome

end Continuation

/-- Delivering an outcome writes one event, and enters the code of a caller. -/
theorem Engine.deliver_some (continuation : Continuation τ) (outcome : Outcome)
    (engine : Engine κ τ) :
    engine.deliver (some continuation) outcome =
      { engine with
        journal := continuation.event outcome :: engine.journal
        frames := continuation.frames ++ engine.frames
        statistics := continuation.account outcome engine.statistics } := by
  cases continuation <;> rfl

/-- What a completion means to the operation it belongs to, and the platform after that has been
found out. -/
def Grip.outcome {γ : Type} (platform : Platform κ) (record : CompletionRecord) (world : κ)
    (grip : Grip γ) : Outcome × κ :=
  let operation := grip.reference.kind.operation
  let translated := operation.translate platform.sockets (platform.now world) record.result
    (operation.receive record.written grip.entry.payload) world
  (⟨grip.reference.kind, translated.1⟩, translated.2.2)

namespace Books

variable (engine : Engine κ τ) {flights : Multiset (Flight τ)}
  {hand : Multiset (Grip (Continuation τ))} {grip : Grip (Continuation τ)} {flight : Flight τ}

theorem abort (books : Books engine.pools engine.tags flights (grip ::ₘ hand))
    (pending : grip.entry.state = .prepared ∨ grip.entry.state = .submitted) (failure : Failure) :
    ∃ pools, engine.abortSlot grip.reference failure =
        .ok ({ engine with pools := pools }.deliver grip.entry.continuation
          ⟨grip.reference.kind, .error failure⟩) ∧
      Books pools engine.tags flights hand := by
  rcases grip with ⟨⟨kind, slot⟩, entry⟩
  rcases books.modify_hand engine (·.abort failure) (Entry.abort_of_pending pending failure) with
    ⟨pools, modified, inHand⟩
  rcases inHand.release { engine with pools := pools } rfl with ⟨released, releases, after⟩
  refine ⟨released, ?_, after⟩
  simp only [Engine.abortSlot, modified, releases, bind, Except.bind]

theorem complete (books : Books engine.pools engine.tags flights (grip ::ₘ hand))
    (submitted : grip.entry.state = .submitted) (platform : Platform κ)
    (record : CompletionRecord) :
    ∃ pools, engine.completeSlot platform grip.reference record =
        .ok ({ engine with
            pools := pools
            world := (grip.outcome platform record engine.world).2 }.deliver
          grip.entry.continuation (grip.outcome platform record engine.world).1) ∧
      Books pools engine.tags flights hand := by
  rcases grip with ⟨⟨kind, slot⟩, entry⟩
  change Entry kind (Continuation τ) at entry
  rcases translated : kind.operation.translate platform.sockets (platform.now engine.world)
    record.result (kind.operation.receive record.written entry.payload) engine.world with
    ⟨result, payload, world⟩
  have outcome : Grip.outcome platform record engine.world ⟨⟨kind, slot⟩, entry⟩ =
      (⟨kind, result⟩, world) := by
    simp only [Grip.outcome, translated]
  have completes := (entry.receive record.written).complete_of_submitted submitted
    platform.sockets (platform.now engine.world) record.result engine.world
  simp only [Entry.receive, translated, Entry.finish] at completes
  rcases books.modify_hand engine (fun entry => do
      let (completion, entry, world) ← (entry.receive record.written).complete platform.sockets
        (platform.now engine.world) record.result engine.world
      .ok ((completion, world), entry))
      (by simp only [Entry.receive, completes, bind, Except.bind]; rfl) with
    ⟨pools, modified, inHand⟩
  rcases inHand.release { engine with pools := pools, world := world } rfl with
    ⟨released, releases, after⟩
  refine ⟨released, ?_, after⟩
  rw [outcome, Engine.completeSlot, modified]
  simp only [releases, bind, Except.bind]

/-- A completion that bears the tag of an operation in flight ends just this operation. -/
theorem dispatch (books : Books engine.pools engine.tags (flight ::ₘ flights) hand)
    (ready : flight.Ready) (platform : Platform κ) {record : CompletionRecord}
    (named : Engine.tagOfCompletion record.userData = flight.tag) :
    ∃ pools tags, engine.dispatchOne platform record =
        .ok ({ engine with
            pools := pools
            tags := tags
            statistics.completed := engine.statistics.completed + 1
            world := (flight.grip.outcome platform record engine.world).2 }.deliver
          flight.grip.entry.continuation (flight.grip.outcome platform record engine.world).1) ∧
      Books pools tags flights hand := by
  rcases books.resolve engine with ⟨tags, resolved, inHand⟩
  rcases inHand.complete { engine with
      tags := tags
      statistics.completed := engine.statistics.completed + 1 } ready.state_eq platform record with
    ⟨pools, completed, after⟩
  refine ⟨pools, tags, ?_, after⟩
  simp only [Engine.dispatchOne, named, resolved, completed, bind, Except.bind]

/-- A record that the ring refused fails just the operation it was staged for. -/
theorem refuse (books : Books engine.pools engine.tags (flight ::ₘ flights) hand)
    (ready : flight.Ready) {record : SubmitRecord}
    (named : record.userData.toUInt32 = flight.tag) (failure : Failure) :
    ∃ pools tags, engine.refuseOne record failure =
        .ok ({ engine with pools := pools, tags := tags }.deliver flight.grip.entry.continuation
          ⟨flight.grip.reference.kind, .error failure⟩) ∧
      Books pools tags flights hand := by
  rcases books.resolve engine with ⟨tags, resolved, inHand⟩
  rcases inHand.abort { engine with tags := tags } (.inr ready.state_eq) failure with
    ⟨pools, aborted, after⟩
  refine ⟨pools, tags, ?_, after⟩
  simp only [Engine.refuseOne, named, resolved, aborted, bind, Except.bind]

end Books

end CompletionEngine
