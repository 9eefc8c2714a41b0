import CompletionEngine.Proofs.Engine.Delivery

/-!
# What a platform shows to a completion

To find out what a completion means, the clock is read and socket calls are made, and nothing else
of the platform matters. Whatever part of its state is enough to foretell these answers therefore
foretells the outcome of the operation, and what that part will be afterwards.
-/

namespace CompletionEngine

variable {κ σ τ : Type}

/-- Two answers of a platform are the same, and leave the same to be seen of it. -/
def SameTo {α : Type} (view : κ → σ) (left right : α × κ) : Prop :=
  left.1 = right.1 ∧ view left.2 = view right.2

theorem SameTo.exists_answer {α : Type} {view : κ → σ} {left right : α × κ}
    (same : SameTo view left right) :
    ∃ answer after other, left = (answer, after) ∧ right = (answer, other) ∧
      view after = view other :=
  ⟨left.1, left.2, right.2, rfl, Prod.ext same.1.symm rfl, same.2⟩

/-- What there is to be seen of a platform foretells its clock, its socket calls and how signals are
consumed. -/
structure Platform.ShownBy (platform : Platform κ) (view : κ → σ) : Prop where
  now : ∀ {left right}, view left = view right → platform.now left = platform.now right
  acknowledge : ∀ {left right}, view left = view right →
    SameTo view (platform.notifier.acknowledge left) (platform.notifier.acknowledge right)
  setOption : ∀ socket option {left right}, view left = view right →
    SameTo view (platform.sockets.setOption socket option left)
      (platform.sockets.setOption socket option right)
  bind : ∀ socket block {left right}, view left = view right →
    SameTo view (platform.sockets.bind socket block left) (platform.sockets.bind socket block right)
  listen : ∀ socket backlog {left right}, view left = view right →
    SameTo view (platform.sockets.listen socket backlog left)
      (platform.sockets.listen socket backlog right)
  boundAddress : ∀ socket block {left right}, view left = view right →
    SameTo view (platform.sockets.boundAddress socket block left)
      (platform.sockets.boundAddress socket block right)
  close : ∀ socket {left right}, view left = view right →
    view (platform.sockets.close socket left) = view (platform.sockets.close socket right)

/-- The whole state foretells everything. -/
theorem Platform.shownBy_id (platform : Platform κ) : platform.ShownBy id where
  now same := congrArg platform.now same
  acknowledge := by rintro left _ rfl; exact ⟨rfl, rfl⟩
  setOption := by rintro socket option left _ rfl; exact ⟨rfl, rfl⟩
  bind := by rintro socket block left _ rfl; exact ⟨rfl, rfl⟩
  listen := by rintro socket backlog left _ rfl; exact ⟨rfl, rfl⟩
  boundAddress := by rintro socket block left _ rfl; exact ⟨rfl, rfl⟩
  close socket := congrArg (platform.sockets.close socket)

namespace SocketCalls

/-- Seen through a view, socket calls on a platform are the other ones. -/
structure Shows (calls : SocketCalls κ) (shown : SocketCalls σ) (view : κ → σ) : Prop where
  setOption : ∀ socket option world, shown.setOption socket option (view world) =
    (calls.setOption socket option world).map id view
  bind : ∀ socket block world, shown.bind socket block (view world) =
    (calls.bind socket block world).map id view
  listen : ∀ socket backlog world, shown.listen socket backlog (view world) =
    (calls.listen socket backlog world).map id view
  boundAddress : ∀ socket block world, shown.boundAddress socket block (view world) =
    (calls.boundAddress socket block world).map id view
  close : ∀ socket world, shown.close socket (view world) = view (calls.close socket world)

namespace Shows

variable {calls : SocketCalls κ} {shown : SocketCalls σ} {view : κ → σ}

theorem discard (shows : calls.Shows shown view) (socket : Descriptor) (world : κ) :
    CompletionEngine.discard shown socket (view world) =
      view (CompletionEngine.discard calls socket world) := by
  unfold CompletionEngine.discard
  split
  · exact shows.close socket world
  · rfl

theorem setOptions (shows : calls.Shows shown view) (socket : Descriptor)
    (options : List NativeOption) (world : κ) :
    CompletionEngine.setOptions shown socket options (view world) =
      (CompletionEngine.setOptions calls socket options world).map id view := by
  induction options generalizing world with
  | nil => rfl
  | cons option rest ih =>
      simp only [CompletionEngine.setOptions, shows.setOption]
      rcases calls.setOption socket option world with ⟨error | done, world⟩
      · rfl
      · exact ih world

theorem establish (shows : calls.Shows shown view) (socket : Descriptor) (params : ListenParams)
    (scratch : Option AddressBlock) (world : κ) :
    CompletionEngine.establish shown socket params scratch (view world) =
      (CompletionEngine.establish calls socket params scratch world).map id (Prod.map id view) := by
  unfold CompletionEngine.establish
  rw [shows.setOptions]
  rcases CompletionEngine.setOptions calls socket _ world with ⟨error | done, world⟩
  · rfl
  · dsimp only [Prod.map_apply, id]
    rw [shows.bind]
    rcases calls.bind socket _ world with ⟨error | done, world⟩
    · rfl
    · dsimp only [Prod.map_apply, id]
      rw [shows.listen]
      rcases calls.listen socket _ world with ⟨error | done, world⟩
      · rfl
      · dsimp only [Prod.map_apply, id]
        rw [shows.boundAddress]
        rcases calls.boundAddress socket _ world with ⟨error | bound, world⟩ <;> rfl

/-- What a completion means is found out through the view as well. -/
theorem translate (shows : calls.Shows shown view) (kind : Kind) (now : Instant) (result : Int32)
    (payload : kind.Payload) (world : κ) :
    kind.operation.translate shown now result payload (view world) =
      (kind.operation.translate calls now result payload world).map id (Prod.map id view) := by
  cases kind with
  | socket =>
      simp only [Kind.operation, Operation.socket]
      cases checkResult result descriptorOfResult with
      | error failure => rfl
      | ok socket =>
          dsimp only
          rw [shows.setOptions]
          rcases CompletionEngine.setOptions calls socket _ world with ⟨error | done, world⟩
          · simp only [Prod.map, id, shows.discard]
          · rfl
  | listen =>
      rcases payload with ⟨params, scratch⟩
      simp only [Kind.operation, Operation.listen]
      cases checkResult result descriptorOfResult with
      | error failure => rfl
      | ok socket =>
          cases params with
          | none => simp only [Prod.map, id, shows.discard]
          | some params =>
              dsimp only
              rw [shows.establish]
              rcases CompletionEngine.establish calls socket params scratch world with
                ⟨error | listener, block, world⟩
              · simp only [Prod.map, id, shows.discard]
              · rfl
  | _ => rfl

/-- A completion tells through the view what it tells. -/
theorem complete (shows : calls.Shows shown view) {kind : Kind} {γ : Type} (now : Instant)
    (result : Int32) (entry : Entry kind γ) (world : κ) :
    entry.complete shown now result (view world) =
      (entry.complete calls now result world).map (Prod.map id (Prod.map id view)) := by
  simp only [Entry.complete, shows.translate]
  cases entry.expect [.submitted] .complete <;> rfl

end Shows

/-- Socket calls on what there is to be seen of a platform, each made on some platform that looks
like it. -/
noncomputable def through [Nonempty κ] (calls : SocketCalls κ) (view : κ → σ) : SocketCalls σ where
  setOption socket option seen :=
    (calls.setOption socket option (Function.invFun view seen)).map id view
  bind socket block seen := (calls.bind socket block (Function.invFun view seen)).map id view
  listen socket backlog seen := (calls.listen socket backlog (Function.invFun view seen)).map id view
  boundAddress socket block seen :=
    (calls.boundAddress socket block (Function.invFun view seen)).map id view
  close socket seen := view (calls.close socket (Function.invFun view seen))

end SocketCalls

/-- Seen through a view, a ring is the other one. -/
structure Ring.Shows (ring : Ring κ) (shown : Ring σ) (view : κ → σ) : Prop where
  capacity : ∀ world, shown.capacity (view world) = ring.capacity world
  push : ∀ records world, shown.push records (view world) = (ring.push records world).map id view
  submit : ∀ world, shown.submit (view world) = (ring.submit world).map id view
  submitAndWait : ∀ want wait world,
    shown.submitAndWait want wait (view world) = (ring.submitAndWait want wait world).map id view
  drain : ∀ world, shown.drain (view world) = (ring.drain world).map id view
  release : ∀ world, shown.release (view world) = view (ring.release world)

/-- Seen through a view, a platform is another one, apart from the signals it is sent. -/
structure Platform.Shows (platform : Platform κ) (shown : Platform σ) (view : κ → σ) : Prop where
  ring : platform.ring.Shows shown.ring view
  sockets : platform.sockets.Shows shown.sockets view
  now : ∀ world, shown.now (view world) = platform.now world
  pollDescriptor : ∀ world,
    shown.notifier.pollDescriptor (view world) = platform.notifier.pollDescriptor world
  acknowledge : ∀ world,
    shown.notifier.acknowledge (view world) = (platform.notifier.acknowledge world).map id view

theorem Platform.shows_id (platform : Platform κ) : platform.Shows platform id := by
  constructor <;> first | constructor <;> intros <;> rfl | intros; rfl

namespace Platform.ShownBy

variable {platform : Platform κ} {view : κ → σ} {left right : κ}

theorem shows [Nonempty κ] (shown : platform.ShownBy view) :
    platform.sockets.Shows (platform.sockets.through view) view := by
  have found (world : κ) : view (Function.invFun view (view world)) = view world :=
    Function.invFun_eq ⟨world, rfl⟩
  have same {α : Type} {one other : α × κ} (agree : SameTo view one other) :
      one.map id view = other.map id view :=
    Prod.ext agree.1 agree.2
  exact
    { setOption := fun socket option world => same (shown.setOption socket option (found world))
      bind := fun socket block world => same (shown.bind socket block (found world))
      listen := fun socket backlog world => same (shown.listen socket backlog (found world))
      boundAddress := fun socket block world => same (shown.boundAddress socket block (found world))
      close := fun socket world => shown.close socket (found world) }

theorem translate (shown : platform.ShownBy view) (kind : Kind) (result : Int32)
    (payload : kind.Payload) (same : view left = view right) :
    (kind.operation.translate platform.sockets (platform.now left) result payload left).1 =
        (kind.operation.translate platform.sockets (platform.now right) result payload right).1 ∧
      view (kind.operation.translate platform.sockets (platform.now left) result payload left).2.2 =
        view (kind.operation.translate platform.sockets (platform.now right) result payload
          right).2.2 := by
  have : Nonempty κ := ⟨left⟩
  have seen (world : κ) := shown.shows.translate kind (platform.now right) result payload world
  have agree := (seen left).symm.trans ((congrArg _ same).trans (seen right))
  rw [shown.now same]
  simp only [Prod.ext_iff, Prod.map_fst, Prod.map_snd, id] at agree
  exact ⟨agree.1, agree.2.2⟩

theorem outcome {γ : Type} (shown : platform.ShownBy view) (grip : Grip γ)
    (record : CompletionRecord) (same : view left = view right) :
    SameTo view (grip.outcome platform record left) (grip.outcome platform record right) := by
  rcases shown.translate grip.reference.kind record.result
    (grip.reference.kind.operation.receive record.written grip.entry.payload) same with
    ⟨result_eq, sameAfter⟩
  refine ⟨?_, sameAfter⟩
  simp only [Grip.outcome]
  rw [result_eq]

end Platform.ShownBy

end CompletionEngine
