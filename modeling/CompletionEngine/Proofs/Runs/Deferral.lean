import CompletionEngine.Proofs.Engine.Guises
import CompletionEngine.Proofs.Runs.ExactlyOnce
import CompletionEngine.Proofs.Runs.InHand

/-!
# Shutdowns inside batches

A shutdown that is asked for while a batch is in hand only leaves marks: no request is taken any
more, and the shutdown goes on once the outermost batch has been delivered. Until then the batches
go on as they would have gone on without it.
-/

namespace CompletionEngine

variable {κ τ σ : Type}

namespace Engine

/-- The engine with the marks of a shutdown that waits for the batch in hand. -/
def deferred (engine : Engine κ τ) : Engine κ τ :=
  { engine with
    closed := true
    inbox := engine.inbox.close
    shutdownDeferred := true }

/-- The marks are a guise. -/
theorem guise_deferred : Guise id (deferred : Engine κ τ → Engine κ τ) := by
  constructor <;> intros <;> rfl

/-- As long as continuations run and records of batches are delivered, the marks change nothing. -/
theorem deferred_step (engine : Engine κ τ) (platform : Platform κ)
    (delivery : engine.frames.head?.any Frame.isDelivery) :
    engine.deferred.step platform = (engine.step platform).deferred := by
  by_cases turn : engine.awaitsCaller
  · have same : engine.deferred.awaitsCaller := turn
    rw [step, step, if_pos turn, if_pos same]
  · have other : ¬engine.deferred.awaitsCaller := turn
    cases frames_eq : engine.frames with
    | nil => simp [frames_eq] at delivery
    | cons frame rest =>
        have also : engine.deferred.frames = frame :: rest := frames_eq
        rw [frames_eq] at delivery
        rw [step, step, if_neg turn, if_neg other]
        simp only [frames_eq, also]
        exact guise_deferred.runFrame_delivery platform.shows_id (by simpa using delivery)
          { engine with frames := rest }

end Engine

/-- Whether a move is nobody's call: the engine steps, a continuation returns, or something happens
that no caller has to do with. -/
def Move.isQuiet : Move κ τ → Bool
  | .step | .finish | .push _ | .closeInbox | .wake | .drift _ => true
  | _ => false

namespace Scene

/-- The scene with the marks of a shutdown that waits for the batch in hand. -/
def deferred (scene : Scene κ τ) : Scene κ τ := { scene with engine := scene.engine.deferred }

/-- In a run, the engine steps only to deliver records of batches, one after the other. -/
def Delivers (platform : Platform κ) (moves : List (Move κ τ)) (start : Scene κ τ) : Prop :=
  ∀ part before, part ++ [.step] <+: moves → start.play? platform part = some before →
    before.engine.frames.head?.any Frame.isDelivery

variable {platform : Platform κ} {start scene : Scene κ τ} {moves : List (Move κ τ)}

theorem deferred_move {move : Move κ τ} {after : Scene κ τ} (quiet : move.isQuiet)
    (delivers : move = .step → scene.engine.frames.head?.any Frame.isDelivery)
    (moved : scene.move? platform move = some after) :
    scene.deferred.move? platform move = some after.deferred := by
  rcases move?_eq_some.mp moved with ⟨allowed, keeps, rfl⟩
  have same : scene.deferred.perform platform move = (scene.perform platform move).deferred := by
    cases move with
    | step =>
        have stepped := scene.engine.deferred_step platform (delivers rfl)
        exact congrArg (fun engine => Scene.mk engine scene.pushes) stepped
    | finish =>
        simp only [perform, Engine.finish, deferred, Engine.deferred]
        split <;> rfl
    | push | closeInbox | wake | drift => rfl
    | _ => cases quiet
  refine move?_eq_some.mpr ⟨?_, ?_, same⟩
  · cases move with
    | step | finish | push | closeInbox | wake | drift => exact allowed
    | _ => cases quiet
  · rw [same]
    exact keeps

/-- A run that only delivers what is in hand is the same with the marks of a shutdown. -/
theorem deferred_play (quiet : ∀ move ∈ moves, move.isQuiet)
    (delivers : start.Delivers platform moves) (played : start.play? platform moves = some scene) :
    start.deferred.play? platform moves = some scene.deferred := by
  have lockstep : (∀ move ∈ moves, move.isQuiet) → start.Delivers platform moves →
      start.deferred.play? platform moves = some scene.deferred := by
    refine play?_induction (fun moves scene => (∀ move ∈ moves, move.isQuiet) →
      start.Delivers platform moves →
        start.deferred.play? platform moves = some scene.deferred) ?_ ?_ played
    · exact fun _ _ => rfl
    · intro moves before move after playedBefore same moved quiet delivers
      refine play?_concat_eq_some.mpr ⟨before.deferred, same ?_ ?_, deferred_move ?_ ?_ moved⟩
      · exact fun other otherMem => quiet other (List.mem_append_left _ otherMem)
      · exact fun part between isPart =>
          delivers part between (isPart.trans (List.prefix_append moves [move]))
      · exact quiet move (by simp)
      · rintro rfl
        exact delivers moves before List.prefix_rfl playedBefore
  exact lockstep quiet delivers

end Scene

/-- Whether the frame belongs to a call for an operation: code of a caller, a request, or what the
ring refused when room was made for one. -/
def Frame.isOfCall : Frame τ → Bool
  | .client | .stage _ | .refuse .. => true
  | _ => false

/-- Whether a move is made in the course of calls for operations and of shutdowns. -/
def Move.isCall : Move κ τ → Bool
  | .step | .request .. | .requestPromise .. | .shutdown | .finish => true
  | _ => false

theorem Frame.isOfCall_of_isRefuse {frame : Frame τ} (refuses : frame.isRefuse) :
    frame.isOfCall := by
  cases frame <;> first | rfl | cases refuses

theorem Continuation.isOfCall_frames (continuation : Continuation τ) :
    ∀ frame ∈ continuation.frames, frame.isOfCall := by
  intro frame frameMem
  rw [continuation.eq_client frame frameMem]
  rfl

namespace Engine

/-- An engine does what lies on top, as far as calls go, and leaves the platform alone. -/
def Busies (platform : Platform κ) (frame : Frame τ) (engine : Engine κ τ) : Prop :=
  (engine.runFrame platform frame).world = engine.world ∧
    ∃ above, (engine.runFrame platform frame).frames = above ++ engine.frames ∧
      ∀ frame ∈ above, frame.isOfCall

/-- A request is put on top, below what the ring may refuse to make room for it. -/
theorem exists_frames_beginRequest (platform : Platform κ) (request : Request τ)
    (engine : Engine κ τ) :
    ∃ above, (engine.beginRequest platform request).frames =
      above ++ .stage request :: engine.frames ∧ ∀ frame ∈ above, frame.isRefuse := by
  rcases beginRequest_eq platform engine request with plain | room
  · rw [plain]
    exact ⟨[], rfl, by simp⟩
  · rw [room]
    rcases flush_cases platform (engine.next (.stage request)) with
      ⟨-, same⟩ | ⟨-, world, events, -, pushed | ⟨error, refused⟩⟩
    · rw [same]
      exact ⟨[], rfl, by simp⟩
    · rw [pushed]
      exact ⟨[], rfl, by simp⟩
    · rw [refused]
      exact ⟨[_], rfl, by simp [Frame.isRefuse]⟩

namespace Sound

variable {engine : Engine κ τ} {flights : Multiset (Flight τ)}
  {hand : Multiset (Grip (Continuation τ))} {frame : Frame τ}

/-- Unless a shutdown waits for their end, calls for operations go on without the platform. -/
theorem busies (sound : (engine.next frame).Sound flights hand) (ofCall : frame.isOfCall)
    (inside : engine.shutdownDeferred = true → engine.frames.any Frame.isBatch)
    (platform : Platform κ)
    (spare : engine.inFlight + 2 ≤ UInt32.size) : engine.Busies platform frame := by
  cases frame with
  | client => exact ⟨rfl, [.client], rfl, by simp [Frame.isOfCall]⟩
  | stage request =>
      rcases sound.of_next rfl with ⟨below, -⟩
      rcases below.accounts.books.stageRequest engine (below.room spare) platform request with
        ⟨pools, tags, failure, rejected, -⟩ | ⟨-, pools, tags, admissions, admitted, -⟩
      · rw [Busies, Engine.runFrame, rejected, orRaise, deliver_some]
        exact ⟨rfl, _, rfl, request.continuation.isOfCall_frames⟩
      · rw [Busies, Engine.runFrame, admitted]
        exact ⟨rfl, [], rfl, by simp⟩
  | refuse records failure outer =>
      cases records with
      | nil =>
          have noted := sound.disciplined.stacked.1.outer_eq outer rfl
          rcases endDispatch_cases engine outer with ⟨rfl, deferred, -⟩ | ⟨-, left⟩
          · rw [inside deferred] at noted
            cases noted
          · rw [Busies, Engine.runFrame, left]
            exact ⟨rfl, [], rfl, by simp⟩
      | cons record rest =>
          by_cases wake : record.userData = wakeUserData
          · rw [Busies, Engine.runFrame, if_pos wake]
            exact ⟨rfl, [.refuse rest failure outer], rfl, by simp [Frame.isOfCall]⟩
          · rcases sound.refuseOne_eq wake with
              ⟨flight, others, continuation, pools, tags, -, -, -, -, refused⟩
            simp only [Busies, Engine.runFrame, if_neg wake, refused, orRaise, deliver_some]
            refine ⟨rfl, continuation.frames ++ [.refuse rest failure outer],
              by rw [List.append_assoc]; rfl, ?_⟩
            intro frame frameMem
            rcases List.mem_append.mp frameMem with called | rest
            · exact continuation.isOfCall_frames frame called
            · obtain rfl := List.mem_singleton.mp rest
              rfl
  | _ => cases ofCall

end Sound

end Engine

namespace Scene

section Calls

variable {platform : Platform κ} {engine : Engine κ τ} {pushes : List (PushPhase (Task τ))}
  {move : Move κ τ} {flights : Multiset (Flight τ)} {hand : Multiset (Grip (Continuation τ))}
  {batch left : Frame τ} {above rest : List (Frame τ)}

/-- Nothing but a batch and calls for operations lies above some frames. -/
def CallsOn (rest : List (Frame τ)) (batch : Frame τ) (scene : Scene κ τ) : Prop :=
  batch.isBatch ∧ ∃ above, scene.engine.frames = above ++ batch :: rest ∧
    ∀ frame ∈ above, frame.isOfCall

theorem CallsOn.holds {scene : Scene κ τ} (calls : scene.CallsOn rest batch) :
    scene.Holds rest batch :=
  ⟨calls.1, calls.2.choose, calls.2.choose_spec.1⟩

theorem callsOn_request {pushes : List (PushPhase (Task τ))} (request : Request τ)
    (calls : (Scene.mk engine pushes).CallsOn rest batch) :
    (Scene.mk (engine.beginRequest platform request) pushes).CallsOn rest batch := by
  rcases calls with ⟨isBatch, above, frames_eq, ofCalls⟩
  change engine.frames = above ++ batch :: rest at frames_eq
  rcases engine.exists_frames_beginRequest platform request with ⟨others, others_eq, refuse⟩
  refine ⟨isBatch, others ++ .stage request :: above, ?_, ?_⟩
  · rw [others_eq, frames_eq, List.append_assoc, List.cons_append]
  · intro frame frameMem
    rcases List.mem_append.mp frameMem with other | here
    · exact Frame.isOfCall_of_isRefuse (refuse frame other)
    · rcases List.mem_cons.mp here with rfl | older
      · rfl
      · exact ofCalls frame older

theorem callsOn_step (platform : Platform κ) (sound : engine.Sound flights hand)
    (allowed : (Scene.mk engine pushes).allows .step)
    (calls : (Scene.mk engine pushes).CallsOn rest batch)
    (other : (Scene.mk engine pushes).isTurn (rest.length + 1) .step = false) :
    (Scene.mk (engine.step platform) pushes).CallsOn rest batch ∧
      (engine.step platform).world = engine.world := by
  rcases calls with ⟨isBatch, above, frames_eq, ofCalls⟩
  change engine.frames = above ++ batch :: rest at frames_eq
  rcases Engine.step_cases engine platform with ⟨-, same⟩ | ⟨lower, frame, rfl, stepped⟩
  · rw [same]
    exact ⟨⟨isBatch, above, frames_eq, ofCalls⟩, rfl⟩
  · cases above with
    | nil =>
        have height := congrArg List.length frames_eq
        simp [isTurn, height] at other
    | cons first above =>
        obtain ⟨rfl, lower_eq⟩ : frame = first ∧ lower.frames = above ++ batch :: rest :=
          List.cons.inj frames_eq
        have spare : (lower.next frame).inFlight + 2 ≤ UInt32.size := by
          simpa [allows] using allowed
        have inside : lower.frames.any Frame.isBatch := by simp [lower_eq, isBatch]
        rcases sound.busies (ofCalls frame List.mem_cons_self) (fun _ => inside) platform spare with
          ⟨world_eq, others, others_eq, ofCall⟩
        rw [stepped]
        refine ⟨⟨isBatch, others ++ above, ?_, ?_⟩, world_eq⟩
        · rw [others_eq, lower_eq, List.append_assoc]
        · intro frame frameMem
          rcases List.mem_append.mp frameMem with new | old
          · exact ofCall frame new
          · exact ofCalls frame (List.mem_cons_of_mem _ old)

/-- In the course of calls, the platform is left alone but for the turns of the batch, unless room
is made for a request. -/
theorem callsOn_perform (sound : engine.Sound flights hand)
    (allowed : (Scene.mk engine pushes).allows move) (call : move.isCall)
    (calls : (Scene.mk engine pushes).CallsOn rest batch)
    (other : (Scene.mk engine pushes).isTurn (rest.length + 1) move = false) :
    ((Scene.mk engine pushes).perform platform move).CallsOn rest batch ∧
      (move.request? = none →
        ((Scene.mk engine pushes).perform platform move).engine.world = engine.world) := by
  cases move with
  | step =>
      rcases callsOn_step platform sound allowed calls other with ⟨callsAfter, world_eq⟩
      exact ⟨callsAfter, fun _ => world_eq⟩
  | request command label => exact ⟨callsOn_request _ calls, nofun⟩
  | requestPromise command promise => exact ⟨callsOn_request _ calls, nofun⟩
  | shutdown =>
      rcases calls with ⟨isBatch, above, frames_eq, ofCalls⟩
      change engine.frames = above ++ batch :: rest at frames_eq
      have dispatching : engine.dispatching = true := by
        rw [sound.disciplined.dispatching_eq, frames_eq]
        simp [isBatch]
      change (Scene.mk engine.shutdown pushes).CallsOn rest batch ∧
        (_ → engine.shutdown.world = engine.world)
      rcases Engine.shutdown_cases engine with ⟨-, same⟩ | ⟨-, -, marked⟩ | ⟨-, idle, -⟩
      · rw [same]
        exact ⟨⟨isBatch, above, frames_eq, ofCalls⟩, fun _ => rfl⟩
      · rw [marked]
        exact ⟨⟨isBatch, above, frames_eq, ofCalls⟩, fun _ => rfl⟩
      · cases idle.symm.trans dispatching
  | finish =>
      rcases calls with ⟨isBatch, above, frames_eq, ofCalls⟩
      change engine.frames = above ++ batch :: rest at frames_eq
      simp only [perform, Engine.finish]
      split
      · rename_i lower running
        rw [running] at frames_eq
        cases above with
        | nil =>
            cases (List.cons.inj frames_eq).1
            cases isBatch
        | cons first above =>
            refine ⟨⟨isBatch, above, (List.cons.inj frames_eq).2, ?_⟩, fun _ => rfl⟩
            exact fun frame frameMem => ofCalls frame (List.mem_cons_of_mem _ frameMem)
      · exact ⟨⟨isBatch, above, frames_eq, ofCalls⟩, fun _ => rfl⟩
  | _ => cases call

theorem callsOn_turn (sound : (engine.next batch).Sound flights hand) (isBatch : batch.isBatch)
    (holds : (Scene.mk ((engine.next batch).step platform) pushes).Holds engine.frames left) :
    (Scene.mk ((engine.next batch).step platform) pushes).CallsOn engine.frames left := by
  rw [sound.step_batch isBatch platform] at holds ⊢
  rcases turn_of_holds sound isBatch holds with ⟨event, above, turned⟩
  refine ⟨turned.isBatch, above, turned.frames_eq, ?_⟩
  intro frame frameMem
  rw [turned.called frame frameMem]
  rfl

end Calls

section Runs

variable {platform : Platform κ} {start scene called : Scene κ τ} {moves : List (Move κ τ)}
  {batch : Frame τ} {rest : List (Frame τ)}

/-- A run of calls is still as long as making room for requests changes nothing that is seen of the
platform. -/
theorem still_of_calls {view : κ → σ} (sound : start.Sound) (calls : start.CallsOn rest batch)
    (ofCalls : ∀ move ∈ moves, move.isCall) (played : start.play? platform moves = some scene)
    (keeps : start.KeepsInHand platform rest moves)
    (room : ∀ part move before, part ++ [move] <+: moves → start.play? platform part = some before →
      move.request?.isSome →
        view (before.perform platform move).engine.world = view before.engine.world) :
    start.Still platform view (rest.length + 1) moves := by
  -- Between the turns of the batch, only calls lie above it.
  have above {part : List (Move κ τ)} {before : Scene κ τ} (isPart : part <+: moves)
      (reached : start.play? platform part = some before) :
      before.Sound ∧ ∃ left, before.CallsOn rest left := by
    refine play?_induction (fun part before => part <+: moves →
      before.Sound ∧ ∃ left, before.CallsOn rest left) ?_ ?_ reached isPart
    · exact fun _ => ⟨sound, batch, calls⟩
    · rintro part before move after reached ih moved isPart
      rcases ih ((List.prefix_append part [move]).trans isPart) with
        ⟨⟨flights, hand, soundBefore⟩, left, callsBefore⟩
      rcases keeps (part ++ [move]) after isPart
        (play?_concat_eq_some.mpr ⟨before, reached, moved⟩) with ⟨next, holdsAfter⟩
      rcases move?_eq_some.mp moved with ⟨allowed, contract, rfl⟩
      refine ⟨sound_perform soundBefore allowed contract, ?_⟩
      cases turn : before.isTurn (rest.length + 1) move with
      | false =>
          have call := ofCalls move (isPart.subset (by simp))
          exact ⟨left, (callsOn_perform soundBefore allowed call callsBefore turn).1⟩
      | true =>
          rcases before with ⟨engine, pushes⟩
          rcases callsBefore.holds.on_top turn with ⟨rfl, frames_eq⟩
          change engine.frames = left :: rest at frames_eq
          rw [← engine.next_pop frames_eq] at soundBefore holdsAfter ⊢
          exact ⟨next, callsOn_turn soundBefore callsBefore.1 holdsAfter⟩
  intro part move before isPart reached other
  rcases above ((List.prefix_append part [move]).trans isPart) reached with
    ⟨⟨flights, hand, soundBefore⟩, left, callsBefore⟩
  cases asks : move.request? with
  | some request => exact room part move before isPart reached (by rw [asks]; rfl)
  | none =>
      rcases exists_play?_of_prefix isPart played with ⟨after, goes⟩
      rcases play?_concat_eq_some.mp goes with ⟨between, reachedAlso, moved⟩
      cases reached.symm.trans reachedAlso
      rcases move?_eq_some.mp moved with ⟨allowed, -, -⟩
      have call := ofCalls move (isPart.subset (by simp))
      rw [(callsOn_perform soundBefore allowed call callsBefore other).2 asks]

/-- As long as a batch is in hand, nobody is told that his operation was left over. -/
theorem synthesized_eq_of_holds {left : Frame τ} (sound : start.Sound)
    (candid : start.engine.Candid) (played : start.play? platform moves = some scene)
    (holds : scene.Holds rest left) :
    scene.engine.statistics.synthesized = start.engine.statistics.synthesized := by
  rcases flows_of_play sound candid played with ⟨⟨flights, hand, soundAfter⟩, begun, events, flows⟩
  have notReleased : .released ∉ scene.engine.journal := by
    rcases holds with ⟨isBatch, above, frames_eq⟩
    apply (flows.candid candid).not.mp
    exact soundAfter.not_released_of_inHand isBatch (by rw [frames_eq]; simp)
  have none : (start.endings platform moves).countP Ending.isLeftOver = 0 := by
    rw [List.countP_eq_zero]
    intro ending endingMem leftOver
    rcases flows.told ending endingMem with ⟨continuation, -, told⟩
    apply notReleased
    apply told.subset
    exact List.mem_cons_of_mem _ ((flows.due ending endingMem).mp leftOver)
  rw [flows.synthesized_eq, none, add_zero]

theorem announced_of_play {configuration : Configuration} {world : κ}
    (played : (opening configuration world).play? platform moves = some scene)
    (terminated : scene.engine.terminated = true) : .terminated ∈ scene.engine.journal := by
  have announced : scene.Sound ∧
      (scene.engine.terminated = true → .terminated ∈ scene.engine.journal) := by
    refine play?_induction (fun _ scene => scene.Sound ∧
      (scene.engine.terminated = true → .terminated ∈ scene.engine.journal)) ?_ ?_ played
    · exact ⟨sound_opening configuration world, nofun⟩
    · rintro moves ⟨engine, pushes⟩ move after - ⟨⟨flights, hand, sound⟩, announced⟩ moved
      rcases move?_eq_some.mp moved with ⟨allowed, keeps, rfl⟩
      refine ⟨sound_perform sound allowed keeps, ?_⟩
      by_cases step : move = .step
      · subst step
        rcases Engine.step_cases engine platform with ⟨-, same⟩ | ⟨lower, frame, rfl, stepped⟩
        · rw [perform, same]
          exact announced
        · have spare : (lower.next frame).inFlight + 2 ≤ UInt32.size := by
            simpa [allows] using allowed
          rcases sound.journal_step platform spare keeps with ⟨events, journal_eq⟩
          rw [perform, stepped] at keeps ⊢
          rw [stepped] at journal_eq
          by_cases last : frame = .fail []
          · rw [last]
            exact fun _ => List.mem_cons_self
          · intro terminated
            rw [(sound.buildsOn_runFrame platform spare last).terminated_eq] at terminated
            rw [journal_eq]
            exact List.mem_append_right _ (announced terminated)
      · intro terminated
        have passes : engine.Passes ((Scene.mk engine pushes).perform platform move).engine :=
          passes_perform platform step
        rcases passes.journal with ⟨events, journal_eq⟩
        rw [journal_eq]
        apply List.mem_append_right
        apply announced
        by_cases finish : move = .finish
        · subst finish
          simp only [perform, Engine.finish] at terminated
          split at terminated <;> exact terminated
        · rwa [(buildsOn_perform step finish).terminated_eq] at terminated
  exact announced.2 terminated

end Runs

end Scene

namespace Engine

/-- A closed engine on which neither a batch nor a shutdown is under way has given everything up. -/
theorem Sound.terminated_of_idle {engine : Engine κ τ} {flights : Multiset (Flight τ)}
    {hand : Multiset (Grip (Continuation τ))} (sound : engine.Sound flights hand)
    (closed : engine.closed = true) (noBatch : engine.frames.any Frame.isBatch = false)
    (noClosing : engine.frames.any Frame.isClosing = false) : engine.terminated = true := by
  have disciplined := sound.disciplined
  have idle : engine.dispatching = false := disciplined.dispatching_eq.trans noBatch
  have notDeferred : engine.shutdownDeferred = false := by
    cases deferred : engine.shutdownDeferred
    · rfl
    · cases (disciplined.deferred_imp deferred).symm.trans idle
  have none : engine.frames.countP Frame.isClosing = 0 := by
    rw [List.countP_eq_zero]
    simpa using noClosing
  have counted := disciplined.closed_eq
  rw [closed, none, notDeferred] at counted
  cases terminated : engine.terminated
  · rw [terminated] at counted
    cases counted
  · rfl

end Engine

/-- What comes of a shutdown that is asked for in a caller's turn while a batch lies just above some
frames. -/
structure Deferral (platform : Platform κ) (rest : List (Frame τ)) (batch : Frame τ)
    (start called : Scene κ τ) : Prop where
  /-- The first leaves its marks, and another does nothing. -/
  marked : called = if start.engine.closed then start else start.deferred
  /-- As long as continuations do nothing but return, all goes on as without it: the same is told to
  the same, in the same order, and nothing else differs but the marks. -/
  same : ∀ moves scene, (∀ move ∈ moves, move.isQuiet) → start.Delivers platform moves →
    start.play? platform moves = some scene →
      called.play? platform moves = some (if start.engine.closed then scene else scene.deferred)
  /-- Whatever continuations do, with or without it, the batch tells what it had to tell: how the
  ring translates or refuses each of its records. For a translation, the platform has to show the
  same to each turn of the batch as if nothing had been done in between. -/
  told : ∀ {σ : Type} (view : κ → σ) moves scene left, platform.ShownBy view →
    start.play? platform moves = some scene → start.KeepsInHand platform rest moves →
    (batch.isRefuse = false → start.Still platform view (rest.length + 1) moves) →
    scene.Holds rest left →
      start.engine.news platform batch start.engine.world =
        start.told platform (rest.length + 1) moves ++
          scene.engine.news platform left scene.engine.world
  /-- Nobody in the batch is told that his operation was left over. -/
  genuine : ∀ moves scene left, start.play? platform moves = some scene → scene.Holds rest left →
    scene.engine.statistics.synthesized = start.engine.statistics.synthesized
  /-- The batch stays in hand until all of it has been told. -/
  kept : ∀ moves scene, start.play? platform moves = some scene →
    start.KeepsInHand platform rest moves ∨ ∃ part between leftover, part <+: moves ∧
      start.play? platform part = some between ∧ start.KeepsInHand platform rest part ∧
        between.Holds rest leftover ∧ leftover.userData = 0
  /-- So when the batch has been told without it, just the same has been told with it. -/
  agree : ∀ {σ : Type} (view : κ → σ) plain busy left right leftover, platform.ShownBy view →
    start.play? platform plain = some left →
    start.play? platform (.shutdown :: busy) = some right →
    start.KeepsInHand platform rest plain →
    start.KeepsInHand platform rest (.shutdown :: busy) →
    (batch.isRefuse = false → start.Still platform view (rest.length + 1) plain ∧
      start.Still platform view (rest.length + 1) (.shutdown :: busy)) →
    left.Holds rest leftover → leftover.userData = 0 →
      start.told platform (rest.length + 1) (.shutdown :: busy) <+:
          start.told platform (rest.length + 1) plain ∧
        ∀ other, right.Holds rest other → other.userData = 0 →
          start.told platform (rest.length + 1) (.shutdown :: busy) =
            start.told platform (rest.length + 1) plain
  /-- Requests do nothing in between, unless room is made for them. -/
  still : ∀ {σ : Type} (view : κ → σ) moves scene, start.CallsOn rest batch →
    (∀ move ∈ moves, move.isCall) → start.play? platform moves = some scene →
    start.KeepsInHand platform rest moves →
    (∀ part move before, part ++ [move] <+: moves → start.play? platform part = some before →
      move.request?.isSome →
        view (before.perform platform move).engine.world = view before.engine.world) →
      start.Still platform view (rest.length + 1) moves
  /-- From then on, a request comes on top, and once what had to make room for it is done, its
  continuation is told that the engine is closed, and nothing else happens. -/
  refused : ∀ later scene, called.play? platform later = some scene →
    (∀ move request, move.request? = some request →
      ∃ above, (scene.perform platform move).engine.frames =
        above ++ .stage request :: scene.engine.frames ∧ ∀ frame ∈ above, frame.isRefuse) ∧
    ∀ request below, scene.engine.frames = .stage request :: below →
      scene.engine.step platform = ({ scene.engine with frames := below } : Engine κ τ).deliver
        (some request.continuation) ⟨request.command.kind, .error .closed⟩
  /-- When all calls that lie on the outermost batch have returned, and no shutdown was under way
  before, everything has been given up. -/
  terminated : ∀ later scene, called.play? platform later = some scene →
    scene.engine.frames <:+ start.engine.frames → scene.engine.frames.any Frame.isBatch = false →
    (start.engine.closed → scene.engine.frames.any Frame.isClosing = false) →
      scene.engine.terminated = true ∧ .terminated ∈ scene.engine.journal

/-- In every run, a shutdown that is asked for inside a batch leaves the batch alone, and comes to
its end with the outermost one. -/
theorem deferral_of_play {platform : Platform κ} {configuration : Configuration} {world : κ}
    {earlier : List (Move κ τ)} {start called : Scene κ τ} {batch : Frame τ} {rest : List (Frame τ)}
    (played : (Scene.opening configuration world).play? platform earlier = some start)
    (holds : start.Holds rest batch) (moved : start.move? platform .shutdown = some called) :
    Deferral platform rest batch start called := by
  have soundStart := Scene.sound_of_play played
  have candid := Scene.candid_of_play played
  rcases soundStart with ⟨flights, hand, sound⟩
  have dispatching : start.engine.dispatching = true := by
    rcases holds with ⟨isBatch, above, frames_eq⟩
    rw [sound.disciplined.dispatching_eq, frames_eq]
    simp [isBatch]
  have marked : called = if start.engine.closed then start else start.deferred := by
    rcases Scene.move?_eq_some.mp moved with ⟨-, -, rfl⟩
    rcases Engine.shutdown_cases start.engine with
      ⟨closed, same⟩ | ⟨opened, -, deferred⟩ | ⟨-, idle, -⟩
    · rw [Scene.perform, same, if_pos closed]
    · rw [Scene.perform, deferred, opened]
      rfl
    · cases idle.symm.trans dispatching
  have closed : called.engine.closed = true := by
    cases closed : start.engine.closed <;> rw [marked, closed]
    · rfl
    · exact closed
  have told {σ : Type} (view : κ → σ) (moves : List (Move κ τ)) (scene : Scene κ τ)
      (left : Frame τ) (shown : platform.ShownBy view)
      (went : start.play? platform moves = some scene)
      (keeps : start.KeepsInHand platform rest moves)
      (still : batch.isRefuse = false → start.Still platform view (rest.length + 1) moves)
      (holdsAfter : scene.Holds rest left) :=
    Scene.news_of_play ⟨flights, hand, sound⟩ holds shown went keeps still holdsAfter
  have sound_of_called {later : List (Move κ τ)} {scene : Scene κ τ}
      (went : called.play? platform later = some scene) :
      scene.Sound ∧ scene.engine.closed = true := by
    rcases Scene.flows_of_closing ⟨flights, hand, sound⟩ candid moved closed went with
      ⟨soundAfter, closedAfter, -⟩
    exact ⟨soundAfter, closedAfter⟩
  refine
    { marked := marked
      same := ?_
      told := told
      genuine := fun moves scene left went holdsAfter =>
        Scene.synthesized_eq_of_holds ⟨flights, hand, sound⟩ candid went holdsAfter
      kept := fun moves scene went => Scene.keeps_or_spent ⟨flights, hand, sound⟩ holds went
      agree := ?_
      still := ?_
      refused := ?_
      terminated := ?_ }
  · intro moves scene quiet delivers went
    rw [marked]
    split
    · exact went
    · exact Scene.deferred_play quiet delivers went
  -- Both runs tell what one and the same batch has to tell, and the plain one tells all of it.
  · intro σ view plain busy left right leftover shown went wentBusy keeps keepsBusy still holdsLeft
      spent
    have whole := told view plain left leftover shown went keeps (fun refuses => (still refuses).1)
      holdsLeft
    rw [Engine.news_of_spent spent, List.append_nil] at whole
    have same (other : Frame τ) (holdsRight : right.Holds rest other) :=
      told view _ right other shown wentBusy keepsBusy (fun refuses => (still refuses).2) holdsRight
    constructor
    · rcases keepsBusy _ right List.prefix_rfl wentBusy with ⟨other, holdsRight⟩
      rw [← whole, same other holdsRight]
      exact List.prefix_append _ _
    · intro other holdsRight spentToo
      rw [← whole, same other holdsRight, Engine.news_of_spent spentToo, List.append_nil]
  · intro σ view moves scene calls ofCalls went keeps room
    exact Scene.still_of_calls ⟨flights, hand, sound⟩ calls ofCalls went keeps room
  · intro later scene went
    rcases sound_of_called went with ⟨⟨others, otherHand, soundAfter⟩, closedAfter⟩
    constructor
    · intro move request asks
      cases move with
      | request command label =>
          cases asks
          exact Engine.exists_frames_beginRequest platform _ scene.engine
      | requestPromise command promise =>
          cases asks
          exact Engine.exists_frames_beginRequest platform _ scene.engine
      | _ => cases asks
    · intro request below frames_eq
      exact soundAfter.step_stage_of_closed closedAfter platform frames_eq
  · intro later scene went below noBatch noShutdown
    rcases sound_of_called went with ⟨⟨others, otherHand, soundAfter⟩, closedAfter⟩
    -- An open engine has no shutdown under way, and what is left to do was to be done before.
    have noClosing : scene.engine.frames.any Frame.isClosing = false := by
      cases opened : start.engine.closed with
      | true => exact noShutdown opened
      | false =>
          have counted := sound.disciplined.closed_eq
          rw [opened, Bool.toNat_false] at counted
          have none : start.engine.frames.countP Frame.isClosing = 0 := by omega
          rw [List.countP_eq_zero] at none
          rw [List.any_eq_false]
          exact fun frame frameMem => none frame (below.subset frameMem)
    have terminated := soundAfter.terminated_of_idle closedAfter noBatch noClosing
    have whole : (Scene.opening configuration world).play? platform
        (earlier ++ .shutdown :: later) = some scene := by
      rw [Scene.play?_append played]
      simpa [Scene.play?, moved] using went
    exact ⟨terminated, Scene.announced_of_play whole terminated⟩

open Simulation in
/-- Of three operations that are completed together, the first shuts the engine down. The second
asks for another operation, which is refused, and the third is told its completion. -/
theorem deferral_first_of_three :
    ∃ (earlier later : List (Move Script String)) (start called scene : Scene Script String)
      (batch : Frame String),
      (Scene.opening .default (.new 8 .wait none [⟨none, some ⟨.fixed 0, .none⟩⟩])).play?
          (Script.platform (.silent _)) earlier = some start ∧
        start.Holds [] batch ∧ Multiset.card batch.userData = 2 ∧
        start.move? (Script.platform (.silent _)) .shutdown = some called ∧
        called.play? (Script.platform (.silent _)) later = some scene ∧
        scene.engine.terminated = true ∧ scene.engine.statistics.completed = 3 ∧
        scene.engine.statistics.submitted = 3 ∧ scene.engine.statistics.synthesized = 0 ∧
        Multiset.card (invoked scene.engine.journal) = 4 ∧
        Deferral (Script.platform (.silent _)) [] batch start called := by
  let nop (label : String) : Move Script String := .request ⟨.nop, (), none⟩ label
  let earlier : List (Move Script String) :=
    [nop "first", Move.step, nop "second", Move.step, nop "third", Move.step, Move.cycle none] ++
      List.replicate 5 Move.step
  let later : List (Move Script String) :=
    [Move.finish, Move.step, nop "late", Move.step, Move.finish, Move.finish, Move.step,
      Move.finish] ++ List.replicate 12 Move.step
  have plays : ((Scene.opening .default
      (Script.new 8 .wait none [⟨none, some ⟨.fixed 0, .none⟩⟩])).play?
      (Script.platform (.silent _)) earlier).any fun start =>
        start.engine.frames.length == 2 && (start.engine.frames[1]?).any (fun batch =>
            batch.isBatch && Multiset.card batch.userData == 2) &&
          (start.move? (Script.platform (.silent _)) .shutdown).any fun called =>
            (called.play? (Script.platform (.silent _)) later).any fun scene =>
              scene.engine.terminated && scene.engine.statistics == ⟨3, 3, 0, 0, 0, 0⟩ &&
                Multiset.card (invoked scene.engine.journal) == 4 := by
    decide +kernel
  simp only [Option.any_eq_true, Bool.and_eq_true, beq_iff_eq] at plays
  rcases plays with ⟨start, played, ⟨two, batch, here, isBatch, count⟩, called, moved, scene, went,
    ⟨terminated, shows⟩, told⟩
  rcases List.length_eq_two.mp two with ⟨above, below, frames_eq⟩
  obtain rfl : below = batch := by simpa [frames_eq] using here
  have holds : start.Holds [] below := ⟨isBatch, [above], frames_eq⟩
  exact ⟨earlier, later, start, called, scene, below, played, holds, count, moved, went, terminated,
    by rw [shows], by rw [shows], by rw [shows], told, deferral_of_play played holds moved⟩

end CompletionEngine
