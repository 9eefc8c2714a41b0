import CompletionEngine.Proofs.Runs.Deferral

/-!
# Commissions

A request is carried out on top of whatever else is to be done. It needs neither what lies below nor
the tasks in the inbox, so it comes to the same whether a caller makes it or the engine finds it in
its inbox. It may take some moves until it has returned: to make room for it, earlier operations may
be failed, and their continuations run. As long as these neither have queued tasks taken up nor
queue any, several requests can be compared one by one.
-/

namespace CompletionEngine

variable {κ τ : Type}

/-- Whether a move leaves queued tasks where they are, and queues none. -/
def Move.leavesQueue : Move κ τ → Bool
  | .cycle _ | .work | .shutdown | .drop | .advance _ => false
  | _ => true

namespace Engine

/-- The engine on top of more that is to be done, with these tasks in its inbox. -/
def atop (below : List (Frame τ)) (queue : List (Task τ)) (engine : Engine κ τ) : Engine κ τ :=
  { engine with frames := engine.frames ++ below, inbox.queue := queue }

/-- The engine with or without a shutdown that waits for the batch in hand. -/
def awaiting (deferred : Bool) (engine : Engine κ τ) : Engine κ τ :=
  { engine with shutdownDeferred := deferred }

variable (below : List (Frame τ)) (queue : List (Task τ)) {frame : Frame τ}

theorem guise_atop : Guise id (atop below queue : Engine κ τ → Engine κ τ) := by
  constructor <;> intros <;> rfl

theorem guise_awaiting (deferred : Bool) :
    Guise id (awaiting deferred : Engine κ τ → Engine κ τ) := by
  constructor <;> intros <;> rfl

/-- A call does not look at what lies below, nor into the inbox. -/
theorem atop_runFrame (ofCall : frame.isOfCall) (platform : Platform κ) (engine : Engine κ τ) :
    (engine.atop below queue).runFrame platform frame =
      (engine.runFrame platform frame).atop below queue := by
  cases frame with
  | client => rfl
  | stage request => exact (guise_atop below queue).runFrame_stage platform.shows_id request rfl
  | refuse records failure outer =>
      cases records with
      | nil =>
          simp only [runFrame, endDispatch, apply_ite (atop below queue)]
          rfl
      | cons record rest =>
          exact (guise_atop below queue).runFrame_delivery platform.shows_id rfl engine
  | _ => cases ofCall

theorem awaiting_eq {engine : Engine κ τ} (unbroken : engine.shutdownDeferred = false) :
    engine.awaiting false = engine := by
  rw [awaiting, ← unbroken]

theorem unbroken_of_eq {engine : Engine κ τ} (same : engine = engine.awaiting false) :
    engine.shutdownDeferred = false := by
  rw [same]
  rfl

theorem unbroken_beginRequest (platform : Platform κ) (request : Request τ) {engine : Engine κ τ}
    (unbroken : engine.shutdownDeferred = false) :
    (engine.beginRequest platform request).shutdownDeferred = false := by
  have begun := (guise_awaiting false).beginRequest platform.shows_id request engine
  rw [awaiting_eq unbroken] at begun
  exact unbroken_of_eq begun

theorem tags_beginRequest (platform : Platform κ) (request : Request τ) (engine : Engine κ τ) :
    (engine.beginRequest platform request).tags = engine.tags := by
  rcases beginRequest_eq platform engine request with plain | room
  · rw [plain]
    rfl
  · rw [room]
    rcases flush_cases platform (engine.next (.stage request)) with
      ⟨-, same⟩ | ⟨-, world, events, -, pushed | ⟨error, refused⟩⟩
    · rw [same]
      rfl
    · rw [pushed]
      rfl
    · rw [refused]
      rfl

/-- A call does not begin a shutdown. -/
theorem unbroken_runFrame (ofCall : frame.isOfCall) (platform : Platform κ)
    {engine : Engine κ τ} (unbroken : engine.shutdownDeferred = false) :
    (engine.runFrame platform frame).shutdownDeferred = false := by
  have isGuise : Guise id (awaiting false : Engine κ τ → Engine κ τ) := guise_awaiting false
  cases frame with
  | client => exact unbroken
  | stage request =>
      have staged : (engine.awaiting false).runFrame platform (.stage request) =
          (engine.runFrame platform (.stage request)).awaiting false :=
        isGuise.runFrame_stage platform.shows_id request rfl
      rw [awaiting_eq unbroken] at staged
      exact unbroken_of_eq staged
  | refuse records failure outer =>
      cases records with
      | nil =>
          rcases endDispatch_cases engine outer with ⟨-, deferred, -⟩ | ⟨-, left⟩
          · cases unbroken.symm.trans deferred
          · rw [runFrame, left]
            exact unbroken
      | cons record rest =>
          have refused :
              (engine.awaiting false).runFrame platform (.refuse (record :: rest) failure outer) =
                (engine.runFrame platform _).awaiting false :=
            isGuise.runFrame_delivery platform.shows_id rfl engine
          rw [awaiting_eq unbroken] at refused
          exact unbroken_of_eq refused
  | _ => cases ofCall

theorem awaitsCaller_atop {engine : Engine κ τ} (busy : engine.frames ≠ []) :
    (engine.atop below queue).awaitsCaller = engine.awaitsCaller := by
  rcases List.exists_cons_of_ne_nil busy with ⟨frame, above, frames_eq⟩
  simp only [awaitsCaller, atop, frames_eq, List.cons_append]
  cases frame <;> rfl

theorem atop_step (platform : Platform κ) {engine : Engine κ τ} (busy : engine.frames ≠ [])
    (ofCalls : ∀ frame ∈ engine.frames, frame.isOfCall) :
    (engine.atop below queue).step platform = (engine.step platform).atop below queue := by
  rcases List.exists_cons_of_ne_nil busy with ⟨frame, above, frames_eq⟩
  have turn := awaitsCaller_atop below queue busy
  by_cases awaits : engine.awaitsCaller
  · rw [step, step, if_pos awaits, if_pos (turn.trans awaits)]
  · have ofCall := ofCalls frame (by rw [frames_eq]; exact List.mem_cons_self)
    have lower := atop_runFrame below queue ofCall platform { engine with frames := above }
    rw [step, step, if_neg awaits, if_neg (turn.trans_ne awaits)]
    have frames_atop : (engine.atop below queue).frames = frame :: (above ++ below) := by
      rw [atop, frames_eq]
      rfl
    simp only [frames_eq, frames_atop]
    exact lower

theorem atop_finish {engine : Engine κ τ} (busy : engine.frames ≠ []) :
    (engine.atop below queue).finish = engine.finish.atop below queue := by
  rcases List.exists_cons_of_ne_nil busy with ⟨frame, above, frames_eq⟩
  have frames_atop : (engine.atop below queue).frames = frame :: (above ++ below) := by
    rw [atop, frames_eq]
    rfl
  simp only [finish, frames_eq, frames_atop]
  cases frame <;> rfl

end Engine

namespace Scene

/-- The scene with its engine on top of more that is to be done, with these tasks in its inbox. -/
def atop (below : List (Frame τ)) (queue : List (Task τ)) (scene : Scene κ τ) : Scene κ τ :=
  { scene with engine := scene.engine.atop below queue }

/-- Whether some moves are made until nothing is left to be done but the lowest `depth` frames, and
leave queued tasks alone up to then. -/
def returns (platform : Platform κ) (depth : ℕ) : List (Move κ τ) → Scene κ τ → Bool
  | [], scene => scene.engine.frames.length = depth
  | move :: moves, scene =>
    depth < scene.engine.frames.length && move.leavesQueue &&
      (scene.move? platform move).any (returns platform depth moves)

variable {platform : Platform κ} (below : List (Frame τ)) (queue : List (Task τ))
  {scene : Scene κ τ} {move : Move κ τ}

theorem atop_request (platform : Platform κ) (request : Request τ) (engine : Engine κ τ) :
    (engine.atop below queue).beginRequest platform request =
      (engine.beginRequest platform request).atop below queue :=
  (Engine.guise_atop below queue).beginRequest platform.shows_id request engine

/-- In the course of a call, moves that leave the queue alone do not look at what lies below. -/
theorem atop_perform (busy : scene.engine.frames ≠ [])
    (ofCalls : ∀ frame ∈ scene.engine.frames, frame.isOfCall) (leaves : move.leavesQueue) :
    (scene.atop below queue).perform platform move =
      (scene.perform platform move).atop below queue := by
  have alike {engine other : Engine κ τ} (same : engine = other.atop below queue) :
      Scene.mk engine scene.pushes = (Scene.mk other scene.pushes).atop below queue := by
    rw [same]
    rfl
  cases move with
  | step => exact alike (Engine.atop_step below queue platform busy ofCalls)
  | request command label => exact alike (atop_request below queue platform _ scene.engine)
  | requestPromise command promise => exact alike (atop_request below queue platform _ scene.engine)
  | finish => exact alike (Engine.atop_finish below queue busy)
  | push | closeInbox | wake | drift => rfl
  | _ => cases leaves

theorem atop_move (busy : scene.engine.frames ≠ [])
    (ofCalls : ∀ frame ∈ scene.engine.frames, frame.isOfCall) (leaves : move.leavesQueue) :
    (scene.atop below queue).move? platform move =
      (scene.move? platform move).map (atop below queue) := by
  have allowed : (scene.atop below queue).allows move = scene.allows move := by
    have turn : (scene.engine.atop below queue).awaitsCaller = scene.engine.awaitsCaller :=
      Engine.awaitsCaller_atop below queue busy
    cases move with
    | request | requestPromise | finish => exact turn
    | step | push | closeInbox | wake | drift => rfl
    | _ => cases leaves
  have performed : (scene.atop below queue).perform platform move = _ :=
    atop_perform below queue busy ofCalls leaves
  simp only [move?, allowed, performed, apply_ite (Option.map (atop below queue)), Option.map_some,
    Option.map_none]
  rfl

/-- Nothing is under way but calls for operations, and no shutdown waits for their end. -/
structure OnlyCalls (scene : Scene κ τ) : Prop where
  ofCalls : ∀ frame ∈ scene.engine.frames, frame.isOfCall
  unbroken : scene.engine.shutdownDeferred = false

variable {below queue}

theorem onlyCalls_request {engine : Engine κ τ} {pushes : List (PushPhase (Task τ))}
    (request : Request τ) (calls : (Scene.mk engine pushes).OnlyCalls) :
    (Scene.mk (engine.beginRequest platform request) pushes).OnlyCalls := by
  constructor
  · rcases engine.exists_frames_beginRequest platform request with ⟨above, frames_eq, refuse⟩
    intro frame frameMem
    change frame ∈ (engine.beginRequest platform request).frames at frameMem
    rw [frames_eq] at frameMem
    rcases List.mem_append.mp frameMem with new | old
    · exact Frame.isOfCall_of_isRefuse (refuse frame new)
    · rcases List.mem_cons.mp old with rfl | older
      · rfl
      · exact calls.ofCalls frame older
  · exact Engine.unbroken_beginRequest platform request calls.unbroken

theorem onlyCalls_step {engine : Engine κ τ} {pushes : List (PushPhase (Task τ))}
    (sound : ((Scene.mk engine pushes).atop below queue).Sound)
    (calls : (Scene.mk engine pushes).OnlyCalls) (spare : engine.inFlight + 2 ≤ UInt32.size) :
    (Scene.mk (engine.step platform) pushes).OnlyCalls := by
  rcases Engine.step_cases engine platform with ⟨-, same⟩ | ⟨lower, frame, rfl, stepped⟩
  · rw [same]
    exact calls
  · have ofCall : frame.isOfCall := calls.ofCalls frame List.mem_cons_self
    rcases sound with ⟨flights, hand, sound⟩
    have sound : ((lower.atop below queue).next frame).Sound flights hand := sound
    rcases sound.busies ofCall (fun deferred => by cases calls.unbroken.symm.trans deferred)
      platform spare with ⟨-, above, frames_eq, above_ofCall⟩
    rw [Engine.atop_runFrame below queue ofCall] at frames_eq
    have own : (lower.runFrame platform frame).frames = above ++ lower.frames :=
      (List.append_left_inj below).mp (frames_eq.trans (List.append_assoc above _ below).symm)
    rw [stepped]
    refine ⟨?_, Engine.unbroken_runFrame ofCall platform calls.unbroken⟩
    intro other otherMem
    change other ∈ (lower.runFrame platform frame).frames at otherMem
    rw [own] at otherMem
    rcases List.mem_append.mp otherMem with new | old
    · exact above_ofCall other new
    · exact calls.ofCalls other (List.mem_cons_of_mem _ old)

/-- In the course of calls, moves that leave the queue alone begin nothing but calls. -/
theorem onlyCalls_perform (sound : (scene.atop below queue).Sound) (calls : scene.OnlyCalls)
    (leaves : move.leavesQueue) (allowed : (scene.atop below queue).allows move) :
    (scene.perform platform move).OnlyCalls := by
  rcases scene with ⟨engine, pushes⟩
  cases move with
  | step => exact onlyCalls_step sound calls (of_decide_eq_true allowed)
  | request command label => exact onlyCalls_request _ calls
  | requestPromise command promise => exact onlyCalls_request _ calls
  | finish =>
      simp only [perform, Engine.finish]
      split
      · rename_i rest running
        refine ⟨fun frame frameMem => calls.ofCalls frame ?_, calls.unbroken⟩
        change frame ∈ engine.frames
        rw [running]
        exact List.mem_cons_of_mem _ frameMem
      · exact calls
  | push | closeInbox | wake | drift => exact ⟨calls.ofCalls, calls.unbroken⟩
  | _ => cases leaves

/-- A call that returns above some frames goes on in the same way above any others, whatever is in
the inbox, and leaves them as they were. -/
theorem play_of_returns {moves : List (Move κ τ)} (sound : (scene.atop below queue).Sound)
    (calls : scene.OnlyCalls)
    (returns : (scene.atop below queue).returns platform below.length moves) :
    ∃ after : Scene κ τ, after.engine.frames = [] ∧ after.OnlyCalls ∧
      (after.atop below queue).Sound ∧ ∀ others tasks,
        (scene.atop others tasks).play? platform moves = some (after.atop others tasks) := by
  -- The induction carries along that nothing but calls is under way above `below`: a call does not
  -- look at what lies below it, so each move is made alike above other frames.
  induction moves generalizing scene with
  | nil =>
      have height : (scene.engine.frames ++ below).length = below.length :=
        of_decide_eq_true returns
      have empty : scene.engine.frames = [] := by
        simpa using height
      exact ⟨scene, empty, calls, sound, fun _ _ => rfl⟩
  | cons move moves ih =>
      simp only [Scene.returns, Bool.and_eq_true, decide_eq_true_eq, Option.any_eq_true] at returns
      rcases returns with ⟨⟨higher, leaves⟩, next, moved, returns⟩
      have busy : scene.engine.frames ≠ [] := by
        rintro empty
        simp [atop, Engine.atop, empty] at higher
      rcases move?_eq_some.mp moved with ⟨allowed, keeps, performed⟩
      have soundNext : next.Sound := by
        rcases sound with ⟨flights, hand, sound⟩
        rw [← performed]
        exact sound_perform sound allowed keeps
      rw [atop_move below queue busy calls.ofCalls leaves] at moved
      rcases Option.map_eq_some_iff.mp moved with ⟨between, movedBetween, rfl⟩
      have callsBetween : between.OnlyCalls := by
        rcases move?_eq_some.mp movedBetween with ⟨-, -, rfl⟩
        exact onlyCalls_perform sound calls leaves allowed
      rcases ih soundNext callsBetween returns with ⟨after, bare, callsAfter, soundAfter, plays⟩
      refine ⟨after, bare, callsAfter, soundAfter, fun others tasks => ?_⟩
      have movedOther : (scene.atop others tasks).move? platform move = _ :=
        atop_move others tasks busy calls.ofCalls leaves
      rw [movedBetween] at movedOther
      simp only [play?, List.foldlM_cons, movedOther]
      exact plays others tasks

/-- A call that returns has tags to spare, since it takes a step before anything else. -/
theorem spare_of_returns {depth : ℕ} {moves : List (Move κ τ)}
    (busy : depth < scene.engine.frames.length) (turn : scene.engine.awaitsCaller = false)
    (returns : scene.returns platform depth moves) :
    scene.engine.inFlight + 2 ≤ UInt32.size := by
  -- Until the engine steps, it is no caller's turn, and others leave its frames and tags alone.
  induction moves generalizing scene with
  | nil =>
      have height : scene.engine.frames.length = depth := of_decide_eq_true returns
      omega
  | cons move moves ih =>
      simp only [Scene.returns, Bool.and_eq_true, decide_eq_true_eq, Option.any_eq_true] at returns
      rcases returns with ⟨⟨-, leaves⟩, next, moved, returns⟩
      rcases move?_eq_some.mp moved with ⟨allowed, -, rfl⟩
      have passes (frames_eq : (scene.perform platform move).engine.frames = scene.engine.frames)
          (turn_eq : (scene.perform platform move).engine.awaitsCaller = scene.engine.awaitsCaller)
          (tags_eq : (scene.perform platform move).engine.tags = scene.engine.tags) :
          scene.engine.inFlight + 2 ≤ UInt32.size := by
        rw [Engine.inFlight, ← tags_eq]
        exact ih (by rwa [frames_eq]) (turn_eq.trans turn) returns
      cases move with
      | step => exact of_decide_eq_true allowed
      | request | requestPromise | finish => cases turn.symm.trans allowed
      | push | closeInbox | wake | drift => exact passes rfl rfl rfl
      | _ => cases leaves

end Scene

/-- A request whose outcome resolves a promise, and the moves that are made until it has
returned. -/
structure Commission (κ τ : Type) where
  command : Command
  promise : τ
  moves : List (Move κ τ)

namespace Commission

/-- The task that a handle queues for the request. -/
def task (commission : Commission κ τ) : Task τ :=
  .request commission.command.normalize commission.promise

/-- What happens when a caller makes the request. -/
def direct (commission : Commission κ τ) : List (Move κ τ) :=
  .requestPromise commission.command commission.promise :: commission.moves

/-- What happens when the engine takes the request from its inbox. -/
def queued (commission : Commission κ τ) : List (Move κ τ) := .step :: commission.moves

end Commission

namespace Scene

/-- Whether a caller may make some requests, each after the one before has returned, and whatever
code is entered meanwhile leaves queued tasks alone. -/
def runs (platform : Platform κ) : List (Commission κ τ) → Scene κ τ → Bool
  | [], _ => true
  | commission :: commissions, scene =>
    (scene.move? platform (.requestPromise commission.command commission.promise)).any fun begun =>
      begun.returns platform scene.engine.frames.length commission.moves &&
        (begun.play? platform commission.moves).any (runs platform commissions)

variable {platform : Platform κ} {below : List (Frame τ)} {queue : List (Task τ)}
  {scene : Scene κ τ}

/-- A request that has just been made waits for the engine to go on. -/
theorem awaitsCaller_request (platform : Platform κ) (request : Request τ) {engine : Engine κ τ}
    (healthy : (engine.beginRequest platform request).fault = none) :
    (engine.beginRequest platform request).awaitsCaller = false := by
  rcases engine.exists_frames_beginRequest platform request with ⟨above, frames_eq, refuse⟩
  simp only [Engine.awaitsCaller, healthy, frames_eq]
  cases above with
  | nil => rfl
  | cons frame above =>
      have refuses := refuse frame List.mem_cons_self
      cases frame <;> first | rfl | cases refuses

theorem spare_of_request (request : Request τ) {engine : Engine κ τ}
    {pushes : List (PushPhase (Task τ))} {moves : List (Move κ τ)}
    (sound : ((Scene.mk (engine.beginRequest platform request) pushes).atop below queue).Sound)
    (returns : ((Scene.mk (engine.beginRequest platform request) pushes).atop below queue).returns
      platform below.length moves) :
    engine.inFlight + 2 ≤ UInt32.size := by
  have busy : below.length < ((engine.beginRequest platform request).frames ++ below).length := by
    rcases engine.exists_frames_beginRequest platform request with ⟨above, frames_eq, -⟩
    rw [frames_eq]
    simp only [List.length_append, List.length_cons]
    omega
  have turn : ((engine.beginRequest platform request).atop below queue).awaitsCaller = false := by
    rcases sound with ⟨flights, hand, sound⟩
    have healthy : ((engine.beginRequest platform request).atop below queue).fault = none :=
      sound.healthy
    rw [← atop_request] at healthy ⊢
    exact awaitsCaller_request platform _ healthy
  have spare := spare_of_returns busy turn returns
  have tags_eq : ((engine.beginRequest platform request).atop below queue).tags = engine.tags :=
    engine.tags_beginRequest platform request
  rwa [Engine.inFlight, atop, tags_eq] at spare

/-- The engine takes a request from its inbox just as a caller makes it. -/
theorem step_intake (platform : Platform κ) (below : List (Frame τ)) (queue : List (Task τ))
    {engine : Engine κ τ} (healthy : engine.fault = none)
    (bare : engine.frames = []) (remaining : ℕ) (wait : Wait) (command : Command) (promise : τ) :
    (engine.atop (.intake (remaining + 1) wait :: below) (.request command promise :: queue)).step
        platform =
      (engine.beginRequest platform ⟨command, .promise promise⟩).atop
        (.intake remaining wait :: below) queue := by
  have frames_eq : engine.frames ++ .intake (remaining + 1) wait :: below =
      .intake (remaining + 1) wait :: below := by
    rw [bare, List.nil_append]
  have healthyAtop : (engine.atop (.intake (remaining + 1) wait :: below)
      (.request command promise :: queue)).fault = none := healthy
  rw [Engine.step_of_frames healthyAtop frames_eq (by simp), ← atop_request]
  simp only [Engine.runFrame, Engine.atop, Inbox.pop?, Engine.next, Engine.runTask, bare,
    List.nil_append]

/-- A commission goes the same way whether a caller makes the request or the engine takes it from
its inbox. -/
theorem play_commission (commission : Commission κ τ) (bare : scene.engine.frames = [])
    (calls : scene.OnlyCalls) (sound : (scene.atop below queue).Sound) {begun : Scene κ τ}
    (moved : (scene.atop below queue).move? platform
      (.requestPromise commission.command commission.promise) = some begun)
    (returns : begun.returns platform below.length commission.moves) :
    ∃ after : Scene κ τ, after.engine.frames = [] ∧ after.OnlyCalls ∧
      (after.atop below queue).Sound ∧
      begun.play? platform commission.moves = some (after.atop below queue) ∧
      ∀ remaining wait tasks,
        (scene.atop (.intake (remaining + 1) wait :: below) (commission.task :: tasks)).play?
            platform commission.queued =
          some (after.atop (.intake remaining wait :: below) tasks) := by
  rcases scene with ⟨engine, pushes⟩
  rcases move?_eq_some.mp moved with ⟨allowed, keeps, performed⟩
  let first : Scene κ τ :=
    ⟨engine.requestPromise platform commission.command commission.promise, pushes⟩
  have begun_eq : begun = first.atop below queue := by
    rw [← performed]
    exact congrArg (Scene.mk · pushes) (atop_request below queue platform _ engine)
  subst begun_eq
  have soundFirst : (first.atop below queue).Sound := by
    rcases sound with ⟨flights, hand, sound⟩
    rw [← performed]
    exact sound_perform sound allowed keeps
  have keepsFirst : keepsContract (first.atop below queue).engine.journal := by
    rwa [performed] at keeps
  have callsFirst : first.OnlyCalls := onlyCalls_request _ calls
  rcases play_of_returns soundFirst callsFirst returns with
    ⟨after, bareAfter, callsAfter, soundAfter, plays⟩
  refine ⟨after, bareAfter, callsAfter, soundAfter, plays below queue, ?_⟩
  intro remaining wait tasks
  have healthy : engine.fault = none := by
    rcases sound with ⟨flights, hand, sound⟩
    exact sound.healthy
  have spare := spare_of_request _ soundFirst returns
  have stepped := step_intake platform below tasks healthy bare remaining wait
    commission.command.normalize commission.promise
  have taken : ((Scene.mk engine pushes).atop (.intake (remaining + 1) wait :: below)
      (commission.task :: tasks)).move? platform .step =
        some (first.atop (.intake remaining wait :: below) tasks) := by
    have performed : ((Scene.mk engine pushes).atop (.intake (remaining + 1) wait :: below)
        (commission.task :: tasks)).perform platform .step =
          first.atop (.intake remaining wait :: below) tasks :=
      congrArg (Scene.mk · pushes) stepped
    refine move?_eq_some.mpr ⟨decide_eq_true spare, ?_, performed⟩
    rw [performed]
    exact keepsFirst
  simp only [Commission.queued, play?, List.foldlM_cons, taken]
  exact plays _ tasks

/-- So do several, the oldest first. Whatever is queued behind them stays there. -/
theorem play_commissions {commissions : List (Commission κ τ)} (bare : scene.engine.frames = [])
    (calls : scene.OnlyCalls) (sound : (scene.atop below queue).Sound)
    (runs : (scene.atop below queue).runs platform commissions) :
    ∃ after : Scene κ τ, after.engine.frames = [] ∧ (after.atop below queue).Sound ∧
      (scene.atop below queue).play? platform (commissions.flatMap Commission.direct) =
        some (after.atop below queue) ∧
      ∀ remaining wait tasks,
        (scene.atop (.intake (commissions.length + remaining) wait :: below)
          (commissions.map Commission.task ++ tasks)).play? platform
            (commissions.flatMap Commission.queued) =
          some (after.atop (.intake remaining wait :: below) tasks) := by
  induction commissions generalizing scene with
  | nil =>
      refine ⟨scene, bare, sound, rfl, fun remaining wait tasks => ?_⟩
      simp [play?]
  | cons commission commissions ih =>
      simp only [Scene.runs, Option.any_eq_true, Bool.and_eq_true] at runs
      rcases runs with ⟨begun, moved, returns, between, wentBetween, runs⟩
      have height : (scene.atop below queue).engine.frames.length = below.length := by
        simp [atop, Engine.atop, bare]
      rw [height] at returns
      rcases play_commission commission bare calls sound moved returns with
        ⟨after, bareAfter, callsAfter, soundAfter, went, taken⟩
      obtain rfl := Option.some.inj (wentBetween.symm.trans went)
      rcases ih bareAfter callsAfter soundAfter runs with
        ⟨last, bareLast, soundLast, direct, queued⟩
      refine ⟨last, bareLast, soundLast, ?_, fun remaining wait tasks => ?_⟩
      · have made : (scene.atop below queue).play? platform commission.direct =
            some (after.atop below queue) := by
          simp only [Commission.direct, play?, List.foldlM_cons, moved]
          exact went
        rw [List.flatMap_cons, play?_append made]
        exact direct
      · rw [List.flatMap_cons, List.length_cons, List.map_cons, List.cons_append,
          Nat.add_right_comm, play?_append (taken _ wait _)]
        exact queued remaining wait tasks

end Scene

end CompletionEngine
