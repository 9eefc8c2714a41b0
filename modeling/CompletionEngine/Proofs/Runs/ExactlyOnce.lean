import CompletionEngine.Proofs.Engine.Ledger
import CompletionEngine.Proofs.Runs.Scene
import CompletionEngine.Simulation.Script

/-!
# Exactly-once delivery

Every continuation that is handed over in a run is called at most once, and exactly once by the time
that everything has been given up, whatever becomes of its operation on the way. Taken literally, this
fails for one request: the one that an engine is about to stage when code that hears of a refused batch
shuts the engine down. It is told so as soon as everything has been given up.
-/

namespace CompletionEngine

variable {κ τ : Type}

/-- The promise of the task that a push has not queued yet. -/
def PushPhase.promised : PushPhase (Task τ) → Multiset (Continuation τ)
  | .check task | .enqueue task => task.promised
  | _ => 0

/-- The promise of a task that a push gives back. -/
def PushEffect.promised : PushEffect (Task τ) → Multiset (Continuation τ)
  | .reject task _ => task.promised
  | _ => 0

/-- The continuation that a move hands over. -/
def Move.handed : Move κ τ → Multiset (Continuation τ)
  | .request _ label => {.caller label}
  | .requestPromise _ promise => {.promise promise}
  | .push task => task.promised
  | _ => 0

/-- The continuations that the moves of a run hand over. -/
def handedOver (moves : List (Move κ τ)) : Multiset (Continuation τ) :=
  (moves.map Move.handed).sum

namespace Scene

/-- The promises of tasks that the engine has not taken up: they wait in the inbox, or for it. -/
def queued (scene : Scene κ τ) : Multiset (Continuation τ) :=
  promisedBy scene.engine.inbox.queue + (scene.pushes.map PushPhase.promised).sum

/-- Every continuation that has been called or still has to be called. -/
def ledger (scene : Scene κ τ) : Multiset (Continuation τ) :=
  scene.engine.ledger + (scene.pushes.map PushPhase.promised).sum

theorem sum_map_set {α β : Type} (part : α → Multiset β) (list : List α) (index : ℕ) {old : α}
    (new : α) (found : list[index]? = some old) :
    ((list.set index new).map part).sum + part old = (list.map part).sum + part new := by
  induction list generalizing index with
  | nil => simp at found
  | cons first rest ih =>
      cases index with
      | zero =>
          simp only [List.getElem?_cons_zero, Option.some.injEq] at found
          subst found
          simp only [List.set_cons_zero, List.map_cons, List.sum_cons]
          abel
      | succ index =>
          rw [List.getElem?_cons_succ] at found
          have step := ih index found
          simp only [List.set_cons_succ, List.map_cons, List.sum_cons, add_assoc, step]

theorem promisedBy_append (tasks : List (Task τ)) (task : Task τ) :
    promisedBy (tasks ++ [task]) = promisedBy tasks + task.promised := by
  simp [promisedBy]

theorem ledger_finish (engine : Engine κ τ) : engine.finish.ledger = engine.ledger := by
  unfold Engine.finish
  split
  · rename_i rest frames_eq
    simp only [Engine.ledger, frames_eq, List.map_cons, List.sum_cons, Frame.waiting, zero_add]
  · rfl

theorem ledger_wake (engine : Engine κ τ) (platform : Platform κ) :
    (engine.wake platform).ledger = engine.ledger := by
  rw [Engine.wake, Engine.ledger_log _ rfl]
  rfl

/-- A push moves its promise into the inbox, or tells it. -/
theorem promised_advance (phase : PushPhase (Task τ)) (inbox : Inbox (Task τ)) :
    (phase.advance inbox).1.promised + (phase.advance inbox).2.1.promised +
      promisedBy (phase.advance inbox).2.2.queue = phase.promised + promisedBy inbox.queue := by
  cases phase with
  | check task =>
      simp only [PushPhase.advance]
      split <;> simp [PushPhase.promised, PushEffect.promised]
  | enqueue task =>
      simp only [PushPhase.advance, Inbox.enqueue?]
      by_cases room : inbox.queue.length < inbox.capacity
      · simp [room, PushPhase.promised, PushEffect.promised, promisedBy_append, add_comm]
      · simp [room, PushPhase.promised, PushEffect.promised]
  | recheck =>
      simp only [PushPhase.advance]
      split <;> simp [PushPhase.promised, PushEffect.promised]
  | sweep =>
      simp only [PushPhase.advance, Inbox.pop?]
      cases queued : inbox.queue with
      | nil => simp [PushPhase.promised, PushEffect.promised, queued]
      | cons task rest => simp [PushPhase.promised, PushEffect.promised, promisedBy]
  | wake => simp [PushPhase.advance, PushPhase.promised, PushEffect.promised]
  | returned result => simp [PushPhase.advance, PushPhase.promised, PushEffect.promised]

/-- A task that is rejected is told. -/
theorem invoked_events (effect : PushEffect (Task τ)) (platform : Platform κ) (world : κ)
    (journal : List (Event τ)) :
    invoked (effect.events platform world ++ journal) = effect.promised + invoked journal := by
  cases effect with
  | nothing => exact (zero_add _).symm
  | reject task failure =>
      cases task with
      | request command promise => exact (Multiset.singleton_add _ _).symm
      | job body => exact (zero_add _).symm
  | wake => exact (zero_add _).symm

theorem ledger_advancePush (engine : Engine κ τ) (platform : Platform κ)
    (phase : PushPhase (Task τ)) :
    (engine.advancePush platform phase).2.ledger + (engine.advancePush platform phase).1.promised =
      engine.ledger + phase.promised := by
  have moved := promised_advance phase engine.inbox
  rcases advancePush_eq engine platform phase with ⟨world, advanced⟩
  rw [advanced, Engine.ledger, Engine.ledger, invoked_events, add_assoc _ (promisedBy _) phase.promised,
    add_comm (promisedBy _) phase.promised, ← moved]
  abel

/-- Every move adds what it hands over, and loses nothing. -/
theorem ledger_perform {platform : Platform κ} {engine : Engine κ τ}
    {flights : Multiset (Flight τ)} {hand : Multiset (Grip (Continuation τ))}
    (sound : engine.Sound flights hand) {pushes : List (PushPhase (Task τ))} {move : Move κ τ}
    (allowed : (Scene.mk engine pushes).allows move) :
    ((Scene.mk engine pushes).perform platform move).ledger =
      (Scene.mk engine pushes).ledger + move.handed := by
  cases move with
  | step =>
      have same := sound.ledger_step platform (by simpa [allows] using allowed)
      simp only [ledger, perform, Move.handed, same, add_zero]
  | request command label =>
      simp only [ledger, perform, Move.handed, Engine.request, Engine.ledger_beginRequest,
        Continuation.counted]
      abel
  | requestPromise command promise =>
      simp only [ledger, perform, Move.handed, Engine.requestPromise, Engine.ledger_beginRequest,
        Continuation.counted]
      abel
  | cycle limit =>
      have same : (engine.cycle limit).ledger = engine.ledger :=
        Engine.ledger_next_of_not_stage _ rfl
      simp only [ledger, perform, Move.handed, same, add_zero]
  | work =>
      have same : engine.work.ledger = engine.ledger := Engine.ledger_next_of_not_stage _ rfl
      simp only [ledger, perform, Move.handed, same, add_zero]
  | shutdown => simp only [ledger, perform, Move.handed, Engine.ledger_shutdown, add_zero]
  | finish => simp only [ledger, perform, Move.handed, ledger_finish, add_zero]
  | drop =>
      have same : engine.drop.ledger = engine.ledger := by
        unfold Engine.drop
        split
        · rfl
        · exact engine.ledger_shutdown
      simp only [ledger, perform, Move.handed, same, add_zero]
  | push task =>
      simp only [ledger, perform, Move.handed, List.map_append, List.sum_append, List.map_cons,
        List.map_nil, List.sum_cons, List.sum_nil, PushPhase.promised, add_zero, add_assoc]
  | advance index =>
      simp only [perform, advance, Move.handed, add_zero]
      cases found : pushes[index]? with
      | none => rfl
      | some phase =>
          have pushed := ledger_advancePush engine platform phase
          have exchanged := sum_map_set PushPhase.promised pushes index
            (engine.advancePush platform phase).1 found
          apply add_right_cancel (b := phase.promised)
          simp only [ledger, add_assoc, exchanged]
          rw [add_comm _ (PushPhase.promised _), ← add_assoc, pushed, add_assoc,
            add_comm phase.promised]
  | closeInbox => exact (add_zero _).symm
  | wake => simp only [ledger, perform, Move.handed, ledger_wake, add_zero]
  | drift world => exact (add_zero _).symm

theorem ledger_opening (configuration : Configuration) (world : κ) :
    (opening configuration world : Scene κ τ).ledger = 0 := by
  simp [ledger, opening, Engine.ledger, Engine.new, invoked, entrusted, promisedBy, Inbox.new]

/-- The ledger of a run is what has been handed over in it. -/
theorem ledger_of_play {platform : Platform κ} {configuration : Configuration} {world : κ}
    {moves : List (Move κ τ)} {scene : Scene κ τ}
    (played : (opening configuration world).play? platform moves = some scene) :
    scene.ledger = handedOver moves := by
  refine play?_induction (fun moves scene => scene.ledger = handedOver moves) ?_ ?_ played
  · exact ledger_opening configuration world
  · intro moves before move after playedBefore balanced moved
    rcases move?_eq_some.mp moved with ⟨allowed, -, rfl⟩
    rcases sound_of_play playedBefore with ⟨flights, hand, sound⟩
    rw [ledger_perform sound allowed, balanced]
    simp [handedOver]

end Scene

/-- The continuation of the request whose call the engine carries out at this moment. -/
def Engine.underway (engine : Engine κ τ) : Multiset (Continuation τ) :=
  engine.frames.head?.elim 0 Frame.waiting

/-- Without a batch and a shutdown, only the request on top waits for its staging. -/
theorem Stacked.sum_waiting {frames : List (Frame τ)} (stacked : Stacked frames)
    (plain : ∀ frame ∈ frames, frame.isPlain) :
    (frames.map Frame.waiting).sum = frames.head?.elim 0 Frame.waiting := by
  induction frames with
  | nil => rfl
  | cons frame below ih =>
      have belowPlain : ∀ frame ∈ below, frame.isPlain :=
        fun frame frameMem => plain frame (by simp [frameMem])
      have framePlain : frame.isBatch = false ∧ frame.isClosing = false := by
        simpa [Frame.isPlain] using plain frame (by simp)
      have covered := stacked.1.waiting
      rw [List.map_cons, List.sum_cons, ih stacked.2 belowPlain]
      cases head : below.head? with
      | none => simp
      | some next =>
          have notStage : next.isStage = false := by
            simpa [head, framePlain.2, Frame.isRefuse_eq_false_of_isPlain (plain frame (by simp))]
              using covered
          simp [Frame.waiting_of_not_stage notStage]

namespace Engine.Sound

variable {engine : Engine κ τ} {flights : Multiset (Flight τ)}
  {hand : Multiset (Grip (Continuation τ))}

/-- Once everything has been given up, no entry holds a continuation. -/
theorem entrusted_of_terminated (sound : engine.Sound flights hand)
    (terminated : engine.terminated) : entrusted engine.pools = 0 := by
  have disciplined := sound.disciplined
  rw [Engine.Disciplined, terminated] at disciplined
  have calm : ∀ frame ∈ engine.frames, frame.isFail = false :=
    fun frame frameMem => Frame.isFail_eq_false_of_isPlain
      (disciplined.isPlain_of_terminated frame frameMem)
  have landed : flights = 0 := sound.accounts.landed (.inl terminated)
  rw [sound.accounts.books.entrusted_eq, sound.accounts.hand_eq_zero calm, landed]
  rfl

theorem ledger_of_terminated (sound : engine.Sound flights hand) (terminated : engine.terminated) :
    engine.ledger = invoked engine.journal + engine.underway + promisedBy engine.inbox.queue := by
  have disciplined := sound.disciplined
  rw [Engine.Disciplined, terminated] at disciplined
  rw [Engine.ledger, sound.entrusted_of_terminated terminated, add_zero, Engine.underway,
    disciplined.stacked.sum_waiting disciplined.isPlain_of_terminated]

theorem terminated_of_rest (sound : engine.Sound flights hand) (closed : engine.closed)
    (rest : engine.frames = []) : engine.terminated := by
  have disciplined := sound.disciplined
  rw [Engine.Disciplined, closed, rest] at disciplined
  exact disciplined.terminated_of_nil

theorem underway_of_awaitsCaller (sound : engine.Sound flights hand) (turn : engine.awaitsCaller) :
    engine.underway = 0 := by
  rcases frames_of_awaitsCaller sound.healthy turn with empty | ⟨rest, running⟩
  · rw [underway, empty]
    rfl
  · rw [underway, running]
    rfl

/-- A request that is under way on a closed engine is told so next, and nothing else happens. -/
theorem step_stage_of_closed (sound : engine.Sound flights hand) (closed : engine.closed = true)
    (platform : Platform κ) {request : Request τ} {rest : List (Frame τ)}
    (frames_eq : engine.frames = .stage request :: rest) :
    engine.step platform = ({ engine with frames := rest } : Engine κ τ).deliver
      (some request.continuation) ⟨request.command.kind, .error .closed⟩ := by
  have turn : engine.awaitsCaller = false := by simp [Engine.awaitsCaller, sound.healthy, frames_eq]
  simp [Engine.step, turn, frames_eq, Engine.runFrame, Engine.stageRequest, closed]
  rfl

theorem journal_step_of_terminated (sound : engine.Sound flights hand)
    (terminated : engine.terminated) (platform : Platform κ) {request : Request τ}
    {rest : List (Frame τ)} (frames_eq : engine.frames = .stage request :: rest) :
    (engine.step platform).journal =
      request.continuation.event ⟨request.command.kind, .error .closed⟩ :: engine.journal := by
  have closed : engine.closed = true :=
    sound.disciplined.isClosed_of_released (.inl terminated)
  rw [sound.step_stage_of_closed closed platform frames_eq, Engine.deliver_some]

end Engine.Sound

/-- Once everything has been given up, what has been handed over has been called, is called next, or
belongs to a task that the engine has not taken up. -/
theorem Scene.invoked_of_terminated {platform : Platform κ} {configuration : Configuration}
    {world : κ} {moves : List (Move κ τ)} {scene : Scene κ τ}
    (played : (opening configuration world).play? platform moves = some scene)
    (terminated : scene.engine.terminated = true) :
    invoked scene.engine.journal + scene.engine.underway + scene.queued = handedOver moves := by
  rcases sound_of_play played with ⟨flights, hand, sound⟩
  rw [← ledger_of_play played, ledger, sound.ledger_of_terminated terminated, queued, add_assoc,
    add_assoc, add_assoc]

/-- In every run, a continuation that has been handed over is called at most once. Once everything
has been given up, be it by a shutdown or by giving the engine up, it has been called exactly once,
unless it is the promise of a task that the engine never took up, or belongs to the one request
whose call is being carried out at this moment. In a caller's turn there is no such request, and
otherwise the next step calls its continuation. -/
theorem invoked_of_play {platform : Platform κ} {configuration : Configuration} {world : κ}
    {moves : List (Move κ τ)} {scene : Scene κ τ}
    (played : (Scene.opening configuration world).play? platform moves = some scene) :
    invoked scene.engine.journal ≤ handedOver moves ∧
      (scene.engine.terminated ∨ scene.engine.closed ∧ scene.engine.frames = [] →
        invoked scene.engine.journal + scene.engine.underway + scene.queued = handedOver moves ∧
          (scene.engine.awaitsCaller → scene.engine.underway = 0) ∧
          ∀ request rest, scene.engine.frames = .stage request :: rest →
            (scene.engine.step platform).journal =
              request.continuation.event ⟨request.command.kind, .error .closed⟩ ::
                scene.engine.journal) := by
  rcases Scene.sound_of_play played with ⟨flights, hand, sound⟩
  have balanced := Scene.ledger_of_play played
  refine ⟨?_, ?_⟩
  · rw [← balanced, Scene.ledger, Engine.ledger, add_assoc, add_assoc, add_assoc]
    exact Multiset.le_add_right _ _
  · intro ended
    have terminated : scene.engine.terminated := by
      rcases ended with terminated | ⟨closed, rest⟩
      · exact terminated
      · exact sound.terminated_of_rest closed rest
    refine ⟨Scene.invoked_of_terminated played terminated, sound.underway_of_awaitsCaller, ?_⟩
    intro request rest frames_eq
    exact sound.journal_step_of_terminated terminated platform frames_eq

open Simulation in
/-- A read with a time limit that is in flight when the engine is given up is called once. -/
theorem invoked_dropped_read :
    ∃ (moves : List (Move Script String)) (scene : Scene Script String),
      (Scene.opening .default (.new 8 .wait none [])).play? (Script.platform (.silent _)) moves =
          some scene ∧
        scene.engine.terminated ∧
        invoked scene.engine.journal + scene.engine.underway + scene.queued =
          {.caller "read"} := by
  let moves : List (Move Script String) :=
    [Move.request ⟨.read, ⟨⟨3⟩, ⟨4096, 16⟩, .current⟩, some (.ofMillis 5)⟩ "read", Move.step,
        Move.drop] ++
      List.replicate 15 Move.step ++ [Move.finish, Move.step, Move.step]
  have plays : ((Scene.opening .default (Script.new 8 .wait none [])).play?
      (Script.platform (.silent _)) moves).any fun scene => scene.engine.terminated := by
    decide +kernel
  rcases (Option.any_eq_true _ _).mp plays with ⟨scene, played, terminated⟩
  exact ⟨moves, scene, played, terminated, ((invoked_of_play played).2 (.inl terminated)).1⟩

open Simulation in
/-- There may be a request under way when everything has been given up. It makes room for itself, the
ring refuses the read that is staged, and the code that hears of this shuts the engine down. -/
theorem uninvoked_under_way :
    ∃ (moves : List (Move Script String)) (scene : Scene Script String),
      (Scene.opening .default
          { Script.new 1 .wait none [] with errors := [(.push, some (.system 11))] }).play?
            (Script.platform (.silent _)) moves = some scene ∧
        scene.engine.terminated = true ∧ scene.queued = 0 ∧
        (handedOver moves).count (.caller "nop") = 1 ∧
        (invoked scene.engine.journal).count (.caller "nop") = 0 := by
  let moves : List (Move Script String) :=
    [.request ⟨.read, ⟨⟨3⟩, ⟨4096, 16⟩, .current⟩, none⟩ "read", .step,
        .request ⟨.nop, (), none⟩ "nop", .step, .shutdown, .finish] ++ List.replicate 8 .step
  have plays : ((Scene.opening .default
      { Script.new 1 .wait none [] with errors := [(.push, some (.system 11))] }).play?
      (Script.platform (.silent _)) moves).any fun scene =>
        decide (scene.engine.terminated = true ∧ scene.queued = 0 ∧
          (invoked scene.engine.journal).count (.caller "nop") = 0) := by
    decide +kernel
  rcases (Option.any_eq_true _ _).mp plays with ⟨scene, played, seen⟩
  rcases of_decide_eq_true seen with ⟨terminated, nothing, uncalled⟩
  exact ⟨moves, scene, played, terminated, nothing, by decide +kernel, uncalled⟩

end CompletionEngine
