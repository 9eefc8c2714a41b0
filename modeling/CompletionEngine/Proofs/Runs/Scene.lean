import CompletionEngine.Proofs.Engine.Steps

/-!
# Runs

A scene is an engine together with the pushes that other threads have begun on its inbox. A run is a
list of moves from an engine at rest. The engine steps; a caller whose turn it is asks for
something, also from inside the code that the engine has entered; other threads push tasks, one
atomic step at a time, close the inbox and wake the engine; and between any two of these the platform
may change by itself. Nothing is assumed of the platform but that its ring keeps the contract.

A tag is a number of 32 bits. A run never uses them up: the engine steps only with two to spare.
-/

namespace CompletionEngine

variable {κ τ : Type}

/-- An engine with the pushes that other threads have begun. -/
structure Scene (κ τ : Type) where
  engine : Engine κ τ
  pushes : List (PushPhase (Task τ))

/-- What can happen next. -/
inductive Move (κ τ : Type) where
  /-- The engine takes a step. -/
  | step
  /-- A caller asks for an operation whose outcome goes to its code. -/
  | request (command : Command) (label : τ)
  /-- A caller asks for an operation whose outcome resolves a promise. -/
  | requestPromise (command : Command) (promise : τ)
  /-- A caller asks for a cycle. -/
  | cycle (limit : Option TimeLimit)
  /-- A caller asks for cycles until the engine is closed. -/
  | work
  /-- A caller asks for shutdown. -/
  | shutdown
  /-- A caller's code returns. -/
  | finish
  /-- The engine is given up. -/
  | drop
  /-- Another thread begins to push a task. -/
  | push (task : Task τ)
  /-- A push that has begun takes its next atomic step. -/
  | advance (index : ℕ)
  /-- Another thread closes the inbox. -/
  | closeInbox
  /-- Another thread wakes the engine. -/
  | wake
  /-- The platform changes by itself. -/
  | drift (world : κ)

/-- What a step of a push writes into the journal. -/
def PushEffect.events (platform : Platform κ) (world : κ) : PushEffect (Task τ) → List (Event τ)
  | .nothing => []
  | .reject (.request command promise) failure => [.settled promise ⟨command.kind, .error failure⟩]
  | .reject (.job body) failure => [.dropped body failure]
  | .wake => [.notified (platform.notifier.notify world).1]

theorem PushEffect.isTraffic_events (effect : PushEffect (Task τ)) (platform : Platform κ)
    (world : κ) : ∀ event ∈ effect.events platform world, event.isTraffic = false := by
  cases effect with
  | reject task failure => cases task <;> simp [events, Event.isTraffic]
  | _ => simp [events, Event.isTraffic]

namespace Scene

/-- An engine at rest, and no push. -/
def opening (configuration : Configuration) (world : κ) : Scene κ τ :=
  ⟨.new configuration world, []⟩

/-- Whether a move is somebody's to make: a caller moves only in its turn, and gives the engine up
only when none of its calls is running. -/
def allows (scene : Scene κ τ) : Move κ τ → Bool
  | .step => scene.engine.inFlight + 2 ≤ UInt32.size
  | .request .. | .requestPromise .. | .cycle _ | .work | .shutdown | .finish =>
    scene.engine.awaitsCaller
  | .drop => scene.engine.frames.isEmpty
  | .push _ | .advance _ | .closeInbox | .wake | .drift _ => true

/-- The scene after a push has taken its next atomic step. -/
def advance (platform : Platform κ) (index : ℕ) (scene : Scene κ τ) : Scene κ τ :=
  match scene.pushes[index]? with
  | none => scene
  | some phase =>
    let (phase, engine) := scene.engine.advancePush platform phase
    ⟨engine, scene.pushes.set index phase⟩

/-- The scene after a move. -/
def perform (platform : Platform κ) (move : Move κ τ) (scene : Scene κ τ) : Scene κ τ :=
  match move with
  | .step => { scene with engine := scene.engine.step platform }
  | .request command label => { scene with engine := scene.engine.request platform command label }
  | .requestPromise command promise =>
    { scene with engine := scene.engine.requestPromise platform command promise }
  | .cycle limit => { scene with engine := scene.engine.cycle limit }
  | .work => { scene with engine := scene.engine.work }
  | .shutdown => { scene with engine := scene.engine.shutdown }
  | .finish => { scene with engine := scene.engine.finish }
  | .drop => { scene with engine := scene.engine.drop }
  | .push task => { scene with pushes := scene.pushes ++ [.check task] }
  | .advance index => scene.advance platform index
  | .closeInbox => { scene with engine.inbox := scene.engine.inbox.close }
  | .wake => { scene with engine := scene.engine.wake platform }
  | .drift world => { scene with engine.world := world }

/-- The scene after a move that is allowed and in which the ring keeps its contract. -/
def move? (platform : Platform κ) (move : Move κ τ) (scene : Scene κ τ) : Option (Scene κ τ) :=
  let after := scene.perform platform move
  if scene.allows move && keepsContract after.engine.journal then some after else none

/-- The scene after a run. -/
def play? (platform : Platform κ) (moves : List (Move κ τ)) (scene : Scene κ τ) :
    Option (Scene κ τ) :=
  moves.foldlM (fun scene move => scene.move? platform move) scene

theorem move?_eq_some {platform : Platform κ} {move : Move κ τ} {scene after : Scene κ τ} :
    scene.move? platform move = some after ↔
      scene.allows move ∧ keepsContract (scene.perform platform move).engine.journal ∧
        scene.perform platform move = after := by
  simp [move?, and_assoc]

theorem play?_concat_eq_some {platform : Platform κ} {moves : List (Move κ τ)} {move : Move κ τ}
    {start after : Scene κ τ} :
    start.play? platform (moves ++ [move]) = some after ↔
      ∃ before, start.play? platform moves = some before ∧
        before.move? platform move = some after := by
  simp [play?, Option.bind_eq_some_iff]

theorem play?_append {platform : Platform κ} {earlier later : List (Move κ τ)}
    {start between : Scene κ τ} (played : start.play? platform earlier = some between) :
    start.play? platform (earlier ++ later) = between.play? platform later := by
  rw [play?, List.foldlM_append, ← play?, played]
  rfl

/-- Every part of a run is a run. -/
theorem exists_play?_of_prefix {platform : Platform κ} {part moves : List (Move κ τ)}
    {start scene : Scene κ τ} (isPart : part <+: moves)
    (played : start.play? platform moves = some scene) :
    ∃ between, start.play? platform part = some between := by
  rcases isPart with ⟨more, rfl⟩
  rw [play?, List.foldlM_append] at played
  rcases Option.bind_eq_some_iff.mp played with ⟨between, reached, -⟩
  exact ⟨between, reached⟩

/-- What holds at the start of a run and is kept by every move holds at its end. -/
theorem play?_induction {platform : Platform κ} {start : Scene κ τ}
    (holds : List (Move κ τ) → Scene κ τ → Prop) (opening : holds [] start)
    (move : ∀ moves scene move after, start.play? platform moves = some scene →
      holds moves scene → scene.move? platform move = some after → holds (moves ++ [move]) after)
    {moves : List (Move κ τ)} {scene : Scene κ τ}
    (played : start.play? platform moves = some scene) : holds moves scene := by
  -- A run goes on at its end, so the induction takes the last move off.
  induction moves using List.reverseRecOn generalizing scene with
  | nil =>
      cases played
      exact opening
  | append_singleton moves last ih =>
      rcases play?_concat_eq_some.mp played with ⟨before, playedBefore, moved⟩
      exact move moves before last scene playedBefore (ih playedBefore) moved

section Observers

variable {ω : Type} (platform : Platform κ) (see : Move κ τ → Scene κ τ → Scene κ τ → ω → ω)

/-- A scene after some moves, and what an observer knows by then who sees each move together with
the scenes before and after it. -/
def observed (known : ω) (moves : List (Move κ τ)) (start : Scene κ τ) : Scene κ τ × ω :=
  moves.foldl (fun (scene, known) move =>
    (scene.perform platform move, see move scene (scene.perform platform move) known)) (start, known)

/-- What an observer knows after some moves. -/
def knows (known : ω) (moves : List (Move κ τ)) (start : Scene κ τ) : ω :=
  (start.observed platform see known moves).2

theorem observed_concat (known : ω) (moves : List (Move κ τ)) (move : Move κ τ)
    (start : Scene κ τ) :
    start.observed platform see known (moves ++ [move]) =
      ((start.observed platform see known moves).1.perform platform move,
        see move (start.observed platform see known moves).1
          ((start.observed platform see known moves).1.perform platform move)
          (start.observed platform see known moves).2) := by
  rw [observed, List.foldl_append]
  rfl

/-- An observer sees the scenes of the run. -/
theorem observed_of_play (known : ω) {moves : List (Move κ τ)} {start scene : Scene κ τ}
    (played : start.play? platform moves = some scene) :
    (start.observed platform see known moves).1 = scene := by
  refine play?_induction (fun moves scene =>
    (start.observed platform see known moves).1 = scene) rfl ?_ played
  intro moves before move after _ same moved
  rcases move?_eq_some.mp moved with ⟨-, -, rfl⟩
  rw [observed_concat, same]

theorem knows_concat (known : ω) {moves : List (Move κ τ)} {start before : Scene κ τ}
    (played : start.play? platform moves = some before) (move : Move κ τ) :
    start.knows platform see known (moves ++ [move]) =
      see move before (before.perform platform move) (start.knows platform see known moves) := by
  rw [knows, observed_concat, observed_of_play platform see known played]
  rfl

theorem knows_cons (known : ω) (move : Move κ τ) (moves : List (Move κ τ)) (start : Scene κ τ) :
    start.knows platform see known (move :: moves) =
      (start.perform platform move).knows platform see
        (see move start (start.perform platform move) known) moves :=
  rfl

end Observers

/-- A scene whose engine is sound. -/
def Sound (scene : Scene κ τ) : Prop := ∃ flights hand, scene.engine.Sound flights hand

theorem sound_opening (configuration : Configuration) (world : κ) :
    (opening configuration world : Scene κ τ).Sound := by
  refine ⟨0, 0, rfl, ?_, ?_⟩
  · refine ⟨trivial, rfl, rfl, by simp [opening, Engine.new], by simp [opening, Engine.new], ?_⟩
    simp [Released, opening, Engine.new]
  · refine ⟨⟨Pools.wellFormed_new _, TagTable.wellFormed_new, ?_, ?_⟩, by simp, by simp, ?_,
      fun _ => rfl, ?_⟩
    · simp [opening, Engine.new]
    · simp [opening, Engine.new]
    · simp [opening, Engine.new]
    · intro _
      simp [inPlay, outstanding, opening, Engine.new]

section Moves

variable {platform : Platform κ} {engine : Engine κ τ} {flights : Multiset (Flight τ)}
  {hand : Multiset (Grip (Continuation τ))}

theorem isReady_of_awaitsCaller (sound : engine.Sound flights hand)
    (turn : engine.awaitsCaller) : engine.IsReady := by
  rcases Engine.frames_of_awaitsCaller sound.healthy turn with empty | ⟨rest, running⟩
  · rw [Engine.IsReady, empty]
    rfl
  · rw [Engine.IsReady, running]
    rfl

theorem sound_finish (sound : engine.Sound flights hand) : engine.finish.Sound flights hand := by
  unfold Engine.finish
  split
  · rename_i rest frames_eq
    rw [← engine.next_pop frames_eq] at sound
    exact (sound.of_next rfl).1
  · exact sound

theorem closed_advance {α : Type} (phase : PushPhase α) (inbox : Inbox α) :
    (phase.advance inbox).2.2.closed = inbox.closed := by
  unfold PushPhase.advance
  cases phase with
  | check task => simp only; split <;> rfl
  | enqueue task =>
      simp only [Inbox.enqueue?]
      by_cases room : inbox.queue.length < inbox.capacity <;> simp [room]
  | sweep =>
      simp only [Inbox.pop?]
      cases inbox.queue <;> rfl
  | recheck | wake | returned => rfl

theorem sound_wake (sound : engine.Sound flights hand) (platform : Platform κ) :
    (engine.wake platform).Sound flights hand := by
  unfold Engine.wake
  refine Engine.Sound.log ?_ ?_
  · exact ⟨sound.healthy, sound.disciplined, sound.accounts⟩
  · rfl

/-- A push touches only the inbox and the journal, apart from the platform. -/
theorem advancePush_eq (engine : Engine κ τ) (platform : Platform κ) (phase : PushPhase (Task τ)) :
    ∃ world, engine.advancePush platform phase = ((phase.advance engine.inbox).1, { engine with
      world := world
      inbox := (phase.advance engine.inbox).2.2
      journal := (phase.advance engine.inbox).2.1.events platform engine.world ++ engine.journal }) := by
  unfold Engine.advancePush
  rcases phase.advance engine.inbox with ⟨next, effect, inbox⟩
  cases effect with
  | nothing => exact ⟨_, rfl⟩
  | reject task failure => cases task <;> exact ⟨_, rfl⟩
  | wake => exact ⟨_, rfl⟩

theorem sound_advancePush (sound : engine.Sound flights hand) (platform : Platform κ)
    (phase : PushPhase (Task τ)) : (engine.advancePush platform phase).2.Sound flights hand := by
  rcases advancePush_eq engine platform phase with ⟨world, advanced⟩
  have closed := closed_advance phase engine.inbox
  have skipped := outstanding_append_of_not_traffic
    ((phase.advance engine.inbox).2.1.isTraffic_events platform engine.world) engine.journal
  rw [advanced]
  refine ⟨sound.healthy, ?_, ?_⟩
  · have disciplined := sound.disciplined
    rw [Engine.Disciplined, ← closed] at disciplined
    exact disciplined
  · exact sound.accounts.transfer Iff.rfl rfl fun _ => inPlay_congr_journal skipped

theorem sound_perform (sound : engine.Sound flights hand) {pushes : List (PushPhase (Task τ))}
    {move : Move κ τ} (allowed : (Scene.mk engine pushes).allows move)
    (keeps : keepsContract ((Scene.mk engine pushes).perform platform move).engine.journal) :
    ((Scene.mk engine pushes).perform platform move).Sound := by
  cases move with
  | step => exact sound.step platform (by simpa [allows] using allowed) keeps
  | request command label =>
      exact ⟨_, _, sound.beginRequest (isReady_of_awaitsCaller sound allowed) platform _⟩
  | requestPromise command promise =>
      exact ⟨_, _, sound.beginRequest (isReady_of_awaitsCaller sound allowed) platform _⟩
  | cycle limit => exact ⟨_, _, sound.next (isReady_of_awaitsCaller sound allowed) rfl⟩
  | work => exact ⟨_, _, sound.next (isReady_of_awaitsCaller sound allowed) rfl⟩
  | shutdown => exact ⟨_, _, sound.shutdown⟩
  | finish => exact ⟨_, _, sound_finish sound⟩
  | drop =>
      simp only [Sound, perform, Engine.drop]
      split
      · exact ⟨_, _, sound⟩
      · exact ⟨_, _, sound.shutdown⟩
  | push task => exact ⟨_, _, sound⟩
  | advance index =>
      simp only [Sound, perform, advance]
      split
      · exact ⟨_, _, sound⟩
      · exact ⟨_, _, sound_advancePush sound platform _⟩
  | closeInbox => exact ⟨_, _, sound.healthy, sound.disciplined.closeInbox, sound.accounts⟩
  | wake => exact ⟨_, _, sound_wake sound platform⟩
  | drift world => exact ⟨_, _, sound.healthy, sound.disciplined, sound.accounts⟩

end Moves

/-- Every run of an engine leads to a sound engine. -/
theorem sound_of_play {platform : Platform κ} {configuration : Configuration} {world : κ}
    {moves : List (Move κ τ)} {scene : Scene κ τ}
    (played : (opening configuration world).play? platform moves = some scene) : scene.Sound := by
  refine play?_induction (fun _ scene => scene.Sound) ?_ ?_ played
  · exact sound_opening configuration world
  · intro moves before move after _ sound moved
    rcases move?_eq_some.mp moved with ⟨allowed, keeps, rfl⟩
    rcases sound with ⟨flights, hand, sound⟩
    exact sound_perform sound allowed keeps

end Scene

end CompletionEngine
