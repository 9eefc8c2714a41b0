import CompletionEngine.Proofs.Runs.Commissions
import CompletionEngine.Proofs.Runs.Seen
import CompletionEngine.Simulation.Script

/-!
# Requests through handles

A request that is made through a handle is queued, and the next cycle takes it up. What comes of it
is what would have come of it, had a caller made it just before that cycle: the cycle carries out
what is queued in order, before it does anything else, and the signal that goes with a request is
not to be seen on a platform that has nothing to poll for it. It would be different if the code that
is entered on the way ran a cycle of its own, which takes up the rest of the queue out of turn.
-/

namespace CompletionEngine

variable {κ σ τ : Type}

namespace Engine

/-- The engine with other tasks in its inbox. -/
def withQueue (queue : List (Task τ)) (engine : Engine κ τ) : Engine κ τ :=
  { engine with inbox.queue := queue }

/-- The engine after some requests have been made through handles, one after the other. -/
def handed (platform : Platform κ) (commissions : List (Commission κ τ)) (engine : Engine κ τ) :
    Engine κ τ :=
  commissions.foldl (fun engine commission =>
    engine.submitCommand platform commission.command commission.promise) engine

variable {platform : Platform κ} {engine : Engine κ τ}

/-- A task finds room in an open inbox, and the engine is woken. -/
theorem submitTask_eq (platform : Platform κ) (task : Task τ)
    (opened : engine.inbox.closed = false)
    (room : engine.inbox.queue.length < engine.inbox.capacity) :
    engine.submitTask platform task =
      (.ok (), (engine.withQueue (engine.inbox.queue ++ [task])).wake platform) := by
  simp [submitTask, runPush, advancePush, PushPhase.advance, Inbox.enqueue?, withQueue, opened,
    room]

/-- Requests that find room are queued in order, and no more is to be seen of them. -/
theorem seen_handed {view : κ → σ}
    (unheard : ∀ world, view (platform.notifier.notify world).2 = view world)
    (commissions : List (Commission κ τ)) (opened : engine.inbox.closed = false)
    (room : engine.inbox.queue.length + commissions.length ≤ engine.inbox.capacity) :
    (engine.handed platform commissions).seen view =
      (engine.withQueue (engine.inbox.queue ++ commissions.map Commission.task)).seen view := by
  induction commissions generalizing engine with
  | nil =>
      rw [List.map_nil, List.append_nil]
      rfl
  | cons commission commissions ih =>
      rw [List.length_cons] at room
      let next := (engine.withQueue (engine.inbox.queue ++ [commission.task])).wake platform
      have queue_eq : next.inbox.queue = engine.inbox.queue ++ [commission.task] := rfl
      have handed_eq : engine.handed platform (commission :: commissions) =
          next.handed platform commissions := by
        have submitted := engine.submitTask_eq platform commission.task opened (by omega)
        exact congrArg (fun result => handed platform commissions result.2) submitted
      have later : (next.handed platform commissions).seen view = _ := ih opened (by
        change next.inbox.queue.length + _ ≤ engine.inbox.capacity
        rw [queue_eq, List.length_append, List.length_singleton]
        omega)
      rw [handed_eq, later, queue_eq, List.append_assoc, List.singleton_append, List.map_cons]
      exact seen_wake unheard (engine.withQueue
        (engine.inbox.queue ++ commission.task :: commissions.map Commission.task))

/-- A cycle that has taken up all it may, or all there is, goes on to see whether it is to shut
down. -/
theorem step_intake_end (healthy : engine.fault = none) (bare : engine.frames = []) (remaining : ℕ)
    (queue : List (Task τ)) (done : remaining = 0 ∨ queue = []) (below : List (Frame τ))
    (wait : Wait) (platform : Platform κ) :
    (engine.atop (.intake remaining wait :: below) queue).step platform =
      engine.atop (.observe wait :: below) queue := by
  have frames_eq : engine.frames ++ .intake remaining wait :: below =
      .intake remaining wait :: below := by
    rw [bare, List.nil_append]
  have healthyAtop : (engine.atop (.intake remaining wait :: below) queue).fault = none := healthy
  rw [step_of_frames healthyAtop frames_eq (by simp)]
  rcases done with rfl | rfl
  · simp only [runFrame, atop, next, bare, List.nil_append]
  · cases remaining with
    | zero => simp only [runFrame, atop, next, bare, List.nil_append]
    | succ remaining => simp only [runFrame, atop, next, Inbox.pop?, bare, List.nil_append]

end Engine

namespace Scene

/-- The scene with other tasks in the inbox. -/
def withQueue (queue : List (Task τ)) (scene : Scene κ τ) : Scene κ τ :=
  { scene with engine := scene.engine.withQueue queue }

/-- The scene after some requests have been made through handles, one after the other. -/
def handed (platform : Platform κ) (commissions : List (Commission κ τ)) (scene : Scene κ τ) :
    Scene κ τ :=
  { scene with engine := scene.engine.handed platform commissions }

/-- What becomes of requests that are made through handles, when the engine is in this scene and it
is a caller's turn. -/
structure Handles (platform : Platform κ) (view : κ → σ) (start : Scene κ τ) : Prop where
  /-- The inbox accepts requests as long as it has room. -/
  accepted : ∀ requests (request : Commission κ τ),
    start.engine.inbox.queue.length + requests.length < start.engine.inbox.capacity →
      ((start.handed platform requests).engine.submitTask platform request.task).1 = .ok ()
  /-- Requests that are queued in an empty inbox, no more than a batch may hold, are all taken up by
  the next cycle. From then on everything goes on as if a caller had made them just before the
  cycle: the engine has the same to do with the same slots, tags and counts, the same records are
  pushed, and the same is told in the same order, promises included. Only signals are left out. -/
  same : ∀ commissions limit later, start.engine.inbox.queue = [] →
    commissions.length ≤ start.engine.inbox.capacity →
    commissions.length ≤ max start.engine.configuration.completionBatch.toNat 1 →
    start.runs platform commissions →
      ((start.handed platform commissions).play? platform
          (.cycle limit :: commissions.flatMap Commission.queued ++ .step :: later)).map
            (seen view) =
        (start.play? platform
          (commissions.flatMap Commission.direct ++ .cycle limit :: .step :: later)).map (seen view)
  /-- Of a longer queue, each cycle takes up the oldest, as many as a batch may hold, and does with
  them in order what would be done if a caller made these requests. The rest stays in order. -/
  taken : ∀ requests commissions more limit,
    start.engine.inbox.queue.length + requests.length ≤ start.engine.inbox.capacity →
    start.engine.inbox.queue ++ requests.map Commission.task =
      commissions.map Commission.task ++ more →
    commissions.length = max start.engine.configuration.completionBatch.toNat 1 →
    start.runs platform commissions → ∃ direct queued : Scene κ τ,
      start.play? platform (commissions.flatMap Commission.direct) = some direct ∧
      (start.handed platform requests).play? platform
        (.cycle limit :: commissions.flatMap Commission.queued) = some queued ∧
      (queued.perform platform .step).seen view = seen view { direct with
        engine.frames := .observe (.caller limit) :: direct.engine.frames
        engine.inbox.queue := more }

variable {platform : Platform κ} {start scene : Scene κ τ} {moves : List (Move κ τ)}

theorem keepsContract_of_play (keeps : keepsContract start.engine.journal)
    (played : start.play? platform moves = some scene) : keepsContract scene.engine.journal := by
  refine play?_induction (fun _ scene => keepsContract scene.engine.journal) keeps ?_ played
  rintro - before move after - - moved
  rcases move?_eq_some.mp moved with ⟨-, keeps, rfl⟩
  exact keeps

/-- A cycle that finds no more tasks goes on alike, however many it may still take. -/
theorem move_intake_end (platform : Platform κ) (healthy : scene.engine.fault = none)
    (bare : scene.engine.frames = []) (one other : ℕ) (below : List (Frame τ)) (wait : Wait) :
    (scene.atop (.intake one wait :: below) []).move? platform .step =
      (scene.atop (.intake other wait :: below) []).move? platform .step := by
  have performed (remaining : ℕ) :
      (scene.atop (.intake remaining wait :: below) []).perform platform .step =
        scene.atop (.observe wait :: below) [] :=
    congrArg (Scene.mk · scene.pushes)
      (Engine.step_intake_end healthy bare remaining [] (.inr rfl) below wait platform)
  simp only [move?, performed]
  rfl

section Taking

variable (sound : start.Sound) (turn : start.engine.awaitsCaller)
  (opened : start.engine.closed = false) (keeps : keepsContract start.engine.journal)
  {commissions : List (Commission κ τ)} (runs : start.runs platform commissions)

include sound turn opened keeps runs

/-- What requests come to that a caller makes, and that a cycle takes from the inbox. -/
theorem play_taken
    (few : commissions.length ≤ max start.engine.configuration.completionBatch.toNat 1)
    (limit : Option TimeLimit) :
    ∃ after : Scene κ τ, after.engine.frames = [] ∧ after.engine.fault = none ∧
      start.play? platform (commissions.flatMap Commission.direct) =
        some (after.atop start.engine.frames start.engine.inbox.queue) ∧
      ∀ more, (start.withQueue (commissions.map Commission.task ++ more)).play? platform
          (.cycle limit :: commissions.flatMap Commission.queued) =
        some (after.atop (.intake (max start.engine.configuration.completionBatch.toNat 1 -
          commissions.length) (.caller limit) :: start.engine.frames) more) := by
  -- The requests run above what was under way before, and need nothing of it.
  let bare : Scene κ τ := { start with engine.frames := [] }
  have calls : bare.OnlyCalls := by
    refine ⟨by simp [bare], ?_⟩
    rcases sound with ⟨flights, hand, sound⟩
    have counted := sound.disciplined.closed_eq
    rw [opened, Bool.toNat_false] at counted
    change start.engine.shutdownDeferred = false
    cases deferred : start.engine.shutdownDeferred
    · rfl
    · simp [deferred] at counted
  have whole : bare.atop start.engine.frames start.engine.inbox.queue = start := rfl
  rw [← whole] at sound runs
  rcases play_commissions rfl calls sound runs with ⟨after, bareAfter, soundAfter, direct, queued⟩
  rw [whole] at direct
  refine ⟨after, bareAfter, ?_, direct, fun more => ?_⟩
  · rcases soundAfter with ⟨flights, hand, soundAfter⟩
    exact soundAfter.healthy
  · have begun : (start.withQueue (commissions.map Commission.task ++ more)).move? platform
        (.cycle limit) = some (bare.atop
          (.intake (max start.engine.configuration.completionBatch.toNat 1) (.caller limit) ::
            start.engine.frames) (commissions.map Commission.task ++ more)) :=
      move?_eq_some.mpr ⟨turn, keeps, rfl⟩
    have went := queued (max start.engine.configuration.completionBatch.toNat 1 -
      commissions.length) (.caller limit) more
    rw [Nat.add_sub_of_le few] at went
    simp only [play?, List.foldlM_cons, begun]
    exact went

/-- A cycle that takes requests from the inbox goes on like one that follows them. -/
theorem play_alike
    (few : commissions.length ≤ max start.engine.configuration.completionBatch.toNat 1)
    (empty : start.engine.inbox.queue = []) (limit : Option TimeLimit) (later : List (Move κ τ)) :
    (start.withQueue (commissions.map Commission.task)).play? platform
        (.cycle limit :: commissions.flatMap Commission.queued ++ .step :: later) =
      start.play? platform
        (commissions.flatMap Commission.direct ++ .cycle limit :: .step :: later) := by
  rcases play_taken sound turn opened keeps runs few limit with
    ⟨after, bare, healthy, direct, taken⟩
  have begun : (after.atop start.engine.frames start.engine.inbox.queue).move? platform
      (.cycle limit) = some (after.atop
        (.intake (max after.engine.configuration.completionBatch.toNat 1) (.caller limit) ::
          start.engine.frames) []) := by
    have contract := keepsContract_of_play keeps direct
    refine move?_eq_some.mpr ⟨?_, contract, ?_⟩
    · rcases sound with ⟨flights, hand, sound⟩
      change (after.engine.atop start.engine.frames start.engine.inbox.queue).awaitsCaller
      rcases Engine.frames_of_awaitsCaller sound.healthy turn with frames_eq | ⟨rest, frames_eq⟩
      all_goals simp [Engine.awaitsCaller, Engine.atop, bare, frames_eq]
    · simp only [perform, Engine.cycle, Engine.beginCycle, atop, Engine.atop, Engine.next, bare,
        empty, List.nil_append]
  have all := taken []
  rw [List.append_nil] at all
  rw [play?_append all, play?_append direct]
  simp only [play?, List.foldlM_cons, begun]
  exact congrArg (· >>= fun scene => List.foldlM _ scene later)
    (move_intake_end platform healthy bare _ _ start.engine.frames (.caller limit))

end Taking

end Scene

/-- In every run, requests that are made through handles come to what they would have come to, had a
caller made them just before the cycle that takes them up, as long as the code that is entered
meanwhile leaves the queue alone, and nothing on the platform shows that the engine was signalled.
-/
theorem handles_of_play {platform : Platform κ} {shown : Platform σ} {view : κ → σ}
    {configuration : Configuration} {world : κ} {earlier : List (Move κ τ)} {start : Scene κ τ}
    (shows : platform.Shows shown view)
    (unheard : ∀ world, view (platform.notifier.notify world).2 = view world)
    (played : (Scene.opening configuration world).play? platform earlier = some start)
    (turn : start.engine.awaitsCaller) (opened : start.engine.closed = false)
    (inboxOpened : start.engine.inbox.closed = false) : start.Handles platform view := by
  have sound := Scene.sound_of_play played
  have keeps : keepsContract start.engine.journal := Scene.keepsContract_of_play rfl played
  have handed (requests : List (Commission κ τ))
      (room : start.engine.inbox.queue.length + requests.length ≤ start.engine.inbox.capacity) :
      (start.handed platform requests).seen view =
        (start.withQueue (start.engine.inbox.queue ++ requests.map Commission.task)).seen view :=
    congrArg (Scene.mk · start.pushes) (Engine.seen_handed unheard requests inboxOpened room)
  refine ⟨?_, ?_, ?_⟩
  · intro requests request room
    have inbox_eq : (start.handed platform requests).engine.inbox = { start.engine.inbox with
        queue := start.engine.inbox.queue ++ requests.map Commission.task } :=
      congrArg (fun scene : Scene σ τ => scene.engine.inbox) (handed requests room.le)
    have submitted := Engine.submitTask_eq platform request.task
      (by rw [inbox_eq]; exact inboxOpened) (by rw [inbox_eq]; simpa using room)
    exact congrArg Prod.fst submitted
  · intro commissions limit later empty room few runs
    have alike := handed commissions (by rw [empty]; simpa using room)
    rw [empty, List.nil_append] at alike
    rw [Scene.seen_play shows unheard alike,
      Scene.play_alike sound turn opened keeps runs few empty]
  -- The cycle takes a full batch, and then sees no more of the queue.
  · intro requests commissions more limit room queued full runs
    have alike := handed requests room
    rw [queued] at alike
    rcases Scene.play_taken sound turn opened keeps runs full.le limit with
      ⟨after, bare, healthy, direct, taken⟩
    have went := Scene.seen_play shows unheard alike
      (.cycle limit :: commissions.flatMap Commission.queued)
    rw [taken more, full, Nat.sub_self, Option.map_some] at went
    rcases Option.map_eq_some_iff.mp went with ⟨scene, reached, same⟩
    refine ⟨_, scene, direct, reached, ?_⟩
    rw [Scene.seen_perform shows unheard same]
    have ends := Engine.step_intake_end healthy bare 0 more (.inl rfl) start.engine.frames
      (.caller limit) platform
    refine (congrArg (fun engine => (Scene.mk engine after.pushes).seen view) ends).trans ?_
    simp only [Scene.atop, Engine.atop, bare, List.nil_append]

open Simulation in
/-- To make room for the first of two requests in the inbox, two operations are failed. The code of
one of them makes a request and returns. The second request has a time limit, and pushes what is
staged. -/
theorem handles_after_refusal :
    ∃ (earlier later : List (Move Script String)) (commissions : List (Commission Script String))
      (start after : Scene Script String) (world : Script),
      (Scene.opening .default world).play? (Script.platform (.silent _)) earlier = some start ∧
        start.engine.awaitsCaller = true ∧ start.engine.closed = false ∧
        start.engine.inbox.closed = false ∧ start.engine.inbox.queue = [] ∧
        commissions.length = 2 ∧ start.runs (Script.platform (.silent _)) commissions ∧
        (start.handed (Script.platform (.silent _)) commissions).play?
          (Script.platform (.silent _))
          (.cycle none :: commissions.flatMap Commission.queued ++ .step :: later) = some after ∧
        after.engine.frames = [] ∧ after.engine.statistics = ⟨6, 4, 0, 1, 0, 0⟩ ∧
        start.Handles (Script.platform (.silent _)) id := by
  let nop (label : String) : Move Script String := .request ⟨.nop, (), none⟩ label
  let world : Script := { Script.new 2 .wait none [⟨none, some ⟨.fixed 0, .none⟩⟩] with
    errors := [(.push, some (.system 11))] }
  let earlier : List (Move Script String) := [nop "first", .step, nop "second", .step]
  let commissions : List (Commission Script String) :=
    [⟨⟨.nop, (), none⟩, "early",
        [.step, nop "third", .step, .finish, .step, .finish, .step, .step]⟩,
      ⟨⟨.close, ⟨5⟩, some (.ofMillis 1)⟩, "late", [.step]⟩]
  let later : List (Move Script String) :=
    List.replicate 6 .step ++ [.finish] ++ List.replicate 6 .step
  have plays : ((Scene.opening .default world).play? (Script.platform (.silent _)) earlier).any
      fun start =>
        start.engine.awaitsCaller && !start.engine.closed && !start.engine.inbox.closed &&
          start.engine.inbox.queue.isEmpty && start.runs (Script.platform (.silent _)) commissions &&
            ((start.handed (Script.platform (.silent _)) commissions).play?
              (Script.platform (.silent _))
              (.cycle none :: commissions.flatMap Commission.queued ++ .step :: later)).any
                fun after => after.engine.frames.isEmpty &&
                  after.engine.statistics == ⟨6, 4, 0, 1, 0, 0⟩ := by
    decide +kernel
  simp only [Option.any_eq_true, Bool.and_eq_true, Bool.not_eq_true', List.isEmpty_iff,
    beq_iff_eq] at plays
  rcases plays with ⟨start, played, ⟨⟨⟨⟨turn, opened⟩, inboxOpened⟩, empty⟩, runs⟩, after, went, idle,
    counts⟩
  exact ⟨earlier, later, commissions, start, after, world, played, turn, opened, inboxOpened, empty,
    rfl, runs, went, idle, counts,
    handles_of_play (Platform.shows_id _) (fun _ => rfl) played turn opened inboxOpened⟩

/-- The promises that a journal tells to be resolved, the last in front. -/
def settlements (journal : List (Event τ)) : List τ :=
  journal.filterMap fun
    | .settled promise _ => some promise
    | _ => none

open Simulation in
/-- To make room for the first of two requests, an operation is failed whose code runs a cycle. That
cycle takes up the second request if it is in the inbox, which is then carried out, and told its
outcome, before the first. Made by a caller, the second request comes after the first. -/
theorem handed_differs_in_nested_cycle :
    ∃ (earlier code steps : List (Move Script String)) (start handed made : Scene Script String)
      (world : Script),
      (Scene.opening .default world).play? (Script.platform (.silent _)) earlier = some start ∧
        start.engine.frames = [] ∧ start.engine.closed = false ∧
        start.engine.inbox.closed = false ∧ start.engine.inbox.queue = [] ∧
        (Script.platform (.silent _)).notifier.pollDescriptor start.engine.world = none ∧
        2 ≤ start.engine.inbox.capacity ∧
        2 ≤ max start.engine.configuration.completionBatch.toNat 1 ∧
        (start.handed (Script.platform (.silent _))
            [⟨⟨.nop, (), none⟩, "first", []⟩, ⟨⟨.nop, (), none⟩, "second", []⟩]).play?
          (Script.platform (.silent _)) (.cycle none :: steps ++ code ++ steps) = some handed ∧
        start.play? (Script.platform (.silent _))
          (.requestPromise ⟨.nop, (), none⟩ "first" :: steps ++ code ++ steps ++
            .requestPromise ⟨.nop, (), none⟩ "second" :: steps ++ .cycle none :: steps) =
          some made ∧
        (handed.engine.frames = [] ∧ made.engine.frames = []) ∧
        (handed.engine.answer.toOption = some 1 ∧ made.engine.answer.toOption = some 2) ∧
        ((handed.engine.pools.get .nop).entries.size = 1 ∧
          (made.engine.pools.get .nop).entries.size = 2) ∧
        settlements handed.engine.journal = ["first", "second"] ∧
        settlements made.engine.journal = ["second", "first"] := by
  let world : Script := { Script.new 1 .wait none [⟨none, some ⟨.fixed 0, .none⟩⟩] with
    errors := [(.push, some (.system 11))] }
  let earlier : List (Move Script String) := [.request ⟨.nop, (), none⟩ "refused", .step]
  let steps : List (Move Script String) := List.replicate 16 .step
  let code : List (Move Script String) := .cycle none :: steps ++ [.finish]
  have plays : ((Scene.opening .default world).play? (Script.platform (.silent _)) earlier).any
      fun start =>
        start.engine.frames.isEmpty && !start.engine.closed && !start.engine.inbox.closed &&
          start.engine.inbox.queue.isEmpty && decide (2 ≤ start.engine.inbox.capacity) &&
            decide (2 ≤ max start.engine.configuration.completionBatch.toNat 1) &&
              ((start.handed (Script.platform (.silent _))
                  [⟨⟨.nop, (), none⟩, "first", []⟩, ⟨⟨.nop, (), none⟩, "second", []⟩]).play?
                (Script.platform (.silent _)) (.cycle none :: steps ++ code ++ steps)).any
                  fun handed => handed.engine.frames.isEmpty &&
                    handed.engine.answer.toOption == some 1 &&
                      (handed.engine.pools.get .nop).entries.size == 1 &&
                        settlements handed.engine.journal == ["first", "second"] &&
                (start.play? (Script.platform (.silent _))
                  (.requestPromise ⟨.nop, (), none⟩ "first" :: steps ++ code ++ steps ++
                    .requestPromise ⟨.nop, (), none⟩ "second" :: steps ++ .cycle none :: steps)).any
                  fun made => made.engine.frames.isEmpty &&
                    made.engine.answer.toOption == some 2 &&
                      (made.engine.pools.get .nop).entries.size == 2 &&
                        settlements made.engine.journal == ["second", "first"] := by
    decide +kernel
  simp only [Option.any_eq_true, Bool.and_eq_true, Bool.not_eq_true', List.isEmpty_iff, beq_iff_eq,
    decide_eq_true_eq] at plays
  rcases plays with ⟨start, played, ⟨⟨⟨⟨⟨idle, opened⟩, inboxOpened⟩, empty⟩, room⟩, few⟩, handed,
    went, ⟨⟨⟨idleHanded, answer⟩, slots⟩, order⟩, made, wentDirect,
    ⟨⟨idleMade, answerMade⟩, slotsMade⟩, orderMade⟩
  exact ⟨earlier, code, steps, start, handed, made, world, played, idle, opened, inboxOpened, empty,
    rfl, room, few, went, wentDirect, ⟨idleHanded, idleMade⟩, ⟨answer, answerMade⟩,
    ⟨slots, slotsMade⟩, order, orderMade⟩

end CompletionEngine
