import CompletionEngine.Proofs.Runs.Conservation
import CompletionEngine.Proofs.Runs.Spent

/-!
# Closed is final

Once everything has been given up, nothing that callers and other threads do changes this, in
whatever order they do it. Slots, tags, counts and marks stay as they are, and the ring is not used
any more. Whoever asks for something is told that the engine is closed: code and promises that await
a direct request by the step that would have staged it, and a handle before its call returns. A cycle
answers zero.

What the code of callers still had to do when the engine was given up is done all the same. So a
cycle that had delivered something before may still answer with that number, and a task that had
found the inbox open may still be taken up. Neither comes of calls that are begun later.
-/

namespace CompletionEngine

variable {κ τ : Type}

/-- The task of a push that has found the inbox open and has yet to queue it. -/
def PushPhase.admitted? {α : Type} : PushPhase α → Option α
  | .enqueue task => some task
  | _ => none

/-- Once the inbox is closed, no further push finds it open. -/
theorem PushPhase.admitted?_advance {α : Type} (phase : PushPhase α) {inbox : Inbox α}
    (closed : inbox.closed = true) : (phase.advance inbox).1.admitted? = none := by
  cases phase with
  | check task => simp [advance, closed, admitted?]
  | enqueue task =>
      simp only [advance]
      cases inbox.enqueue? task <;> rfl
  | recheck => simp [advance, closed, admitted?]
  | sweep =>
      simp only [advance]
      cases inbox.pop? <;> rfl
  | wake | returned => rfl

/-- A push queues nothing but its own task. -/
theorem PushPhase.queue_advance {α : Type} (phase : PushPhase α) (inbox : Inbox α) :
    (phase.advance inbox).2.2.queue ⊆ inbox.queue ++ phase.admitted?.toList := by
  cases phase with
  | check task =>
      simp only [advance]
      split <;> exact List.subset_append_left _ _
  | enqueue task =>
      by_cases room : inbox.queue.length < inbox.capacity
      · simp [advance, Inbox.enqueue?, room, admitted?]
      · simp [advance, Inbox.enqueue?, room]
  | sweep =>
      cases queued : inbox.queue with
      | nil => simp [advance, Inbox.pop?, queued]
      | cons task rest => simp [advance, Inbox.pop?, queued, admitted?]
  | recheck | wake | returned => exact List.subset_append_left _ _

/-- A push touches nothing of an inbox but its queue. -/
theorem PushPhase.inbox_advance {α : Type} (phase : PushPhase α) (inbox : Inbox α) :
    (phase.advance inbox).2.2 = { inbox with queue := (phase.advance inbox).2.2.queue } := by
  have capacity_eq := Scene.capacity_advance phase inbox
  have closed_eq := Scene.closed_advance phase inbox
  generalize (phase.advance inbox).2.2 = moved at capacity_eq closed_eq ⊢
  rw [← capacity_eq, ← closed_eq]

theorem invoked_append (events journal : List (Event τ)) :
    invoked (events ++ journal) = invoked events + invoked journal := by
  induction events with
  | nil => exact (zero_add _).symm
  | cons event events ih =>
      cases event <;> simp [invoked, ih]

namespace Engine

/-- An engine for which a cycle was begun when there was this to be done: the cycle has not answered
yet, or has answered zero, unless an earlier cycle has answered meanwhile. -/
inductive Answers (base : List (Frame τ)) (engine : Engine κ τ) : Prop
  | pending {above : List (Frame τ)} {frame : Frame τ} (cycling : frame.isCycling)
      (frames_eq : engine.frames = above ++ frame :: base)
  | answered (answer_eq : engine.answer = .ok 0)
      (reports_le : engine.frames.countP Frame.isReport ≤ base.countP Frame.isReport)
  | overtaken (reports_lt : engine.frames.countP Frame.isReport < base.countP Frame.isReport)

namespace Answers

variable {base : List (Frame τ)} {engine below after : Engine κ τ} {frame : Frame τ}

theorem answer_eq_of_back (answers : engine.Answers base) (back : engine.frames = base) :
    engine.answer = .ok 0 := by
  cases answers with
  | @pending above frame cycling frames_eq =>
      have longer := congrArg List.length (back.symm.trans frames_eq)
      simp only [List.length_append, List.length_cons] at longer
      omega
  | answered answer_eq => exact answer_eq
  | overtaken reports_lt =>
      rw [back] at reports_lt
      exact absurd reports_lt (lt_irrefl _)

theorem countP_isReport_append {above : List (Frame τ)} (calm : ∀ frame ∈ above, frame.Calm)
    (frames : List (Frame τ)) :
    (above ++ frames).countP Frame.isReport = frames.countP Frame.isReport := by
  have silent : above.countP Frame.isReport = 0 :=
    List.countP_eq_zero.mpr fun frame frameMem => by simp [(calm frame frameMem).silent]
  rw [List.countP_append, silent, zero_add]

/-- Whatever is put on top, the answer is awaited as before. -/
theorem push (answers : engine.Answers base) {above : List (Frame τ)}
    (frames_eq : after.frames = above ++ engine.frames) (calm : ∀ frame ∈ above, frame.Calm)
    (answer_eq : after.answer = engine.answer ∨ after.answer = .ok 0) : after.Answers base := by
  have reports_eq : after.frames.countP Frame.isReport = engine.frames.countP Frame.isReport := by
    rw [frames_eq, countP_isReport_append calm]
  cases answers with
  | @pending covers cycle cycling cycle_eq =>
      refine .pending cycling (?_ : after.frames = (above ++ covers) ++ cycle :: base)
      rw [frames_eq, cycle_eq, List.append_assoc]
  | answered zero reports_le =>
      refine .answered ?_ (reports_eq.trans_le reports_le)
      rcases answer_eq with same | now
      · exact same.trans zero
      · exact now
  | overtaken reports_lt => exact .overtaken (reports_eq.trans_lt reports_lt)

theorem countP_isReport_le_next (below : Engine κ τ) (frame : Frame τ) :
    below.frames.countP Frame.isReport ≤ (below.next frame).frames.countP Frame.isReport :=
  (List.sublist_cons_self frame below.frames).countP_le

/-- The cycle that has been begun ends only by steps of its own. -/
theorem pop (answers : (below.next frame).Answers base) (other : frame.isCycling = false) :
    below.Answers base := by
  have fewer := countP_isReport_le_next below frame
  cases answers with
  | @pending covers cycle cycling cycle_eq =>
      cases covers with
      | nil =>
          rw [(List.cons.inj cycle_eq).1, cycling] at other
          cases other
      | cons top covers => exact .pending cycling (List.cons.inj cycle_eq).2
  | answered zero reports_le => exact .answered zero (fewer.trans reports_le)
  | overtaken reports_lt => exact .overtaken (fewer.trans_lt reports_lt)

/-- The cycle goes on until it answers zero. Another number can come only of a cycle below it that
had delivered something before, and then the cycle has ended with what it was begun on. -/
theorem idles (answers : (below.next frame).Answers base) (other : frame ≠ .client)
    (idles : below.Idles frame after) : after.Answers base := by
  have fewer := countP_isReport_le_next below frame
  rcases idles.exists_above other with ⟨above, frames_eq, -, calm⟩
  cases answers with
  | @pending covers cycle cycling cycle_eq =>
      -- Either the cycle itself is on top, or it is covered by what it has taken up.
      cases covers with
      | nil =>
          rcases List.cons.inj cycle_eq with ⟨rfl, rfl⟩
          rcases idles.of_cycling cycling with ⟨more, next, next_eq, nextCycling⟩ | ⟨back, zero⟩
          · exact .pending nextCycling next_eq
          · exact .answered zero (back ▸ le_rfl)
      | cons top covers =>
          refine .pending cycling (?_ : after.frames = (above ++ covers) ++ cycle :: base)
          have below_eq : below.frames = covers ++ cycle :: base := (List.cons.inj cycle_eq).2
          rw [frames_eq, below_eq, List.append_assoc]
  | answered zero reports_le =>
      rcases idles.answer_eq with report | answer_eq
      · refine .overtaken ?_
        rw [frames_eq, countP_isReport_append calm]
        rw [next, List.countP_cons_of_pos report] at reports_le
        omega
      · have goesOn : below.Answers base := .answered zero (fewer.trans reports_le)
        exact goesOn.push frames_eq calm answer_eq
  | overtaken reports_lt =>
      refine .overtaken ?_
      rw [frames_eq, countP_isReport_append calm]
      exact fewer.trans_lt reports_lt

end Answers

end Engine

namespace Scene

/-- The tasks that have found the inbox open, and wait in it or are about to be queued. -/
def late (scene : Scene κ τ) : List (Task τ) :=
  scene.engine.inbox.queue ++ scene.pushes.filterMap PushPhase.admitted?

/-- What a move comes to once everything has been given up. -/
inductive Idles (platform : Platform κ) (scene : Scene κ τ) : Move κ τ → Scene κ τ → Prop
  /-- Nothing happens. -/
  | rest {move : Move κ τ} (none : move.pushed? = none) : Idles platform scene move scene
  /-- A caller calls the engine, and no more happens for now. -/
  | call {move : Move κ τ} {frame : Frame τ} (none : move.pushed? = none) (calm : frame.Calm) :
      Idles platform scene move { scene with engine := scene.engine.next frame }
  /-- The code of a caller returns. -/
  | back {frames : List (Frame τ)} (frames_eq : scene.engine.frames = .client :: frames) :
      Idles platform scene .finish { scene with engine.frames := frames }
  | step {below after : Engine κ τ} {frame : Frame τ} (engine_eq : scene.engine = below.next frame)
      (other : frame ≠ .client) (idles : below.Idles frame after) :
      Idles platform scene .step { scene with engine := after }
  | begin (task : Task τ) :
      Idles platform scene (.push task) { scene with pushes := scene.pushes ++ [.check task] }
  /-- A push goes on, and touches nothing but the inbox. -/
  | goOn {index : ℕ} {phase : PushPhase (Task τ)} {world : κ}
      (found : scene.pushes[index]? = some phase)
      (signals : world = scene.engine.world ∨
        world = (platform.notifier.notify scene.engine.world).2) :
      Idles platform scene (.advance index)
        { engine := { scene.engine with
            world := world
            inbox := (phase.advance scene.engine.inbox).2.2
            journal := (phase.advance scene.engine.inbox).2.1.events platform scene.engine.world ++
              scene.engine.journal }
          pushes := scene.pushes.set index (phase.advance scene.engine.inbox).1 }
  | wake : Idles platform scene .wake { scene with engine := scene.engine.wake platform }
  | drift (world : κ) : Idles platform scene (.drift world) { scene with engine.world := world }

end Scene

theorem Scene.idles_advance (platform : Platform κ) (scene : Scene κ τ) (index : ℕ) :
    scene.Idles platform (.advance index) (scene.advance platform index) := by
  unfold Scene.advance
  cases found : scene.pushes[index]? with
  | none => exact .rest rfl
  | some phase =>
      have advanced : ∃ world, (world = scene.engine.world ∨
          world = (platform.notifier.notify scene.engine.world).2) ∧
          scene.engine.advancePush platform phase = ((phase.advance scene.engine.inbox).1,
            { scene.engine with
              world := world
              inbox := (phase.advance scene.engine.inbox).2.2
              journal :=
                (phase.advance scene.engine.inbox).2.1.events platform scene.engine.world ++
                  scene.engine.journal }) := by
        unfold Engine.advancePush
        rcases phase.advance scene.engine.inbox with ⟨next, effect, inbox⟩
        cases effect with
        | nothing => exact ⟨_, .inl rfl, rfl⟩
        | reject task failure => cases task <;> exact ⟨_, .inl rfl, rfl⟩
        | wake => exact ⟨_, .inr rfl, rfl⟩
      rcases advanced with ⟨world, signals, advanced⟩
      simp only [advanced]
      exact .goOn found signals

/-- What any move comes to once everything has been given up. -/
theorem Engine.Spent.idles_perform {scene : Scene κ τ} (spent : scene.engine.Spent)
    (platform : Platform κ) (move : Move κ τ) :
    scene.Idles platform move (scene.perform platform move) := by
  cases move with
  | step =>
      rcases spent.step_cases platform with ⟨-, same⟩ | ⟨below, frame, engine_eq, other, idles⟩
      · simp only [Scene.perform, same]
        exact .rest rfl
      · exact .step engine_eq other idles
  | request command label =>
      simp only [Scene.perform, Engine.request, spent.beginRequest_eq]
      exact .call rfl (Frame.calm_stage (by simp))
  | requestPromise command promise =>
      simp only [Scene.perform, Engine.requestPromise, spent.beginRequest_eq]
      exact .call rfl (Frame.calm_stage (by simp))
  | cycle limit => exact .call rfl (Frame.calm_of_not_stage rfl rfl rfl)
  | work => exact .call rfl (Frame.calm_of_not_stage rfl rfl rfl)
  | shutdown =>
      simp only [Scene.perform, spent.shutdown_eq]
      exact .rest rfl
  | finish =>
      simp only [Scene.perform, Engine.finish]
      split
      · rename_i frames frames_eq
        exact .back frames_eq
      · exact .rest rfl
  | drop =>
      simp only [Scene.perform, Engine.drop, spent.closed, if_true]
      exact .rest rfl
  | push task => exact .begin task
  | advance index => exact scene.idles_advance platform index
  | closeInbox =>
      have closed : scene.engine.inbox.close = scene.engine.inbox := by
        rw [Inbox.close, ← spent.inbox_closed]
      simp only [Scene.perform, closed]
      exact .rest rfl
  | wake => exact .wake
  | drift world => exact .drift world

namespace Engine.Outlasts

variable {late : List (Task τ)} {before between after : Engine κ τ}

theorem eventsSince_eq (outlasts : before.Outlasts late between) {events : List (Event τ)}
    (appended : after.journal = events ++ between.journal) :
    before.eventsSince after = events ++ before.eventsSince between := by
  rcases outlasts.journal with ⟨since, between_eq, -⟩
  rw [Engine.eventsSince_eq between_eq, Engine.eventsSince_eq]
  rw [appended, between_eq, List.append_assoc]

theorem of_same (same : after = { before with
      world := after.world, frames := after.frames, answer := after.answer }) :
    before.Outlasts late after := by
  refine ⟨?_, [], ?_, by simp⟩ <;> rw [same]
  rfl

end Engine.Outlasts

/-- Whatever a push on a closed inbox tells, it tells a task that has been pushed too late, or that
the engine is closed. -/
theorem PushPhase.befits_advance {phase : PushPhase (Task τ)} {inbox : Inbox (Task τ)}
    (closed : inbox.closed = true) {late : List (Task τ)}
    (admitted : ∀ task ∈ phase.admitted?, task ∈ late) (platform : Platform κ) (world : κ) :
    ∀ event ∈ (phase.advance inbox).2.1.events platform world, event.Befits late := by
  cases phase with
  | check task =>
      simp only [advance, closed, if_true, PushEffect.events_reject, List.forall_mem_singleton]
      exact task.befits_refusal late
  | enqueue task =>
      simp only [advance]
      cases inbox.enqueue? task with
      | some larger => simp [PushEffect.events]
      | none =>
          simp only [PushEffect.events_reject, List.forall_mem_singleton]
          exact Task.befits_overflow (admitted task rfl)
  | sweep =>
      simp only [advance]
      cases inbox.pop? with
      | none => simp [PushEffect.events]
      | some popped =>
          simp only [PushEffect.events_reject, List.forall_mem_singleton]
          exact popped.1.befits_refusal late
  | wake => simp [advance, PushEffect.events, Event.Befits]
  | recheck | returned => simp [advance, PushEffect.events]

namespace Scene

/-- A push that was begun after everything had been given up has yet to look at the inbox, or has
returned with its task told that the engine is closed. -/
def TurnsAway (before scene : Scene κ τ) (index : ℕ) (task : Task τ) : Prop :=
  scene.pushes[index]? = some (.check task) ∨
    scene.pushes[index]? = some (.returned (.error .closed)) ∧
      task.refusal .closed ∈ before.engine.eventsSince scene.engine

namespace Idles

variable {platform : Platform κ} {before scene after : Scene κ τ} {move : Move κ τ}

theorem mem_late_of_admitted {index : ℕ} {phase : PushPhase (Task τ)}
    (found : scene.pushes[index]? = some phase) : ∀ task ∈ phase.admitted?, task ∈ scene.late := by
  intro task admitted
  refine List.mem_append_right _ (List.mem_filterMap.mpr ⟨phase, ?_, admitted⟩)
  exact List.mem_of_getElem? found

theorem outlasts (idles : scene.Idles platform move after) (spent : scene.engine.Spent) :
    scene.engine.Outlasts scene.late after.engine := by
  cases idles with
  | rest | begin => exact .refl _
  | call | back | drift => exact .of_same rfl
  | @step below engine frame engine_eq other idles =>
      have lasts : frame.Lasts := spent.lasts frame (by rw [engine_eq]; exact List.mem_cons_self)
      rw [engine_eq]
      refine (idles.outlasts lasts).mono ?_
      intro task taskMem
      refine List.mem_append_left _ ?_
      rw [engine_eq]
      exact taskMem
  | @goOn index phase world found signals =>
      refine ⟨?_, _, rfl, PushPhase.befits_advance spent.inbox_closed (mem_late_of_admitted found)
        platform scene.engine.world⟩
      simp only [← phase.inbox_advance]
  | wake => exact ⟨rfl, [_], rfl, by simp [Event.Befits]⟩

theorem spent (idles : scene.Idles platform move after) (spent : scene.engine.Spent) :
    after.engine.Spent := by
  refine spent.of_outlasts (idles.outlasts spent) ?_
  cases idles with
  | rest | begin | goOn | wake | drift => exact spent.lasts
  | call none calm =>
      intro frame frameMem
      rcases List.mem_cons.mp frameMem with rfl | old
      · exact calm.toLasts
      · exact spent.lasts frame old
  | back frames_eq =>
      intro frame frameMem
      exact spent.lasts frame (frames_eq ▸ List.mem_cons_of_mem _ frameMem)
  | step engine_eq other idles => exact ((engine_eq ▸ spent).of_idles other idles).lasts

theorem late_subset (idles : scene.Idles platform move after) (spent : scene.engine.Spent) :
    after.late ⊆ scene.late := by
  cases idles with
  | rest | call | back | wake | drift => exact List.Subset.refl _
  | begin task =>
      have nothing : [PushPhase.check task].filterMap PushPhase.admitted? = [] := rfl
      simp [late, List.filterMap_append, nothing]
  | @step below engine frame engine_eq other idles =>
      have queue : engine.inbox.queue ⊆ scene.engine.inbox.queue := by
        rw [engine_eq]
        exact idles.queue_suffix.subset
      exact List.append_subset.mpr ⟨List.Subset.trans queue (List.subset_append_left _ _),
        List.subset_append_right _ _⟩
  | @goOn index phase world found signals =>
      refine List.append_subset.mpr ⟨?_, ?_⟩
      · refine List.Subset.trans (phase.queue_advance scene.engine.inbox)
          (List.append_subset.mpr ⟨?_, ?_⟩)
        · exact List.subset_append_left _ _
        · intro task admitted
          exact mem_late_of_admitted found task (Option.mem_toList.mp admitted)
      · intro task taskMem
        rcases List.mem_filterMap.mp taskMem with ⟨push, pushMem, admitted⟩
        rcases List.mem_or_eq_of_mem_set pushMem with old | rfl
        · exact List.mem_append_right _ (List.mem_filterMap.mpr ⟨push, old, admitted⟩)
        · rw [phase.admitted?_advance spent.inbox_closed] at admitted
          cases admitted

theorem world_eq (idles : scene.Idles platform move after) :
    move = .drift after.engine.world ∨ after.engine.world = scene.engine.world ∨
      after.engine.world = (platform.notifier.notify scene.engine.world).2 := by
  cases idles with
  | rest | call | back | begin => exact .inr (.inl rfl)
  | step engine_eq other idles =>
      rw [engine_eq]
      exact .inr (.inl idles.world_eq)
  | goOn found signals => exact .inr signals
  | wake => exact .inr (.inr rfl)
  | drift => exact .inl rfl

theorem answers {base : List (Frame τ)} (idles : scene.Idles platform move after)
    (answers : scene.engine.Answers base) : after.engine.Answers base := by
  have unchanged {engine : Engine κ τ} (frames_eq : engine.frames = scene.engine.frames)
      (answer_eq : engine.answer = scene.engine.answer) : engine.Answers base :=
    answers.push (frames_eq.trans (List.nil_append _).symm) (by simp) (.inl answer_eq)
  cases idles with
  | rest | begin | goOn | wake | drift => exact unchanged rfl rfl
  | @call _ frame none calm =>
      have calm : ∀ other ∈ [frame], other.Calm := by simpa using calm
      exact answers.push rfl calm (.inl rfl)
  | @back frames frames_eq =>
      rw [← scene.engine.next_pop frames_eq] at answers
      exact answers.pop rfl
  | step engine_eq other idles => exact Engine.Answers.idles (engine_eq ▸ answers) other idles

theorem length_pushes (idles : scene.Idles platform move after) :
    after.pushes.length = scene.pushes.length + move.pushed?.toList.length := by
  cases idles with
  | rest none | call none => simp [none]
  | goOn => simp [Move.pushed?]
  | begin => simp [Move.pushed?]
  | _ => rfl

/-- The task of a push that has been begun too late is told so by the next step of the push, and no
other move touches the push. -/
theorem turnsAway {late : List (Task τ)} {index : ℕ} {task : Task τ}
    (idles : scene.Idles platform move after) (spent : scene.engine.Spent)
    (outlasts : before.engine.Outlasts late scene.engine)
    (turnsAway : before.TurnsAway scene index task) : before.TurnsAway after index task := by
  rcases (idles.outlasts spent).journal with ⟨events, appended, -⟩
  have since := outlasts.eventsSince_eq appended
  have kept (same : after.pushes[index]? = scene.pushes[index]?) :
      before.TurnsAway after index task := by
    rw [TurnsAway, same, since]
    exact turnsAway.imp id fun ⟨returned, told⟩ => ⟨returned, List.mem_append_right _ told⟩
  cases idles with
  | rest | call | back | step | wake | drift => exact kept rfl
  | begin task =>
      have inside : index < scene.pushes.length := by
        rcases turnsAway with checks | ⟨returned, -⟩
        · exact (List.getElem?_eq_some_iff.mp checks).1
        · exact (List.getElem?_eq_some_iff.mp returned).1
      exact kept (List.getElem?_append_left inside)
  | @goOn moved phase world found signals =>
      by_cases same : moved = index
      · subst same
        have inside : moved < scene.pushes.length := (List.getElem?_eq_some_iff.mp found).1
        refine .inr ⟨?_, ?_⟩
        · rw [List.getElem?_set_self inside]
          rcases turnsAway with checks | ⟨returned, -⟩
          · cases found.symm.trans checks
            simp [PushPhase.advance, spent.inbox_closed]
          · cases found.symm.trans returned
            rfl
        · rw [outlasts.eventsSince_eq rfl]
          rcases turnsAway with checks | ⟨-, told⟩
          · cases found.symm.trans checks
            refine List.mem_append_left _ ?_
            simp [PushPhase.advance, spent.inbox_closed, PushEffect.events_reject]
          · exact List.mem_append_right _ told
      · exact kept (List.getElem?_set_ne same)

end Idles

/-- How a scene has come about by these moves from one in which everything had been given up. -/
structure Ensues (before : Scene κ τ) (moves : List (Move κ τ)) (scene : Scene κ τ) : Prop where
  spent : scene.engine.Spent
  outlasts : before.engine.Outlasts before.late scene.engine
  late_subset : scene.late ⊆ before.late
  length_eq : scene.pushes.length = before.pushes.length + (pushedTasks moves).length
  turnsAway : ∀ index task, (pushedTasks moves)[index]? = some task →
    before.TurnsAway scene (before.pushes.length + index) task

theorem ensues_refl {scene : Scene κ τ} (spent : scene.engine.Spent) : scene.Ensues [] scene :=
  ⟨spent, .refl _, List.Subset.refl _, rfl, by simp [pushedTasks]⟩

theorem Ensues.concat {platform : Platform κ} {before scene after : Scene κ τ}
    {moves : List (Move κ τ)} {move : Move κ τ} (ensues : before.Ensues moves scene)
    (idles : scene.Idles platform move after) : before.Ensues (moves ++ [move]) after := by
  have tasks_eq : pushedTasks (moves ++ [move]) = pushedTasks moves ++ move.pushed?.toList := by
    rw [pushedTasks, List.filterMap_append]
    cases pushed : move.pushed? <;> simp [pushed, pushedTasks]
  refine ⟨idles.spent ensues.spent, ?_, ?_, ?_, ?_⟩
  · exact ensues.outlasts.trans ((idles.outlasts ensues.spent).mono ensues.late_subset)
  · exact List.Subset.trans (idles.late_subset ensues.spent) ensues.late_subset
  · rw [idles.length_pushes, ensues.length_eq, tasks_eq, List.length_append, add_assoc]
  · intro index task found
    rw [tasks_eq] at found
    rcases Nat.lt_or_ge index (pushedTasks moves).length with old | new
    · rw [List.getElem?_append_left old] at found
      exact idles.turnsAway ensues.spent ensues.outlasts (ensues.turnsAway index task found)
    · rw [List.getElem?_append_right new] at found
      have begun : move = .push task ∧ index = (pushedTasks moves).length := by
        cases move with
        | push other =>
            rcases List.getElem?_eq_some_iff.mp found with ⟨inside, same⟩
            simp only [Move.pushed?, Option.toList, List.length_singleton] at inside
            simp only [Move.pushed?, Option.toList, List.getElem_singleton] at same
            exact ⟨by rw [same], by omega⟩
        | _ => cases found
      rcases begun with ⟨rfl, rfl⟩
      rw [← ensues.length_eq]
      cases idles with
      | rest none | call none => cases none
      | begin => exact .inl (by simp)

section Runs

variable {platform : Platform κ} {before after : Scene κ τ} {later : List (Move κ τ)}

theorem ensues_of_play (spent : before.engine.Spent)
    (went : before.play? platform later = some after) : before.Ensues later after := by
  refine play?_induction (fun moves scene => before.Ensues moves scene) (ensues_refl spent) ?_ went
  intro moves scene move reached _ ensues moved
  rcases move?_eq_some.mp moved with ⟨-, -, rfl⟩
  exact ensues.concat (ensues.spent.idles_perform platform move)

/-- What a signal leaves alone changes only when the platform changes by itself. -/
theorem view_of_play {σ : Type} (view : κ → σ)
    (unheard : ∀ world, view (platform.notifier.notify world).2 = view world)
    (spent : before.engine.Spent) (went : before.play? platform later = some after)
    (still : ∀ world, .drift world ∈ later → view world = view before.engine.world) :
    view after.engine.world = view before.engine.world := by
  revert still
  refine play?_induction (fun moves scene =>
    (∀ world, .drift world ∈ moves → view world = view before.engine.world) →
      view scene.engine.world = view before.engine.world) (fun _ => rfl) ?_ went
  intro moves scene move reached wentBefore same moved still
  rcases move?_eq_some.mp moved with ⟨-, -, rfl⟩
  have sameBefore := same fun world driftMem => still world (List.mem_append_left _ driftMem)
  have spentBefore := (ensues_of_play spent wentBefore).spent
  rcases (spentBefore.idles_perform platform move).world_eq with drift | kept | heard
  · exact still _ (List.mem_append_right _ (List.mem_singleton.mpr drift.symm))
  · rw [kept, sameBefore]
  · rw [heard, unheard, sameBefore]

/-- When a cycle has answered that was begun after everything had been given up, it has answered
zero. -/
theorem answer_of_play {limit : Option TimeLimit} (spent : before.engine.Spent)
    (went : before.play? platform (.cycle limit :: later) = some after)
    (back : after.engine.frames = before.engine.frames) : after.engine.answer = .ok 0 := by
  rcases Option.bind_eq_some_iff.mp went with ⟨begun, moved, wentOn⟩
  rcases move?_eq_some.mp moved with ⟨-, -, rfl⟩
  have begins : (before.perform platform (.cycle limit)).engine.Answers before.engine.frames := by
    let frame : Frame τ :=
      .intake (max before.engine.configuration.completionBatch.toNat 1) (.caller limit)
    exact .pending (rfl : frame.isCycling) (List.nil_append _).symm
  have spentBegun := (spent.idles_perform platform (.cycle limit)).spent spent
  have answers : after.engine.Answers before.engine.frames := by
    refine play?_induction (fun _ scene => scene.engine.Answers before.engine.frames) begins ?_
      wentOn
    intro moves scene move reached wentBefore answers moved
    rcases move?_eq_some.mp moved with ⟨-, -, rfl⟩
    have spentBefore := (ensues_of_play spentBegun wentBefore).spent
    exact (spentBefore.idles_perform platform move).answers answers
  exact answers.answer_eq_of_back back

end Runs

/-- In every run, nobody asks for something on behalf of the engine itself. -/
theorem own_of_play {platform : Platform κ} {configuration : Configuration} {world : κ}
    {moves : List (Move κ τ)} {scene : Scene κ τ}
    (played : (opening configuration world).play? platform moves = some scene) :
    ∀ request ∈ requestsIn scene.engine.frames, request.continuation ≠ .guard := by
  refine play?_induction (fun _ scene =>
    ∀ request ∈ requestsIn scene.engine.frames, request.continuation ≠ .guard) ?_ ?_ played
  · simp [opening, Engine.new, requestsIn]
  · intro moves before move after playedBefore own moved
    rcases move?_eq_some.mp moved with ⟨allowed, -, rfl⟩
    rcases sound_of_play playedBefore with ⟨flights, hand, sound⟩
    exact own_perform sound allowed own

end Scene

/-- Once everything has been given up, an engine is spent. -/
theorem Engine.Sound.spent {engine : Engine κ τ} {flights : Multiset (Flight τ)}
    {hand : Multiset (Grip (Continuation τ))} (sound : engine.Sound flights hand)
    (terminated : engine.terminated = true)
    (own : ∀ request ∈ requestsIn engine.frames, request.continuation ≠ .guard) :
    engine.Spent := by
  rcases sound.nothing_left terminated with ⟨-, bindings_eq, staged_eq, -, -⟩
  have disciplined := sound.disciplined
  rw [Engine.Disciplined, terminated] at disciplined
  have closed : engine.closed = true := disciplined.isClosed_of_released (.inl rfl)
  refine ⟨sound.healthy, closed, disciplined.closed_imp closed, staged_eq, ?_, ?_⟩
  · exact (TagTable.isEmpty_iff sound.accounts.books.tags_wellFormed).mpr
      (Multiset.coe_eq_zero _ |>.mpr bindings_eq)
  · intro frame frameMem
    refine ⟨disciplined.isPlain_of_terminated frame frameMem, ?_⟩
    rintro request rfl
    exact own request (List.mem_filterMap.mpr ⟨_, frameMem, rfl⟩)

/-- What comes of all that is done later in a scene in which everything has been given up. -/
structure Final (platform : Platform κ) (before : Scene κ τ) (later : List (Move κ τ))
    (after : Scene κ τ) : Prop where
  /-- Slots, tags, staged records, counts and marks are as they were, and the ring has not been
  used. Whoever has been told something has been told that the engine is closed, but for tasks that
  had been pushed too late. -/
  outlasts : before.engine.Outlasts before.late after.engine
  /-- The promise that everything will be given up stays resolved. -/
  terminated : after.engine.terminated = true
  /-- Whatever signals leave alone has changed only by itself. -/
  view_eq : ∀ {σ : Type} (view : κ → σ),
    (∀ world, view (platform.notifier.notify world).2 = view world) →
    (∀ world, .drift world ∈ later → view world = view before.engine.world) →
      view after.engine.world = view before.engine.world
  /-- No task has joined those that had been pushed too late. -/
  late_subset : after.late ⊆ before.late
  /-- Every continuation that has been handed over is called once. -/
  invoked_eq : invoked (before.engine.eventsSince after.engine) + after.engine.underway +
    after.queued = handedOver later + (before.engine.underway + before.queued)
  /-- Every task that has been pushed is turned away. -/
  turnsAway : ∀ index task, (pushedTasks later)[index]? = some task →
    before.TurnsAway after (before.pushes.length + index) task
  /-- Whoever calls the engine now is told that it is closed. -/
  declines : after.engine.Declines platform
  /-- A cycle that is begun now answers zero when all that it takes up has returned. -/
  answer_eq : ∀ limit moves ended, after.play? platform (.cycle limit :: moves) = some ended →
    ended.engine.frames = after.engine.frames → ended.engine.answer = .ok 0

/-- In every run, what happens after everything has been given up changes nothing of it, and
whatever is asked for then is refused. -/
theorem final_of_play {platform : Platform κ} {configuration : Configuration} {world : κ}
    {earlier later : List (Move κ τ)} {before after : Scene κ τ}
    (played : (Scene.opening configuration world).play? platform earlier = some before)
    (terminated : before.engine.terminated = true)
    (went : before.play? platform later = some after) : Final platform before later after := by
  have whole : (Scene.opening configuration world).play? platform (earlier ++ later) =
      some after := by
    rw [Scene.play?_append played, went]
  rcases Scene.sound_of_play played with ⟨flights, hand, sound⟩
  rcases Scene.sound_of_play whole with ⟨others, otherHand, soundAfter⟩
  have spent := sound.spent terminated (Scene.own_of_play played)
  have ensues := Scene.ensues_of_play spent went
  have terminatedAfter : after.engine.terminated = true := by
    rw [ensues.outlasts.same]
    exact terminated
  refine
    { outlasts := ensues.outlasts
      terminated := terminatedAfter
      view_eq := fun view unheard still => Scene.view_of_play view unheard spent went still
      late_subset := ensues.late_subset
      invoked_eq := ?_
      turnsAway := ensues.turnsAway
      declines := ensues.spent.declines platform
      answer_eq := fun limit moves ended wentOn back =>
        Scene.answer_of_play ensues.spent wentOn back }
  have balanced := Scene.invoked_of_terminated played terminated
  have balancedAfter := Scene.invoked_of_terminated whole terminatedAfter
  rcases ensues.outlasts.journal with ⟨events, appended, -⟩
  rw [appended, invoked_append, handedOver, List.map_append, List.sum_append, ← handedOver,
    ← handedOver, ← balanced] at balancedAfter
  rw [Engine.eventsSince_eq appended]
  have regroup (since told queued called : Multiset (Continuation τ)) :
      since + told + queued + called = since + called + told + queued := by abel
  apply add_right_cancel (b := invoked before.engine.journal)
  rw [regroup, balancedAfter]
  abel

open Simulation in
/-- A job has found the inbox open, and is queued when the ring has been given up. A request with a
time limit is refused even though the ring has no room to make. A cycle then runs the job and answers
zero, and a request through a handle is turned away. -/
theorem final_late_job :
    ∃ (platform : Platform Script) (earlier later : List (Move Script String))
      (before after : Scene Script String),
      (Scene.opening .default (.new 8 .wait none [])).play? platform earlier = some before ∧
        before.engine.terminated = true ∧ before.play? platform later = some after ∧
        platform.ring.capacity after.engine.world = 0 ∧
        Multiset.card (invoked (before.engine.eventsSince after.engine)) = 2 ∧
        Final platform before later after := by
  let platform : Platform Script := { Script.platform (.silent _) with
    ring := { Script.ring with
      capacity := fun script => if script.isReleased then 0 else script.capacity } }
  let earlier : List (Move Script String) :=
    [Move.push (.job "late"), Move.advance 0, Move.shutdown] ++ List.replicate 7 Move.step
  let later : List (Move Script String) :=
    [Move.advance 0, Move.request ⟨.read, ⟨⟨3⟩, ⟨4096, 16⟩, .current⟩, some (.ofMillis 5)⟩ "read",
      Move.step, Move.finish, Move.cycle none, Move.step, Move.finish] ++
    List.replicate 3 Move.step ++
    [Move.push (.request ⟨.nop, (), none⟩ "nop"), Move.advance 1, Move.shutdown, Move.closeInbox,
      Move.wake]
  have plays : ((Scene.opening .default (Script.new 8 .wait none [])).play? platform earlier).any
      fun before => before.engine.terminated &&
        (before.play? platform later).any fun after =>
          platform.ring.capacity after.engine.world == 0 &&
            Multiset.card (invoked (before.engine.eventsSince after.engine)) == 2 := by
    decide +kernel
  simp only [Option.any_eq_true, Bool.and_eq_true, beq_iff_eq] at plays
  rcases plays with ⟨before, played, terminated, after, went, roomless, told⟩
  exact ⟨platform, earlier, later, before, after, played, terminated, went, roomless, told,
    final_of_play played terminated went⟩

end CompletionEngine
