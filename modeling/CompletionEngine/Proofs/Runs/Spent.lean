import CompletionEngine.Proofs.Runs.Docket

/-!
# Spent engines

An engine that has given everything up is spent: it is closed, nothing is registered or staged, and
what it still has to do neither delivers a batch nor shuts anything down. It can be called like any
other engine, but its calls come to little. A request makes no room, since nothing waits to be
pushed, although the ring that has been given up has no room at all. It is refused as soon as it is to
be staged. A cycle ends before it enters the kernel, and a shutdown has nothing to do.

Only tasks that were pushed while the inbox was open, and queued once the engine had emptied it, may
still be taken up by a cycle. Their requests are refused like any other, but a job is run.
-/

namespace CompletionEngine

variable {κ τ : Type}

/-- What may happen at the border of a spent engine, if these tasks have been pushed too late:
somebody is told that the engine is closed, or signals to it, or one of these tasks is taken up or
finds the inbox full. -/
def Event.Befits (late : List (Task τ)) : Event τ → Prop
  | .called _ outcome => outcome.result = .error .closed
  | .settled promise outcome => outcome.result = .error .closed ∨
      outcome.result = .error (.exhausted .requestQueue) ∧
        ∃ command, .request command promise ∈ late
  | .dropped body failure => failure = .closed ∨
      failure = .exhausted .requestQueue ∧ .job body ∈ late
  | .started body => .job body ∈ late
  | .notified _ => True
  | _ => False

theorem Event.Befits.mono {event : Event τ} {late more : List (Task τ)}
    (befits : event.Befits late) (subset : late ⊆ more) : event.Befits more := by
  cases event with
  | settled promise outcome =>
      exact befits.imp id fun ⟨full, command, taskMem⟩ => ⟨full, command, subset taskMem⟩
  | dropped body failure => exact befits.imp id fun ⟨full, taskMem⟩ => ⟨full, subset taskMem⟩
  | started body => exact subset befits
  | _ => exact befits

theorem Task.befits_refusal (task : Task τ) (late : List (Task τ)) :
    (task.refusal .closed).Befits late := by
  cases task <;> exact .inl rfl

theorem Task.befits_overflow {task : Task τ} {late : List (Task τ)} (taskMem : task ∈ late) :
    (task.refusal (.exhausted .requestQueue)).Befits late := by
  cases task with
  | request command promise => exact .inr ⟨rfl, command, taskMem⟩
  | job body => exact .inr ⟨rfl, taskMem⟩

theorem Continuation.befits_event {continuation : Continuation τ} (own : continuation ≠ .guard)
    (kind : Kind) (late : List (Task τ)) :
    (continuation.event ⟨kind, .error .closed⟩).Befits late := by
  cases continuation with
  | caller label => exact rfl
  | promise label => exact .inl rfl
  | guard => exact absurd rfl own

namespace Frame

/-- Whether the frame belongs to a cycle that has not pushed anything yet. -/
def isCycling : Frame τ → Bool
  | .intake .. | .observe _ | .arm _ => true
  | _ => false

/-- Whether the frame answers a cycle that has delivered completions. -/
def isReport : Frame τ → Bool
  | .report _ => true
  | _ => false

/-- A bound on the steps that a frame takes on a spent engine. -/
def weight : Frame τ → ℕ
  | .client => 0
  | .intake remaining _ => 2 * remaining + 3
  | .observe _ | .worked => 2
  | _ => 1

theorem weight_pos {frame : Frame τ} (other : frame ≠ .client) : 0 < frame.weight := by
  cases frame <;> simp_all [weight]

/-- The frame may be left when everything has been given up. -/
structure Lasts (frame : Frame τ) : Prop where
  plain : frame.isPlain
  own : ∀ request, frame = .stage request → request.continuation ≠ .guard

/-- The frame may be put on top when everything has been given up. -/
structure Calm (frame : Frame τ) : Prop extends frame.Lasts where
  silent : frame.isReport = false

theorem calm_stage {request : Request τ} (own : request.continuation ≠ .guard) :
    (stage request).Calm where
  plain := rfl
  own := by
    rintro _ ⟨⟩
    exact own
  silent := rfl

theorem calm_of_not_stage {frame : Frame τ} (plain : frame.isPlain) (other : frame.isStage = false)
    (silent : frame.isReport = false) : frame.Calm where
  plain := plain
  own := by
    rintro _ rfl
    cases other
  silent := silent

end Frame

theorem Continuation.calm_frames (continuation : Continuation τ) :
    ∀ frame ∈ continuation.frames, frame.Calm := by
  cases continuation with
  | caller label =>
      intro frame frameMem
      rw [List.mem_singleton.mp frameMem]
      exact Frame.calm_of_not_stage rfl rfl rfl
  | promise | guard => simp [Continuation.frames]

namespace Engine

/-- An engine is left as it was but for what it has to do, what it last answered and the tasks in
its inbox. It makes no use of its ring. -/
structure Outlasts (late : List (Task τ)) (before after : Engine κ τ) : Prop where
  same : after = { before with
    world := after.world
    inbox.queue := after.inbox.queue
    frames := after.frames
    answer := after.answer
    journal := after.journal }
  journal : ∃ events, after.journal = events ++ before.journal ∧ ∀ event ∈ events,
    event.Befits late

namespace Outlasts

variable {late more : List (Task τ)} {before between after : Engine κ τ}

theorem refl (engine : Engine κ τ) : engine.Outlasts late engine := ⟨rfl, [], rfl, by simp⟩

theorem trans (first : before.Outlasts late between) (second : between.Outlasts late after) :
    before.Outlasts late after := by
  rcases first.journal with ⟨events, appended, befit⟩
  rcases second.journal with ⟨others, othersAppended, othersBefit⟩
  refine ⟨?_, others ++ events, ?_, ?_⟩
  · rw [second.same, first.same]
  · rw [othersAppended, appended, List.append_assoc]
  · intro event eventMem
    rcases List.mem_append.mp eventMem with other | own
    · exact othersBefit event other
    · exact befit event own

theorem mono (outlasts : before.Outlasts late after) (subset : late ⊆ more) :
    before.Outlasts more after := by
  rcases outlasts.journal with ⟨events, appended, befit⟩
  exact ⟨outlasts.same, events, appended, fun event eventMem =>
    (befit event eventMem).mono subset⟩

end Outlasts

/-- A bound on the steps of a spent engine before it is a caller's turn. -/
def weight (engine : Engine κ τ) : ℕ := (engine.frames.map Frame.weight).sum

/-- The engine has given everything up. -/
structure Spent (engine : Engine κ τ) : Prop where
  healthy : engine.fault = none
  closed : engine.closed = true
  inbox_closed : engine.inbox.closed = true
  staged_eq : engine.staged = []
  vacant : engine.tags.isEmpty = true
  lasts : ∀ frame ∈ engine.frames, frame.Lasts

/-- What an engine that has given everything up does about a frame. -/
inductive Idles (engine : Engine κ τ) : Frame τ → Engine κ τ → Prop
  /-- A request is refused. -/
  | refuse (request : Request τ) : Idles engine (.stage request)
      (engine.deliver (some request.continuation) ⟨request.command.kind, .error .closed⟩)
  /-- A cycle takes up a request that was queued too late. -/
  | takeRequest {remaining : ℕ} {wait : Wait} {command : Command} {promise : τ}
      {queue : List (Task τ)} (queued : engine.inbox.queue = .request command promise :: queue) :
      Idles engine (.intake (remaining + 1) wait)
        (({ engine with inbox.queue := queue }.next (.intake remaining wait)).next
          (.stage ⟨command, .promise promise⟩))
  /-- A cycle takes up a job that was queued too late. -/
  | takeJob {remaining : ℕ} {wait : Wait} {body : τ} {queue : List (Task τ)}
      (queued : engine.inbox.queue = .job body :: queue) :
      Idles engine (.intake (remaining + 1) wait)
        ((({ engine with inbox.queue := queue }.next (.intake remaining wait)).log
          (.started body)).next .client)
  /-- A cycle or a worker goes on. -/
  | goOn {frame next : Frame τ} (calm : next.Calm) (lighter : next.weight < frame.weight)
      (same : next.isCycling = frame.isCycling) : Idles engine frame (engine.next next)
  /-- A cycle answers. -/
  | answer {frame : Frame τ} (answer : Except RingError ℕ)
      (nothing : frame.isReport = false → answer = .ok 0) :
      Idles engine frame { engine with answer := answer }
  /-- A worker ends. -/
  | leave {frame : Frame τ} (done : frame.isCycling = false) : Idles engine frame engine

namespace Idles

variable {engine after : Engine κ τ} {frame : Frame τ}

/-- What is put on top takes fewer steps than what it has been put there for. -/
theorem exists_above (idles : engine.Idles frame after) (other : frame ≠ .client) :
    ∃ above, after.frames = above ++ engine.frames ∧
      (above.map Frame.weight).sum < frame.weight ∧ ∀ frame ∈ above, frame.Calm := by
  cases idles with
  | refuse request =>
      refine ⟨request.continuation.frames, by rw [deliver_some], ?_,
        request.continuation.calm_frames⟩
      cases request.continuation <;> simp [Continuation.frames, Frame.weight]
  | takeRequest queued =>
      refine ⟨[.stage _, .intake _ _], rfl, ?_, ?_⟩
      · simp only [List.map_cons, List.map_nil, List.sum_cons, List.sum_nil, Frame.weight]
        omega
      · simp only [List.mem_cons, List.not_mem_nil, or_false]
        rintro frame (rfl | rfl)
        · exact Frame.calm_stage (by simp)
        · exact Frame.calm_of_not_stage rfl rfl rfl
  | takeJob queued =>
      refine ⟨[.client, .intake _ _], rfl, ?_, ?_⟩
      · simp only [List.map_cons, List.map_nil, List.sum_cons, List.sum_nil, Frame.weight]
        omega
      · simp only [List.mem_cons, List.not_mem_nil, or_false]
        rintro frame (rfl | rfl) <;> exact Frame.calm_of_not_stage rfl rfl rfl
  | goOn calm lighter same => exact ⟨[_], rfl, by simpa using lighter, by simpa using calm⟩
  | answer | leave => exact ⟨[], rfl, Frame.weight_pos other, by simp⟩

theorem queue_suffix (idles : engine.Idles frame after) :
    after.inbox.queue <:+ engine.inbox.queue := by
  cases idles with
  | refuse request =>
      rw [deliver_some]
  | takeRequest queued | takeJob queued =>
      rw [queued]
      exact List.suffix_cons _ _
  | goOn | answer | leave => exact List.suffix_rfl

theorem world_eq (idles : engine.Idles frame after) : after.world = engine.world := by
  cases idles with
  | refuse request => rw [deliver_some]
  | _ => rfl

/-- A cycle goes on below whatever it takes up, until it answers that it has done nothing. -/
theorem of_cycling (idles : engine.Idles frame after) (cycling : frame.isCycling) :
    (∃ above next, after.frames = above ++ next :: engine.frames ∧ next.isCycling) ∨
      after.frames = engine.frames ∧ after.answer = .ok 0 := by
  cases idles with
  | refuse request => cases cycling
  | takeRequest queued => exact .inl ⟨[.stage _], .intake _ _, rfl, rfl⟩
  | takeJob queued => exact .inl ⟨[.client], .intake _ _, rfl, rfl⟩
  | goOn calm lighter same => exact .inl ⟨[], _, rfl, same.trans cycling⟩
  | answer answer nothing =>
      refine .inr ⟨rfl, nothing ?_⟩
      cases frame <;> first | rfl | cases cycling
  | leave done => cases done.symm.trans cycling

/-- Only a cycle that had delivered something before answers with another number than zero. -/
theorem answer_eq (idles : engine.Idles frame after) :
    frame.isReport ∨ after.answer = engine.answer ∨ after.answer = .ok 0 := by
  cases idles with
  | refuse request =>
      rw [deliver_some]
      exact .inr (.inl rfl)
  | answer answer nothing =>
      cases report : frame.isReport with
      | true => exact .inl rfl
      | false => exact .inr (.inr (nothing report))
  | _ => exact .inr (.inl rfl)

theorem outlasts (idles : engine.Idles frame after) (lasts : frame.Lasts) :
    (engine.next frame).Outlasts engine.inbox.queue after := by
  cases idles with
  | refuse request =>
      have own := lasts.own request rfl
      have unchanged (outcome : Outcome) :
          request.continuation.account outcome engine.statistics = engine.statistics := by
        cases continuation : request.continuation with
        | guard => exact absurd continuation own
        | _ => rfl
      rw [deliver_some, unchanged]
      refine ⟨rfl, [_], rfl, ?_⟩
      rintro event eventMem
      rw [List.mem_singleton.mp eventMem]
      exact Continuation.befits_event own _ _
  | takeRequest queued => exact ⟨rfl, [], rfl, by simp⟩
  | takeJob queued =>
      refine ⟨rfl, [_], rfl, ?_⟩
      rintro event eventMem
      rw [List.mem_singleton.mp eventMem, queued]
      exact List.mem_cons_self
  | goOn | answer | leave => exact ⟨rfl, [], rfl, by simp⟩

end Idles

namespace Spent

variable {engine : Engine κ τ} {frame : Frame τ}

theorem isFinished (spent : engine.Spent) : engine.isFinished = true := by
  simp [Engine.isFinished, spent.closed, spent.vacant]

theorem of_outlasts {late : List (Task τ)} {after : Engine κ τ} (spent : engine.Spent)
    (outlasts : engine.Outlasts late after) (lasts : ∀ frame ∈ after.frames, frame.Lasts) :
    after.Spent := by
  refine ⟨?_, ?_, ?_, ?_, ?_, lasts⟩ <;> rw [outlasts.same]
  · exact spent.healthy
  · exact spent.closed
  · exact spent.inbox_closed
  · exact spent.staged_eq
  · exact spent.vacant

theorem shutdown_eq (spent : engine.Spent) : engine.shutdown = engine := by
  simp [shutdown, spent.closed]

/-- No room is made for a request, even though the ring has none, since nothing is staged. -/
theorem beginRequest_eq (spent : engine.Spent) (platform : Platform κ) (request : Request τ) :
    engine.beginRequest platform request = engine.next (.stage request) := by
  have idle : (engine.next (.stage request)).flush platform = engine.next (.stage request) := by
    simp [flush, next, spent.staged_eq]
  rcases Engine.beginRequest_eq platform engine request with plain | flushed
  · exact plain
  · rw [flushed, idle]

theorem of_next (spent : (engine.next frame).Spent) : engine.Spent :=
  ⟨spent.healthy, spent.closed, spent.inbox_closed, spent.staged_eq, spent.vacant,
    fun frame frameMem => spent.lasts frame (List.mem_cons_of_mem _ frameMem)⟩

theorem runFrame_stage (spent : engine.Spent) (platform : Platform κ) (request : Request τ) :
    engine.runFrame platform (.stage request) = engine.deliver (some request.continuation)
      ⟨request.command.kind, .error .closed⟩ := by
  simp only [runFrame, stageRequest, spent.closed, if_true]
  rfl

theorem runFrame_observe (spent : engine.Spent) (platform : Platform κ) (wait : Wait) :
    engine.runFrame platform (.observe wait) = engine.next (.arm wait) := by
  have ready : (engine.next (.arm wait)).shutdown = engine.next (.arm wait) := by
    simp [shutdown, next, spent.closed]
  simp only [runFrame, ready, ite_self]

theorem runFrame_arm (spent : engine.Spent) (platform : Platform κ) (wait : Wait) :
    engine.runFrame platform (.arm wait) = { engine with answer := .ok 0 } := by
  simp only [runFrame, spent.isFinished, if_true]

theorem idles_intake {remaining : ℕ} {wait : Wait}
    (spent : (engine.next (.intake remaining wait)).Spent) (platform : Platform κ) :
    engine.Idles (.intake remaining wait) (engine.runFrame platform (.intake remaining wait)) := by
  have observes {remaining : ℕ} :
      engine.Idles (.intake remaining wait) (engine.next (.observe wait)) :=
    .goOn (Frame.calm_of_not_stage rfl rfl rfl) (by simp only [Frame.weight]; omega) rfl
  cases remaining with
  | zero => exact observes
  | succ remaining =>
      simp only [runFrame]
      cases queue_eq : engine.inbox.queue with
      | nil =>
          simp only [Inbox.pop?, queue_eq]
          exact observes
      | cons task queue =>
          simp only [Inbox.pop?, queue_eq, runTask]
          cases task with
          | request command promise =>
              let below : Engine κ τ := { engine with inbox.queue := queue }
              have waiting : (below.next (.intake remaining wait)).Spent := by
                refine ⟨spent.healthy, spent.closed, spent.inbox_closed, spent.staged_eq,
                  spent.vacant, ?_⟩
                intro frame frameMem
                rcases List.mem_cons.mp frameMem with rfl | old
                · exact (Frame.calm_of_not_stage rfl rfl rfl).toLasts
                · exact spent.lasts frame (List.mem_cons_of_mem _ old)
              have begun := waiting.beginRequest_eq platform ⟨command, .promise promise⟩
              change engine.Idles _ ((below.next (.intake remaining wait)).beginRequest platform _)
              rw [begun]
              exact .takeRequest queue_eq
          | job body => exact .takeJob queue_eq

/-- What an engine does about a frame once it has given everything up. -/
theorem idles_runFrame (spent : (engine.next frame).Spent) (other : frame ≠ .client)
    (platform : Platform κ) : engine.Idles frame (engine.runFrame platform frame) := by
  have below := spent.of_next
  have plain := (spent.lasts frame List.mem_cons_self).plain
  cases frame with
  | client => exact absurd rfl other
  | stage request =>
      rw [below.runFrame_stage]
      exact .refuse request
  | intake remaining wait => exact spent.idles_intake platform
  | observe wait =>
      rw [below.runFrame_observe]
      exact .goOn (Frame.calm_of_not_stage rfl rfl rfl) (by simp [Frame.weight]) rfl
  | arm wait =>
      rw [below.runFrame_arm]
      exact .answer _ fun _ => rfl
  | enter wait =>
      simp only [runFrame, below.isFinished, if_true]
      exact .answer _ fun _ => rfl
  | report delivered =>
      refine .answer _ fun silent => ?_
      cases silent
  | work =>
      simp only [runFrame, below.closed, if_true]
      exact .leave rfl
  | worked =>
      simp only [runFrame, below.shutdown_eq]
      cases engine.answer with
      | error error => exact .leave rfl
      | ok delivered =>
          exact .goOn (Frame.calm_of_not_stage rfl rfl rfl) (by simp [Frame.weight]) rfl
  | _ => cases plain

/-- An engine that has given everything up rests in a caller's turn, and otherwise does what comes
next without using its ring. -/
theorem step_cases (spent : engine.Spent) (platform : Platform κ) :
    engine.awaitsCaller ∧ engine.step platform = engine ∨
      ∃ (below : Engine κ τ) (frame : Frame τ), engine = below.next frame ∧ frame ≠ .client ∧
        below.Idles frame (engine.step platform) := by
  cases frames_eq : engine.frames with
  | nil =>
      have turn : engine.awaitsCaller = true := by simp [awaitsCaller, frames_eq]
      exact .inl ⟨turn, by simp [step, turn]⟩
  | cons frame rest =>
      by_cases running : frame = .client
      · have turn : engine.awaitsCaller = true := by simp [awaitsCaller, frames_eq, running]
        exact .inl ⟨turn, by simp [step, turn]⟩
      · have whole := engine.next_pop frames_eq
        refine .inr ⟨{ engine with frames := rest }, frame, whole.symm, running, ?_⟩
        rw [step_of_frames spent.healthy frames_eq running]
        exact idles_runFrame (whole ▸ spent) running platform

theorem of_idles {after : Engine κ τ} (spent : (engine.next frame).Spent)
    (other : frame ≠ .client) (idles : engine.Idles frame after) : after.Spent := by
  rcases idles.exists_above other with ⟨above, frames_eq, -, calm⟩
  refine spent.of_outlasts (idles.outlasts (spent.lasts frame List.mem_cons_self)) ?_
  rw [frames_eq]
  intro other otherMem
  rcases List.mem_append.mp otherMem with new | old
  · exact (calm other new).toLasts
  · exact spent.lasts other (List.mem_cons_of_mem _ old)

/-- After so many steps at most it is a caller's turn. -/
theorem awaitsCaller_run (platform : Platform κ) {fuel : ℕ} (spent : engine.Spent)
    (enough : engine.weight ≤ fuel) : (engine.run platform fuel).awaitsCaller := by
  induction fuel generalizing engine with
  | zero =>
      rcases spent.step_cases platform with ⟨turn, -⟩ | ⟨below, frame, rfl, other, -⟩
      · exact turn
      · have heavy := Frame.weight_pos other
        simp only [weight, next, List.map_cons, List.sum_cons] at enough
        omega
  | succ fuel ih =>
      rw [run]
      split
      · assumption
      · rename_i busy
        rcases spent.step_cases platform with ⟨turn, -⟩ | ⟨below, frame, rfl, other, idles⟩
        · exact absurd turn busy
        · rcases idles.exists_above other with ⟨above, frames_eq, lighter, -⟩
          refine ih (spent.of_idles other idles) ?_
          simp only [weight, next, List.map_cons, List.sum_cons] at enough
          rw [weight, frames_eq, List.map_append, List.sum_append]
          omega

end Spent

/-- What comes of calls of an engine that has given everything up. -/
structure Declines (engine : Engine κ τ) (platform : Platform κ) : Prop where
  /-- The code that awaits a request is called at once, and told that the engine is closed. -/
  request_eq : ∀ command label, (engine.request platform command label).step platform =
    (engine.log (.called label ⟨command.kind, .error .closed⟩)).next .client
  requestPromise_eq : ∀ command promise,
    (engine.requestPromise platform command promise).step platform =
      engine.log (.settled promise ⟨command.kind, .error .closed⟩)
  /-- A request that is under way when another thread comes between is told so next as well. -/
  underway : ∀ request rest, engine.frames = .stage request :: rest →
    engine.step platform = ({ engine with frames := rest } : Engine κ τ).deliver
      (some request.continuation) ⟨request.command.kind, .error .closed⟩
  /-- A request through a handle returns with its promise told, and a job returns dropped. -/
  submitTask_eq : ∀ task,
    engine.submitTask platform task = (.error .closed, engine.log (task.refusal .closed))
  /-- A cycle that finds nothing queued does nothing. -/
  cycle_eq : engine.inbox.queue = [] → ∀ limit,
    (engine.cycle limit).run platform 3 = { engine with answer := .ok 0 }
  /-- Whatever a cycle takes up, it is a caller's turn again before long. -/
  turn : ∃ fuel, (engine.run platform fuel).awaitsCaller
  shutdown_eq : engine.shutdown = engine
  drop_eq : engine.drop = engine
  /-- A shutdown through a handle only signals. -/
  requestShutdown_eq : engine.requestShutdown platform = engine.wake platform

namespace Spent

variable {engine : Engine κ τ}

theorem step_stage (spent : engine.Spent) (platform : Platform κ) (request : Request τ) :
    (engine.next (.stage request)).step platform = engine.deliver (some request.continuation)
      ⟨request.command.kind, .error .closed⟩ := by
  have healthy : (engine.next (.stage request)).fault = none := spent.healthy
  rw [step_of_frames healthy rfl (by simp)]
  exact spent.runFrame_stage platform request

/-- With nothing queued, a cycle looks into the inbox, looks whether it is to shut down, and finds
that the engine is finished. -/
theorem run_cycle (spent : engine.Spent) (empty : engine.inbox.queue = []) (platform : Platform κ)
    (limit : Option TimeLimit) :
    (engine.cycle limit).run platform 3 = { engine with answer := .ok 0 } := by
  have goesOn (fuel : ℕ) {frame : Frame τ} (other : frame ≠ .client) :
      (engine.next frame).run platform (fuel + 1) =
        (engine.runFrame platform frame).run platform fuel := by
    have healthy : (engine.next frame).fault = none := spent.healthy
    have busy : (engine.next frame).awaitsCaller = false := by
      cases frame <;> first | exact absurd rfl other | simp [awaitsCaller, next, spent.healthy]
    rw [run, busy, if_neg Bool.false_ne_true, step_of_frames healthy rfl other]
    rfl
  have taken (remaining : ℕ) (wait : Wait) :
      engine.runFrame platform (.intake remaining wait) = engine.next (.observe wait) := by
    cases remaining with
    | zero => rfl
    | succ remaining => simp only [runFrame, Inbox.pop?, empty]
  rw [cycle, beginCycle, goesOn 2 (by simp), taken, goesOn 1 (by simp), spent.runFrame_observe,
    goesOn 0 (by simp), spent.runFrame_arm]
  rfl

theorem declines (spent : engine.Spent) (platform : Platform κ) : engine.Declines platform where
  request_eq := by
    intro command label
    rw [request, spent.beginRequest_eq, spent.step_stage]
    rfl
  requestPromise_eq := by
    intro command promise
    rw [requestPromise, spent.beginRequest_eq, spent.step_stage]
    rfl
  underway := by
    intro request rest frames_eq
    have whole := engine.next_pop frames_eq
    have below : ({ engine with frames := rest } : Engine κ τ).Spent := of_next (whole ▸ spent)
    rw [← below.step_stage platform request, whole]
  submitTask_eq := by
    intro task
    cases task <;> simp [submitTask, runPush, advancePush, PushPhase.advance, spent.inbox_closed,
      reject, Task.refusal]
  cycle_eq := fun empty limit => spent.run_cycle empty platform limit
  turn := ⟨_, spent.awaitsCaller_run platform le_rfl⟩
  shutdown_eq := spent.shutdown_eq
  drop_eq := by simp [drop, spent.closed]
  requestShutdown_eq := by
    have closed : engine.inbox.close = engine.inbox := by
      rw [Inbox.close, ← spent.inbox_closed]
    rw [requestShutdown, closed]

end Spent

end Engine

end CompletionEngine
