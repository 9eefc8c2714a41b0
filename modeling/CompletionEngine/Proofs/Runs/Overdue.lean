import CompletionEngine.Proofs.Runs.Signals
import CompletionEngine.Proofs.Runs.WakePoll
import CompletionEngine.Simulation.Script

/-!
# Overdue tasks

A cycle runs some of the tasks that are queued, then arms the wake-up poll and waits. Tasks that it
leaves behind may be overdue. When callers begin no cycle while another call is running, and the ring
refuses nothing, then each cycle runs its share before it waits. So no more tasks are overdue at a
wait than there were, at the last acknowledgement, beyond the share of one cycle.
-/

namespace CompletionEngine

variable {κ τ : Type}

/-- Whether the push has queued its task and returned. -/
def PushPhase.isAccepted {α : Type} : PushPhase α → Bool
  | .returned (.ok _) => true
  | _ => false

theorem PushPhase.eq_of_isAccepted {α : Type} {phase : PushPhase α} (accepted : phase.isAccepted) :
    phase = .returned (.ok ()) := by
  cases phase with
  | returned result =>
      cases result with
      | ok => rfl
      | error => cases accepted
  | _ => cases accepted

namespace Frame

/-- Whether the frame belongs to a cycle that has not delivered everything yet. -/
def isCycle : Frame τ → Bool
  | .intake .. | .observe _ | .arm _ | .enter _ | .dispatch .. => true
  | _ => false

/-- Whether the frame begins cycles. -/
def isWorker : Frame τ → Bool
  | .work | .worked => true
  | _ => false

/-- Whether the frame is about to wait. -/
def isEnter : Frame τ → Bool
  | .enter _ => true
  | _ => false

/-- Cycles are not nested, and nothing is done between the arming of the wake-up poll and the wait. -/
def LiesAbove (above below : Frame τ) : Prop :=
  below.isEnter = false ∧ (below.isCycle → above.isCycle = false ∧ above.isWorker = false) ∧
    (below.isWorker → above.isWorker = false)

/-- A frame may take the place of another. -/
def Follows (next frame : Frame τ) : Prop :=
  (next.isCycle ∨ next.isWorker → frame.isCycle ∨ frame.isWorker) ∧ (next.isWorker → frame.isWorker)

/-- A cycle has run its share, or what it has left of it is enough. -/
def InTime (batch backlog overdue : ℕ) : Frame τ → Prop
  | .intake remaining _ => remaining ≤ batch ∧ overdue ≤ backlog - (batch - remaining)
  | .observe _ | .arm _ | .enter _ => overdue ≤ backlog - batch
  | _ => True

theorem LiesAbove.follow {next frame below : Frame τ} (lies : frame.LiesAbove below)
    (follows : next.Follows frame) : next.LiesAbove below := by
  rcases lies with ⟨notEnter, cycle, worker⟩
  refine ⟨notEnter, fun belowCycle => ?_, fun belowWorker => ?_⟩
  · have none := mt follows.1
    simpa [cycle belowCycle] using none
  · have none := mt follows.2
    simpa [worker belowWorker] using none

/-- Whether the frame has nothing to do with cycles. -/
def isLight (frame : Frame τ) : Bool := !frame.isCycle && !frame.isWorker

theorem isEnter_of_isLight {frame : Frame τ} (light : frame.isLight) : frame.isEnter = false := by
  cases frame <;> first | rfl | cases light

theorem liesAbove_of_isLight {above below : Frame τ} (light : above.isLight)
    (notEnter : below.isEnter = false) : above.LiesAbove below := by
  have light : above.isCycle = false ∧ above.isWorker = false := by simpa [isLight] using light
  exact ⟨notEnter, fun _ => light, fun _ => light.2⟩

theorem pairwise_of_isLight {lights : List (Frame τ)} (light : ∀ frame ∈ lights, frame.isLight) :
    lights.Pairwise LiesAbove := by
  apply List.pairwise_of_forall_mem_list
  intro above aboveMem below belowMem
  exact liesAbove_of_isLight (light above aboveMem) (isEnter_of_isLight (light below belowMem))

theorem follows_of_isLight {next : Frame τ} (light : next.isLight) (frame : Frame τ) :
    next.Follows frame := by
  have light : next.isCycle = false ∧ next.isWorker = false := by simpa [isLight] using light
  simp [Follows, light]

theorem InTime.mono {frame : Frame τ} {batch backlog overdue fewer : ℕ} (less : fewer ≤ overdue)
    (inTime : frame.InTime batch backlog overdue) : frame.InTime batch backlog fewer := by
  cases frame with
  | intake remaining wait => exact ⟨inTime.1, less.trans inTime.2⟩
  | observe | arm | enter => exact less.trans inTime
  | _ => trivial

theorem inTime_of_not_cycle {frame : Frame τ} (other : frame.isCycle = false)
    (batch backlog overdue : ℕ) : frame.InTime batch backlog overdue := by
  cases frame <;> trivial

theorem inTime_of_isLight {frame : Frame τ} (light : frame.isLight) (batch backlog overdue : ℕ) :
    frame.InTime batch backlog overdue := by
  have light : frame.isCycle = false ∧ frame.isWorker = false := by simpa [isLight] using light
  exact inTime_of_not_cycle light.1 batch backlog overdue

end Frame

theorem Continuation.isLight_frames (continuation : Continuation τ) :
    ∀ frame ∈ continuation.frames, frame.isLight := by
  cases continuation <;> simp [Continuation.frames, Frame.isLight, Frame.isCycle, Frame.isWorker]

namespace Engine

/-- Every cycle has run its share of what is overdue. -/
structure Paced (batch backlog overdue : ℕ) (engine : Engine κ τ) : Prop where
  alone : engine.frames.Pairwise Frame.LiesAbove
  inTime : ∀ frame ∈ engine.frames, frame.InTime batch backlog overdue
  poised : ∀ frame ∈ engine.frames, frame.isEnter → engine.staged = [] ∧ engine.wakeArmed = true

section Operations

variable {engine after : Engine κ τ} {frame : Frame τ} {fresh : List (Frame τ)}
  {batch backlog overdue later left : ℕ}

/-- A frame is replaced by others. -/
theorem Paced.replace (paced : (engine.next frame).Paced batch backlog overdue)
    (frames_eq : after.frames = fresh ++ engine.frames) (ordered : fresh.Pairwise Frame.LiesAbove)
    (follows : ∀ next ∈ fresh, next.Follows frame)
    (inTime : ∀ next ∈ fresh, next.InTime batch later left)
    (poised : ∀ next ∈ fresh, next.isEnter → after.staged = [] ∧ after.wakeArmed = true)
    (others : ∀ below ∈ engine.frames, below.InTime batch later left) :
    after.Paced batch later left := by
  have lies := (List.pairwise_cons.mp paced.alone).1
  refine ⟨?_, ?_, ?_⟩
  · rw [frames_eq, List.pairwise_append]
    refine ⟨ordered, (List.pairwise_cons.mp paced.alone).2, ?_⟩
    exact fun next nextMem below belowMem => (lies below belowMem).follow (follows next nextMem)
  · intro next nextMem
    rw [frames_eq, List.mem_append] at nextMem
    rcases nextMem with nextMem | below
    · exact inTime next nextMem
    · exact others next below
  · intro next nextMem enters
    rw [frames_eq, List.mem_append] at nextMem
    rcases nextMem with nextMem | below
    · exact poised next nextMem enters
    · rw [(lies next below).1] at enters
      cases enters

/-- What is below goes on being in time while tasks leave the inbox. -/
theorem Paced.others (paced : (engine.next frame).Paced batch backlog overdue)
    (less : left ≤ overdue) : ∀ below ∈ engine.frames, below.InTime batch backlog left :=
  fun below belowMem => (paced.inTime below (List.mem_cons_of_mem _ belowMem)).mono less

/-- There is no cycle below a cycle. -/
theorem Paced.others_of_cycle (paced : (engine.next frame).Paced batch backlog overdue)
    (cycle : frame.isCycle) (later left : ℕ) :
    ∀ below ∈ engine.frames, below.InTime batch later left := by
  intro below belowMem
  have lies := (List.pairwise_cons.mp paced.alone).1 below belowMem
  refine Frame.inTime_of_not_cycle ?_ batch later left
  by_contra belowCycle
  rw [(lies.2.1 (by simpa using belowCycle)).1] at cycle
  cases cycle

/-- What has nothing to do with cycles may come on top of what a frame goes on as. -/
theorem Paced.cover (paced : (engine.next frame).Paced batch backlog overdue)
    (lights : List (Frame τ)) {next : Frame τ}
    (frames_eq : after.frames = lights ++ next :: engine.frames)
    (light : ∀ above ∈ lights, above.isLight) (follows : next.Follows frame)
    (notEnter : next.isEnter = false) (inTime : next.InTime batch later left)
    (others : ∀ below ∈ engine.frames, below.InTime batch later left) :
    after.Paced batch later left := by
  have frames_eq : after.frames = (lights ++ [next]) ++ engine.frames := by simpa using frames_eq
  refine paced.replace frames_eq ?_ ?_ ?_ ?_ others
  · rw [List.pairwise_append]
    refine ⟨Frame.pairwise_of_isLight light, List.pairwise_singleton _ _, ?_⟩
    intro above aboveMem below belowMem
    rw [List.mem_singleton.mp belowMem]
    exact Frame.liesAbove_of_isLight (light above aboveMem) notEnter
  all_goals
    intro fresh freshMem
    rcases List.mem_append.mp freshMem with above | same
  · exact Frame.follows_of_isLight (light fresh above) frame
  · rwa [List.mem_singleton.mp same]
  · exact Frame.inTime_of_isLight (light fresh above) batch later left
  · rwa [List.mem_singleton.mp same]
  · intro enters
    rw [Frame.isEnter_of_isLight (light fresh above)] at enters
    cases enters
  · intro enters
    rw [List.mem_singleton.mp same, notEnter] at enters
    cases enters

theorem Paced.turn (paced : (engine.next frame).Paced batch backlog overdue) {next : Frame τ}
    (frames_eq : after.frames = next :: engine.frames) (follows : next.Follows frame)
    (notEnter : next.isEnter = false) (inTime : next.InTime batch later left)
    (others : ∀ below ∈ engine.frames, below.InTime batch later left) :
    after.Paced batch later left :=
  paced.cover [] frames_eq (by simp) follows notEnter inTime others

theorem Paced.pop (paced : (engine.next frame).Paced batch backlog overdue)
    (lights : List (Frame τ)) (frames_eq : after.frames = lights ++ engine.frames)
    (light : ∀ above ∈ lights, above.isLight)
    (others : ∀ below ∈ engine.frames, below.InTime batch later left) :
    after.Paced batch later left := by
  refine paced.replace frames_eq (Frame.pairwise_of_isLight light) ?_ ?_ ?_ others
  · exact fun above aboveMem => Frame.follows_of_isLight (light above aboveMem) frame
  · exact fun above aboveMem => Frame.inTime_of_isLight (light above aboveMem) batch later left
  · intro above aboveMem enters
    rw [Frame.isEnter_of_isLight (light above aboveMem)] at enters
    cases enters

theorem Paced.congr (paced : engine.Paced batch backlog overdue) (less : left ≤ overdue)
    (same : (after.frames, after.staged, after.wakeArmed) =
      (engine.frames, engine.staged, engine.wakeArmed)) : after.Paced batch backlog left := by
  simp only [Prod.mk.injEq] at same
  rcases same with ⟨frames_eq, staged_eq, armed_eq⟩
  refine ⟨frames_eq ▸ paced.alone, ?_, ?_⟩
  · intro frame frameMem
    exact (paced.inTime frame (frames_eq ▸ frameMem)).mono less
  · intro frame frameMem enters
    rw [staged_eq, armed_eq]
    exact paced.poised frame (frames_eq ▸ frameMem) enters

theorem paced_of_single (frames_eq : after.frames = [frame])
    (inTime : frame.InTime batch backlog overdue) (notEnter : frame.isEnter = false) :
    after.Paced batch backlog overdue := by
  refine ⟨frames_eq ▸ List.pairwise_singleton _ _, ?_, ?_⟩
  · intro next nextMem
    rw [frames_eq, List.mem_singleton] at nextMem
    rwa [nextMem]
  · intro next nextMem enters
    rw [frames_eq, List.mem_singleton] at nextMem
    rw [nextMem, notEnter] at enters
    cases enters

/-- In a caller's turn, nothing is about to wait, and what has nothing to do with cycles may come. -/
theorem Paced.push (paced : engine.Paced batch backlog overdue) (healthy : engine.fault = none)
    (turn : engine.awaitsCaller) (less : left ≤ overdue) (light : frame.isLight)
    (frames_eq : after.frames = frame :: engine.frames) : after.Paced batch backlog left := by
  rcases frames_of_awaitsCaller healthy turn with empty | ⟨rest, running⟩
  · rw [empty] at frames_eq
    exact paced_of_single frames_eq (Frame.inTime_of_isLight light batch backlog left)
      (Frame.isEnter_of_isLight light)
  · rw [← engine.next_pop running] at paced
    rw [running] at frames_eq
    exact paced.cover [frame] frames_eq (by simpa using light) (by simp [Frame.Follows]) rfl trivial
      (paced.others less)

theorem closed_shutdown (engine : Engine κ τ) : engine.shutdown.closed = true := by
  rcases shutdown_cases engine with ⟨closed, same⟩ | ⟨-, -, deferred⟩ | ⟨-, -, begun⟩
  · rwa [same]
  · rw [deferred]
  · rw [begun]

/-- A flush that is not refused leaves nothing staged. -/
theorem flush_of_calm {platform : Platform κ}
    (calm : ∀ frame ∈ (engine.flush platform).frames, frame.isRefuse = false) :
    (engine.flush platform).frames = engine.frames ∧ (engine.flush platform).staged = [] ∧
      (engine.flush platform).wakeArmed = engine.wakeArmed := by
  rcases flush_cases platform engine with
    ⟨empty, same⟩ | ⟨-, world, events, -, pushed | ⟨error, refused⟩⟩
  · rw [same]
    exact ⟨rfl, empty, rfl⟩
  · rw [pushed]
    exact ⟨rfl, rfl, rfl⟩
  · rw [refused] at calm
    cases calm _ List.mem_cons_self

theorem frames_beginRequest {platform : Platform κ} {request : Request τ}
    (calm : ∀ frame ∈ (engine.beginRequest platform request).frames, frame.isRefuse = false) :
    (engine.beginRequest platform request).frames = .stage request :: engine.frames := by
  unfold beginRequest at calm ⊢
  split
  · rename_i full
    rw [if_pos full] at calm
    exact (flush_of_calm calm).1
  · rfl

theorem frames_runTask {platform : Platform κ} {task : Task τ}
    (calm : ∀ frame ∈ (engine.runTask platform task).frames, frame.isRefuse = false) :
    ∃ frame : Frame τ, frame.isLight ∧
      (engine.runTask platform task).frames = frame :: engine.frames := by
  cases task with
  | request command promise => exact ⟨_, rfl, frames_beginRequest calm⟩
  | job body => exact ⟨.client, rfl, rfl⟩

end Operations

namespace Sound

variable {engine : Engine κ τ} {flights : Multiset (Flight τ)}
  {hand : Multiset (Grip (Continuation τ))} {frame : Frame τ} {batch backlog overdue left : ℕ}

theorem paced_stage {request : Request τ} (sound : (engine.next (.stage request)).Sound flights hand)
    (platform : Platform κ) (spare : engine.inFlight + 2 ≤ UInt32.size)
    (paced : (engine.next (.stage request)).Paced batch backlog overdue) (less : left ≤ overdue) :
    (engine.runFrame platform (.stage request)).Paced batch backlog left := by
  have others := paced.others less
  rcases sound.of_next rfl with ⟨below, -⟩
  rcases below.accounts.books.stageRequest engine (below.room spare) platform request with
    ⟨pools, tags, failure, rejected, -⟩ | ⟨-, pools, tags, admissions, admitted, -⟩
  · simp only [Engine.runFrame, rejected, orRaise, deliver_some]
    exact paced.pop request.continuation.frames rfl request.continuation.isLight_frames others
  · simp only [Engine.runFrame, admitted, orRaise]
    exact paced.pop [] rfl (by simp) others

/-- A cycle runs a task of its share, unless nothing is queued. -/
theorem paced_intake {remaining : ℕ} {wait : Wait} (platform : Platform κ)
    (paced : (engine.next (.intake remaining wait)).Paced batch backlog overdue)
    (overdue_le : overdue ≤ engine.inbox.queue.length)
    (calm : ∀ frame ∈ (engine.runFrame platform (.intake remaining wait)).frames,
      frame.isRefuse = false)
    (left_eq : left = overdue - (engine.inbox.queue.length -
      (engine.runFrame platform (.intake remaining wait)).inbox.queue.length)) :
    (engine.runFrame platform (.intake remaining wait)).Paced batch backlog left := by
  have less : left ≤ overdue := left_eq ▸ Nat.sub_le _ _
  have others := paced.others less
  have top := paced.inTime (.intake remaining wait) List.mem_cons_self
  cases remaining with
  | zero =>
      refine paced.turn rfl (by simp [Frame.Follows, Frame.isCycle, Frame.isWorker]) rfl ?_ others
      exact (top.mono less).2
  | succ remaining =>
      simp only [Engine.runFrame] at calm left_eq ⊢
      cases popped : engine.inbox.pop? with
      | none =>
          rw [Inbox.queue_of_pop? popped] at overdue_le
          refine paced.turn rfl (by simp [Frame.Follows, Frame.isCycle, Frame.isWorker]) rfl ?_ others
          exact (less.trans overdue_le).trans (Nat.zero_le _)
      | some found =>
          rcases found with ⟨task, inbox⟩
          simp only [popped] at calm left_eq
          rcases frames_runTask calm with ⟨light, isLight, frames_eq⟩
          have covered : _ = [light] ++ Frame.intake remaining wait :: engine.frames := frames_eq
          refine paced.cover [light] covered (by simpa using isLight)
            (by simp [Frame.Follows, Frame.isCycle, Frame.isWorker]) rfl ?_ others
          have taken : engine.inbox.queue.length = inbox.queue.length + 1 :=
            congrArg List.length (Inbox.eq_of_pop? popped).2
          have fewer : _ ≤ inbox.queue.length := (proceeds_runTask platform
            ({ engine with inbox := inbox }.next (.intake remaining wait)) task).queue.length_le
          have less : left ≤ overdue - 1 := by omega
          rcases top with ⟨share, inTime⟩
          exact ⟨by omega, by omega⟩

/-- The wake-up poll is armed when the cycle is about to wait. -/
theorem paced_arm {wait : Wait} (platform : Platform κ)
    (pollable : ∀ world, (platform.notifier.pollDescriptor world).isSome)
    (paced : (engine.next (.arm wait)).Paced batch backlog overdue) (less : left ≤ overdue)
    (opened : engine.closed = false)
    (calm : ∀ frame ∈ (engine.runFrame platform (.arm wait)).frames, frame.isRefuse = false) :
    (engine.runFrame platform (.arm wait)).Paced batch backlog left := by
  have unfinished : ¬engine.isFinished := by simp [isFinished, opened]
  simp only [Engine.runFrame, if_neg unfinished] at calm ⊢
  rcases flush_of_calm calm with ⟨frames_eq, staged_eq, armed_eq⟩
  have armed : (engine.armWake platform).frames = engine.frames ∧
      (engine.armWake platform).wakeArmed = true := by
    rcases armWake_cases engine platform with
      ⟨marked | closed | silent, same⟩ | ⟨descriptor, -, -, -, armed⟩
    · rw [same]
      exact ⟨rfl, marked⟩
    · cases opened.symm.trans closed
    · have polls := pollable engine.world
      rw [silent] at polls
      cases polls
    · rw [armed]
      exact ⟨rfl, rfl⟩
  have top := (paced.inTime (.arm wait) List.mem_cons_self).mono less
  have entering : _ = [Frame.enter wait] ++ engine.frames := frames_eq.trans (congrArg _ armed.1)
  refine paced.replace entering (List.pairwise_singleton _ _) ?_ ?_ ?_ (paced.others less)
  · simp [Frame.Follows, Frame.isCycle, Frame.isWorker]
  · intro next nextMem
    rw [List.mem_singleton.mp nextMem]
    exact top
  · exact fun _ _ _ => ⟨staged_eq, armed_eq.trans armed.2⟩

theorem paced_dispatch {completions : List CompletionRecord} {delivered : ℕ} {outer : Bool}
    (sound : (engine.next (.dispatch completions delivered outer)).Sound flights hand)
    (platform : Platform κ)
    (paced : (engine.next (.dispatch completions delivered outer)).Paced batch backlog overdue)
    (less : left ≤ overdue)
    (other : (.dispatch completions delivered outer : Frame τ).isWakeUp = false) :
    (engine.runFrame platform (.dispatch completions delivered outer)).Paced batch backlog left := by
  have others := paced.others less
  cases completions with
  | nil =>
      simp only [Engine.runFrame]
      rcases endDispatch_cases (engine.next (.report delivered)) outer with ⟨-, -, begun⟩ | ⟨-, left⟩
      · rw [begun]
        refine paced.pop [.emptyInbox, .report delivered] rfl ?_ others
        simp [Frame.isLight, Frame.isCycle, Frame.isWorker]
      · rw [left]
        refine paced.pop [.report delivered] rfl ?_ others
        simp [Frame.isLight, Frame.isCycle, Frame.isWorker]
  | cons record rest =>
      have operation : record.userData ≠ wakeUserData := of_decide_eq_false other
      simp only [Engine.runFrame, if_neg operation]
      rcases sound.dispatchOne_eq platform operation with
        ⟨flight, more, continuation, pools, tags, -, -, -, -, dispatched⟩
      rw [dispatched, orRaise, deliver_some]
      exact paced.cover continuation.frames rfl continuation.isLight_frames
        (by simp [Frame.Follows, Frame.isCycle, Frame.isWorker]) rfl trivial others

/-- A cycle runs its share, then arms the wake-up poll and waits. -/
theorem paced_runFrame (sound : (engine.next frame).Sound flights hand) (platform : Platform κ)
    (spare : engine.inFlight + 2 ≤ UInt32.size)
    (pollable : ∀ world, (platform.notifier.pollDescriptor world).isSome)
    (paced : (engine.next frame).Paced (max engine.configuration.completionBatch.toNat 1) backlog
      overdue)
    (overdue_le : overdue ≤ engine.inbox.queue.length) (overdue_le_backlog : overdue ≤ backlog)
    (other : frame.isWakeUp = false) (opened : engine.closed = false)
    (calm : ∀ other ∈ (engine.runFrame platform frame).frames, other.isRefuse = false)
    (opened_after : (engine.runFrame platform frame).closed = false)
    (notRefuse : frame.isRefuse = false)
    (left_eq : left = overdue -
      (engine.inbox.queue.length - (engine.runFrame platform frame).inbox.queue.length)) :
    (engine.runFrame platform frame).Paced (max engine.configuration.completionBatch.toNat 1)
      backlog left := by
  have less : left ≤ overdue := left_eq ▸ Nat.sub_le _ _
  have others := paced.others less
  have top := (paced.inTime frame List.mem_cons_self).mono less
  have unfinished : ¬engine.isFinished := by simp [isFinished, opened]
  have notClosing : frame.isClosing = false := by
    by_contra closing
    have closed := sound.disciplined.isClosed_of_closing
      (.inr (List.any_eq_true.mpr ⟨frame, List.mem_cons_self, by simpa using closing⟩))
    cases opened.symm.trans closed
  cases frame with
  | client =>
      refine paced.pop [.client] rfl ?_ others
      simp [Frame.isLight, Frame.isCycle, Frame.isWorker]
  | stage request => exact sound.paced_stage platform spare paced less
  | intake remaining wait => exact paced_intake platform paced overdue_le calm left_eq
  | observe wait =>
      simp only [Engine.runFrame] at opened_after ⊢
      split
      · rename_i closing
        rw [if_pos closing] at opened_after
        cases (closed_shutdown _).symm.trans opened_after
      · exact paced.turn rfl (by simp [Frame.Follows, Frame.isCycle, Frame.isWorker]) rfl top others
  | arm wait => exact paced_arm platform pollable paced less opened calm
  | enter wait =>
      simp only [Engine.runFrame, if_neg unfinished]
      rcases enterKernel_cases platform engine wait with ⟨world, event, -, ⟨error, failed⟩ | entered⟩
      · rw [failed]
        exact paced.pop [] rfl (by simp) others
      · rcases reap_eq platform (({ engine with world := world } : Engine κ τ).log event) with
          ⟨completions, after, reaped⟩
        rw [entered, reaped]
        exact paced.turn rfl (by simp [Frame.Follows, Frame.isCycle, Frame.isWorker]) rfl trivial
          others
  | dispatch batch delivered outer => exact sound.paced_dispatch platform paced less other
  | report delivered => exact paced.pop [] rfl (by simp) others
  | refuse records failure outer => cases notRefuse
  | work =>
      simp only [Engine.runFrame, opened]
      have frames_eq : ((engine.next .worked).beginCycle
          (.caller (some engine.configuration.waitLimit))).frames =
            [.intake (max engine.configuration.completionBatch.toNat 1)
              (.caller (some engine.configuration.waitLimit)), .worked] ++ engine.frames := rfl
      refine paced.replace frames_eq ?_ ?_ ?_ ?_ others
      · simp [Frame.LiesAbove, Frame.isEnter, Frame.isCycle, Frame.isWorker]
      · simp [Frame.Follows, Frame.isCycle, Frame.isWorker]
      · intro next nextMem
        rcases List.mem_pair.mp nextMem with rfl | rfl
        · refine ⟨le_rfl, ?_⟩
          rw [Nat.sub_self]
          exact less.trans overdue_le_backlog
        · trivial
      · simp [Frame.isEnter]
  | worked =>
      simp only [Engine.runFrame] at opened_after ⊢
      split
      · rename_i failed
        simp only [failed] at opened_after
        cases (closed_shutdown engine).symm.trans opened_after
      · exact paced.turn rfl (by simp [Frame.Follows, Frame.isWorker]) rfl trivial others
  | _ => cases notClosing

end Sound

end Engine

namespace Watch

/-- What is known of the tasks that are queued when an open engine is about to wait. -/
structure Signalled (watch : Watch τ) (scene : Scene κ τ) : Prop where
  queue_eq : watch.tickets.map Ticket.task = scene.engine.inbox.queue
  /-- A task whose push has returned has a signal, unless it is overdue. -/
  signalled : ∀ ticket ∈ watch.tickets.drop watch.overdue,
    scene.pushes[ticket.push]? = some (.returned (.ok ())) → 0 < signals scene.engine.journal
  /-- The ring has the wake-up poll. -/
  armed : watch.nested = false → watch.refused = false →
    scene.engine.wakeArmed = true ∧ wakeUserData ∈ outstanding scene.engine.journal
  /-- Only tasks are overdue that did not fit into the share of one cycle. -/
  overdue_le : watch.nested = false → watch.refused = false →
    watch.overdue ≤ watch.backlog - max scene.engine.configuration.completionBatch.toNat 1

/-- As long as callers have not nested cycles and the ring has refused nothing, every cycle has run
its share. -/
def Paces (watch : Watch τ) (scene : Scene κ τ) : Prop :=
  scene.engine.closed = false → watch.nested = false → watch.refused = false →
    scene.engine.Paced (max scene.engine.configuration.completionBatch.toNat 1) watch.backlog
      watch.overdue

end Watch

namespace Scene

section Moves

variable {watch : Watch τ} {platform : Platform κ} {engine : Engine κ τ}
  {pushes : List (PushPhase (Task τ))} {flights : Multiset (Flight τ)}
  {hand : Multiset (Grip (Continuation τ))}

theorem paces_step (agrees : watch.Agrees ⟨engine, pushes⟩) (paces : watch.Paces ⟨engine, pushes⟩)
    (sound : engine.Sound flights hand)
    (pollable : ∀ world, (platform.notifier.pollDescriptor world).isSome)
    (spare : engine.inFlight + 2 ≤ UInt32.size) (opened : engine.closed = false) :
    (watch.observe .step ⟨engine, pushes⟩ ⟨engine.step platform, pushes⟩).Paces
      ⟨engine.step platform, pushes⟩ := by
  intro opened_after nested refused
  rcases Watch.calm_observe refused with ⟨refused_before, calm⟩
  have nested_before : watch.nested = false := by simpa [Watch.observe, Move.isCycle] using nested
  have paced := paces opened nested_before refused_before
  rcases Engine.step_cases engine platform with ⟨-, same⟩ | ⟨below, frame, rfl, stepped⟩
  · rw [same] at opened_after ⊢
    have appended : engine.journal = [] ++ engine.journal := rfl
    rcases watch.overdue_observe .step ⟨engine, pushes⟩ ⟨engine, pushes⟩ appended (by simp) with
      ⟨backlog_eq, overdue_eq⟩
    rw [backlog_eq, overdue_eq]
    exact paced.congr (Nat.sub_le _ _) rfl
  · rw [stepped] at calm opened_after ⊢
    cases wake : frame.isWakeUp with
    | true =>
        rcases Engine.runFrame_of_isWakeUp platform below wake with
          ⟨record, rest, delivered, outer, rfl, acknowledged⟩
        rw [acknowledged]
        let after := (below.next (.dispatch rest delivered outer)).acknowledge platform
        have appended : after.journal =
            [.acknowledged (platform.notifier.acknowledge below.world).1] ++ below.journal := rfl
        rcases (agrees.of_acknowledged .step ⟨after, pushes⟩ rfl appended).2 with
          ⟨backlog_eq, overdue_eq⟩
        rw [backlog_eq, overdue_eq]
        exact paced.turn rfl (by simp [Frame.Follows, Frame.isCycle, Frame.isWorker]) rfl trivial
          (paced.others_of_cycle rfl _ _)
    | false =>
        have proceeds := sound.proceeds_runFrame platform spare wake
        rcases proceeds.journal with ⟨events, silent, appended⟩
        have quiet : ∀ event ∈ events, event.isAcknowledgement = false :=
          fun event eventMem => Event.isAcknowledgement_of_silent (silent event eventMem)
        rcases watch.overdue_observe .step ⟨below.next frame, pushes⟩
          ⟨below.runFrame platform frame, pushes⟩ appended quiet with ⟨backlog_eq, overdue_eq⟩
        have overdue_le : watch.overdue ≤ below.inbox.queue.length := by
          have length_eq := congrArg List.length agrees.queue_eq
          rw [List.length_map] at length_eq
          exact agrees.overdue_le.trans length_eq.le
        rw [backlog_eq, overdue_eq, proceeds.configuration_eq]
        exact sound.paced_runFrame platform spare pollable paced overdue_le
          agrees.overdue_le_backlog wake opened calm opened_after
          (agrees.calm refused_before frame List.mem_cons_self) rfl

theorem paces_perform (agrees : watch.Agrees ⟨engine, pushes⟩) (paces : watch.Paces ⟨engine, pushes⟩)
    (sound : engine.Sound flights hand)
    (pollable : ∀ world, (platform.notifier.pollDescriptor world).isSome) {move : Move κ τ}
    (allowed : (Scene.mk engine pushes).allows move) (opened : engine.closed = false) :
    (watch.observe move ⟨engine, pushes⟩ ((Scene.mk engine pushes).perform platform move)).Paces
      ((Scene.mk engine pushes).perform platform move) := by
  by_cases step : move = .step
  · subst step
    exact paces_step agrees paces sound pollable (by simpa [allows] using allowed) opened
  intro opened_after nested refused
  rcases Watch.calm_observe refused with ⟨refused_before, calm⟩
  have alone : watch.nested = false ∧ (move.isCycle → engine.frames = []) := by
    simpa [Watch.observe] using nested
  rcases unacknowledged_perform platform engine pushes step with
    ⟨configuration_eq, events, quiet, appended⟩
  rcases watch.overdue_observe move ⟨engine, pushes⟩ _ appended quiet with ⟨backlog_eq, overdue_eq⟩
  have paced := paces opened alone.1 refused_before
  have less : (watch.observe move ⟨engine, pushes⟩
      ((Scene.mk engine pushes).perform platform move)).overdue ≤ watch.overdue :=
    overdue_eq ▸ Nat.sub_le _ _
  rw [backlog_eq, configuration_eq]
  generalize (watch.observe move ⟨engine, pushes⟩
    ((Scene.mk engine pushes).perform platform move)).overdue = left at less ⊢
  cases move with
  | step => exact absurd rfl step
  | request command label =>
      exact paced.push sound.healthy allowed less rfl (Engine.frames_beginRequest calm)
  | requestPromise command promise =>
      exact paced.push sound.healthy allowed less rfl (Engine.frames_beginRequest calm)
  | cycle limit =>
      refine Engine.paced_of_single (congrArg _ (alone.2 rfl)) ?_ rfl
      exact ⟨le_rfl, by rw [Nat.sub_self]; exact less.trans agrees.overdue_le_backlog⟩
  | work => exact Engine.paced_of_single (congrArg _ (alone.2 rfl)) trivial rfl
  | shutdown => cases (Engine.closed_shutdown engine).symm.trans opened_after
  | finish =>
      simp only [perform, Engine.finish]
      split
      · rename_i rest running
        rw [← engine.next_pop running] at paced
        exact paced.pop [] rfl (by simp) (paced.others less)
      · exact paced.congr less rfl
  | drop =>
      simp only [perform, Engine.drop, opened] at opened_after
      cases (Engine.closed_shutdown engine).symm.trans opened_after
  | push task => exact paced.congr less rfl
  | advance index =>
      simp only [perform, advance]
      split
      · exact paced.congr less rfl
      · rename_i phase _
        rcases advancePush_eq engine platform phase with ⟨world, advanced⟩
        rw [advanced]
        exact paced.congr less rfl
  | closeInbox => exact paced.congr less rfl
  | wake => exact paced.congr less rfl
  | drift world => exact paced.congr less rfl

end Moves

/-- In every run, as long as callers have not nested cycles and the ring has refused nothing, every
cycle runs its share. -/
theorem paces_of_play {platform : Platform κ} {configuration : Configuration} {world : κ}
    {moves : List (Move κ τ)} {scene : Scene κ τ}
    (played : (opening configuration world).play? platform moves = some scene)
    (pollable : ∀ world, (platform.notifier.pollDescriptor world).isSome)
    (heard : ∀ world, (platform.notifier.notify world).1 = .ok ()) :
    ((opening configuration world).watch platform moves).Paces scene := by
  refine play?_induction
    (fun moves scene => ((opening configuration world).watch platform moves).Paces scene) ?_ ?_ played
  · intro _ _ _
    exact ⟨.nil, fun _ frameMem => absurd frameMem List.not_mem_nil,
      fun _ frameMem => absurd frameMem List.not_mem_nil⟩
  · intro moves before move after playedBefore paces moved
    have closed := closed_of_move (sound_of_play playedBefore) (candid_of_play playedBefore) moved
    rcases move?_eq_some.mp moved with ⟨allowed, -, rfl⟩
    have agrees := agrees_of_play playedBefore heard
    rcases sound_of_play playedBefore with ⟨flights, hand, sound⟩
    rw [watch, knows_concat platform _ _ playedBefore]
    intro opened_after
    have opened : before.engine.closed = false := by
      by_contra wasClosed
      cases (closed (by simpa using wasClosed)).symm.trans opened_after
    exact paces_perform agrees paces sound pollable allowed opened opened_after

end Scene

/-- When an engine is about to wait and nothing is in hand, an armed wake-up poll is with the
ring. -/
theorem Engine.Paced.outstanding_wake {engine : Engine κ τ} {wait : Wait} {rest : List (Frame τ)}
    {batch backlog overdue : ℕ} (paced : engine.Paced batch backlog overdue)
    (entering : engine.frames = .enter wait :: rest)
    (calm : ∀ frame ∈ engine.frames, frame.isRefuse = false) (polls : engine.Polls)
    (notReleased : ¬Released engine.frames engine.terminated) :
    engine.wakeArmed = true ∧ wakeUserData ∈ outstanding engine.journal := by
  rcases paced.poised (.enter wait) (entering ▸ List.mem_cons_self) rfl with ⟨staged_eq, armed⟩
  have alone := paced.alone
  rw [entering, List.pairwise_cons] at alone
  have noBatch : ∀ frame ∈ engine.frames, frame.userData = 0 := by
    intro frame frameMem
    have notRefuse := calm frame frameMem
    rw [entering] at frameMem
    rcases List.mem_cons.mp frameMem with rfl | below
    · rfl
    · have notCycle := (alone.1 frame below).2.1
      cases frame with
      | dispatch => cases (notCycle rfl).1
      | refuse => cases notRefuse
      | _ => rfl
  have nothing : (engine.frames.map Frame.userData).sum = 0 := by
    apply List.sum_eq_zero
    intro userData userDataMem
    rcases List.mem_map.mp userDataMem with ⟨frame, frameMem, rfl⟩
    exact noBatch frame frameMem
  have marked := polls notReleased
  rw [copies_eq_count, staged_eq, nothing, armed, List.map_nil, Multiset.coe_nil, add_zero,
    zero_add] at marked
  exact ⟨armed, Multiset.count_pos.mp (marked ▸ Nat.one_pos)⟩

/-- In every run, on whatever platform others can signal to: when an open engine is about to wait,
every task whose push has returned has a signal or is overdue. If callers have not nested cycles and
the ring has refused nothing, the ring has the wake-up poll, and only those tasks are overdue that
were queued at the last acknowledgement beyond the share of one cycle. -/
theorem signalled_of_play {platform : Platform κ} {configuration : Configuration} {world : κ}
    {moves : List (Move κ τ)} {scene : Scene κ τ} {wait : Wait} {rest : List (Frame τ)}
    (played : (Scene.opening configuration world).play? platform moves = some scene)
    (pollable : ∀ world, (platform.notifier.pollDescriptor world).isSome)
    (heard : ∀ world, (platform.notifier.notify world).1 = .ok ())
    (entering : scene.engine.frames = .enter wait :: rest) (opened : scene.engine.closed = false) :
    ((Scene.opening configuration world).watch platform moves).Signalled scene := by
  have agrees := Scene.agrees_of_play played heard
  have paces := Scene.paces_of_play played pollable heard
  rcases Scene.sound_of_play played with ⟨flights, hand, sound⟩
  refine ⟨agrees.queue_eq, ?_, ?_, ?_⟩
  · intro ticket ticketMem returned
    rcases agrees.signalled ticket ticketMem with signal | ⟨push, here, underway⟩
    · exact signal
    · cases returned.symm.trans here
      cases underway
  · intro nested refused
    exact (paces opened nested refused).outstanding_wake entering (agrees.calm refused)
      (Scene.polls_of_play played) (sound.not_released_of_open opened)
  · intro nested refused
    exact (paces opened nested refused).inTime (.enter wait) (entering ▸ List.mem_cons_self)

open Simulation in
/-- With a share of one task, three tasks are queued before the first cycle. That cycle runs one of
them and consumes the signals of all, the next one runs another and is about to wait: the third task
is overdue, and nobody has signalled since. -/
theorem signalled_stranded_task :
    let start := Scene.opening { Configuration.default with completionBatch := 1 }
      { Script.new 8 .wait (some 7) [] with batches := [[⟨wakeUserData, 1, 0, .none⟩]] }
    let platform := Script.platform { Notifier.silent _ with pollDescriptor _ := some 7 }
    ∃ (moves : List (Move Script String)) (scene : Scene Script String) (wait : Wait)
      (rest : List (Frame String)),
      let watch := start.watch platform moves
      start.play? platform moves = some scene ∧
        scene.engine.frames = .enter wait :: rest ∧ scene.engine.closed = false ∧
        watch.nested = false ∧ watch.refused = false ∧
        watch.tickets.map Ticket.push = [2] ∧ watch.overdue = 1 ∧
        scene.pushes[2]? = some (.returned (.ok ())) ∧ signals scene.engine.journal = 0 ∧
        watch.Signalled scene := by
  intro start platform
  let pushed (index : ℕ) (body : String) : List (Move Script String) :=
    Move.push (.job body) :: List.replicate 4 (Move.advance index)
  let cycle (steps : ℕ) : List (Move Script String) :=
    [Move.cycle none, Move.step, Move.finish] ++ List.replicate steps Move.step
  let moves := pushed 0 "first" ++ pushed 1 "second" ++ pushed 2 "third" ++ cycle 7 ++ cycle 3
  have plays : (start.play? platform moves).any fun scene =>
      scene.engine.frames.head?.any Frame.isEnter && !scene.engine.closed &&
        scene.pushes[2]?.any PushPhase.isAccepted && signals scene.engine.journal == 0 := by
    decide +kernel
  simp only [Option.any_eq_true, Bool.and_eq_true, Bool.not_eq_true', beq_iff_eq] at plays
  rcases plays with
    ⟨scene, played, ⟨⟨⟨top, onTop, enters⟩, opened⟩, push, returned, accepted⟩, none⟩
  rcases List.head?_eq_some_iff.mp onTop with ⟨rest, frames_eq⟩
  rw [PushPhase.eq_of_isAccepted accepted] at returned
  cases top with
  | enter wait =>
      exact ⟨moves, scene, wait, rest, played, frames_eq, opened, by decide +kernel,
        by decide +kernel, by decide +kernel, by decide +kernel, returned, none,
        signalled_of_play played (fun _ => rfl) (fun _ => rfl) frames_eq opened⟩
  | _ => cases enters

end CompletionEngine
