import CompletionEngine.Proofs.Engine.Traffic

/-!
# Dealings of one step

Most of what a step does leaves the books alone, and what is in hand, and what is staged apart from
the wake-up poll. Then at most one thing happens between the engine and its ring: what is staged is
accepted or refused, or a batch is taken in hand. Beginning and ending operations, and giving the
ring up, are the business of single frames.
-/

namespace CompletionEngine

variable {κ τ : Type}

/-- Whether an event has to do with the ring, the wake-up poll or the end of everything. -/
def Event.isMarked : Event τ → Bool
  | .pushed .. | .submitted _ | .drained _ | .released | .acknowledged _ | .terminated => true
  | _ => false

theorem Event.isTraffic_of_not_marked {event : Event τ} (unmarked : event.isMarked = false) :
    event.isTraffic = false := by
  cases event <;> simp_all [isMarked, isTraffic]

@[simp]
theorem Continuation.isMarked_event (continuation : Continuation τ) (outcome : Outcome) :
    (continuation.event outcome).isMarked = false := by
  cases continuation <;> rfl

namespace Frame

/-- The completions that a frame has in hand. -/
def completions : Frame τ → Multiset CompletionRecord
  | .dispatch batch _ _ => batch
  | _ => 0

/-- The refused records that a frame has in hand, with why the ring refused them. -/
def refusals : Frame τ → Multiset (SubmitRecord × Failure)
  | .refuse records failure _ => records.map fun record => (record, failure)
  | _ => 0

/-- What a frame has in hand, other than leftovers of a shutdown. -/
structure Bears (frame : Frame τ) (completions : Multiset CompletionRecord)
    (refusals : Multiset (SubmitRecord × Failure)) : Prop where
  completions_eq : frame.completions = completions
  refusals_eq : frame.refusals = refusals
  notFail : frame.isFail = false

theorem bears_of_isEmptyHanded {frame : Frame τ} (emptyHanded : frame.isEmptyHanded) :
    frame.Bears 0 0 := by
  cases frame <;> first | exact ⟨rfl, rfl, rfl⟩ | cases emptyHanded

theorem bears_of_minor {frame : Frame τ} (minor : frame.isBusiness = false) : frame.Bears 0 0 := by
  cases frame with
  | dispatch batch => cases batch <;> first | exact ⟨rfl, rfl, rfl⟩ | cases minor
  | refuse records => cases records <;> first | exact ⟨rfl, rfl, rfl⟩ | cases minor
  | _ => first | exact ⟨rfl, rfl, rfl⟩ | cases minor

theorem userData_eq (frame : Frame τ) :
    frame.userData = frame.completions.map CompletionRecord.userData +
      frame.refusals.map fun row => row.1.userData := by
  cases frame <;> simp [userData, completions, refusals, Function.comp_def]

end Frame

/-- The completions in hand. -/
def completionsInHand (frames : List (Frame τ)) : Multiset CompletionRecord :=
  (frames.map Frame.completions).sum

/-- The refused records in hand. -/
def refusalsInHand (frames : List (Frame τ)) : Multiset (SubmitRecord × Failure) :=
  (frames.map Frame.refusals).sum

@[simp]
theorem completionsInHand_cons (frame : Frame τ) (frames : List (Frame τ)) :
    completionsInHand (frame :: frames) = frame.completions + completionsInHand frames := by
  simp [completionsInHand]

@[simp]
theorem refusalsInHand_cons (frame : Frame τ) (frames : List (Frame τ)) :
    refusalsInHand (frame :: frames) = frame.refusals + refusalsInHand frames := by
  simp [refusalsInHand]

theorem sum_userData (frames : List (Frame τ)) :
    (frames.map Frame.userData).sum =
      (completionsInHand frames).map CompletionRecord.userData +
        (refusalsInHand frames).map fun row => row.1.userData := by
  induction frames with
  | nil => rfl
  | cons frame frames ih =>
      simp only [List.map_cons, List.sum_cons, ih, Frame.userData_eq, completionsInHand_cons,
        refusalsInHand_cons, Multiset.map_add]
      abel

theorem released_congr {frames others : List (Frame τ)} {terminated also : Bool}
    (failing_eq : others.filter Frame.isFail = frames.filter Frame.isFail)
    (terminated_eq : also = terminated) : Released others also ↔ Released frames terminated := by
  have same : others.any Frame.isFail = frames.any Frame.isFail := by
    have filtered := congrArg (fun frames : List (Frame τ) => frames.any Frame.isFail) failing_eq
    simpa [List.any_filter] using filtered
  rw [Released, Released, terminated_eq, same]

/-- A continuation puts nothing in hand. -/
theorem Continuation.frames_bear (continuation : Continuation τ)
    (frames : List (Frame τ)) :
    completionsInHand (continuation.frames ++ frames) = completionsInHand frames ∧
      refusalsInHand (continuation.frames ++ frames) = refusalsInHand frames ∧
      (continuation.frames ++ frames).filter Frame.isFail = frames.filter Frame.isFail := by
  cases continuation with
  | caller label =>
      refine ⟨?_, ?_, rfl⟩
      · simp [Continuation.frames, Frame.completions]
      · simp [Continuation.frames, Frame.refusals]
  | promise label => exact ⟨rfl, rfl, rfl⟩
  | guard => exact ⟨rfl, rfl, rfl⟩

namespace Engine

/-- What is staged stays, but for the wake-up poll, which an open engine may arm. -/
def Arms (before after : Engine κ τ) : Prop :=
  after.staged = before.staged ∧ after.wakeArmed = before.wakeArmed ∨
    ∃ descriptor, before.closed = false ∧ before.wakeArmed = false ∧ after.wakeArmed = true ∧
      after.staged = before.staged ++ [wakeRecord descriptor]

/-- Nothing happens to any operation, and nothing between the engine and its ring. -/
structure Stays (before after : Engine κ τ) : Prop where
  wellFormed : before.pools.WellFormed ∧ before.tags.WellFormed →
    after.pools.WellFormed ∧ after.tags.WellFormed
  held_eq : after.pools.held = before.pools.held
  bindings_eq : (after.tags.bindings : Multiset (UInt32 × SlotRef)) = before.tags.bindings
  arms : before.Arms after
  statistics_eq : after.statistics = before.statistics
  terminated_eq : after.terminated = before.terminated
  closed_imp : before.closed = true → after.closed = true
  completions_eq : completionsInHand after.frames = completionsInHand before.frames
  refusals_eq : refusalsInHand after.frames = refusalsInHand before.frames
  failing_eq : after.frames.filter Frame.isFail = before.frames.filter Frame.isFail
  journal : ∃ events, (∀ event ∈ events, event.isMarked = false) ∧
    after.journal = events ++ before.journal

namespace Stays

variable {before after : Engine κ τ}

/-- An engine stays as it is when only frames without anything in hand come and go. -/
theorem of_same (events : List (Event τ))
    (same : (after.pools, after.tags, after.staged, after.wakeArmed, after.statistics,
        after.terminated) =
      (before.pools, before.tags, before.staged, before.wakeArmed, before.statistics,
        before.terminated))
    (closed_imp : before.closed = true → after.closed = true)
    (frames : completionsInHand after.frames = completionsInHand before.frames ∧
      refusalsInHand after.frames = refusalsInHand before.frames ∧
      after.frames.filter Frame.isFail = before.frames.filter Frame.isFail)
    (unmarked : ∀ event ∈ events, event.isMarked = false)
    (appended : after.journal = events ++ before.journal) : before.Stays after := by
  simp only [Prod.mk.injEq] at same
  rcases same with ⟨pools_eq, tags_eq, staged_eq, armed_eq, statistics_eq, terminated_eq⟩
  refine ⟨?_, ?_, ?_, .inl ⟨staged_eq, armed_eq⟩, statistics_eq, terminated_eq, closed_imp, frames.1,
    frames.2.1, frames.2.2, events, unmarked, appended⟩
  · intro wellFormed
    rwa [pools_eq, tags_eq]
  · rw [pools_eq]
  · rw [tags_eq]

/-- Nothing is written into the journal. -/
theorem of_silent
    (same : (after.pools, after.tags, after.staged, after.wakeArmed, after.statistics,
        after.terminated) =
      (before.pools, before.tags, before.staged, before.wakeArmed, before.statistics,
        before.terminated))
    (closed_imp : before.closed = true → after.closed = true)
    (frames : completionsInHand after.frames = completionsInHand before.frames ∧
      refusalsInHand after.frames = refusalsInHand before.frames ∧
      after.frames.filter Frame.isFail = before.frames.filter Frame.isFail)
    (journal_eq : after.journal = before.journal) : before.Stays after :=
  of_same [] same closed_imp frames (by simp) journal_eq

theorem refl (engine : Engine κ τ) : engine.Stays engine :=
  of_silent rfl id ⟨rfl, rfl, rfl⟩ rfl

theorem trans {between : Engine κ τ} (first : before.Stays between) (second : between.Stays after)
    (calm : between.staged = before.staged ∧ between.wakeArmed = before.wakeArmed ∨
      after.staged = between.staged ∧ after.wakeArmed = between.wakeArmed) :
    before.Stays after where
  wellFormed := fun wellFormed => second.wellFormed (first.wellFormed wellFormed)
  held_eq := second.held_eq.trans first.held_eq
  bindings_eq := second.bindings_eq.trans first.bindings_eq
  arms := by
    rcases calm with ⟨staged_eq, armed_eq⟩ | ⟨staged_eq, armed_eq⟩
    · rcases second.arms with ⟨staged, armed⟩ | ⟨descriptor, opened, unarmed, armed, staged⟩
      · exact .inl ⟨staged.trans staged_eq, armed.trans armed_eq⟩
      · refine .inr ⟨descriptor, ?_, armed_eq ▸ unarmed, armed, by rw [staged, staged_eq]⟩
        cases closed : before.closed
        · rfl
        · rw [first.closed_imp closed] at opened
          cases opened
    · rw [Arms, staged_eq, armed_eq]
      exact first.arms
  statistics_eq := second.statistics_eq.trans first.statistics_eq
  terminated_eq := second.terminated_eq.trans first.terminated_eq
  closed_imp := fun closed => second.closed_imp (first.closed_imp closed)
  completions_eq := second.completions_eq.trans first.completions_eq
  refusals_eq := second.refusals_eq.trans first.refusals_eq
  failing_eq := second.failing_eq.trans first.failing_eq
  journal := by
    rcases first.journal with ⟨events, unmarked, appended⟩
    rcases second.journal with ⟨others, othersUnmarked, othersAppended⟩
    refine ⟨others ++ events, ?_, by rw [othersAppended, appended, List.append_assoc]⟩
    intro event eventMem
    rcases List.mem_append.mp eventMem with other | own
    · exact othersUnmarked event other
    · exact unmarked event own

theorem books {flights : Multiset (Flight τ)} {hand : Multiset (Grip (Continuation τ))}
    (stays : before.Stays after) (books : Books before.pools before.tags flights hand) :
    Books after.pools after.tags flights hand where
  pools_wellFormed := (stays.wellFormed ⟨books.pools_wellFormed, books.tags_wellFormed⟩).1
  tags_wellFormed := (stays.wellFormed ⟨books.pools_wellFormed, books.tags_wellFormed⟩).2
  held_eq := by rw [stays.held_eq, books.held_eq]
  bindings_eq := by rw [stays.bindings_eq, books.bindings_eq]

theorem released_iff (stays : before.Stays after) :
    Released after.frames after.terminated ↔ Released before.frames before.terminated :=
  released_congr stays.failing_eq stays.terminated_eq

end Stays

/-- Why a push was given up, and what it wrote into the journal. -/
def Refuses (records : List SubmitRecord) (error : RingError) (events : List (Event τ)) : Prop :=
  error ≠ .full ∧ events = [.pushed records (.error error)] ∨
    events = [.submitted (.error error), .pushed records (.error .full)] ∨
    ∃ count, events = [.pushed records (.error error), .submitted (.ok count),
      .pushed records (.error .full)]

/-- What a push tried in vain before it succeeded. -/
def Tries (records : List SubmitRecord) (events : List (Event τ)) : Prop :=
  events = [] ∨ ∃ count, events = [.submitted (.ok count), .pushed records (.error .full)]

/-- What a step does that neither begins nor ends an operation. -/
inductive Deals (before after : Engine κ τ) : Prop where
  | stays (stays : before.Stays after)
  | pushes (between : Engine κ τ) (stays : before.Stays between) (world : κ)
      (events : List (Event τ)) (tries : Tries between.staged events)
      (after_eq : after = { between with
        world := world
        staged := []
        journal := .pushed between.staged (.ok ()) :: (events ++ between.journal) })
  | refuses (between : Engine κ τ) (stays : before.Stays between) (world : κ)
      (error : RingError) (events : List (Event τ)) (refuses : Refuses between.staged error events)
      (after_eq : after = { between with
        world := world
        staged := []
        dispatching := true
        journal := events ++ between.journal
        frames := .refuse between.staged error.toFailure between.dispatching :: between.frames })
  | drains (between : Engine κ τ) (stays : before.Stays between) (world : κ)
      (batch : List CompletionRecord)
      (owed : (batch.map CompletionRecord.userData : Multiset UInt64) ≤
        outstanding between.journal)
      (after_eq : after = { between with
        world := world
        dispatching := true
        journal := .drained batch :: between.journal
        frames := .dispatch batch 0 between.dispatching :: between.frames })

theorem Deals.journal {before after : Engine κ τ} (deals : before.Deals after) :
    ∃ events, after.journal = events ++ before.journal := by
  cases deals with
  | stays stays =>
      rcases stays.journal with ⟨events, -, appended⟩
      exact ⟨events, appended⟩
  | pushes between stays world events tries after_eq =>
      rcases stays.journal with ⟨earlier, -, appended⟩
      exact ⟨.pushed between.staged (.ok ()) :: (events ++ earlier), by rw [after_eq, appended]; simp⟩
  | refuses between stays world error events refuses after_eq =>
      rcases stays.journal with ⟨earlier, -, appended⟩
      exact ⟨events ++ earlier, by rw [after_eq, appended]; simp⟩
  | drains between stays world batch owed after_eq =>
      rcases stays.journal with ⟨earlier, -, appended⟩
      exact ⟨.drained batch :: earlier, by rw [after_eq, appended]; rfl⟩

section Operations

variable {before engine : Engine κ τ} (platform : Platform κ)

theorem stays_shutdown (engine : Engine κ τ) : engine.Stays engine.shutdown := by
  rcases shutdown_cases engine with ⟨-, same⟩ | ⟨-, -, deferred⟩ | ⟨-, -, begun⟩
  · rw [same]
    exact .refl engine
  · rw [deferred]
    exact .of_silent rfl (fun _ => rfl) ⟨rfl, rfl, rfl⟩ rfl
  · rw [begun]
    exact .of_silent rfl (fun _ => rfl) ⟨by simp [Frame.completions], by simp [Frame.refusals], rfl⟩
      rfl

theorem stays_endDispatch (engine : Engine κ τ) (outer : Bool) :
    engine.Stays (engine.endDispatch outer) := by
  rcases endDispatch_cases engine outer with ⟨-, -, begun⟩ | ⟨-, left⟩
  · rw [begun]
    exact .of_silent rfl id ⟨by simp [Frame.completions], by simp [Frame.refusals], rfl⟩ rfl
  · rw [left]
    exact .of_silent rfl id ⟨rfl, rfl, rfl⟩ rfl

theorem stays_armWake (engine : Engine κ τ) : engine.Stays (engine.armWake platform) := by
  rcases armWake_cases engine platform with ⟨-, same⟩ | ⟨descriptor, unarmed, opened, -, armed⟩
  · rw [same]
    exact .refl engine
  · rw [armed]
    exact ⟨id, rfl, rfl, .inr ⟨descriptor, opened, unarmed, rfl, rfl⟩, rfl, rfl, id, rfl, rfl, rfl,
      [], by simp, rfl⟩

/-- Frames that have nothing in hand may be put on top. -/
theorem stays_next (engine : Engine κ τ) {frame : Frame τ} (nothing : frame.Bears 0 0) :
    engine.Stays (engine.next frame) :=
  .of_silent rfl id (by simp [next, nothing.completions_eq, nothing.refusals_eq, nothing.notFail]) rfl

theorem stays_pop (engine : Engine κ τ) {frame : Frame τ} (nothing : frame.Bears 0 0) :
    (engine.next frame).Stays engine :=
  .of_silent rfl id (by simp [next, nothing.completions_eq, nothing.refusals_eq, nothing.notFail]) rfl

theorem stays_plans {frame : Frame τ} {between : Engine κ τ} (plans : engine.Plans frame between) :
    engine.Stays between := by
  induction plans with
  | nothing => exact .refl engine
  | next plans emptyHanded pastInbox ih =>
      exact ih.trans (stays_next _ (Frame.bears_of_isEmptyHanded emptyHanded)) (.inr ⟨rfl, rfl⟩)

theorem stays_answer (engine : Engine κ τ) (answer : Except RingError ℕ) :
    engine.Stays { engine with answer := answer } :=
  .of_silent rfl id ⟨rfl, rfl, rfl⟩ rfl

/-- A continuation that is called with a failure changes no count. -/
theorem stays_reject (engine : Engine κ τ) (continuation : Continuation τ) (kind : Kind)
    (failure : Failure) :
    engine.Stays (engine.deliver (some continuation) ⟨kind, .error failure⟩) := by
  have counts : continuation.account ⟨kind, .error failure⟩ engine.statistics = engine.statistics := by
    cases continuation with
    | guard => cases kind <;> rfl
    | _ => rfl
  rw [deliver_some]
  refine .of_same [continuation.event ⟨kind, .error failure⟩] ?_ id
    (continuation.frames_bear engine.frames) (by simp) rfl
  rw [counts]

/-- A flush pushes what is staged, or takes it in hand to fail it, or finds nothing staged. -/
theorem deals_flush (stays : before.Stays engine) : before.Deals (engine.flush platform) := by
  unfold flush
  by_cases empty : engine.staged.isEmpty
  · rw [if_pos empty]
    exact .stays stays
  · rw [if_neg empty]
    rcases pushWithRoom_eq platform engine with ⟨error | ⟨⟨⟩⟩, world, events, pushes, told⟩
    · have refuses : Refuses engine.staged error events := by
        rcases told with ⟨given, rfl⟩ | ⟨_, same, rfl⟩ | ⟨count, rfl⟩
        · exact .inl ⟨fun full => given (by rw [full]), rfl⟩
        · cases same
          exact .inr (.inl rfl)
        · exact .inr (.inr ⟨count, rfl⟩)
      rw [pushes]
      exact .refuses engine stays world error events refuses rfl
    · rw [pushes]
      rcases told with ⟨-, rfl⟩ | ⟨_, fails, -⟩ | ⟨count, rfl⟩
      · exact .pushes engine stays world [] (.inl rfl) rfl
      · cases fails
      · exact .pushes engine stays world _ (.inr ⟨count, rfl⟩) rfl

theorem deals_beginRequest (stays : before.Stays engine) (request : Request τ) :
    before.Deals (engine.beginRequest platform request) := by
  have waiting : before.Stays (engine.next (.stage request)) :=
    stays.trans (stays_next engine ⟨rfl, rfl, rfl⟩) (.inr ⟨rfl, rfl⟩)
  unfold beginRequest
  split
  · exact deals_flush platform waiting
  · exact .stays waiting

theorem deals_runTask (stays : before.Stays engine) (task : Task τ) :
    before.Deals (engine.runTask platform task) := by
  cases task with
  | request command promise => exact deals_beginRequest platform stays _
  | job body =>
      refine .stays (stays.trans ?_ (.inr ⟨rfl, rfl⟩))
      have logged : engine.Stays (engine.log (.started body)) :=
        .of_same [.started body] rfl id ⟨rfl, rfl, rfl⟩ (by simp [Event.isMarked]) rfl
      exact logged.trans (stays_next _ ⟨rfl, rfl, rfl⟩) (.inr ⟨rfl, rfl⟩)

theorem deals_takeTask (stays : before.Stays engine) (task : Task τ) (inbox : Inbox (Task τ)) :
    before.Deals ({ engine with inbox := inbox }.runTask platform task) := by
  have taken : engine.Stays { engine with inbox := inbox } :=
    .of_silent rfl id ⟨rfl, rfl, rfl⟩ rfl
  exact deals_runTask platform (stays.trans taken (.inr ⟨rfl, rfl⟩)) task

theorem deals_reap (stays : before.Stays engine)
    (keeps : keepsContract (engine.reap platform).journal) :
    before.Deals (engine.reap platform) := by
  rcases reap_eq platform engine with ⟨batch, world, reaped⟩
  rw [reaped] at keeps
  simp only [keepsContract, Bool.and_eq_true, decide_eq_true_eq] at keeps
  exact .drains engine stays world batch keeps.1 reaped

theorem deals_enterKernel (stays : before.Stays engine) (wait : Wait)
    (keeps : keepsContract (engine.enterKernel platform wait).journal) :
    before.Deals (engine.enterKernel platform wait) := by
  have logged (want : ℕ) (world : κ) (outcome : Except RingError ℕ) :
      before.Stays ({ engine with world := world }.log (.waited want wait outcome)) :=
    stays.trans (.of_same [.waited want wait outcome] rfl id ⟨rfl, rfl, rfl⟩ (by simp [Event.isMarked])
      rfl) (.inr ⟨rfl, rfl⟩)
  rcases enterKernel_eq platform engine wait with ⟨want, world, ⟨error, failed⟩ | ⟨count, entered⟩⟩
  · rw [failed]
    refine .stays ((logged want world (.error error)).trans ?_ (.inr ⟨rfl, rfl⟩))
    exact .of_silent rfl id ⟨rfl, rfl, rfl⟩ rfl
  · rw [entered] at keeps ⊢
    exact deals_reap platform (logged want world (.ok count)) keeps

/-- Until something is staged, the engine stays as it was. -/
theorem deals_turns {frame : Frame τ} {after : Engine κ τ} (stays : before.Stays engine)
    (same : engine.staged = before.staged ∧ engine.wakeArmed = before.wakeArmed)
    (turns : engine.Turns platform frame after) (keeps : keepsContract after.journal) :
    before.Deals after := by
  have planned {between : Engine κ τ} (plans : engine.Plans frame between) : before.Stays between :=
    stays.trans (stays_plans plans) (.inl same)
  have calm {between : Engine κ τ} (plans : engine.Plans frame between) :
      between.staged = before.staged ∧ between.wakeArmed = before.wakeArmed := by
    rw [plans.same]
    exact same
  cases turns with
  | plans plans => exact .stays (planned plans)
  | answers answer after_eq =>
      rw [after_eq]
      exact .stays (stays.trans (stays_answer engine answer) (.inl same))
  | shutsDown between plans after_eq =>
      rw [after_eq]
      exact .stays ((planned plans).trans (stays_shutdown between) (.inl (calm plans)))
  | leavesBatch between plans outer after_eq =>
      rw [after_eq]
      exact .stays ((planned plans).trans (stays_endDispatch between outer) (.inl (calm plans)))
  | takesTask between plans task inbox popped after_eq =>
      rw [after_eq]
      exact deals_takeTask platform (planned plans) task inbox
  | armsWake wait frame_eq after_eq =>
      have armed := stays.trans (stays_armWake platform engine) (.inl same)
      rw [after_eq]
      exact deals_flush platform (armed.trans (stays_next _ ⟨rfl, rfl, rfl⟩) (.inr ⟨rfl, rfl⟩))
  | entersKernel wait after_eq =>
      rw [after_eq] at keeps ⊢
      exact deals_enterKernel platform stays wait keeps
  | reaps between plans after_eq =>
      rw [after_eq] at keeps ⊢
      exact deals_reap platform (planned plans) keeps

/-- Whatever is to be done next, unless it begins or ends operations or tells what became of the
wake-up poll. -/
theorem deals_runFrame {frame : Frame τ}
    (keeps : keepsContract (engine.runFrame platform frame).journal)
    (minor : frame.isBusiness = false) :
    (engine.next frame).Deals (engine.runFrame platform frame) := by
  have popped : (engine.next frame).Stays engine := stays_pop engine (Frame.bears_of_minor minor)
  exact deals_turns platform popped ⟨rfl, rfl⟩ (engine.turns_runFrame platform minor) keeps

end Operations

namespace Sound

variable {engine : Engine κ τ} {flights : Multiset (Flight τ)}
  {hand : Multiset (Grip (Continuation τ))} {frame : Frame τ}

/-- A request is rejected, and then nothing has happened but that its continuation was called, or it
is admitted. -/
theorem stage_cases {request : Request τ} (sound : (engine.next (.stage request)).Sound flights hand)
    (platform : Platform κ) (spare : engine.inFlight + 2 ≤ UInt32.size) :
    (∃ failure, (engine.next (.stage request)).Stays (engine.runFrame platform (.stage request)) ∧
      (engine.runFrame platform (.stage request)).journal =
        request.continuation.event ⟨request.command.kind, .error failure⟩ :: engine.journal) ∨
    engine.closed = false ∧ ∃ pools tags, ∃ admissions : List (Admission τ),
      engine.runFrame platform (.stage request) = { engine with
        pools := pools
        tags := tags
        statistics.submitted := engine.statistics.submitted + request.command.recordCount
        staged := engine.staged ++ admissions.map Admission.record } ∧
      Books pools tags (↑(admissions.map Admission.flight) + flights) hand ∧
      admissions.map Admission.errand = request.errands (platform.now engine.world) ∧
      admissions.map (fun admission => admission.record.flags) = request.links ∧
      ∀ admission ∈ admissions, admission.Proper := by
  rcases sound.of_next rfl with ⟨below, -⟩
  have before := below.accounts.books
  rcases before.stageRequest engine (below.room spare) platform request with
    ⟨pools, tags, failure, rejected, books, -⟩ |
      ⟨opened, pools, tags, admissions, admitted, books, errands, links, proper⟩
  · refine .inl ⟨failure, ?_, ?_⟩
    · refine (stays_pop engine ⟨rfl, rfl, rfl⟩).trans ?_ (.inl ⟨rfl, rfl⟩)
      simp only [Engine.runFrame, rejected, orRaise]
      refine Stays.trans ?_ (stays_reject _ _ _ failure) (.inl ⟨rfl, rfl⟩)
      refine ⟨fun _ => ⟨books.pools_wellFormed, books.tags_wellFormed⟩, ?_, ?_, .inl ⟨rfl, rfl⟩, rfl, rfl,
        id, rfl, rfl, rfl, [], by simp, rfl⟩
      · rw [books.held_eq, before.held_eq]
      · rw [books.bindings_eq, before.bindings_eq]
    · simp only [Engine.runFrame, rejected, orRaise, deliver_some]
  · refine .inr ⟨opened, pools, tags, admissions, ?_, books, errands, links, proper⟩
    simp only [Engine.runFrame, admitted, orRaise]

end Sound

end Engine

end CompletionEngine
