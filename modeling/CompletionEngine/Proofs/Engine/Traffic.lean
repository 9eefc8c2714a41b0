import CompletionEngine.Proofs.Engine.Turns

/-!
# Traffic with the ring

Records go to the ring in pushes, and completions come back in batches. Most steps do neither: they
put nothing new in flight, hand nothing to the ring and take nothing from it. What an observer knows
of records and batches stays true over such steps.
-/

namespace CompletionEngine

variable {κ τ : Type}

/-- The records of operations, without wake-up polls. -/
def operations (records : List SubmitRecord) : List SubmitRecord :=
  records.filter fun record => record.userData ≠ wakeUserData

/-- The records of operations that the ring has accepted, the last one in front. -/
def accepted : List (Event τ) → List SubmitRecord
  | [] => []
  | .pushed records (.ok ()) :: journal => (operations records).reverse ++ accepted journal
  | _ :: journal => accepted journal

/-- The batches that the ring has handed out. -/
def drained : List (Event τ) → Multiset (List CompletionRecord)
  | [] => 0
  | .drained batch :: journal => batch ::ₘ drained journal
  | _ :: journal => drained journal

/-- The completions that a frame still has to deliver. -/
def Frame.batch? : Frame τ → Option (List CompletionRecord)
  | .dispatch batch _ _ => some batch
  | _ => none

theorem Frame.batch?_of_isEmptyHanded {frame : Frame τ} (emptyHanded : frame.isEmptyHanded) :
    frame.batch? = none := by
  cases frame <;> first | rfl | cases emptyHanded

/-- What is left of the batches in hand, the innermost in front. -/
def inDelivery (frames : List (Frame τ)) : List (List CompletionRecord) :=
  frames.filterMap Frame.batch?

theorem Continuation.isTraffic_event (continuation : Continuation τ) (outcome : Outcome) :
    (continuation.event outcome).isTraffic = false := by
  cases continuation <;> rfl

/-- Whoever hears only traffic does not hear other events. -/
theorem foldr_of_not_traffic {α : Type} (hear : Event τ → α → α)
    (deaf : ∀ event, event.isTraffic = false → ∀ known, hear event known = known)
    {events : List (Event τ)} (silent : ∀ event ∈ events, event.isTraffic = false) (known : α) :
    events.foldr hear known = known := by
  induction events with
  | nil => rfl
  | cons event events ih =>
      rw [List.foldr_cons, ih fun event eventMem => silent event (by simp [eventMem])]
      exact deaf event (silent event (by simp)) known

theorem accepted_cons_of_not_traffic (event : Event τ) (journal : List (Event τ))
    (silent : event.isTraffic = false) : accepted (event :: journal) = accepted journal := by
  cases event with
  | pushed records outcome =>
    cases outcome with
    | ok value => simp [Event.isTraffic] at silent
    | error error => rfl
  | _ => rfl

theorem drained_cons_of_not_traffic (event : Event τ) (journal : List (Event τ))
    (silent : event.isTraffic = false) : drained (event :: journal) = drained journal := by
  cases event with
  | drained batch => simp [Event.isTraffic] at silent
  | _ => rfl

theorem mem_operations {records : List SubmitRecord} {record : SubmitRecord} :
    record ∈ operations records ↔ record ∈ records ∧ record.userData ≠ wakeUserData := by
  simp [operations]

namespace Engine

/-- An operation is in flight under a tag, and this is its entry. -/
def InFlight (engine : Engine κ τ) (tag : UInt32) (grip : Grip (Continuation τ)) : Prop :=
  engine.tags.lookup? tag = some grip.reference ∧ grip ∈ engine.pools.held

/-- The ring has accepted a record with these user data, and its completion has not been delivered
yet. -/
def Handed (engine : Engine κ τ) (userData : UInt64) : Prop :=
  (∃ batch ∈ inDelivery engine.frames, userData ∈ batch.map CompletionRecord.userData) ∨
    userData ∈ outstanding engine.journal

instance (engine : Engine κ τ) (userData : UInt64) : Decidable (engine.Handed userData) :=
  inferInstanceAs (Decidable (_ ∨ _))

/-- Nothing new is put in flight, and there is no traffic with the ring. -/
structure Rests (before after : Engine κ τ) : Prop where
  inFlight : ∀ tag grip, after.InFlight tag grip → before.InFlight tag grip
  staged : operations after.staged = operations before.staged ∨ operations after.staged = []
  inDelivery_eq : inDelivery after.frames = inDelivery before.frames
  journal : ∃ events, (∀ event ∈ events, event.isTraffic = false) ∧
    after.journal = events ++ before.journal

namespace Rests

variable {before after : Engine κ τ}

theorem outstanding_eq (rests : before.Rests after) :
    outstanding after.journal = outstanding before.journal := by
  rcases rests.journal with ⟨events, silent, appended⟩
  rw [appended]
  exact outstanding_append_of_not_traffic silent _

theorem accepted_eq (rests : before.Rests after) :
    accepted after.journal = accepted before.journal := by
  rcases rests.journal with ⟨events, silent, appended⟩
  rw [appended]
  exact append_of_skips _ accepted_cons_of_not_traffic silent _

theorem drained_eq (rests : before.Rests after) :
    drained after.journal = drained before.journal := by
  rcases rests.journal with ⟨events, silent, appended⟩
  rw [appended]
  exact append_of_skips _ drained_cons_of_not_traffic silent _

theorem handed (rests : before.Rests after) {userData : UInt64} (handed : after.Handed userData) :
    before.Handed userData := by
  rwa [Handed, rests.inDelivery_eq, rests.outstanding_eq] at handed

/-- An engine rests when its books and what is staged stay the same. -/
theorem of_same (pools_eq : after.pools = before.pools) (tags_eq : after.tags = before.tags)
    (staged_eq : operations after.staged = operations before.staged)
    (inDelivery_eq : inDelivery after.frames = inDelivery before.frames)
    (journal : ∃ events, (∀ event ∈ events, event.isTraffic = false) ∧
      after.journal = events ++ before.journal) : before.Rests after where
  inFlight := by
    intro tag grip inFlight
    rwa [InFlight, pools_eq, tags_eq] at inFlight
  staged := .inl staged_eq
  inDelivery_eq := inDelivery_eq
  journal := journal

theorem refl (engine : Engine κ τ) : engine.Rests engine :=
  of_same rfl rfl rfl rfl ⟨[], by simp, rfl⟩

theorem trans {between : Engine κ τ} (first : before.Rests between) (second : between.Rests after) :
    before.Rests after where
  inFlight := fun tag grip inFlight => first.inFlight tag grip (second.inFlight tag grip inFlight)
  staged := by
    rcases second.staged with same | nothing
    · rw [same]
      exact first.staged
    · exact .inr nothing
  inDelivery_eq := second.inDelivery_eq.trans first.inDelivery_eq
  journal := by
    rcases first.journal with ⟨events, silent, appended⟩
    rcases second.journal with ⟨others, othersSilent, othersAppended⟩
    refine ⟨others ++ events, ?_, by rw [othersAppended, appended, List.append_assoc]⟩
    intro event eventMem
    rcases List.mem_append.mp eventMem with other | own
    · exact othersSilent event other
    · exact silent event own

end Rests

end Engine

namespace Books

variable {pools others : Pools (Continuation τ)} {tags otherTags : TagTable SlotRef}
  {flights fewer : Multiset (Flight τ)} {hand otherHand : Multiset (Grip (Continuation τ))}

/-- The books tell what is in flight. -/
theorem inFlight_iff {engine : Engine κ τ} (books : Books engine.pools engine.tags flights hand)
    {tag : UInt32} {grip : Grip (Continuation τ)} :
    engine.InFlight tag grip ↔ ∃ flight ∈ flights, flight.tag = tag ∧ flight.grip = grip := by
  have heldMem : ∀ flight ∈ flights, flight.grip ∈ engine.pools.held := by
    intro flight flightMem
    rw [books.held_eq]
    exact Multiset.mem_add.mpr (.inr (Multiset.mem_map_of_mem _ flightMem))
  constructor
  · rintro ⟨found, held⟩
    rcases books.lookup?_eq_some.mp found with ⟨flight, flightMem, rfl, sameSlot⟩
    refine ⟨flight, flightMem, rfl, ?_⟩
    exact Multiset.inj_on_of_nodup_map (Pools.nodup_references books.pools_wellFormed) _
      (heldMem flight flightMem) _ held sameSlot
  · rintro ⟨flight, flightMem, rfl, rfl⟩
    exact ⟨books.lookup?_eq_some.mpr ⟨flight, flightMem, rfl, rfl⟩, heldMem flight flightMem⟩

theorem eq_of_inFlight {engine : Engine κ τ} (books : Books engine.pools engine.tags flights hand)
    {grip : Grip (Continuation τ)} {flight : Flight τ} (flightMem : flight ∈ flights)
    (inFlight : engine.InFlight flight.tag grip) : grip = flight.grip := by
  rcases books.inFlight_iff.mp inFlight with ⟨other, otherMem, sameTag, rfl⟩
  rw [Multiset.inj_on_of_nodup_map books.nodup_tags other otherMem flight flightMem sameTag]

/-- When operations have left the books, those in flight were in flight before. -/
theorem inFlight_of_le {before after : Engine κ τ}
    (booksBefore : Books before.pools before.tags flights hand)
    (booksAfter : Books after.pools after.tags fewer otherHand) (less : fewer ≤ flights)
    (tag : UInt32) (grip : Grip (Continuation τ)) (inFlight : after.InFlight tag grip) :
    before.InFlight tag grip := by
  rcases booksAfter.inFlight_iff.mp inFlight with ⟨flight, flightMem, rfl, rfl⟩
  exact booksBefore.inFlight_iff.mpr ⟨flight, Multiset.mem_of_le less flightMem, rfl, rfl⟩

end Books

namespace Engine

/-- What can pass between an engine and its ring, apart from the staging of a request and the
delivery of a completion: nothing, a push of everything staged, or a batch of completions that the
ring owed. -/
inductive Passes (before after : Engine κ τ) : Prop where
  | rests (rests : before.Rests after)
  | pushes (between : Engine κ τ) (rests : before.Rests between)
      (kept : operations between.staged = operations before.staged) (world : κ)
      (events : List (Event τ)) (silent : ∀ event ∈ events, event.isTraffic = false)
      (after_eq : after = { between with
        world := world
        staged := []
        journal := .pushed between.staged (.ok ()) :: (events ++ between.journal) })
  | drains (between : Engine κ τ) (rests : before.Rests between)
      (kept : operations between.staged = operations before.staged) (world : κ)
      (batch : List CompletionRecord)
      (owed : (batch.map CompletionRecord.userData : Multiset UInt64) ≤
        outstanding between.journal)
      (after_eq : after = { between with
        world := world
        dispatching := true
        journal := .drained batch :: between.journal
        frames := .dispatch batch 0 between.dispatching :: between.frames })

theorem Passes.journal {before after : Engine κ τ} (passes : before.Passes after) :
    ∃ events, after.journal = events ++ before.journal := by
  cases passes with
  | rests rests =>
      rcases rests.journal with ⟨events, -, appended⟩
      exact ⟨events, appended⟩
  | pushes between rests kept world events silent after_eq =>
      rcases rests.journal with ⟨earlier, -, appended⟩
      exact ⟨.pushed between.staged (.ok ()) :: (events ++ earlier), by rw [after_eq, appended]; simp⟩
  | drains between rests kept world batch owed after_eq =>
      rcases rests.journal with ⟨earlier, -, appended⟩
      exact ⟨.drained batch :: earlier, by rw [after_eq, appended]; rfl⟩

section Operations

variable {before engine : Engine κ τ} (platform : Platform κ)

theorem rests_plans {frame : Frame τ} {between : Engine κ τ} (plans : engine.Plans frame between) :
    engine.Rests between := by
  induction plans with
  | nothing => exact .refl engine
  | next plans emptyHanded pastInbox ih =>
      refine ih.trans (.of_same rfl rfl rfl ?_ ⟨[], by simp, rfl⟩)
      simp [inDelivery, next, Frame.batch?_of_isEmptyHanded emptyHanded]

theorem rests_answer (engine : Engine κ τ) (answer : Except RingError ℕ) :
    engine.Rests { engine with answer := answer } :=
  .of_same rfl rfl rfl rfl ⟨[], by simp, rfl⟩

theorem rests_shutdown (engine : Engine κ τ) : engine.Rests engine.shutdown := by
  rcases shutdown_cases engine with ⟨-, same⟩ | ⟨-, -, deferred⟩ | ⟨-, -, begun⟩
  · rw [same]
    exact .refl engine
  · rw [deferred]
    exact .of_same rfl rfl rfl rfl ⟨[], by simp, rfl⟩
  · rw [begun]
    exact .of_same rfl rfl rfl rfl ⟨[], by simp, rfl⟩

theorem rests_endDispatch (engine : Engine κ τ) (outer : Bool) :
    engine.Rests (engine.endDispatch outer) := by
  rcases endDispatch_cases engine outer with ⟨-, -, begun⟩ | ⟨-, left⟩
  · rw [begun]
    exact .of_same rfl rfl rfl rfl ⟨[], by simp, rfl⟩
  · rw [left]
    exact .of_same rfl rfl rfl rfl ⟨[], by simp, rfl⟩

theorem rests_armWake (engine : Engine κ τ) :
    engine.Rests (engine.armWake platform) ∧
      operations (engine.armWake platform).staged = operations engine.staged := by
  rcases armWake_cases engine platform with ⟨-, same⟩ | ⟨descriptor, -, -, -, armed⟩
  · rw [same]
    exact ⟨.refl engine, rfl⟩
  · have staged : operations (engine.staged ++ [wakeRecord descriptor]) =
        operations engine.staged := by
      simp [operations, wakeRecord]
    rw [armed]
    exact ⟨.of_same rfl rfl staged rfl ⟨[], by simp, rfl⟩, staged⟩

theorem passes_flush (rests : before.Rests engine)
    (kept : operations engine.staged = operations before.staged) :
    before.Passes (engine.flush platform) := by
  rcases flush_cases platform engine with
    ⟨-, same⟩ | ⟨-, world, events, quiet, pushed | ⟨error, refused⟩⟩
  · rw [same]
    exact .rests rests
  · have silent : ∀ event ∈ events, event.isTraffic = false :=
      fun event eventMem => Event.isTraffic_of_isQuiet (quiet event eventMem)
    exact .pushes engine rests kept world events silent pushed
  · have silent : ∀ event ∈ events, event.isTraffic = false :=
      fun event eventMem => Event.isTraffic_of_isQuiet (quiet event eventMem)
    rw [refused]
    refine .rests (rests.trans ⟨fun _ _ inFlight => inFlight, .inr rfl, rfl, events, silent, rfl⟩)

theorem passes_beginRequest (rests : before.Rests engine)
    (kept : operations engine.staged = operations before.staged) (request : Request τ) :
    before.Passes (engine.beginRequest platform request) := by
  have waiting : engine.Rests (engine.next (.stage request)) :=
    .of_same rfl rfl rfl rfl ⟨[], by simp, rfl⟩
  unfold beginRequest
  split
  · exact passes_flush platform (rests.trans waiting) kept
  · exact .rests (rests.trans waiting)

theorem passes_runTask (rests : before.Rests engine)
    (kept : operations engine.staged = operations before.staged) (task : Task τ) :
    before.Passes (engine.runTask platform task) := by
  cases task with
  | request command promise => exact passes_beginRequest platform rests kept _
  | job body =>
      refine .rests (rests.trans ?_)
      exact .of_same rfl rfl rfl rfl ⟨[.started body], by simp [Event.isTraffic], rfl⟩

/-- What the ring hands out is a batch that it owed. -/
theorem passes_reap (rests : before.Rests engine)
    (kept : operations engine.staged = operations before.staged)
    (keeps : keepsContract (engine.reap platform).journal) :
    before.Passes (engine.reap platform) := by
  rcases reap_eq platform engine with ⟨batch, world, reaped⟩
  rw [reaped] at keeps
  simp only [keepsContract, Bool.and_eq_true, decide_eq_true_eq] at keeps
  exact .drains engine rests kept world batch keeps.1 reaped

theorem passes_enterKernel (rests : before.Rests engine)
    (kept : operations engine.staged = operations before.staged) (wait : Wait)
    (keeps : keepsContract (engine.enterKernel platform wait).journal) :
    before.Passes (engine.enterKernel platform wait) := by
  rcases enterKernel_cases platform engine wait with ⟨world, event, quiet, ⟨error, failed⟩ | entered⟩
  · have silent := Event.isTraffic_of_isQuiet quiet
    rw [failed]
    refine .rests (rests.trans ?_)
    exact .of_same rfl rfl rfl rfl ⟨[event], by simp [silent], rfl⟩
  · have waited : engine.Rests (({ engine with world := world } : Engine κ τ).log event) :=
      .of_same rfl rfl rfl rfl ⟨[event], by simp [Event.isTraffic_of_isQuiet quiet], rfl⟩
    rw [entered] at keeps ⊢
    exact passes_reap platform (rests.trans waited) kept keeps

/-- A task of the inbox passes records to the ring as a request does. -/
theorem passes_takeTask (rests : before.Rests engine)
    (kept : operations engine.staged = operations before.staged) (task : Task τ)
    (inbox : Inbox (Task τ)) : before.Passes ({ engine with inbox := inbox }.runTask platform task) := by
  have taken : engine.Rests { engine with inbox := inbox } :=
    .of_same rfl rfl rfl rfl ⟨[], by simp, rfl⟩
  exact passes_runTask platform (rests.trans taken) kept task

theorem passes_turns {frame : Frame τ} {after : Engine κ τ} (rests : before.Rests engine)
    (kept : operations engine.staged = operations before.staged)
    (turns : engine.Turns platform frame after) (keeps : keepsContract after.journal) :
    before.Passes after := by
  have kept_plans {between : Engine κ τ} (plans : engine.Plans frame between) :
      operations between.staged = operations before.staged := by
    rw [plans.same]
    exact kept
  cases turns with
  | plans plans => exact .rests (rests.trans (rests_plans plans))
  | answers answer after_eq =>
      rw [after_eq]
      exact .rests (rests.trans (rests_answer engine answer))
  | shutsDown between plans after_eq =>
      rw [after_eq]
      exact .rests ((rests.trans (rests_plans plans)).trans (rests_shutdown between))
  | leavesBatch between plans outer after_eq =>
      rw [after_eq]
      exact .rests ((rests.trans (rests_plans plans)).trans (rests_endDispatch between outer))
  | takesTask between plans task inbox popped after_eq =>
      rw [after_eq]
      exact passes_takeTask platform (rests.trans (rests_plans plans)) (kept_plans plans) task inbox
  | armsWake wait frame_eq after_eq =>
      rcases rests_armWake platform engine with ⟨armed, same⟩
      rw [after_eq]
      refine passes_flush platform (rests.trans (armed.trans ?_)) (same.trans kept)
      exact .of_same rfl rfl rfl rfl ⟨[], by simp, rfl⟩
  | entersKernel wait after_eq =>
      rw [after_eq] at keeps ⊢
      exact passes_enterKernel platform rests kept wait keeps
  | reaps between plans after_eq =>
      rw [after_eq] at keeps ⊢
      exact passes_reap platform (rests.trans (rests_plans plans)) (kept_plans plans) keeps

end Operations

theorem inDelivery_frames (continuation : Continuation τ) (frames : List (Frame τ)) :
    inDelivery (continuation.frames ++ frames) = inDelivery frames := by
  cases continuation <;> rfl

/-- What a batch in hand bears is in play. -/
theorem mem_inPlay_of_frame {engine : Engine κ τ} {userData : UInt64} {frame : Frame τ}
    (operation : userData ≠ wakeUserData) (frameMem : frame ∈ engine.frames)
    (borne : userData ∈ frame.userData) :
    userData ∈ inPlay engine.staged engine.frames engine.journal := by
  have part : frame.userData ≤ (engine.frames.map Frame.userData).sum :=
    List.le_sum_of_mem (List.mem_map_of_mem frameMem)
  refine Multiset.mem_filter.mpr ⟨?_, operation⟩
  exact Multiset.mem_add.mpr (.inl (Multiset.mem_add.mpr (.inr (Multiset.mem_of_le part borne))))

/-- What is staged, or has been handed to the ring and not been delivered, is in play. -/
theorem mem_inPlay {engine : Engine κ τ} {userData : UInt64} (operation : userData ≠ wakeUserData)
    (somewhere : userData ∈ engine.staged.map SubmitRecord.userData ∨ engine.Handed userData) :
    userData ∈ inPlay engine.staged engine.frames engine.journal := by
  rcases somewhere with staged | ⟨batch, batchMem, named⟩ | owed
  · refine Multiset.mem_filter.mpr ⟨?_, operation⟩
    exact Multiset.mem_add.mpr (.inl (Multiset.mem_add.mpr (.inl staged)))
  · rcases List.mem_filterMap.mp batchMem with ⟨frame, frameMem, delivers⟩
    refine mem_inPlay_of_frame operation frameMem ?_
    cases frame <;> cases delivers
    exact named
  · exact Multiset.mem_filter.mpr ⟨Multiset.mem_add.mpr (.inr owed), operation⟩

namespace Sound

variable {engine : Engine κ τ} {flights : Multiset (Flight τ)}
  {hand : Multiset (Grip (Continuation τ))} {frame : Frame τ}

/-- Until the ring is given up, what is staged or has been handed to it belongs to an operation in
flight. -/
theorem exists_flight_of_userData (sound : engine.Sound flights hand)
    (notReleased : ¬Released engine.frames engine.terminated) {userData : UInt64}
    (operation : userData ≠ wakeUserData)
    (somewhere : userData ∈ engine.staged.map SubmitRecord.userData ∨ engine.Handed userData) :
    ∃ flight ∈ flights, flight.tag.toUInt64 = userData := by
  have inPlay := mem_inPlay operation somewhere
  rw [sound.accounts.inPlay_eq notReleased] at inPlay
  exact Multiset.mem_map.mp inPlay

/-- Tags are unique, so what is in flight under a tag that was in play before was in flight before. -/
theorem inFlight_of_inPlay {after : Engine κ τ} {more : Multiset (Flight τ)}
    {others : Multiset (Grip (Continuation τ))} (sound : engine.Sound flights hand)
    (opened : engine.closed = false) (books : Books after.pools after.tags (more + flights) others)
    {tag : UInt32} {grip : Grip (Continuation τ)} (inFlight : after.InFlight tag grip)
    (played : tag.toUInt64 ∈ inPlay engine.staged engine.frames engine.journal) :
    engine.InFlight tag grip := by
  rw [sound.accounts.inPlay_eq (sound.not_released_of_open opened)] at played
  rcases Multiset.mem_map.mp played with ⟨flight, flightMem, named⟩
  obtain rfl : flight.tag = tag := UInt32.toUInt64_inj.mp named
  rw [books.eq_of_inFlight (Multiset.mem_add.mpr (.inr flightMem)) inFlight]
  exact sound.accounts.books.inFlight_iff.mpr ⟨flight, flightMem, rfl, rfl⟩

theorem inFlight_of_more {after : Engine κ τ} {more : Multiset (Flight τ)}
    {others : Multiset (Grip (Continuation τ))} (sound : engine.Sound flights hand)
    (opened : engine.closed = false) (books : Books after.pools after.tags (more + flights) others)
    {tag : UInt32} {grip : Grip (Continuation τ)} (inFlight : after.InFlight tag grip)
    (somewhere : tag.toUInt64 ∈ engine.staged.map SubmitRecord.userData ∨
      engine.Handed tag.toUInt64) : engine.InFlight tag grip :=
  sound.inFlight_of_inPlay opened books inFlight (mem_inPlay (tag_ne_wakeUserData tag) somewhere)

theorem rests_deliver {before after : Engine κ τ} (sound : before.Sound flights hand)
    (fewer : Multiset (Flight τ)) (others : Multiset (Grip (Continuation τ)))
    (books : Books after.pools after.tags fewer others) (less : fewer ≤ flights)
    (staged_eq : after.staged = before.staged)
    (inDelivery_eq : inDelivery after.frames = inDelivery before.frames)
    (journal_eq : after.journal = before.journal) (continuation : Continuation τ)
    (outcome : Outcome) : before.Rests (after.deliver (some continuation) outcome) := by
  rw [deliver_some]
  refine ⟨sound.accounts.books.inFlight_of_le books less, .inl (by rw [staged_eq]), ?_,
    [continuation.event outcome], ?_, by rw [journal_eq]; rfl⟩
  · rw [inDelivery_frames, inDelivery_eq]
  · simp [continuation.isTraffic_event outcome]

theorem rests_refuse {record : SubmitRecord} {rest : List SubmitRecord} {failure : Failure}
    {outer : Bool} (sound : (engine.next (.refuse (record :: rest) failure outer)).Sound flights hand)
    (platform : Platform κ) :
    (engine.next (.refuse (record :: rest) failure outer)).Rests
      (engine.runFrame platform (.refuse (record :: rest) failure outer)) := by
  simp only [Engine.runFrame]
  split
  · exact .of_same rfl rfl rfl rfl ⟨[], by simp, rfl⟩
  · rename_i operation
    rcases sound.refuseOne_eq operation with
      ⟨flight, others, continuation, pools, tags, rfl, -, -, books, refused⟩
    simp only [refused, orRaise]
    refine sound.rests_deliver others hand ?_ (Multiset.le_cons_self _ _) ?_ ?_ ?_ _ _
    · exact books
    all_goals rfl

theorem rests_fail {leftovers : List (UInt32 × SlotRef)}
    (sound : (engine.next (.fail leftovers)).Sound flights hand) (platform : Platform κ) :
    (engine.next (.fail leftovers)).Rests (engine.runFrame platform (.fail leftovers)) := by
  cases leftovers with
  | nil =>
      rcases sound.finishFail with ⟨rfl, rfl, after⟩
      have logged := after.log (rfl : outstanding (.terminated :: engine.journal) = _)
      refine ⟨sound.accounts.books.inFlight_of_le logged.accounts.books le_rfl, .inl rfl, rfl,
        [.terminated], by simp [Event.isTraffic], rfl⟩
  | cons leftover rest =>
      rcases sound.fail_eq platform with
        ⟨grip, others, continuation, pools, rfl, -, -, -, books, failed⟩
      rw [failed]
      refine sound.rests_deliver flights others ?_ le_rfl ?_ ?_ ?_ _ _
      · exact books
      all_goals rfl

theorem rests_release (sound : (engine.next .release).Sound flights hand)
    (platform : Platform κ) : (engine.next .release).Rests (engine.releaseRing platform) := by
  have after := sound.releaseRing platform
  refine ⟨sound.accounts.books.inFlight_of_le after.accounts.books (Multiset.zero_le _), .inr rfl, rfl,
    [.released], by simp [Event.isTraffic], rfl⟩

/-- Whatever is to be done next, unless it is to stage a request or to deliver a completion. -/
theorem passes_runFrame (sound : (engine.next frame).Sound flights hand) (platform : Platform κ)
    (keeps : keepsContract (engine.runFrame platform frame).journal)
    (notStage : frame.isStage = false) (notDispatch : frame.batch? = none) :
    (engine.next frame).Passes (engine.runFrame platform frame) := by
  cases business : frame.isBusiness with
  | false =>
      have popped : (engine.next frame).Rests engine := by
        refine .of_same rfl rfl rfl ?_ ⟨[], by simp, rfl⟩
        simp [inDelivery, Engine.next, notDispatch]
      exact passes_turns platform popped rfl (engine.turns_runFrame platform business) keeps
  | true =>
      cases frame with
      | stage request => cases notStage
      | dispatch batch delivered outer => cases notDispatch
      | refuse records failure outer =>
          cases records with
          | nil => cases business
          | cons record rest => exact .rests (sound.rests_refuse platform)
      | release => exact .rests (sound.rests_release platform)
      | fail leftovers => exact .rests (sound.rests_fail platform)
      | _ => cases business

/-- Staging a request either leaves nothing behind, or appends the records of operations that are in
flight from then on, each for one errand of the request. -/
theorem stages {request : Request τ} (sound : (engine.next (.stage request)).Sound flights hand)
    (platform : Platform κ) (spare : engine.inFlight + 2 ≤ UInt32.size) :
    ∃ after, engine.runFrame platform (.stage request) = after ∧
      ((engine.next (.stage request)).Rests after ∧ after.staged = engine.staged ∨
        engine.closed = false ∧ ∃ admissions : List (Admission τ),
          after.staged = engine.staged ++ admissions.map Admission.record ∧
          inDelivery after.frames = inDelivery engine.frames ∧ after.journal = engine.journal ∧
          Books after.pools after.tags (↑(admissions.map Admission.flight) + flights) hand ∧
          admissions.map Admission.errand = request.errands (platform.now engine.world) ∧
          ∀ admission ∈ admissions, admission.Proper) := by
  rcases sound.of_next rfl with ⟨below, -⟩
  rcases below.accounts.books.stageRequest engine (below.room spare) platform request with
    ⟨pools, tags, failure, rejected, books, -⟩ |
      ⟨opened, pools, tags, admissions, admitted, books, errands, -, proper⟩
  · simp only [Engine.runFrame, rejected, orRaise]
    refine ⟨_, rfl, .inl ⟨?_, by rw [deliver_some]⟩⟩
    refine sound.rests_deliver flights hand ?_ le_rfl ?_ ?_ ?_ _ _
    · exact books
    all_goals rfl
  · simp only [Engine.runFrame, admitted, orRaise]
    exact ⟨_, rfl, .inr ⟨opened, admissions, rfl, rfl, rfl, books, errands, proper⟩⟩

/-- Delivering the next completion of a batch leaves the rest of the batch, and takes nothing in
flight. Unless it is a wake-up, it calls the continuation that the operation in flight under the
completion's tag holds, with what the completion means to this operation. -/
theorem delivers {record : CompletionRecord} {rest : List CompletionRecord} {delivered : ℕ}
    {outer : Bool} (platform : Platform κ)
    (sound : (engine.next (.dispatch (record :: rest) delivered outer)).Sound flights hand) :
    ∃ event after, engine.runFrame platform (.dispatch (record :: rest) delivered outer) = after ∧
      after.journal = event :: engine.journal ∧ event.isTraffic = false ∧
      after.staged = engine.staged ∧ inDelivery after.frames = rest :: inDelivery engine.frames ∧
      (∀ tag grip, after.InFlight tag grip →
        (engine.next (.dispatch (record :: rest) delivered outer)).InFlight tag grip) ∧
      (record.userData ≠ wakeUserData → ∃ tag grip continuation,
        (engine.next (.dispatch (record :: rest) delivered outer)).InFlight tag grip ∧
          tag.toUInt64 = record.userData ∧ grip.entry.continuation = some continuation ∧
          event = continuation.event (grip.outcome platform record engine.world).1) := by
  simp only [Engine.runFrame]
  split
  · rename_i wake
    exact ⟨_, _, rfl, rfl, rfl, rfl, rfl, fun _ _ inFlight => inFlight,
      fun operation => absurd wake operation⟩
  · rename_i operation
    rcases sound.dispatchOne_eq platform operation with
      ⟨flight, others, continuation, pools, tags, rfl, named, holds, books, dispatched⟩
    rw [dispatched, orRaise, deliver_some]
    refine ⟨_, _, rfl, rfl, continuation.isTraffic_event _, rfl, inDelivery_frames continuation _,
      sound.accounts.books.inFlight_of_le books (Multiset.le_cons_self _ _), fun _ => ?_⟩
    refine ⟨flight.tag, flight.grip, continuation, ?_, named, holds, rfl⟩
    exact sound.accounts.books.inFlight_iff.mpr ⟨flight, Multiset.mem_cons_self _ _, rfl, rfl⟩

theorem journal_step (sound : engine.Sound flights hand) (platform : Platform κ)
    (spare : engine.inFlight + 2 ≤ UInt32.size)
    (keeps : keepsContract (engine.step platform).journal) :
    ∃ events, (engine.step platform).journal = events ++ engine.journal := by
  rcases step_cases engine platform with ⟨-, same⟩ | ⟨below, frame, rfl, stepped⟩
  · exact ⟨[], by rw [same]; rfl⟩
  · rw [stepped] at keeps ⊢
    cases frame with
    | stage request =>
        rcases sound.stages platform spare with
          ⟨after, after_eq, ⟨rests, -⟩ | ⟨-, admissions, -, -, journal_eq, -⟩⟩
        · rw [after_eq]
          exact (Passes.rests rests).journal
        · exact ⟨[], by rw [after_eq, journal_eq]; rfl⟩
    | dispatch batch delivered outer =>
        cases batch with
        | nil => exact (Passes.rests (rests_endDispatch (below.next (.report delivered)) outer)).journal
        | cons record rest =>
            rcases sound.delivers platform with ⟨event, after, after_eq, journal_eq, -⟩
            exact ⟨[event], by rw [after_eq, journal_eq]; rfl⟩
    | _ => exact (sound.passes_runFrame platform keeps rfl rfl).journal

end Sound

end Engine

end CompletionEngine
