import CompletionEngine.Proofs.Engine.Endings

/-!
# What an engine counts apart from its operations

The wake-up poll is no operation. Its completions are counted by themselves, when the notifier is
told that its signals were consumed. A timeout guard is an operation, and how it ended is counted
besides, when its completion tells that it ran out or was disarmed. Neither count is touched by
anything else that a step does.
-/

namespace CompletionEngine

variable {κ τ : Type}

/-- Whether the notifier was told that its signals were consumed. -/
def Event.isAcknowledged : Event τ → Bool
  | .acknowledged _ => true
  | _ => false

theorem Event.isAcknowledged_of_not_marked {event : Event τ} (unmarked : event.isMarked = false) :
    event.isAcknowledged = false := by
  cases event <;> first | rfl | cases unmarked

/-- How often the notifier was told that its signals were consumed. -/
def acknowledgements (journal : List (Event τ)) : ℕ := journal.countP Event.isAcknowledged

/-- The number of wake-up polls among completions. -/
def wakesAmong (completions : Multiset CompletionRecord) : ℕ :=
  completions.countP fun record => record.userData = wakeUserData

@[simp]
theorem acknowledgements_append (later earlier : List (Event τ)) :
    acknowledgements (later ++ earlier) = acknowledgements later + acknowledgements earlier :=
  List.countP_append

theorem acknowledgements_of_unmarked {events : List (Event τ)}
    (unmarked : ∀ event ∈ events, event.isMarked = false) : acknowledgements events = 0 := by
  refine List.countP_eq_zero.mpr fun event eventMem => ?_
  rw [Event.isAcknowledged_of_not_marked (unmarked event eventMem)]
  simp

@[simp]
theorem wakesAmong_zero : wakesAmong 0 = 0 := rfl

@[simp]
theorem wakesAmong_add (left right : Multiset CompletionRecord) :
    wakesAmong (left + right) = wakesAmong left + wakesAmong right :=
  Multiset.countP_add _ _ _

/-- How a timeout guard ended that awaits an outcome, when the outcome is a success. -/
def Continuation.expiry? (continuation : Continuation τ) (outcome : Outcome) : Option Expiry :=
  match continuation, outcome with
  | .guard, ⟨.guard, .ok expiry⟩ => some expiry
  | _, _ => none

/-- How the timeout guard ended that was completed, when its completion translates to a success. -/
def Ending.expiry? (platform : Platform κ) (ending : Ending κ τ) : Option Expiry :=
  match ending.fate with
  | .completed _ =>
    ending.grip.entry.continuation.bind fun continuation =>
      continuation.expiry? (ending.outcome platform)
  | _ => none

/-- The count of the guards that ended in one way. -/
def Statistics.guards (statistics : Statistics) : Expiry → ℕ
  | .fired => statistics.guardsFired
  | .disarmed => statistics.guardsDisarmed

/-- A continuation that is called counts how a guard ended, and nothing else. -/
theorem Continuation.guards_account (continuation : Continuation τ) (outcome : Outcome)
    (statistics : Statistics) (expiry : Expiry) :
    (continuation.account outcome statistics).guards expiry =
      statistics.guards expiry + (continuation.expiry? outcome).toList.count expiry := by
  cases continuation with
  | caller label => rfl
  | promise label => rfl
  | guard =>
      simp only [account, Statistics.recordGuard, expiry?]
      split
      · cases expiry <;> rfl
      · cases expiry <;> rfl
      · rename_i notFired notDisarmed
        split
        · rename_i other _
          cases other
          · exact absurd rfl notFired
          · exact absurd rfl notDisarmed
        · rfl

theorem Continuation.wakeups_account (continuation : Continuation τ) (outcome : Outcome)
    (statistics : Statistics) :
    (continuation.account outcome statistics).wakeups = statistics.wakeups := by
  cases continuation with
  | caller label => rfl
  | promise label => rfl
  | guard =>
      simp only [account, Statistics.recordGuard]
      split <;> rfl

/-- A failure does not tell how a guard ended. -/
@[simp]
theorem Continuation.expiry?_error (continuation : Continuation τ) (kind : Kind)
    (failure : Failure) : continuation.expiry? ⟨kind, .error failure⟩ = none := by
  cases continuation <;> cases kind <;> rfl

namespace Engine

/-- The counts that are not about operations account for what happened between two moments: each
wake-up poll that was completed and is not in hand any more was acknowledged once, and each guard
that was completed with a success was counted as what it told. -/
structure Tallies (platform : Platform κ) (before : Engine κ τ) (ended : List (Ending κ τ))
    (events : List (Event τ)) (after : Engine κ τ) : Prop where
  journal_eq : after.journal = events ++ before.journal
  wakes_eq : acknowledgements events + wakesAmong (completionsInHand after.frames) =
    wakesAmong (completionsInHand before.frames) + wakesAmong (returned events)
  wakeups_eq : after.statistics.wakeups = before.statistics.wakeups + acknowledgements events
  guards_eq : ∀ expiry, after.statistics.guards expiry =
    before.statistics.guards expiry + (ended.filterMap (Ending.expiry? platform)).count expiry

namespace Tallies

variable {platform : Platform κ} {before between after : Engine κ τ}

theorem refl (engine : Engine κ τ) : engine.Tallies platform [] [] engine :=
  ⟨rfl, by simp [acknowledgements, returned], rfl, fun _ => rfl⟩

theorem trans {ended others : List (Ending κ τ)} {events later : List (Event τ)}
    (first : before.Tallies platform ended events between)
    (second : between.Tallies platform others later after) :
    before.Tallies platform (others ++ ended) (later ++ events) after where
  journal_eq := by rw [second.journal_eq, first.journal_eq, List.append_assoc]
  wakes_eq := by
    have earlier := first.wakes_eq
    have further := second.wakes_eq
    rw [acknowledgements_append, returned_append, wakesAmong_add]
    omega
  wakeups_eq := by
    rw [second.wakeups_eq, first.wakeups_eq, acknowledgements_append]
    omega
  guards_eq := by
    intro expiry
    rw [second.guards_eq, first.guards_eq, List.filterMap_append, List.count_append]
    omega

/-- What happens has nothing to do with wake-up polls, and ends no operation. -/
theorem of_events {events : List (Event τ)} (journal_eq : after.journal = events ++ before.journal)
    (unacknowledged : acknowledgements events = 0)
    (wakes_eq : wakesAmong (completionsInHand after.frames) =
      wakesAmong (completionsInHand before.frames) + wakesAmong (returned events))
    (wakeups_eq : after.statistics.wakeups = before.statistics.wakeups)
    (guards_eq : ∀ expiry, after.statistics.guards expiry = before.statistics.guards expiry) :
    before.Tallies platform [] events after :=
  ⟨journal_eq, by rw [unacknowledged, zero_add, wakes_eq], by rw [unacknowledged, wakeups_eq]; rfl,
    guards_eq⟩

/-- An operation ends, and its continuation counts what it is told. -/
theorem of_ending {ending : Ending κ τ} {continuation : Continuation τ} {outcome : Outcome}
    {counted : Statistics}
    (journal_eq : after.journal = continuation.event outcome :: before.journal)
    (wakes_eq : wakesAmong (completionsInHand after.frames) =
      wakesAmong (completionsInHand before.frames))
    (statistics_eq : after.statistics = continuation.account outcome counted)
    (wakeups_eq : counted.wakeups = before.statistics.wakeups)
    (guards_eq : ∀ expiry, counted.guards expiry = before.statistics.guards expiry)
    (expiry_eq : ending.expiry? platform = continuation.expiry? outcome) :
    before.Tallies platform [ending] [continuation.event outcome] after := by
  have unmarked : ∀ event ∈ [continuation.event outcome], event.isMarked = false := by simp
  refine ⟨journal_eq, ?_, ?_, fun expiry => ?_⟩
  · rw [acknowledgements_of_unmarked unmarked, returned_of_unmarked unmarked, wakes_eq]
    simp
  · rw [acknowledgements_of_unmarked unmarked, statistics_eq, continuation.wakeups_account,
      wakeups_eq, add_zero]
  · rw [statistics_eq, continuation.guards_account, guards_eq, ← expiry_eq]
    cases told : ending.expiry? platform <;> simp [told]

end Tallies

theorem Stays.tallies {before after : Engine κ τ} (stays : before.Stays after)
    (platform : Platform κ) : ∃ events, before.Tallies platform [] events after := by
  rcases stays.journal with ⟨events, unmarked, appended⟩
  refine ⟨events, .of_events appended (acknowledgements_of_unmarked unmarked) ?_ ?_ fun _ => ?_⟩
  · rw [stays.completions_eq, returned_of_unmarked unmarked, wakesAmong_zero, add_zero]
  · rw [stays.statistics_eq]
  · rw [stays.statistics_eq]

/-- What passes between an engine and its ring is counted later. -/
theorem Deals.tallies {before after : Engine κ τ} (deals : before.Deals after)
    (platform : Platform κ) : ∃ events, before.Tallies platform [] events after := by
  cases deals with
  | stays stays => exact stays.tallies platform
  | pushes between stays world tries tried after_eq =>
      rcases stays.tallies platform with ⟨earlier, tallies⟩
      have pushed : between.Tallies platform [] (.pushed between.staged (.ok ()) :: tries) after := by
        rw [after_eq]
        refine .of_events rfl ?_ ?_ rfl fun _ => rfl
        · rcases tried with rfl | ⟨count, rfl⟩ <;> rfl
        · rcases tried with rfl | ⟨count, rfl⟩ <;> rfl
      exact ⟨_, tallies.trans pushed⟩
  | refuses between stays world error events refuses after_eq =>
      rcases stays.tallies platform with ⟨earlier, tallies⟩
      have taken : between.Tallies platform [] events after := by
        rw [after_eq]
        refine .of_events rfl ?_ ?_ rfl fun _ => rfl
        · rcases refuses with ⟨-, rfl⟩ | rfl | ⟨count, rfl⟩ <;> rfl
        · rw [(refusals_of_refuses refuses).2.1]
          simp [Frame.completions]
      exact ⟨_, tallies.trans taken⟩
  | drains between stays world batch owed after_eq =>
      rcases stays.tallies platform with ⟨earlier, tallies⟩
      have taken : between.Tallies platform [] [.drained batch] after := by
        rw [after_eq]
        refine .of_events rfl rfl ?_ rfl fun _ => rfl
        simp [returned, Frame.completions, add_comm]
      exact ⟨_, tallies.trans taken⟩

/-- A completion of the wake-up poll is acknowledged at once, and counts as nothing else. -/
theorem runFrame_wake (engine : Engine κ τ) (platform : Platform κ) {record : CompletionRecord}
    (wake : record.userData = wakeUserData) (rest : List CompletionRecord) (delivered : ℕ)
    (outer : Bool) :
    engine.runFrame platform (.dispatch (record :: rest) delivered outer) =
      { engine.next (.dispatch rest delivered outer) with
        world := (platform.notifier.acknowledge engine.world).2
        wakeArmed := false
        statistics.wakeups := engine.statistics.wakeups + 1
        journal := .acknowledged (platform.notifier.acknowledge engine.world).1 ::
          engine.journal } := by
  simp only [Engine.runFrame, if_pos wake]
  rfl

namespace Sound

variable {engine : Engine κ τ} {flights : Multiset (Flight τ)}
  {hand : Multiset (Grip (Continuation τ))} {frame : Frame τ} (platform : Platform κ)

theorem tallies_dispatch {record : CompletionRecord} {rest : List CompletionRecord} {delivered : ℕ}
    {outer : Bool}
    (sound : (engine.next (.dispatch (record :: rest) delivered outer)).Sound flights hand) :
    ∃ events, (engine.next (.dispatch (record :: rest) delivered outer)).Tallies platform
      (engine.next (.dispatch (record :: rest) delivered outer)).ending?.toList events
      (engine.runFrame platform (.dispatch (record :: rest) delivered outer)) := by
  by_cases wake : record.userData = wakeUserData
  · have nothing : (engine.next (.dispatch (record :: rest) delivered outer)).ending? = none := by
      simp [ending?, Engine.next, wake]
    rw [nothing, runFrame_wake engine platform wake]
    refine ⟨[.acknowledged (platform.notifier.acknowledge engine.world).1], rfl, ?_, rfl, fun expiry => ?_⟩
    · have counted : wakesAmong (record ::ₘ (rest : Multiset CompletionRecord)) =
          wakesAmong rest + 1 :=
        Multiset.countP_cons_of_pos _ wake
      simp only [Engine.next, completionsInHand_cons, Frame.completions, wakesAmong_add,
        ← Multiset.cons_coe, counted]
      change 1 + _ = _ + 0
      omega
    · cases expiry <;> rfl
  · rcases sound.dispatchOne_eq platform wake with
      ⟨flight, others, continuation, pools, tags, rfl, named, awaited, -, dispatched⟩
    rw [sound.ending?_dispatch wake named]
    simp only [Engine.runFrame, if_neg wake, dispatched, orRaise, deliver_some]
    have bears := continuation.frames_bear (.dispatch rest (delivered + 1) outer :: engine.frames)
    refine ⟨_, .of_ending rfl ?_ rfl rfl (fun expiry => ?_) ?_⟩
    · simp only [Engine.next, bears.1]
      simp [Frame.completions, wakesAmong, ← Multiset.cons_coe, wake]
    · cases expiry <;> rfl
    · simp only [Ending.expiry?, awaited]
      rfl

theorem tallies_refuse {record : SubmitRecord} {rest : List SubmitRecord} {failure : Failure}
    {outer : Bool}
    (sound : (engine.next (.refuse (record :: rest) failure outer)).Sound flights hand) :
    ∃ events, (engine.next (.refuse (record :: rest) failure outer)).Tallies platform
      (engine.next (.refuse (record :: rest) failure outer)).ending?.toList events
      (engine.runFrame platform (.refuse (record :: rest) failure outer)) := by
  by_cases wake : record.userData = wakeUserData
  · have nothing : (engine.next (.refuse (record :: rest) failure outer)).ending? = none := by
      simp [ending?, Engine.next, wake]
    rw [nothing]
    simp only [Engine.runFrame, if_pos wake]
    refine ⟨[], .of_events rfl rfl ?_ rfl fun _ => rfl⟩
    simp [Engine.next, Frame.completions, returned]
  · rcases sound.refuseOne_eq wake with
      ⟨flight, others, continuation, pools, tags, rfl, named, -, -, refused⟩
    rw [sound.ending?_refuse wake named]
    simp only [Engine.runFrame, if_neg wake, refused, orRaise, deliver_some]
    have bears := continuation.frames_bear (.refuse rest failure outer :: engine.frames)
    refine ⟨_, .of_ending rfl ?_ rfl rfl (fun _ => rfl) ?_⟩
    · simp only [Engine.next, bears.1]
      simp [Frame.completions]
    · rw [Continuation.expiry?_error]
      rfl

theorem tallies_fail {leftovers : List (UInt32 × SlotRef)}
    (sound : (engine.next (.fail leftovers)).Sound flights hand) :
    ∃ events, (engine.next (.fail leftovers)).Tallies platform
      (engine.next (.fail leftovers)).ending?.toList events
      (engine.runFrame platform (.fail leftovers)) := by
  cases leftovers with
  | nil =>
      refine ⟨[.terminated], .of_events rfl rfl ?_ rfl fun _ => rfl⟩
      simp [Engine.runFrame, Engine.log, Engine.next, Frame.completions, returned]
  | cons leftover rest =>
      rcases sound.fail_eq platform with
        ⟨grip, others, continuation, pools, rfl, slot, -, -, -, failed⟩
      rw [sound.ending?_fail slot, failed, deliver_some]
      have bears := continuation.frames_bear (.fail rest :: engine.frames)
      refine ⟨_, .of_ending rfl ?_ rfl rfl (fun expiry => ?_) ?_⟩
      · simp only [Engine.next, bears.1]
        simp [Frame.completions]
      · cases expiry <;> rfl
      · rw [Continuation.expiry?_error]
        rfl

theorem tallies_runFrame (sound : (engine.next frame).Sound flights hand)
    (spare : engine.inFlight + 2 ≤ UInt32.size)
    (keeps : keepsContract (engine.runFrame platform frame).journal) :
    ∃ events, (engine.next frame).Tallies platform (engine.next frame).ending?.toList events
      (engine.runFrame platform frame) := by
  cases major : frame.isBusiness with
  | false =>
      rw [ending?_of_minor major]
      exact (deals_runFrame platform keeps major).tallies platform
  | true =>
      cases frame with
      | stage request =>
          rcases sound.stage_cases platform spare with
            ⟨failure, stays, -⟩ | ⟨-, pools, tags, admissions, admitted, -⟩
          · exact stays.tallies platform
          · rw [admitted]
            refine ⟨[], .of_events rfl rfl ?_ rfl fun expiry => ?_⟩
            · simp [Engine.next, Frame.completions, returned]
            · cases expiry <;> rfl
      | dispatch batch delivered outer =>
          cases batch with
          | nil => cases major
          | cons record rest => exact sound.tallies_dispatch platform
      | refuse records failure outer =>
          cases records with
          | nil => cases major
          | cons record rest => exact sound.tallies_refuse platform
      | release =>
          refine ⟨[.released], .of_events rfl rfl ?_ rfl fun _ => rfl⟩
          change wakesAmong (completionsInHand (.fail engine.tags.drain.1 :: engine.frames)) = _
          simp [Engine.next, Frame.completions, returned]
      | fail leftovers => exact sound.tallies_fail platform
      | _ => cases major

/-- In every step, the counts account for the completions of the wake-up poll and for how guards
end. -/
theorem tallies_step (sound : engine.Sound flights hand) (spare : engine.inFlight + 2 ≤ UInt32.size)
    (keeps : keepsContract (engine.step platform).journal) :
    ∃ events, engine.Tallies platform engine.ending?.toList events (engine.step platform) := by
  rcases step_cases engine platform with ⟨turn, same⟩ | ⟨below, frame, rfl, stepped⟩
  · rw [same, ending?_of_awaitsCaller sound.healthy turn]
    exact ⟨[], .refl engine⟩
  · rw [stepped] at keeps ⊢
    exact sound.tallies_runFrame platform spare keeps

end Sound

end Engine

end CompletionEngine
