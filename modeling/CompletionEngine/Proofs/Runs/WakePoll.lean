import CompletionEngine.Proofs.Runs.Custody

/-!
# The wake-up poll

An engine keeps a mark for its wake-up poll. Until the ring is given up, the mark is right: if it is
set, there is one poll, which is staged, refused and in hand, with the ring, or completed and in
hand, and otherwise there is none.
-/

namespace CompletionEngine

variable {κ τ : Type}

namespace Engine

/-- The mark tells how many wake-up polls there are. -/
def Polls (engine : Engine κ τ) : Prop :=
  ¬Released engine.frames engine.terminated →
    engine.copies wakeUserData = engine.wakeArmed.toNat

/-- What is accepted, refused or handed out only changes its place. -/
theorem Deals.copies_eq {before after : Engine κ τ} (deals : before.Deals after) :
    ∃ between : Engine κ τ, before.Stays between ∧ after.wakeArmed = between.wakeArmed ∧
      (Released after.frames after.terminated ↔ Released between.frames between.terminated) ∧
      ∀ userData, after.copies userData = between.copies userData := by
  cases deals with
  | stays stays => exact ⟨after, stays, rfl, Iff.rfl, fun _ => rfl⟩
  | pushes between stays world events tries after_eq =>
      subst after_eq
      refine ⟨between, stays, rfl, Iff.rfl, fun userData => ?_⟩
      have skipped : outstanding (events ++ between.journal) = outstanding between.journal := by
        rcases tries with rfl | ⟨count, rfl⟩ <;> rfl
      simp only [copies_eq_count, outstanding, skipped, List.map_nil, Multiset.coe_nil, zero_add]
      congr 1
      abel
  | refuses between stays world error events refuses after_eq =>
      subst after_eq
      refine ⟨between, stays, rfl, released_congr rfl rfl, fun userData => ?_⟩
      have skipped : outstanding (events ++ between.journal) = outstanding between.journal := by
        rcases refuses with ⟨-, rfl⟩ | rfl | ⟨count, rfl⟩ <;> rfl
      simp only [copies_eq_count, skipped, List.map_cons, List.sum_cons, Frame.userData,
        List.map_nil, Multiset.coe_nil, zero_add]
  | drains between stays world batch owed after_eq =>
      subst after_eq
      refine ⟨between, stays, rfl, released_congr rfl rfl, fun userData => ?_⟩
      simp only [copies_eq_count, outstanding, List.map_cons, List.sum_cons, Frame.userData]
      conv_rhs => rw [← tsub_add_cancel_of_le owed]
      generalize outstanding between.journal -
        (batch.map CompletionRecord.userData : Multiset UInt64) = left
      congr 1
      abel

/-- What is settled of a batch leaves its place. -/
theorem copies_settle {engine : Engine κ τ} {frame next : Frame τ} {settled : UInt64}
    (settles : frame.userData = settled ::ₘ next.userData) (userData : UInt64) :
    (engine.next frame).copies userData =
      (engine.next next).copies userData + if userData = settled then 1 else 0 := by
  simp only [copies_eq_count, Engine.next, List.map_cons, List.sum_cons, settles, Multiset.cons_add,
    Multiset.add_cons, Multiset.count_cons]

theorem Stays.polls {before after : Engine κ τ} (stays : before.Stays after)
    (polls : before.Polls) : after.Polls := by
  intro notReleased
  have marked := polls (mt stays.released_iff.mpr notReleased)
  have outstanding_eq : outstanding after.journal = outstanding before.journal := by
    rcases stays.journal with ⟨events, unmarked, appended⟩
    rw [appended]
    exact outstanding_append_of_not_traffic
      (fun event eventMem => Event.isTraffic_of_not_marked (unmarked event eventMem)) _
  rcases stays.arms with ⟨staged_eq, armed_eq⟩ | ⟨descriptor, -, unarmed, armed, staged_eq⟩
  · rw [copies, staged_eq, stays.completions_eq, stays.refusals_eq, outstanding_eq, armed_eq]
    exact marked
  · rw [unarmed, copies] at marked
    rw [copies, staged_eq, stays.completions_eq, stays.refusals_eq, outstanding_eq, armed,
      List.map_append, List.count_append]
    simp only [List.map_cons, List.map_nil, wakeRecord, List.count_singleton_self, Bool.toNat_true,
      Bool.toNat_false] at marked ⊢
    omega

theorem Deals.polls {before after : Engine κ τ} (deals : before.Deals after)
    (polls : before.Polls) : after.Polls := by
  rcases deals.copies_eq with ⟨between, stays, armed_eq, released_iff, copies_eq⟩
  intro notReleased
  rw [copies_eq, armed_eq]
  exact stays.polls polls (mt released_iff.mpr notReleased)

/-- A continuation that is called with what a frame had in hand touches no poll. -/
theorem polls_deliver {engine : Engine κ τ} (polls : engine.Polls)
    (continuation : Continuation τ) (outcome : Outcome) :
    (engine.deliver (some continuation) outcome).Polls := by
  rcases continuation.frames_bear engine.frames with ⟨completions_eq, refusals_eq, failing_eq⟩
  intro notReleased
  rw [deliver_some] at notReleased ⊢
  have marked := polls (mt (released_congr failing_eq rfl).mpr notReleased)
  rw [copies] at marked ⊢
  simpa only [completions_eq, refusals_eq, outstanding_event] using marked

namespace Sound

variable {engine : Engine κ τ} {flights : Multiset (Flight τ)}
  {hand : Multiset (Grip (Continuation τ))} {frame : Frame τ}

theorem polls_stage {request : Request τ} (sound : (engine.next (.stage request)).Sound flights hand)
    (platform : Platform κ) (spare : engine.inFlight + 2 ≤ UInt32.size)
    (polls : (engine.next (.stage request)).Polls) :
    (engine.runFrame platform (.stage request)).Polls := by
  rcases sound.stage_cases platform spare with
    ⟨failure, stays, -⟩ | ⟨-, pools, tags, admissions, admitted, -, -, -, proper⟩
  · exact stays.polls polls
  · rw [admitted]
    have popped : engine.Polls := (stays_pop engine ⟨rfl, rfl, rfl⟩).polls polls
    have others : ((admissions.map Admission.record).map SubmitRecord.userData).count
        wakeUserData = 0 := by
      refine List.count_eq_zero.mpr fun wakes => ?_
      rw [List.map_map] at wakes
      rcases List.mem_map.mp wakes with ⟨admission, admissionMem, wake⟩
      exact tag_ne_wakeUserData _ ((proper admission admissionMem).named.symm.trans wake)
    intro notReleased
    have marked := popped notReleased
    rw [copies] at marked ⊢
    simp only [List.map_append, List.count_append, others] at marked ⊢
    omega

/-- A frame that settles the wake-up poll leaves no other. -/
theorem copies_of_wake {next : Frame τ} {settled : UInt64}
    (sound : (engine.next frame).Sound flights hand) (batch : frame.isBatch)
    (settles : frame.userData = settled ::ₘ next.userData) (wake : settled = wakeUserData)
    (polls : (engine.next frame).Polls) : (engine.next next).copies wakeUserData = 0 := by
  have marked := polls (sound.not_released_of_batch batch)
  rw [copies_settle settles, if_pos wake.symm] at marked
  have most := Bool.toNat_le (engine.next frame).wakeArmed
  omega

/-- A frame that settles anything else leaves the mark right. -/
theorem polls_settle {next : Frame τ} {settled : UInt64}
    (sound : (engine.next frame).Sound flights hand) (batch : frame.isBatch)
    (settles : frame.userData = settled ::ₘ next.userData) (operation : settled ≠ wakeUserData)
    (polls : (engine.next frame).Polls) : (engine.next next).Polls := by
  intro _
  have marked := polls (sound.not_released_of_batch batch)
  rwa [copies_settle settles, if_neg (Ne.symm operation), add_zero] at marked

theorem polls_dispatch {record : CompletionRecord} {rest : List CompletionRecord} {delivered : ℕ}
    {outer : Bool}
    (sound : (engine.next (.dispatch (record :: rest) delivered outer)).Sound flights hand)
    (platform : Platform κ)
    (polls : (engine.next (.dispatch (record :: rest) delivered outer)).Polls) :
    (engine.runFrame platform (.dispatch (record :: rest) delivered outer)).Polls := by
  have settles (count : ℕ) : (Frame.dispatch (record :: rest) delivered outer : Frame τ).userData =
      record.userData ::ₘ (Frame.dispatch rest count outer : Frame τ).userData := rfl
  simp only [Engine.runFrame]
  split
  · rename_i wake
    intro _
    exact sound.copies_of_wake rfl (settles delivered) wake polls
  · rename_i operation
    rcases sound.dispatchOne_eq platform operation with
      ⟨flight, others, continuation, pools, tags, -, -, -, -, dispatched⟩
    have left := sound.polls_settle rfl (settles (delivered + 1)) operation polls
    rw [dispatched, orRaise]
    refine polls_deliver ?_ _ _
    exact left

theorem polls_refuse {record : SubmitRecord} {rest : List SubmitRecord} {failure : Failure}
    {outer : Bool} (sound : (engine.next (.refuse (record :: rest) failure outer)).Sound flights hand)
    (platform : Platform κ) (polls : (engine.next (.refuse (record :: rest) failure outer)).Polls) :
    (engine.runFrame platform (.refuse (record :: rest) failure outer)).Polls := by
  have settles : (Frame.refuse (record :: rest) failure outer : Frame τ).userData =
      record.userData ::ₘ (Frame.refuse rest failure outer : Frame τ).userData := rfl
  simp only [Engine.runFrame]
  split
  · rename_i wake
    intro _
    exact sound.copies_of_wake rfl settles wake polls
  · rename_i operation
    rcases sound.refuseOne_eq operation with
      ⟨flight, others, continuation, pools, tags, -, -, -, -, refused⟩
    have left := sound.polls_settle rfl settles operation polls
    rw [refused, orRaise]
    refine polls_deliver ?_ _ _
    exact left

theorem polls_runFrame (sound : (engine.next frame).Sound flights hand) (platform : Platform κ)
    (spare : engine.inFlight + 2 ≤ UInt32.size)
    (keeps : keepsContract (engine.runFrame platform frame).journal)
    (polls : (engine.next frame).Polls) : (engine.runFrame platform frame).Polls := by
  cases business : frame.isBusiness with
  | false => exact (Engine.deals_runFrame platform keeps business).polls polls
  | true =>
      cases frame with
      | stage request => exact sound.polls_stage platform spare polls
      | dispatch batch delivered outer =>
          cases batch with
          | nil => cases business
          | cons record rest => exact sound.polls_dispatch platform polls
      | refuse records failure outer =>
          cases records with
          | nil => cases business
          | cons record rest => exact sound.polls_refuse platform polls
      | release => exact fun notReleased => absurd (.inr rfl) notReleased
      | fail leftovers =>
          cases leftovers with
          | nil => exact fun notReleased => absurd (.inl rfl) notReleased
          | cons leftover rest =>
              rcases sound.fail_eq platform with
                ⟨grip, others, continuation, pools, -, -, -, -, -, failed⟩
              rw [failed]
              exact polls_deliver (fun notReleased => absurd (.inr rfl) notReleased) _ _
      | _ => cases business

theorem polls_step (sound : engine.Sound flights hand) (platform : Platform κ)
    (spare : engine.inFlight + 2 ≤ UInt32.size)
    (keeps : keepsContract (engine.step platform).journal) (polls : engine.Polls) :
    (engine.step platform).Polls := by
  rcases step_cases engine platform with ⟨-, same⟩ | ⟨below, frame, rfl, stepped⟩
  · rwa [same]
  · rw [stepped] at keeps ⊢
    exact sound.polls_runFrame platform spare keeps polls

end Sound

end Engine

namespace Scene

/-- In every run, the mark for the wake-up poll is right. -/
theorem polls_of_play {platform : Platform κ} {configuration : Configuration} {world : κ}
    {moves : List (Move κ τ)} {scene : Scene κ τ}
    (played : (opening configuration world).play? platform moves = some scene) :
    scene.engine.Polls := by
  refine play?_induction (fun _ scene => scene.engine.Polls) ?_ ?_ played
  · intro _
    rfl
  · rintro moves ⟨engine, pushes⟩ move after playedBefore polls moved
    rcases move?_eq_some.mp moved with ⟨allowed, keeps, rfl⟩
    rcases sound_of_play playedBefore with ⟨flights, hand, sound⟩
    by_cases step : move = .step
    · subst step
      exact sound.polls_step platform (by simpa [allows] using allowed) keeps polls
    · have dealt : engine.Deals ((Scene.mk engine pushes).perform platform move).engine :=
        deals_perform platform step
      exact dealt.polls polls

end Scene

end CompletionEngine
