import CompletionEngine.Proofs.Engine.Requests
import CompletionEngine.Proofs.Engine.Tallies
import CompletionEngine.Proofs.Runs.Moves

/-!
# How fast counts grow

A step stages at most one operation and its guard, or ends at most one operation, which counts once as
an operation and once more when it is a guard. So each move of a run adds at most two to everything
that an engine counts, and it takes `2 ^ 63` moves before a count may outgrow a word of 64 bits.
-/

namespace CompletionEngine

variable {κ τ : Type}

namespace Statistics

/-- Everything that is counted. -/
def counts (statistics : Statistics) : List ℕ :=
  [statistics.submitted, statistics.completed, statistics.guardsFired, statistics.guardsDisarmed,
    statistics.synthesized, statistics.wakeups]

/-- The sum of all counts. -/
def total (statistics : Statistics) : ℕ := statistics.counts.sum

theorem total_eq (statistics : Statistics) :
    statistics.total = statistics.submitted + statistics.completed + statistics.guardsFired +
      statistics.guardsDisarmed + statistics.synthesized + statistics.wakeups := by
  simp only [total, counts, List.sum_cons, List.sum_nil]
  omega

end Statistics

/-- Whoever is told an outcome counts it at most once. -/
theorem Continuation.total_account_le (continuation : Continuation τ) (outcome : Outcome)
    (statistics : Statistics) :
    (continuation.account outcome statistics).total ≤ statistics.total + 1 := by
  cases continuation with
  | caller label => exact Nat.le_succ _
  | promise label => exact Nat.le_succ _
  | guard =>
      simp only [account, Statistics.recordGuard]
      split <;> simp only [Statistics.total_eq] <;> omega

namespace Engine

/-- What passes between an engine and its ring is counted later. -/
theorem Deals.statistics_eq {before after : Engine κ τ} (deals : before.Deals after) :
    after.statistics = before.statistics := by
  cases deals with
  | stays stays => exact stays.statistics_eq
  | pushes between stays world events tries after_eq =>
      rw [after_eq]
      exact stays.statistics_eq
  | refuses between stays world error events refuses after_eq =>
      rw [after_eq]
      exact stays.statistics_eq
  | drains between stays world batch owed after_eq =>
      rw [after_eq]
      exact stays.statistics_eq

namespace Sound

variable {engine : Engine κ τ} {flights : Multiset (Flight τ)}
  {hand : Multiset (Grip (Continuation τ))} {frame : Frame τ} (platform : Platform κ)

theorem total_dispatch_le {record : CompletionRecord} {rest : List CompletionRecord} {delivered : ℕ}
    {outer : Bool}
    (sound : (engine.next (.dispatch (record :: rest) delivered outer)).Sound flights hand) :
    (engine.runFrame platform (.dispatch (record :: rest) delivered outer)).statistics.total ≤
      engine.statistics.total + 2 := by
  by_cases wake : record.userData = wakeUserData
  · rw [runFrame_wake engine platform wake]
    simp only [Engine.next, Statistics.total_eq]
    omega
  · rcases sound.dispatchOne_eq platform wake with
      ⟨flight, others, continuation, pools, tags, -, -, -, -, dispatched⟩
    simp only [Engine.runFrame, if_neg wake, dispatched, orRaise, deliver_some]
    refine (continuation.total_account_le _ _).trans ?_
    simp only [Engine.next, Statistics.total_eq]
    omega

theorem total_refuse_le {record : SubmitRecord} {rest : List SubmitRecord} {failure : Failure}
    {outer : Bool}
    (sound : (engine.next (.refuse (record :: rest) failure outer)).Sound flights hand) :
    (engine.runFrame platform (.refuse (record :: rest) failure outer)).statistics.total ≤
      engine.statistics.total + 1 := by
  by_cases wake : record.userData = wakeUserData
  · simp only [Engine.runFrame, if_pos wake]
    exact Nat.le_succ _
  · rcases sound.refuseOne_eq wake with
      ⟨flight, others, continuation, pools, tags, -, -, -, -, refused⟩
    simp only [Engine.runFrame, if_neg wake, refused, orRaise, deliver_some]
    exact continuation.total_account_le _ _

theorem total_fail_le {leftovers : List (UInt32 × SlotRef)}
    (sound : (engine.next (.fail leftovers)).Sound flights hand) :
    (engine.runFrame platform (.fail leftovers)).statistics.total ≤ engine.statistics.total + 2 := by
  cases leftovers with
  | nil => exact Nat.le_add_right _ _
  | cons leftover rest =>
      rcases sound.fail_eq platform with ⟨grip, others, continuation, pools, -, -, -, -, -, failed⟩
      rw [failed, deliver_some]
      refine (continuation.total_account_le _ _).trans ?_
      simp only [Engine.next, Statistics.total_eq]
      omega

theorem total_runFrame_le (sound : (engine.next frame).Sound flights hand)
    (spare : engine.inFlight + 2 ≤ UInt32.size)
    (keeps : keepsContract (engine.runFrame platform frame).journal) :
    (engine.runFrame platform frame).statistics.total ≤ engine.statistics.total + 2 := by
  cases major : frame.isBusiness with
  | false =>
      have same := (deals_runFrame platform keeps major).statistics_eq
      rw [same]
      exact Nat.le_add_right _ _
  | true =>
      cases frame with
      | stage request =>
          rcases sound.stage_cases platform spare with
            ⟨failure, stays, -⟩ | ⟨-, pools, tags, admissions, admitted, -⟩
          · rw [stays.statistics_eq]
            exact Nat.le_add_right _ _
          · have few := request.command.recordCount_le
            rw [admitted]
            simp only [Statistics.total_eq]
            omega
      | dispatch batch delivered outer =>
          cases batch with
          | nil => cases major
          | cons record rest => exact sound.total_dispatch_le platform
      | refuse records failure outer =>
          cases records with
          | nil => cases major
          | cons record rest => exact (sound.total_refuse_le platform).trans (Nat.le_succ _)
      | release => exact Nat.le_add_right _ _
      | fail leftovers => exact sound.total_fail_le platform
      | _ => cases major

/-- A step adds at most two to all counts together. -/
theorem total_step_le (sound : engine.Sound flights hand) (spare : engine.inFlight + 2 ≤ UInt32.size)
    (keeps : keepsContract (engine.step platform).journal) :
    (engine.step platform).statistics.total ≤ engine.statistics.total + 2 := by
  rcases step_cases engine platform with ⟨-, same⟩ | ⟨below, frame, rfl, stepped⟩
  · rw [same]
    exact Nat.le_add_right _ _
  · rw [stepped] at keeps ⊢
    exact sound.total_runFrame_le platform spare keeps

end Sound

end Engine

namespace Scene

variable {platform : Platform κ} {configuration : Configuration} {world : κ}
  {moves : List (Move κ τ)} {scene : Scene κ τ}

/-- In every run, all counts together are at most twice the number of moves. -/
theorem total_le_of_play (played : (opening configuration world).play? platform moves = some scene) :
    scene.engine.statistics.total ≤ 2 * moves.length := by
  refine play?_induction
    (fun moves scene => scene.engine.statistics.total ≤ 2 * moves.length) ?_ ?_ played
  · exact Nat.le_refl 0
  · rintro moves ⟨engine, pushes⟩ move after playedBefore known moved
    rcases move?_eq_some.mp moved with ⟨allowed, keeps, rfl⟩
    rcases sound_of_play playedBefore with ⟨flights, hand, sound⟩
    have grown : ((Scene.mk engine pushes).perform platform move).engine.statistics.total ≤
        engine.statistics.total + 2 := by
      by_cases step : move = .step
      · subst step
        exact sound.total_step_le platform (by simpa [allows] using allowed) keeps
      · rw [(deals_perform platform step).statistics_eq]
        exact Nat.le_add_right _ _
    calc ((Scene.mk engine pushes).perform platform move).engine.statistics.total
        ≤ engine.statistics.total + 2 := grown
      _ ≤ 2 * moves.length + 2 := Nat.add_le_add_right known 2
      _ = 2 * (moves ++ [move]).length := by simp [Nat.mul_add]

/-- In a run of fewer than `2 ^ 63` moves, a counter of 64 bits holds each count. -/
theorem toNat_ofNat_count
    (played : (opening configuration world).play? platform moves = some scene)
    (few : moves.length < 2 ^ 63) {count : ℕ} (counted : count ∈ scene.engine.statistics.counts) :
    (UInt64.ofNat count).toNat = count := by
  have part : count ≤ scene.engine.statistics.total := List.single_le_sum (by simp) count counted
  have whole := total_le_of_play played
  apply UInt64.toNat_ofNat_of_lt'
  change count < 2 ^ 64
  omega

end Scene

end CompletionEngine
