import Mathlib
import CompletionEngine.Engine.Step

/-!
# What the journal tells

The journal of an engine tells which records a ring has accepted and which completions it has handed
out since. Of a ring nothing more is asked than that it hands out only what it owes: for each
accepted record at most one completion, which bears the record's user data. Pushes and waits may
fail at any time, and completions come in any order.
-/

namespace CompletionEngine

variable {κ τ : Type}

/-- The user data of records that a ring has accepted and not yet completed. -/
def outstanding : List (Event τ) → Multiset UInt64
  | [] => 0
  | .pushed records (.ok ()) :: journal =>
    (records.map SubmitRecord.userData : Multiset UInt64) + outstanding journal
  | .drained batch :: journal =>
    outstanding journal - (batch.map CompletionRecord.userData : Multiset UInt64)
  | _ :: journal => outstanding journal

/-- Whether a ring has handed out only completions that it owed. -/
def keepsContract : List (Event τ) → Bool
  | [] => true
  | .drained batch :: journal =>
    decide ((batch.map CompletionRecord.userData : Multiset UInt64) ≤ outstanding journal) &&
      keepsContract journal
  | _ :: journal => keepsContract journal

namespace Event

/-- Whether an event moves records to the ring or completions from it. -/
def isTraffic : Event τ → Bool
  | .pushed _ (.ok _) | .drained _ => true
  | _ => false

/-- Whether an event neither moves records between an engine and its ring nor calls a
continuation. -/
def isQuiet : Event τ → Bool
  | .pushed _ (.ok _) | .drained _ | .called .. | .settled .. | .guarded _ => false
  | _ => true

theorem isTraffic_of_isQuiet {event : Event τ} (quiet : event.isQuiet) :
    event.isTraffic = false := by
  cases event with
  | pushed records outcome => cases outcome <;> simp_all [isQuiet, isTraffic]
  | _ => simp_all [isQuiet, isTraffic]

end Event

/-- What a journal tells stays the same over events that it skips. -/
theorem append_of_skips {α : Type} (part : List (Event τ) → α) {skipped : Event τ → Prop}
    (skips : ∀ event journal, skipped event → part (event :: journal) = part journal)
    {events : List (Event τ)} (all : ∀ event ∈ events, skipped event) (journal : List (Event τ)) :
    part (events ++ journal) = part journal := by
  induction events with
  | nil => rfl
  | cons event events ih =>
      rw [List.cons_append, skips _ _ (all event (by simp))]
      exact ih fun event eventMem => all event (by simp [eventMem])

theorem outstanding_cons_of_not_traffic (event : Event τ) (journal : List (Event τ))
    (silent : event.isTraffic = false) : outstanding (event :: journal) = outstanding journal := by
  cases event with
  | pushed records outcome =>
    cases outcome with
    | ok value => simp [Event.isTraffic] at silent
    | error error => rfl
  | drained batch => simp [Event.isTraffic] at silent
  | _ => rfl

theorem outstanding_append_of_not_traffic {events : List (Event τ)}
    (silent : ∀ event ∈ events, event.isTraffic = false) (journal : List (Event τ)) :
    outstanding (events ++ journal) = outstanding journal :=
  append_of_skips outstanding outstanding_cons_of_not_traffic silent journal

theorem outstanding_append_of_quiet {events : List (Event τ)}
    (quiet : ∀ event ∈ events, event.isQuiet) (journal : List (Event τ)) :
    outstanding (events ++ journal) = outstanding journal :=
  outstanding_append_of_not_traffic
    (fun event eventMem => Event.isTraffic_of_isQuiet (quiet event eventMem)) journal

namespace Engine

variable (platform : Platform κ) (engine : Engine κ τ)

/-- What a push and its second try write into the journal: the push is the last word unless the ring
is full, and then either the submission fails or the second push is the last word. -/
theorem pushWithRoom_eq :
    ∃ outcome world events, engine.pushWithRoom platform = (outcome, { engine with
        world := world
        journal := events ++ engine.journal }) ∧
      (outcome ≠ .error .full ∧ events = [.pushed engine.staged outcome] ∨
        (∃ error, outcome = .error error ∧
          events = [.submitted (.error error), .pushed engine.staged (.error .full)]) ∨
        ∃ count, events = [.pushed engine.staged outcome, .submitted (.ok count),
          .pushed engine.staged (.error .full)]) := by
  rcases first : platform.ring.push engine.staged engine.world with ⟨outcome, world⟩
  by_cases full : outcome = .error .full
  · subst full
    rcases submitted : platform.ring.submit world with ⟨error | count, submittedWorld⟩
    · refine ⟨.error error, submittedWorld, _, ?_, .inr (.inl ⟨error, rfl, rfl⟩)⟩
      simp only [pushWithRoom, push, submit, first, submitted, log]
      rfl
    · rcases second : platform.ring.push engine.staged submittedWorld with ⟨outcome, after⟩
      refine ⟨outcome, after, _, ?_, .inr (.inr ⟨count, rfl⟩)⟩
      simp only [pushWithRoom, push, submit, first, submitted, second, log]
      rfl
  · refine ⟨outcome, world, _, ?_, .inl ⟨full, rfl⟩⟩
    rcases outcome with error | value
    · cases error <;> first | exact absurd rfl full | simp only [pushWithRoom, push, first, log]; rfl
    · simp only [pushWithRoom, push, first, log]
      rfl

/-- What is staged is pushed in the end, or not at all. What has been tried before is quiet. -/
theorem pushWithRoom_cases :
    ∃ world events, (∀ event ∈ events, event.isQuiet) ∧
      (engine.pushWithRoom platform = (.ok (), { engine with
          world := world
          journal := .pushed engine.staged (.ok ()) :: (events ++ engine.journal) }) ∨
        ∃ error, engine.pushWithRoom platform = (.error error, { engine with
          world := world
          journal := events ++ engine.journal })) := by
  rcases pushWithRoom_eq platform engine with ⟨error | ⟨⟨⟩⟩, world, events, pushes, told⟩
  · refine ⟨world, events, ?_, .inr ⟨error, pushes⟩⟩
    rcases told with ⟨-, rfl⟩ | ⟨_, -, rfl⟩ | ⟨count, rfl⟩
    all_goals simp [Event.isQuiet]
  · rcases told with ⟨-, rfl⟩ | ⟨_, fails, -⟩ | ⟨count, rfl⟩
    · exact ⟨world, [], by simp, .inl pushes⟩
    · cases fails
    · exact ⟨world, [.submitted (.ok count), .pushed engine.staged (.error .full)],
        by simp [Event.isQuiet], .inl pushes⟩

/-- A flush has nothing to push, or pushes everything staged, or takes it in hand to fail it. -/
theorem flush_cases :
    engine.staged = [] ∧ engine.flush platform = engine ∨
    engine.staged ≠ [] ∧ ∃ world events, (∀ event ∈ events, event.isQuiet) ∧
      (engine.flush platform = { engine with
          world := world
          staged := []
          journal := .pushed engine.staged (.ok ()) :: (events ++ engine.journal) } ∨
        ∃ error : RingError, engine.flush platform = { engine with
          world := world
          staged := []
          dispatching := true
          journal := events ++ engine.journal
          frames := .refuse engine.staged error.toFailure engine.dispatching :: engine.frames }) := by
  unfold flush
  by_cases empty : engine.staged.isEmpty
  · exact .inl ⟨List.isEmpty_iff.mp empty, by rw [if_pos empty]⟩
  · rw [if_neg empty]
    refine .inr ⟨by simpa using empty, ?_⟩
    rcases pushWithRoom_cases platform engine with ⟨world, events, quiet, pushed | ⟨error, refused⟩⟩
    · exact ⟨world, events, quiet, .inl (by rw [pushed])⟩
    · exact ⟨world, events, quiet, .inr ⟨error, by rw [refused]; rfl⟩⟩

theorem reap_eq :
    ∃ batch world, engine.reap platform = { engine with
      world := world
      dispatching := true
      journal := .drained batch :: engine.journal
      frames := .dispatch batch 0 engine.dispatching :: engine.frames } :=
  ⟨(platform.ring.drain engine.world).1, (platform.ring.drain engine.world).2, rfl⟩

/-- A wait fails, and the cycle is over, or what the ring hands out is taken in hand. -/
theorem enterKernel_eq (wait : Wait) :
    ∃ want world,
      (∃ error, engine.enterKernel platform wait =
        { { engine with world := world }.log (.waited want wait (.error error)) with
          answer := .error error }) ∨
      ∃ count, engine.enterKernel platform wait =
        ({ engine with world := world }.log (.waited want wait (.ok count))).reap platform := by
  let want := if engine.tags.isEmpty && !engine.wakeArmed then 0 else 1
  rcases waited : platform.ring.submitAndWait want wait engine.world with ⟨error | count, world⟩
  · exact ⟨want, world, .inl ⟨error, by simp only [enterKernel, want, waited]⟩⟩
  · exact ⟨want, world, .inr ⟨count, by simp only [enterKernel, want, waited]⟩⟩

theorem enterKernel_cases (wait : Wait) :
    ∃ world event, event.isQuiet ∧
      ((∃ error, engine.enterKernel platform wait =
          { { engine with world := world }.log event with answer := .error error }) ∨
        engine.enterKernel platform wait = ({ engine with world := world }.log event).reap platform) := by
  rcases enterKernel_eq platform engine wait with ⟨want, world, ⟨error, failed⟩ | ⟨count, entered⟩⟩
  · exact ⟨world, _, rfl, .inl ⟨error, failed⟩⟩
  · exact ⟨world, _, rfl, .inr entered⟩

end Engine

end CompletionEngine
