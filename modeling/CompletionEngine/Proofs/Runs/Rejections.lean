import CompletionEngine.Proofs.Runs.Deferral
import CompletionEngine.Simulation.Script

/-!
# A request that fails leaves no trace

Once room has been made for a request, one step decides about it. If nothing stands in its way, its
record is staged, and that of its guard right behind it, and nobody is told anything. Otherwise its
continuation is told at once what stood in its way first, and the engine that the continuation finds
is the one that the request found: nothing staged, counted, registered or taken, and the free slots
in the order in which they were, but for one that may have been made for the request.
-/

namespace CompletionEngine

variable {κ τ : Type}

theorem Frame.request?_eq_some {frame : Frame τ} {request : Request τ} :
    frame.request? = some request ↔ frame = .stage request := by
  cases frame <;> simp [request?]

/-- A failure is not counted, whoever awaits it. -/
theorem Continuation.account_error (continuation : Continuation τ) (kind : Kind) (failure : Failure)
    (statistics : Statistics) :
    continuation.account ⟨kind, .error failure⟩ statistics = statistics := by
  cases continuation <;> cases kind <;> rfl

/-- The tags in use and what they stand for are told by the operations in flight. -/
theorem Books.lookup?_congr {pools others : Pools (Continuation τ)} {tags table : TagTable SlotRef}
    {flights : Multiset (Flight τ)} {hand : Multiset (Grip (Continuation τ))}
    (left : Books pools tags flights hand) (right : Books others table flights hand) (tag : UInt32) :
    tags.lookup? tag = table.lookup? tag := by
  apply Option.ext
  intro reference
  rw [left.lookup?_eq_some, right.lookup?_eq_some]

/-- An engine after a request has been rejected: the continuation has been told the failure, and
nothing else has happened. -/
structure Engine.Rejects (request : Request τ) (failure : Failure) (before after : Engine κ τ) :
    Prop where
  /-- Only pools and tags may have been touched, and the continuation is told just once. -/
  told : after = { before with
    pools := after.pools
    tags := after.tags
    frames := request.continuation.frames ++ before.frames
    journal := request.continuation.event ⟨request.command.kind, .error failure⟩ :: before.journal }
  /-- The pools are what they were. -/
  restored : before.pools.Restores request.command.kind after.pools
  /-- Every tag stands for what it stood for. -/
  lookup_eq : ∀ tag, after.tags.lookup? tag = before.tags.lookup? tag
  live_eq : after.tags.live = before.tags.live

/-- An engine after a request has been admitted: its records have been staged and counted, and
nobody has been told anything. -/
structure Engine.Admits (now : Instant) (request : Request τ) (admissions : List (Admission τ))
    (before after : Engine κ τ) : Prop where
  staged : after = { before with
    pools := after.pools
    tags := after.tags
    staged := before.staged ++ admissions.map Admission.record
    statistics.submitted := before.statistics.submitted + request.command.recordCount }
  /-- What is staged is the request and, behind it, its guard, -/
  errands_eq : admissions.map Admission.errand = request.errands now
  /-- linked to each other. -/
  links_eq : admissions.map (fun admission => admission.record.flags) = request.links
  proper : ∀ admission ∈ admissions, admission.Proper
  inFlight : ∀ admission ∈ admissions,
    after.gripUnder? admission.flight.tag = some admission.flight.grip

theorem Engine.Admits.length_eq {now : Instant} {request : Request τ}
    {admissions : List (Admission τ)} {before after : Engine κ τ}
    (admits : before.Admits now request admissions after) :
    admissions.length = request.command.recordCount := by
  have length := congrArg List.length admits.errands_eq
  rwa [List.length_map, Request.length_errands] at length

namespace Engine.Sound

variable {engine : Engine κ τ} {flights : Multiset (Flight τ)}
  {hand : Multiset (Grip (Continuation τ))} {request : Request τ} {failure : Failure}

/-- The step that has a request to stage decides about it. -/
theorem decides (sound : (engine.next (.stage request)).Sound flights hand) (platform : Platform κ)
    (spare : engine.inFlight + 2 ≤ UInt32.size) :
    (∃ failure, engine.obstacle? platform request = some failure ∧
      engine.Rejects request failure (engine.runFrame platform (.stage request))) ∨
    engine.obstacle? platform request = none ∧ ∃ admissions,
      engine.Admits (platform.now engine.world) request admissions
        (engine.runFrame platform (.stage request)) := by
  rcases sound.of_next rfl with ⟨below, -⟩
  have before := below.accounts.books
  rcases before.stages engine (below.room spare) platform request with
    ⟨pools, tags, failure, hindered, rejected, after, restored, -⟩ |
      ⟨clear, -, pools, tags, admissions, admitted, after, errands, links, proper⟩
  · refine .inl ⟨failure, hindered, ?_⟩
    simp only [Engine.runFrame, rejected, orRaise, deliver_some, Continuation.account_error]
    exact ⟨rfl, restored, after.lookup?_congr before, by
      rw [← after.card_flights, ← before.card_flights]⟩
  · refine .inr ⟨clear, admissions, ?_⟩
    simp only [Engine.runFrame, admitted, orRaise]
    refine ⟨rfl, errands, links, proper, fun admission admissionMem => ?_⟩
    apply gripUnder?_of_inFlight after.pools_wellFormed
    apply after.inFlight_iff.mpr
    exact ⟨admission.flight, Multiset.mem_add.mpr (.inl (List.mem_map_of_mem admissionMem)), rfl, rfl⟩

end Engine.Sound

/-- In every run, a request that a caller makes is put on top of what is to be done, below at most
what the ring refused when room was made for it. The step that has it on top decides about it. With
an obstacle in its way it is rejected with the first one, and otherwise it is admitted. That a kind
refuses parameters means that a path in them holds a NUL byte. -/
theorem decided_of_play {platform : Platform κ} {configuration : Configuration} {world : κ}
    {moves : List (Move κ τ)} {scene : Scene κ τ}
    (played : (Scene.opening configuration world).play? platform moves = some scene) :
    (∀ call request called, call.request? = some request →
      scene.move? platform call = some called →
      ∃ above, called.engine.frames = above ++ .stage request :: scene.engine.frames ∧
        ∀ frame ∈ above, frame.isRefuse) ∧
      (∀ request frames after, scene.engine.frames = .stage request :: frames →
        scene.move? platform .step = some after →
        let below := { scene.engine with frames := frames }
        match scene.engine.obstacle? platform request with
        | some failure => below.Rejects request failure after.engine
        | none => ∃ admissions,
          below.Admits (platform.now scene.engine.world) request admissions after.engine) ∧
      ∀ (kind : Kind) (now : Instant) (params : kind.Params) (failure : Failure),
        kind.refusal? now params = some failure ↔
          ¬ kind.Accepts params ∧ failure = .pathHoldsNul := by
  refine ⟨?_, ?_, fun kind now params failure => Kind.refusal?_eq_some⟩
  · intro call request called asks moved
    rcases Scene.move?_eq_some.mp moved with ⟨-, -, rfl⟩
    cases call with
    | request command label =>
        cases asks
        exact Engine.exists_frames_beginRequest platform _ scene.engine
    | requestPromise command promise =>
        cases asks
        exact Engine.exists_frames_beginRequest platform _ scene.engine
    | _ => cases asks
  · intro request frames after waits moved below
    rcases Scene.move?_eq_some.mp moved with ⟨allowed, -, rfl⟩
    rcases Scene.sound_of_play played with ⟨flights, hand, sound⟩
    have stepped := Engine.step_of_frames sound.healthy waits (by simp) platform
    rw [← scene.engine.next_pop waits] at sound
    have spare : scene.engine.inFlight + 2 ≤ UInt32.size := by simpa [Scene.allows] using allowed
    have same : scene.engine.obstacle? platform request = below.obstacle? platform request := rfl
    simp only [Scene.perform, stepped, same]
    rcases sound.decides platform spare with ⟨failure, hindered, rejects⟩ | ⟨clear, admissions, admits⟩
    · rw [hindered]
      exact rejects
    · rw [clear]
      exact ⟨admissions, admits⟩

open Simulation in
/-- With one slot for each kind, the only guard is in use when a file is to be opened within a time
limit. The slot for the file was there, and is the only thing that is left. -/
theorem decided_without_guard :
    let start := Scene.opening { Configuration.default with poolCeiling := some 1 }
      (Script.new 8 .wait none [])
    let platform := Script.platform (.silent _)
    ∃ (moves : List (Move Script String)) (scene after : Scene Script String)
      (request : Request String) (frames : List (Frame String)),
      start.play? platform moves = some scene ∧ scene.engine.frames = .stage request :: frames ∧
        scene.move? platform .step = some after ∧
        scene.engine.obstacle? platform request = some (.exhausted (.pool "timeout-guard")) ∧
        Engine.Rejects request (.exhausted (.pool "timeout-guard"))
          { scene.engine with frames := frames } after.engine ∧
        (scene.engine.pools.get .opening).free = [] ∧
        (after.engine.pools.get .opening).free = [0] := by
  intro start platform
  let moves : List (Move Script String) :=
    [Move.request ⟨.close, ⟨7⟩, some (.ofMillis 5)⟩ "close", Move.step,
      Move.request ⟨.opening, .ofPath [46], some (.ofMillis 5)⟩ "open"]
  let noGuard : Option Failure := some (.exhausted (.pool "timeout-guard"))
  have plays : (start.play? platform moves).any fun scene =>
      ((scene.engine.frames.head?.bind Frame.request?).any fun request =>
        scene.engine.obstacle? platform request = noGuard) &&
          (scene.engine.pools.get .opening).free.isEmpty &&
            (scene.move? platform .step).any fun after =>
              (after.engine.pools.get .opening).free == [0] := by
    decide +kernel
  simp only [Option.any_eq_true, Bool.and_eq_true, beq_iff_eq, List.isEmpty_iff,
    Option.bind_eq_some_iff, decide_eq_true_eq] at plays
  rcases plays with
    ⟨scene, played, ⟨⟨request, ⟨top, onTop, stages⟩, obstacle⟩, none⟩, after, moved, one⟩
  rcases List.head?_eq_some_iff.mp onTop with ⟨frames, frames_eq⟩
  have waits : scene.engine.frames = .stage request :: frames := by
    rw [frames_eq, Frame.request?_eq_some.mp stages]
  have decided := (decided_of_play played).2.1 request frames after waits moved
  rw [obstacle] at decided
  exact ⟨moves, scene, after, request, frames, played, waits, moved, obstacle, decided, none, one⟩

end CompletionEngine
