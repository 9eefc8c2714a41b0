import CompletionEngine.Proofs.Engine.Stack
import CompletionEngine.Proofs.Operation.Shown
import CompletionEngine.Proofs.Runs.Custody

/-!
# What a batch in hand has to tell

A batch is taken in hand as a whole and told record by record, while the code that it calls may do
anything. Yet what it has to tell is settled from the first: each record bears the tag of an
operation in flight, and whatever comes on top of the batch leaves this operation's entry alone. All
that can still matter is what the clock and the socket calls of the platform show in between.
-/

namespace CompletionEngine

variable {κ τ σ : Type}

theorem Continuation.eq_client (continuation : Continuation τ) :
    ∀ frame ∈ continuation.frames, frame = .client := by
  cases continuation <;> simp [frames]

namespace Engine

/-- What a completion tells, and the platform after that. -/
def tells (platform : Platform κ) (record : CompletionRecord) (world : κ) (engine : Engine κ τ) :
    List (Event τ) × κ :=
  if record.userData = wakeUserData then
    let (outcome, world) := platform.notifier.acknowledge world
    ([.acknowledged outcome], world)
  else match engine.gripUnder? (tagOfCompletion record.userData) with
    | none => ([], world)
    | some grip =>
      let (outcome, world) := grip.outcome platform record world
      ((grip.entry.continuation.map fun continuation => continuation.event outcome).toList, world)

/-- What a refused record tells. -/
def tellsRefusal (failure : Failure) (engine : Engine κ τ) (record : SubmitRecord) :
    List (Event τ) :=
  if record.userData = wakeUserData then []
  else match engine.gripUnder? record.userData.toUInt32 with
    | none => []
    | some grip => (grip.entry.continuation.map fun continuation =>
        continuation.event ⟨grip.reference.kind, .error failure⟩).toList

/-- What some completions tell, one after the other. -/
def tellsAll (platform : Platform κ) (engine : Engine κ τ) :
    List CompletionRecord → κ → List (Event τ)
  | [], _ => []
  | record :: rest, world =>
    let (events, world) := engine.tells platform record world
    events ++ engine.tellsAll platform rest world

/-- What a batch in hand has to tell, the first in front: how the ring translates or refuses each of
its records. -/
def news (platform : Platform κ) (batch : Frame τ) (world : κ) (engine : Engine κ τ) :
    List (Event τ) :=
  match batch with
  | .dispatch records _ _ => engine.tellsAll platform records world
  | .refuse records failure _ => records.flatMap (engine.tellsRefusal failure)
  | _ => []

theorem news_of_spent {platform : Platform κ} {batch : Frame τ} (spent : batch.userData = 0)
    (world : κ) (engine : Engine κ τ) : engine.news platform batch world = [] := by
  cases batch with
  | dispatch records delivered outer =>
      obtain rfl : records = [] := by simpa [Frame.userData] using spent
      rfl
  | refuse records failure outer =>
      obtain rfl : records = [] := by simpa [Frame.userData] using spent
      rfl
  | _ => rfl

/-- The operations that a batch bears are the same in two engines. -/
def Retains (batch : Frame τ) (before after : Engine κ τ) : Prop :=
  ∀ userData ∈ batch.userData, userData ≠ wakeUserData →
    ∃ tag : UInt32, tag.toUInt64 = userData ∧ after.gripUnder? tag = before.gripUnder? tag

namespace Retains

variable {platform : Platform κ} {view : κ → σ} {before after : Engine κ τ} {left right : κ}

theorem tells {batch : Frame τ} (retains : before.Retains batch after)
    (shown : platform.ShownBy view) {record : CompletionRecord}
    (borne : record.userData ∈ batch.userData) (same : view left = view right) :
    SameTo view (after.tells platform record right) (before.tells platform record left) := by
  unfold Engine.tells
  split
  · rcases (shown.acknowledge same.symm).exists_answer with
      ⟨outcome, world, other, left_eq, right_eq, sameAfter⟩
    rw [left_eq, right_eq]
    exact ⟨rfl, sameAfter⟩
  · rename_i operation
    rcases retains record.userData borne operation with ⟨tag, named, kept⟩
    rw [← named, Sound.tagOfCompletion_toUInt64, kept]
    cases before.gripUnder? tag with
    | none => exact ⟨rfl, same.symm⟩
    | some grip =>
        rcases (shown.outcome grip record same.symm).exists_answer with
          ⟨outcome, world, other, left_eq, right_eq, sameAfter⟩
        dsimp only
        rw [left_eq, right_eq]
        exact ⟨rfl, sameAfter⟩

theorem tellsAll {records : List CompletionRecord} {delivered : ℕ} {outer : Bool}
    (retains : before.Retains (.dispatch records delivered outer) after)
    (shown : platform.ShownBy view) (same : view left = view right) :
    after.tellsAll platform records right = before.tellsAll platform records left := by
  induction records generalizing left right with
  | nil => rfl
  | cons record rest ih =>
      have first : record.userData ∈
          (Frame.dispatch (record :: rest) delivered outer : Frame τ).userData :=
        Multiset.mem_coe.mpr List.mem_cons_self
      rcases (retains.tells shown first same).exists_answer with
        ⟨events, world, other, left_eq, right_eq, sameAfter⟩
      have others : before.Retains (.dispatch rest delivered outer) after :=
        fun userData borne => retains userData (Multiset.mem_cons_of_mem borne)
      simp only [Engine.tellsAll, left_eq, right_eq]
      rw [ih others sameAfter.symm]

theorem tellsRefusal {records : List SubmitRecord} {failure : Failure} {outer : Bool}
    (retains : before.Retains (.refuse records failure outer) after) :
    records.flatMap (after.tellsRefusal failure) = records.flatMap (before.tellsRefusal failure) := by
  refine List.flatMap_congr fun record recordMem => ?_
  unfold Engine.tellsRefusal
  split
  · rfl
  · rename_i operation
    have borne : record.userData ∈ (Frame.refuse records failure outer : Frame τ).userData :=
      Multiset.mem_coe.mpr (List.mem_map_of_mem recordMem)
    rcases retains record.userData borne operation with ⟨tag, named, kept⟩
    rw [← named, UInt32.toUInt32_toUInt64, kept]

/-- Two engines with the same operations have the same to tell of a batch, if the same is seen of
their platforms. For what the ring has refused, not even that matters. -/
theorem news {batch : Frame τ} (retains : before.Retains batch after)
    (shown : platform.ShownBy view) (same : batch.isRefuse = false → view left = view right) :
    after.news platform batch right = before.news platform batch left := by
  cases batch with
  | dispatch records delivered outer => exact retains.tellsAll shown (same rfl)
  | refuse records failure outer => exact retains.tellsRefusal
  | _ => rfl

end Retains

/-- The turn of the next record of a batch that lies on an engine. -/
structure Turn (platform : Platform κ) (engine : Engine κ τ) (batch next : Frame τ)
    (event : Option (Event τ)) (above : List (Frame τ)) : Prop where
  isBatch : next.isBatch
  isRefuse_eq : next.isRefuse = batch.isRefuse
  userData_le : next.userData ≤ batch.userData
  called : ∀ frame ∈ above, frame = .client
  frames_eq : (engine.runFrame platform batch).frames = above ++ next :: engine.frames
  journal_eq : (engine.runFrame platform batch).journal = event.toList ++ engine.journal
  news_eq : (engine.next batch).news platform batch engine.world = event.toList ++
    (engine.next batch).news platform next (engine.runFrame platform batch).world

namespace Sound

variable {engine : Engine κ τ} {flights : Multiset (Flight τ)}
  {hand : Multiset (Grip (Continuation τ))}

theorem turn_dispatch {record : CompletionRecord} {rest : List CompletionRecord} {delivered : ℕ}
    {outer : Bool} (platform : Platform κ)
    (sound : (engine.next (.dispatch (record :: rest) delivered outer)).Sound flights hand) :
    ∃ next event above,
      engine.Turn platform (.dispatch (record :: rest) delivered outer) next event above := by
  by_cases wake : record.userData = wakeUserData
  · have turned : engine.runFrame platform (.dispatch (record :: rest) delivered outer) =
        (engine.next (.dispatch rest delivered outer)).acknowledge platform := by
      rw [Engine.runFrame, if_pos wake]
    refine ⟨.dispatch rest delivered outer,
      some (.acknowledged (platform.notifier.acknowledge engine.world).1), [], rfl, rfl,
      Multiset.le_cons_self _ _, by simp, by rw [turned]; rfl, by rw [turned]; rfl, ?_⟩
    rw [turned]
    simp only [news, tellsAll, tells, if_pos wake]
    rfl
  · rcases sound.dispatchOne_eq platform wake with
      ⟨flight, others, continuation, pools, tags, rfl, named, holds, books, dispatched⟩
    have turned : engine.runFrame platform (.dispatch (record :: rest) delivered outer) =
        ({ engine.next (.dispatch rest (delivered + 1) outer) with
          pools := pools
          tags := tags
          statistics.completed := engine.statistics.completed + 1
          world := (flight.grip.outcome platform record engine.world).2 } : Engine κ τ).deliver
            (some continuation) (flight.grip.outcome platform record engine.world).1 := by
      simp only [Engine.runFrame, if_neg wake, dispatched]
      rfl
    rw [deliver_some] at turned
    refine ⟨.dispatch rest (delivered + 1) outer,
      some (continuation.event (flight.grip.outcome platform record engine.world).1),
      continuation.frames, rfl, rfl, Multiset.le_cons_self _ _, continuation.eq_client,
      by rw [turned]; rfl, by rw [turned]; rfl, ?_⟩
    rw [turned]
    simp only [news, tellsAll, tells, if_neg wake]
    rw [← named, Sound.tagOfCompletion_toUInt64, sound.gripUnder?_eq]
    simp only [holds]
    rfl

theorem turn_refuse {record : SubmitRecord} {rest : List SubmitRecord} {failure : Failure}
    {outer : Bool} (platform : Platform κ)
    (sound : (engine.next (.refuse (record :: rest) failure outer)).Sound flights hand) :
    ∃ next event above,
      engine.Turn platform (.refuse (record :: rest) failure outer) next event above := by
  by_cases wake : record.userData = wakeUserData
  · have turned : engine.runFrame platform (.refuse (record :: rest) failure outer) =
        { engine.next (.refuse rest failure outer) with wakeArmed := false } := by
      rw [Engine.runFrame, if_pos wake]
    refine ⟨.refuse rest failure outer, none, [], rfl, rfl, Multiset.le_cons_self _ _, by simp,
      by rw [turned]; rfl, by rw [turned]; rfl, ?_⟩
    simp only [news, List.flatMap_cons, tellsRefusal, if_pos wake]
    rfl
  · rcases sound.refuseOne_eq wake with
      ⟨flight, others, continuation, pools, tags, rfl, named, holds, books, refused⟩
    have turned : engine.runFrame platform (.refuse (record :: rest) failure outer) =
        ({ engine.next (.refuse rest failure outer) with
          pools := pools
          tags := tags } : Engine κ τ).deliver (some continuation)
            ⟨flight.grip.reference.kind, .error failure⟩ := by
      simp only [Engine.runFrame, if_neg wake, refused]
      rfl
    rw [deliver_some] at turned
    refine ⟨.refuse rest failure outer,
      some (continuation.event ⟨flight.grip.reference.kind, .error failure⟩), continuation.frames,
      rfl, rfl, Multiset.le_cons_self _ _, continuation.eq_client, by rw [turned]; rfl,
      by rw [turned]; rfl, ?_⟩
    simp only [news, List.flatMap_cons, tellsRefusal, if_neg wake]
    rw [← named, UInt32.toUInt32_toUInt64, sound.gripUnder?_eq]
    simp only [holds]
    rfl

theorem exists_turn {batch : Frame τ} (sound : (engine.next batch).Sound flights hand)
    (isBatch : batch.isBatch) (more : batch.userData ≠ 0) (platform : Platform κ) :
    ∃ next event above, engine.Turn platform batch next event above := by
  cases batch with
  | dispatch records delivered outer =>
      cases records with
      | nil => exact absurd rfl more
      | cons record rest => exact sound.turn_dispatch platform
  | refuse records failure outer =>
      cases records with
      | nil => exact absurd rfl more
      | cons record rest => exact sound.turn_refuse platform
  | _ => cases isBatch

theorem gone_of_spent {batch : Frame τ} (isBatch : batch.isBatch) (spent : batch.userData = 0)
    (engine : Engine κ τ) (platform : Platform κ) {next : Frame τ} {above : List (Frame τ)}
    (still : (engine.runFrame platform batch).frames = above ++ next :: engine.frames) :
    next.isBatch = false := by
  have same_of_cut (others : List (Frame τ)) {other : Frame τ}
      (cut : (engine.runFrame platform batch).frames = others ++ other :: engine.frames) :
      next = other :=
    (List.cons.inj (List.append_inj' (still.symm.trans cut) rfl).2).1
  cases batch with
  | dispatch records delivered outer =>
      obtain rfl : records = [] := by simpa [Frame.userData] using spent
      rcases endDispatch_cases (engine.next (.report delivered)) outer with
        ⟨-, -, begun⟩ | ⟨-, left⟩
      · rw [same_of_cut [.emptyInbox] (congrArg Engine.frames begun)]
        rfl
      · rw [same_of_cut [] (congrArg Engine.frames left)]
        rfl
  | refuse records failure outer =>
      obtain rfl : records = [] := by simpa [Frame.userData] using spent
      rcases endDispatch_cases engine outer with ⟨-, -, begun⟩ | ⟨-, left⟩
      · rw [same_of_cut [] (congrArg Engine.frames begun)]
        rfl
      · rw [Engine.runFrame, left] at still
        have count := congrArg List.length still
        simp only [List.length_append, List.length_cons] at count
        omega
  | _ => cases isBatch

theorem step_batch {batch : Frame τ} (sound : (engine.next batch).Sound flights hand)
    (isBatch : batch.isBatch) (platform : Platform κ) :
    (engine.next batch).step platform = engine.runFrame platform batch := by
  rcases step_cases (engine.next batch) platform with ⟨waits, -⟩ | ⟨lower, frame, same, stepped⟩
  · rcases frames_of_awaitsCaller sound.healthy waits with empty | ⟨others, running⟩
    · cases empty
    · cases (List.cons.inj running).1
      cases isBatch
  · rcases next_inj.mp same with ⟨rfl, rfl⟩
    exact stepped

theorem not_released_of_inHand {batch : Frame τ} (sound : engine.Sound flights hand)
    (isBatch : batch.isBatch) (batchMem : batch ∈ engine.frames) :
    ¬Released engine.frames engine.terminated := by
  intro released
  have idle := (sound.disciplined.released released).2
  rw [sound.disciplined.dispatching_eq, List.any_eq_false] at idle
  exact idle batch batchMem isBatch

/-- Tags are not given out again while a batch bears them, so its operations stay the same as long as
what is in flight under its tags has been in flight before. -/
theorem retains {batch : Frame τ} {after : Engine κ τ} {others : Multiset (Flight τ)}
    {otherHand : Multiset (Grip (Continuation τ))} (sound : engine.Sound flights hand)
    (soundAfter : after.Sound others otherHand) (isBatch : batch.isBatch)
    (batchMem : batch ∈ after.frames)
    (kept : ∀ tag grip, tag.toUInt64 ∈ batch.userData → after.InFlight tag grip →
      engine.InFlight tag grip) : engine.Retains batch after := by
  intro userData borne operation
  have played := mem_inPlay_of_frame operation batchMem borne
  rw [soundAfter.accounts.inPlay_eq (soundAfter.not_released_of_inHand isBatch batchMem)] at played
  rcases Multiset.mem_map.mp played with ⟨flight, flightMem, rfl⟩
  have inFlight : after.InFlight flight.tag flight.grip :=
    soundAfter.accounts.books.inFlight_iff.mpr ⟨flight, flightMem, rfl, rfl⟩
  refine ⟨flight.tag, rfl, ?_⟩
  rw [gripUnder?_of_inFlight soundAfter.accounts.books.pools_wellFormed inFlight,
    gripUnder?_of_inFlight sound.accounts.books.pools_wellFormed
      (kept flight.tag flight.grip borne inFlight)]

end Sound

end Engine

namespace Scene

/-- A batch lies just above these frames. -/
def Holds (rest : List (Frame τ)) (batch : Frame τ) (scene : Scene κ τ) : Prop :=
  batch.isBatch ∧ ∃ above, scene.engine.frames = above ++ batch :: rest

/-- Whether a move is the turn of what lies on top of a stack of some height. -/
def isTurn (height : ℕ) (move : Move κ τ) (scene : Scene κ τ) : Bool :=
  match move with
  | .step => scene.engine.frames.length == height
  | _ => false

/-- What a batch tells in the course of some moves, the first in front, when the stack is of this
height with the batch on top. -/
def told (platform : Platform κ) (height : ℕ) (moves : List (Move κ τ)) (start : Scene κ τ) :
    List (Event τ) :=
  start.knows platform (fun move before after told =>
    if before.isTurn height move then told ++ (before.engine.eventsSince after.engine).reverse
    else told) [] moves

/-- All through a run, a batch is in hand just above these frames. -/
def KeepsInHand (platform : Platform κ) (rest : List (Frame τ)) (moves : List (Move κ τ))
    (start : Scene κ τ) : Prop :=
  ∀ part scene, part <+: moves → start.play? platform part = some scene →
    ∃ batch, scene.Holds rest batch

/-- In a run, only the turns of a batch change what is seen of the platform. -/
def Still (platform : Platform κ) (view : κ → σ) (height : ℕ) (moves : List (Move κ τ))
    (start : Scene κ τ) : Prop :=
  ∀ part move before, part ++ [move] <+: moves → start.play? platform part = some before →
    before.isTurn height move = false →
      view (before.perform platform move).engine.world = view before.engine.world

theorem Holds.unique {rest : List (Frame τ)} {batch other : Frame τ} {scene : Scene κ τ}
    (holds : scene.Holds rest batch) (holdsOther : scene.Holds rest other) : batch = other := by
  rcases holds with ⟨-, above, frames_eq⟩
  rcases holdsOther with ⟨-, others, others_eq⟩
  exact (List.cons.inj (List.append_inj' (frames_eq.symm.trans others_eq) rfl).2).1

theorem Holds.on_top {rest : List (Frame τ)} {batch : Frame τ} {scene : Scene κ τ} {move : Move κ τ}
    (holds : scene.Holds rest batch) (turn : scene.isTurn (rest.length + 1) move) :
    move = .step ∧ scene.engine.frames = batch :: rest := by
  rcases holds with ⟨-, above, frames_eq⟩
  cases move with
  | step =>
      have height : scene.engine.frames.length = rest.length + 1 := by simpa [isTurn] using turn
      rw [frames_eq, List.length_append, List.length_cons] at height
      obtain rfl : above = [] := List.length_eq_zero_iff.mp (by omega)
      exact ⟨rfl, frames_eq⟩
  | _ => cases turn

section Moves

variable {platform : Platform κ} {engine : Engine κ τ} {pushes : List (PushPhase (Task τ))}
  {move : Move κ τ} {flights : Multiset (Flight τ)} {hand : Multiset (Grip (Continuation τ))}
  {batch left : Frame τ} {rest : List (Frame τ)}

theorem buildsOn_perform (notStep : move ≠ .step) (notFinish : move ≠ .finish) :
    engine.BuildsOn ((Scene.mk engine pushes).perform platform move).engine := by
  cases move with
  | step => exact absurd rfl notStep
  | finish => exact absurd rfl notFinish
  | request command label =>
      exact (engine.buildsOn_next _).trans (engine.buildsOn_beginRequest platform _)
  | requestPromise command promise =>
      exact (engine.buildsOn_next _).trans (engine.buildsOn_beginRequest platform _)
  | cycle limit => exact engine.buildsOn_next _
  | work => exact engine.buildsOn_next _
  | shutdown => exact engine.buildsOn_shutdown
  | drop =>
      simp only [perform, Engine.drop]
      split
      · exact .of_same rfl rfl
      · exact engine.buildsOn_shutdown
  | advance index =>
      simp only [perform, advance]
      split
      · exact .of_same rfl rfl
      · rename_i phase _
        rcases advancePush_eq engine platform phase with ⟨world, advanced⟩
        rw [advanced]
        exact .of_same rfl rfl
  | push | closeInbox | wake | drift => exact .of_same rfl rfl

/-- Every move but its own turns leaves a batch where it lies. -/
theorem suffix_perform (platform : Platform κ) (sound : engine.Sound flights hand)
    (allowed : (Scene.mk engine pushes).allows move)
    (holds : (Scene.mk engine pushes).Holds rest batch)
    (other : (Scene.mk engine pushes).isTurn (rest.length + 1) move = false) :
    batch :: rest <:+ ((Scene.mk engine pushes).perform platform move).engine.frames := by
  rcases holds with ⟨isBatch, above, frames_eq⟩
  change engine.frames = above ++ batch :: rest at frames_eq
  have below : batch :: rest <:+ engine.frames := ⟨above, frames_eq.symm⟩
  by_cases step : move = .step
  · subst step
    rcases Engine.step_cases engine platform with ⟨-, same⟩ | ⟨lower, frame, rfl, stepped⟩
    · rw [perform, same]
      exact below
    · cases above with
      | nil =>
          have height := congrArg List.length frames_eq
          simp [isTurn, height] at other
      | cons first above =>
          rw [perform, stepped]
          have spare : (lower.next frame).inFlight + 2 ≤ UInt32.size := by
            simpa [allows] using allowed
          have rest_eq : lower.frames = above ++ batch :: rest := (List.cons.inj frames_eq).2
          exact (List.IsSuffix.trans ⟨above, rest_eq.symm⟩ (sound.suffix_runFrame platform spare))
  · by_cases finish : move = .finish
    · subst finish
      simp only [perform, Engine.finish]
      split
      · rename_i lower running
        rw [running] at frames_eq
        cases above with
        | nil =>
            cases (List.cons.inj frames_eq).1
            cases isBatch
        | cons first above => exact ⟨above, (List.cons.inj frames_eq).2.symm⟩
      · exact below
    · exact below.trans (buildsOn_perform step finish).frames

/-- A batch with something left to tell stays in hand. -/
theorem exists_holds_perform (sound : engine.Sound flights hand)
    (allowed : (Scene.mk engine pushes).allows move)
    (holds : (Scene.mk engine pushes).Holds rest batch) (more : batch.userData ≠ 0) :
    ∃ left, ((Scene.mk engine pushes).perform platform move).Holds rest left := by
  cases turn : (Scene.mk engine pushes).isTurn (rest.length + 1) move with
  | false =>
      rcases suffix_perform platform sound allowed holds turn with ⟨above, frames_eq⟩
      exact ⟨batch, holds.1, above, frames_eq.symm⟩
  | true =>
      rcases holds.on_top turn with ⟨rfl, frames_eq⟩
      change engine.frames = batch :: rest at frames_eq
      rw [← engine.next_pop frames_eq] at sound ⊢
      rcases sound.exists_turn holds.1 more platform with ⟨next, event, above, turned⟩
      refine ⟨next, turned.isBatch, above, ?_⟩
      rw [perform, sound.step_batch holds.1 platform, turned.frames_eq]

theorem retains_perform (platform : Platform κ) (sound : engine.Sound flights hand)
    (allowed : (Scene.mk engine pushes).allows move)
    (keeps : keepsContract ((Scene.mk engine pushes).perform platform move).engine.journal)
    (holds : ((Scene.mk engine pushes).perform platform move).Holds rest left)
    (batchMem : batch ∈ engine.frames) (fewer : left.userData ≤ batch.userData) :
    engine.Retains left ((Scene.mk engine pushes).perform platform move).engine := by
  rcases sound_perform sound allowed keeps with ⟨others, otherHand, soundAfter⟩
  rcases holds with ⟨isBatch, above, frames_eq⟩
  refine sound.retains soundAfter isBatch (by rw [frames_eq]; simp) ?_
  intro tag grip borne inFlight
  refine inFlight_of_perform sound allowed keeps ?_ inFlight
  exact Engine.mem_inPlay_of_frame (tag_ne_wakeUserData tag) batchMem (Multiset.mem_of_le fewer borne)

/-- A batch that is in hand after its turn has had the turn of a record. -/
theorem turn_of_holds (sound : (engine.next batch).Sound flights hand) (isBatch : batch.isBatch)
    (holds : (Scene.mk (engine.runFrame platform batch) pushes).Holds engine.frames left) :
    ∃ event above, engine.Turn platform batch left event above := by
  have more : batch.userData ≠ 0 := by
    intro spent
    rcases holds with ⟨isBatchAfter, above, frames_eq⟩
    cases (Engine.Sound.gone_of_spent isBatch spent engine platform frames_eq).symm.trans isBatchAfter
  rcases sound.exists_turn isBatch more platform with ⟨next, event, above, turned⟩
  obtain rfl : left = next := holds.unique ⟨turned.isBatch, above, turned.frames_eq⟩
  exact ⟨event, above, turned⟩

/-- In its turn, a batch tells what it had to tell next. -/
theorem news_step (sound : (engine.next batch).Sound flights hand)
    (allowed : (Scene.mk (engine.next batch) pushes).allows .step)
    (keeps : keepsContract ((engine.next batch).step platform).journal) (isBatch : batch.isBatch)
    (holds : (Scene.mk ((engine.next batch).step platform) pushes).Holds engine.frames left) :
    left.isRefuse = batch.isRefuse ∧ (engine.next batch).news platform batch engine.world =
      ((engine.next batch).eventsSince ((engine.next batch).step platform)).reverse ++
        ((engine.next batch).step platform).news platform left
          ((engine.next batch).step platform).world := by
  have stepped := sound.step_batch isBatch platform
  have retains (fewer : left.userData ≤ batch.userData) :
      (engine.next batch).Retains left (engine.runFrame platform batch) := by
    rw [← stepped]
    exact retains_perform platform sound allowed keeps holds List.mem_cons_self fewer
  rw [stepped] at holds ⊢
  rcases turn_of_holds sound isBatch holds with ⟨event, above, turned⟩
  have written : (engine.next batch).eventsSince (engine.runFrame platform batch) = event.toList :=
    Engine.eventsSince_eq turned.journal_eq
  have single : event.toList.reverse = event.toList := by cases event <;> rfl
  refine ⟨turned.isRefuse_eq, ?_⟩
  rw [turned.news_eq, written, single,
    (retains turned.userData_le).news platform.shownBy_id fun _ => rfl]

/-- With each move, a batch tells what it had to tell next, if it is its turn, and nothing else
changes what is left. -/
theorem news_perform {view : κ → σ} (sound : engine.Sound flights hand)
    (allowed : (Scene.mk engine pushes).allows move)
    (keeps : keepsContract ((Scene.mk engine pushes).perform platform move).engine.journal)
    (shown : platform.ShownBy view) (holds : (Scene.mk engine pushes).Holds rest batch)
    (holdsAfter : ((Scene.mk engine pushes).perform platform move).Holds rest left)
    (still : (Scene.mk engine pushes).isTurn (rest.length + 1) move = false →
      batch.isRefuse = false →
        view ((Scene.mk engine pushes).perform platform move).engine.world = view engine.world) :
    left.isRefuse = batch.isRefuse ∧ engine.news platform batch engine.world =
      (if (Scene.mk engine pushes).isTurn (rest.length + 1) move then
          (engine.eventsSince ((Scene.mk engine pushes).perform platform move).engine).reverse
        else []) ++ ((Scene.mk engine pushes).perform platform move).engine.news platform left
          ((Scene.mk engine pushes).perform platform move).engine.world := by
  cases turn : (Scene.mk engine pushes).isTurn (rest.length + 1) move with
  | false =>
      rcases suffix_perform platform sound allowed holds turn with ⟨above, frames_eq⟩
      obtain rfl : left = batch := holdsAfter.unique ⟨holds.1, above, frames_eq.symm⟩
      have batchMem : left ∈ engine.frames := by
        rcases holds with ⟨-, others, others_eq⟩
        rw [others_eq]
        simp
      have retains := retains_perform platform sound allowed keeps holdsAfter batchMem le_rfl
      refine ⟨rfl, ?_⟩
      simpa using (retains.news shown fun translates => (still turn translates).symm).symm
  | true =>
      rcases holds.on_top turn with ⟨rfl, frames_eq⟩
      change engine.frames = batch :: rest at frames_eq
      rw [← engine.next_pop frames_eq] at sound allowed keeps holdsAfter ⊢
      exact news_step sound allowed keeps holds.1 holdsAfter

end Moves

section Runs

variable {platform : Platform κ} {start scene : Scene κ τ} {moves more : List (Move κ τ)}
  {batch left : Frame τ} {rest : List (Frame τ)}

theorem KeepsInHand.of_append (keeps : start.KeepsInHand platform rest (moves ++ more)) :
    start.KeepsInHand platform rest moves :=
  fun part scene isPart => keeps part scene (isPart.trans (List.prefix_append moves more))

theorem Still.of_append {view : κ → σ} {height : ℕ}
    (still : start.Still platform view height (moves ++ more)) :
    start.Still platform view height moves :=
  fun part move before isPart =>
    still part move before (isPart.trans (List.prefix_append moves more))

theorem told_concat (height : ℕ) (played : start.play? platform moves = some scene)
    (move : Move κ τ) :
    start.told platform height (moves ++ [move]) = start.told platform height moves ++
      if scene.isTurn height move then
        (scene.engine.eventsSince (scene.perform platform move).engine).reverse
      else [] := by
  rw [told, knows_concat platform _ [] played]
  split
  · rfl
  · rw [List.append_nil]
    rfl

/-- In every run a batch stays in hand, unless the run comes to a moment when all of it has been
told. -/
theorem keeps_or_spent (sound : start.Sound) (holds : start.Holds rest batch)
    (played : start.play? platform moves = some scene) :
    start.KeepsInHand platform rest moves ∨ ∃ part between leftover, part <+: moves ∧
      start.play? platform part = some between ∧ start.KeepsInHand platform rest part ∧
        between.Holds rest leftover ∧ leftover.userData = 0 := by
  have kept : scene.Sound ∧ (start.KeepsInHand platform rest moves ∨ ∃ part between leftover,
      part <+: moves ∧ start.play? platform part = some between ∧
        start.KeepsInHand platform rest part ∧ between.Holds rest leftover ∧
          leftover.userData = 0) := by
    refine play?_induction (fun moves scene => scene.Sound ∧
      (start.KeepsInHand platform rest moves ∨ ∃ part between leftover, part <+: moves ∧
        start.play? platform part = some between ∧ start.KeepsInHand platform rest part ∧
          between.Holds rest leftover ∧ leftover.userData = 0)) ?_ ?_ played
    · refine ⟨sound, .inl fun part scene isPart reached => ?_⟩
      rw [List.prefix_nil.mp isPart] at reached
      cases reached
      exact ⟨batch, holds⟩
    · rintro moves before move after playedBefore ⟨soundBefore, cases⟩ moved
      rcases move?_eq_some.mp moved with ⟨allowed, contract, rfl⟩
      rcases soundBefore with ⟨flights, hand, soundBefore⟩
      refine ⟨sound_perform soundBefore allowed contract, ?_⟩
      rcases cases with keeps | ⟨part, between, leftover, isPart, reached⟩
      · rcases keeps moves before List.prefix_rfl playedBefore with ⟨left, holdsBefore⟩
        by_cases spent : left.userData = 0
        · exact .inr ⟨moves, before, left, List.prefix_append _ _, playedBefore, keeps, holdsBefore,
            spent⟩
        · left
          intro part between isPart reached
          rcases List.prefix_concat_iff.mp isPart with whole | isPart
          · rw [whole] at reached
            cases reached.symm.trans (play?_concat_eq_some.mpr ⟨before, playedBefore, moved⟩)
            exact exists_holds_perform soundBefore allowed holdsBefore spent
          · exact keeps part between isPart reached
      · exact .inr ⟨part, between, leftover, isPart.trans (List.prefix_append _ _), reached⟩
  exact kept.2

/-- What a batch has told in the course of a run, and what it has left to tell, is what it had to tell
at the start. -/
theorem news_of_play {view : κ → σ} (sound : start.Sound) (holds : start.Holds rest batch)
    (shown : platform.ShownBy view) (played : start.play? platform moves = some scene)
    (keeps : start.KeepsInHand platform rest moves)
    (still : batch.isRefuse = false → start.Still platform view (rest.length + 1) moves)
    (holdsAfter : scene.Holds rest left) :
    start.engine.news platform batch start.engine.world =
      start.told platform (rest.length + 1) moves ++
        scene.engine.news platform left scene.engine.world := by
  -- The conditions speak of every part of the run, so the induction takes them along.
  have kept : scene.Sound ∧ (start.KeepsInHand platform rest moves →
      (batch.isRefuse = false → start.Still platform view (rest.length + 1) moves) →
        ∀ left, scene.Holds rest left → left.isRefuse = batch.isRefuse ∧
          start.engine.news platform batch start.engine.world =
            start.told platform (rest.length + 1) moves ++
              scene.engine.news platform left scene.engine.world) := by
    refine play?_induction (fun moves scene => scene.Sound ∧
      (start.KeepsInHand platform rest moves →
        (batch.isRefuse = false → start.Still platform view (rest.length + 1) moves) →
          ∀ left, scene.Holds rest left → left.isRefuse = batch.isRefuse ∧
            start.engine.news platform batch start.engine.world =
              start.told platform (rest.length + 1) moves ++
                scene.engine.news platform left scene.engine.world)) ?_ ?_ played
    · refine ⟨sound, fun _ _ left holdsNow => ?_⟩
      rw [holdsNow.unique holds]
      exact ⟨rfl, rfl⟩
    · rintro moves before move after playedBefore ⟨⟨flights, hand, soundBefore⟩, told⟩ moved
      rcases move?_eq_some.mp moved with ⟨allowed, contract, rfl⟩
      refine ⟨sound_perform soundBefore allowed contract, ?_⟩
      intro keeps still left holdsAfter
      rcases keeps moves before (List.prefix_append _ _) playedBefore with ⟨between, holdsBefore⟩
      rcases told keeps.of_append (fun translates => (still translates).of_append) between
        holdsBefore with ⟨refuses_eq, news_eq⟩
      rcases news_perform soundBefore allowed contract shown holdsBefore holdsAfter
        (fun other translates => still (refuses_eq ▸ translates) moves move before List.prefix_rfl
          playedBefore other) with ⟨refuses_eq', news_eq'⟩
      refine ⟨refuses_eq'.trans refuses_eq, ?_⟩
      rw [news_eq, news_eq', told_concat _ playedBefore, List.append_assoc]
  exact (kept.2 keeps still left holdsAfter).2

end Runs

end Scene

end CompletionEngine
