import CompletionEngine.Proofs.Engine.Places
import CompletionEngine.Proofs.Runs.Course
import CompletionEngine.Proofs.Runs.Results

/-!
# What the ring has been lent stays put

The ring reads and writes memory that entries own, from the push of a record on until its completion
has been delivered. Over this time the entry lies in the same slot under the same tag, and nothing
about it changes, whatever continuations, refusals and new requests do in between. So it renders to
the record that was pushed: the record points at the same places, and there lies what lay there when
it was pushed. What the kernel writes arrives with the completion.

The places belong to the entry alone. No other entry, in use or free, owns a block there, and a pool
that grows or an operation that is prepared gets no block there.

Until the ring is given up, the record of every operation in flight is in just one place: it is
staged, or refused and in hand, or with the ring, or completed and in hand.
-/

namespace CompletionEngine

variable {κ τ : Type}

namespace Engine

/-- The number of records with these user data that are staged, refused and in hand, with the ring,
and completed and in hand. -/
def copies (userData : UInt64) (engine : Engine κ τ) : ℕ :=
  (engine.staged.map SubmitRecord.userData).count userData +
    ((refusalsInHand engine.frames).map fun row => row.1.userData).count userData +
    (outstanding engine.journal).count userData +
    ((completionsInHand engine.frames).map CompletionRecord.userData).count userData

/-- What the ring has been lent is in order. -/
structure Lends (engine : Engine κ τ) : Prop where
  /-- A record that was pushed, and whose completion has not been delivered, belongs to the entry
  under its tag: the entry lies in a slot in use, waits for the kernel, and renders to just the
  record that was pushed last with these user data. What the record points at is the memory of this
  entry alone. -/
  lent : ∀ userData, engine.Handed userData → userData ≠ wakeUserData →
    ∃ tag reference entry, tag.toUInt64 = userData ∧ engine.tags.lookup? tag = some reference ∧
      reference.slot ∉ (engine.pools.get reference.kind).free ∧
      (engine.pools.get reference.kind).entries[reference.slot.toNat]? = some entry ∧
      entry.state = .submitted ∧
      (accepted engine.journal).find? (fun record => record.userData = userData) =
        some (entry.render .blank) ∧
      ∀ place ∈ (entry.render .blank).places, engine.pools.OwnsAlone reference place
  /-- The blocks of all entries lie apart. -/
  apart : engine.pools.Apart
  /-- The record of an operation in flight is in one place. -/
  placed : ∀ tag, (engine.tags.lookup? tag).isSome → engine.copies tag.toUInt64 = 1
  /-- There is no other record in any of these places. -/
  live : ∀ userData, userData ≠ wakeUserData → 0 < engine.copies userData →
    ∃ tag, tag.toUInt64 = userData ∧ (engine.tags.lookup? tag).isSome

theorem copies_eq_count (engine : Engine κ τ) (userData : UInt64) :
    engine.copies userData = ((engine.staged.map SubmitRecord.userData : Multiset UInt64) +
      (engine.frames.map Frame.userData).sum + outstanding engine.journal).count userData := by
  rw [sum_userData]
  simp only [Multiset.count_add, Multiset.coe_count, copies]
  omega

theorem copies_eq {engine : Engine κ τ} {userData : UInt64} (operation : userData ≠ wakeUserData) :
    engine.copies userData =
      (inPlay engine.staged engine.frames engine.journal).count userData := by
  rw [copies_eq_count, inPlay, Multiset.count_filter, if_pos operation]

theorem Passes.inFlight {before after : Engine κ τ} (passes : before.Passes after) {tag : UInt32}
    {grip : Grip (Continuation τ)} (inFlight : after.InFlight tag grip) :
    before.InFlight tag grip := by
  cases passes with
  | rests rests => exact rests.inFlight tag grip inFlight
  | pushes between rests kept world events silent after_eq =>
      subst after_eq
      exact rests.inFlight tag grip inFlight
  | drains between rests kept world batch owed after_eq =>
      subst after_eq
      exact rests.inFlight tag grip inFlight

namespace Sound

variable {engine : Engine κ τ} {flights : Multiset (Flight τ)}
  {hand : Multiset (Grip (Continuation τ))}

theorem lends (sound : engine.Sound flights hand)
    (notReleased : ¬Released engine.frames engine.terminated) {manifest : Manifest τ}
    (follows : manifest.Follows engine) (apart : engine.pools.Apart) : engine.Lends where
  apart := apart
  lent := by
    intro userData handed operation
    rcases sound.exists_flight_of_userData notReleased operation (.inr handed) with
      ⟨flight, flightMem, rfl⟩
    have books := sound.accounts.books
    have inFlight : engine.InFlight flight.tag flight.grip :=
      books.inFlight_iff.mpr ⟨flight, flightMem, rfl, rfl⟩
    rcases follows.pushed_held flight.tag flight.grip inFlight handed with
      ⟨row, last, -, rendered⟩
    have held := Pools.mem_held.mp inFlight.2
    rcases (Pool.mem_held (books.pools_wellFormed _)).mp held with ⟨notFree, here⟩
    refine ⟨flight.tag, flight.grip.reference, flight.grip.entry, rfl, inFlight.1, notFree, here,
      (sound.accounts.ready flight flightMem).state_eq, ?_,
      fun place pointsAt => apart.ownsAlone_render here pointsAt⟩
    rw [← follows.pushed_eq, List.find?_map, rendered]
    exact congrArg (Option.map Prod.fst) last
  placed := by
    intro tag registered
    rcases Option.isSome_iff_exists.mp registered with ⟨reference, found⟩
    rcases sound.accounts.books.lookup?_eq_some.mp found with ⟨flight, flightMem, rfl, -⟩
    rw [copies_eq (tag_ne_wakeUserData _), sound.accounts.inPlay_eq notReleased]
    apply Multiset.count_eq_one_of_mem
    · have unique := sound.accounts.books.nodup_tags.map
        (f := UInt32.toUInt64) fun left right same => UInt32.toUInt64_inj.mp same
      rwa [Multiset.map_map] at unique
    · exact Multiset.mem_map_of_mem (fun flight : Flight τ => flight.tag.toUInt64) flightMem
  live := by
    intro userData operation somewhere
    rw [copies_eq operation, sound.accounts.inPlay_eq notReleased] at somewhere
    rcases Multiset.mem_map.mp (Multiset.count_pos.mp somewhere) with ⟨flight, flightMem, rfl⟩
    have found := sound.accounts.books.lookup?_eq_some.mpr ⟨flight, flightMem, rfl, rfl⟩
    exact ⟨flight.tag, rfl, by rw [found]; rfl⟩

/-- What is in flight after a step under a tag that was in play was in flight before the step. -/
theorem inFlight_of_step (sound : engine.Sound flights hand) (platform : Platform κ)
    (spare : engine.inFlight + 2 ≤ UInt32.size)
    (keeps : keepsContract (engine.step platform).journal) {tag : UInt32}
    (played : tag.toUInt64 ∈ inPlay engine.staged engine.frames engine.journal)
    {grip : Grip (Continuation τ)} (inFlight : (engine.step platform).InFlight tag grip) :
    engine.InFlight tag grip := by
  rcases step_cases engine platform with ⟨-, same⟩ | ⟨below, frame, rfl, stepped⟩
  · rwa [same] at inFlight
  · rw [stepped] at keeps inFlight
    cases frame with
    | stage request =>
        rcases sound.stages platform spare with
          ⟨after, after_eq, ⟨rests, -⟩ | ⟨opened, admissions, -, -, -, books, -⟩⟩
        · rw [after_eq] at inFlight
          exact rests.inFlight tag grip inFlight
        · rw [after_eq] at inFlight
          exact sound.inFlight_of_inPlay opened books inFlight played
    | dispatch batch delivered outer =>
        cases batch with
        | nil =>
            exact (rests_endDispatch (below.next (.report delivered)) outer).inFlight tag grip
              inFlight
        | cons record rest =>
            rcases sound.delivers platform with ⟨event, after, after_eq, -, -, -, -, kept, -⟩
            rw [after_eq] at inFlight
            exact kept tag grip inFlight
    | _ => exact (sound.passes_runFrame platform keeps rfl rfl).inFlight inFlight

end Sound

end Engine

namespace Scene

/-- Only steps touch entries. -/
theorem pools_perform (platform : Platform κ) {engine : Engine κ τ}
    {pushes : List (PushPhase (Task τ))} {move : Move κ τ} (other : move ≠ .step) :
    ((Scene.mk engine pushes).perform platform move).engine.pools = engine.pools := by
  cases move with
  | step => exact absurd rfl other
  | request command label => exact engine.pools_beginRequest platform _
  | requestPromise command promise => exact engine.pools_beginRequest platform _
  | shutdown => exact engine.pools_shutdown
  | finish =>
      simp only [perform, Engine.finish]
      split <;> rfl
  | drop =>
      simp only [perform, Engine.drop]
      split
      · rfl
      · exact engine.pools_shutdown
  | advance index =>
      simp only [perform, advance]
      split
      · rfl
      · rename_i phase _
        rcases advancePush_eq engine platform phase with ⟨world, advanced⟩
        rw [advanced]
  | _ => rfl

/-- In every run, the blocks of all entries lie apart. -/
theorem apart_of_play {platform : Platform κ} {configuration : Configuration} {world : κ}
    {moves : List (Move κ τ)} {scene : Scene κ τ}
    (played : (opening configuration world).play? platform moves = some scene) :
    scene.engine.pools.Apart := by
  refine play?_induction (fun _ scene => scene.engine.pools.Apart) ?_ ?_ played
  · exact Pools.apart_new _
  · rintro moves ⟨engine, pushes⟩ move after - apart moved
    rcases move?_eq_some.mp moved with ⟨-, -, rfl⟩
    by_cases step : move = .step
    · subst step
      exact Engine.apart_step apart platform
    · rw [pools_perform platform step]
      exact apart

/-- From a scene on to the end of some moves, the ring has a record with this tag, or its completion
is in hand. -/
def Lent (platform : Platform κ) (tag : UInt32) (moves : List (Move κ τ)) (start : Scene κ τ) :
    Prop :=
  ∀ part scene, part <+: moves → start.play? platform part = some scene →
    scene.engine.Handed tag.toUInt64

theorem Lent.of_append {platform : Platform κ} {tag : UInt32} {moves more : List (Move κ τ)}
    {start : Scene κ τ} (lent : start.Lent platform tag (moves ++ more)) :
    start.Lent platform tag moves :=
  fun part scene isPart => lent part scene (isPart.trans (List.prefix_append moves more))

theorem inFlight_of_perform {platform : Platform κ} {engine : Engine κ τ}
    {flights : Multiset (Flight τ)} {hand : Multiset (Grip (Continuation τ))}
    (sound : engine.Sound flights hand) {pushes : List (PushPhase (Task τ))} {move : Move κ τ}
    (allowed : (Scene.mk engine pushes).allows move)
    (keeps : keepsContract ((Scene.mk engine pushes).perform platform move).engine.journal)
    {tag : UInt32} (played : tag.toUInt64 ∈ inPlay engine.staged engine.frames engine.journal)
    {grip : Grip (Continuation τ)}
    (inFlight : ((Scene.mk engine pushes).perform platform move).engine.InFlight tag grip) :
    engine.InFlight tag grip := by
  cases move with
  | step =>
      exact sound.inFlight_of_step platform (by simpa [allows] using allowed) keeps played inFlight
  | _ => exact (passes_perform platform (by simp)).inFlight inFlight

/-- While a record is lent, the operation in flight under its tag is the same. -/
theorem inFlight_of_lent {platform : Platform κ} {start scene : Scene κ τ}
    {moves : List (Move κ τ)} (sound : start.Sound)
    (played : start.play? platform moves = some scene) {tag : UInt32}
    (lent : start.Lent platform tag moves) {grip : Grip (Continuation τ)}
    (inFlight : scene.engine.InFlight tag grip) : start.engine.InFlight tag grip := by
  have kept : scene.Sound ∧ ∀ tag grip, start.Lent platform tag moves →
      scene.engine.InFlight tag grip → start.engine.InFlight tag grip := by
    refine play?_induction (fun moves scene => scene.Sound ∧
      ∀ tag grip, start.Lent platform tag moves → scene.engine.InFlight tag grip →
        start.engine.InFlight tag grip) ?_ ?_ played
    · exact ⟨sound, fun _ _ _ inFlight => inFlight⟩
    · rintro moves before move after playedBefore ⟨⟨flights, hand, soundBefore⟩, kept⟩ moved
      rcases move?_eq_some.mp moved with ⟨allowed, keeps, rfl⟩
      refine ⟨sound_perform soundBefore allowed keeps, ?_⟩
      intro tag grip lent inFlight
      have inPlay := Engine.mem_inPlay (tag_ne_wakeUserData tag)
        (.inr (lent moves before (List.prefix_append _ _) playedBefore))
      exact kept tag grip lent.of_append
        (inFlight_of_perform soundBefore allowed keeps inPlay inFlight)
  exact kept.2 tag grip lent inFlight

end Scene

/-- In every run, until the ring is given up, what the ring has been lent is in order. And however a
run goes on from some scene, as long as the ring has the record with a tag or the completion is still
in hand, the entry under the tag stays in its slot, and nothing about it changes, neither what its
blocks hold nor where they lie. -/
theorem lends_of_play {platform : Platform κ} {configuration : Configuration} {world : κ}
    {earlier later : List (Move κ τ)} {pushed scene : Scene κ τ}
    (played : (Scene.opening configuration world).play? platform earlier = some pushed)
    (went : pushed.play? platform later = some scene)
    (kept : .released ∉ scene.engine.journal) :
    scene.engine.Lends ∧ ∀ tag, pushed.Lent platform tag later →
      ∃ grip, pushed.engine.gripUnder? tag = some grip ∧
        scene.engine.gripUnder? tag = some grip := by
  have whole : (Scene.opening configuration world).play? platform (earlier ++ later) = some scene := by
    rw [Scene.play?_append played, went]
  rcases Scene.sound_of_play whole with ⟨flights, hand, sound⟩
  have notReleased : ¬Released scene.engine.frames scene.engine.terminated :=
    (Scene.candid_of_play whole).not.mpr kept
  refine ⟨sound.lends notReleased (Scene.follows_of_play whole).2.1 (Scene.apart_of_play whole), ?_⟩
  intro tag lent
  have handed := lent later scene (List.prefix_refl _) went
  rcases sound.exists_flight_of_userData notReleased (tag_ne_wakeUserData tag) (.inr handed) with
    ⟨flight, flightMem, named⟩
  obtain rfl : flight.tag = tag := UInt32.toUInt64_inj.mp named
  have inFlight : scene.engine.InFlight flight.tag flight.grip :=
    sound.accounts.books.inFlight_iff.mpr ⟨flight, flightMem, rfl, rfl⟩
  have soundBefore := Scene.sound_of_play played
  have inFlightBefore := Scene.inFlight_of_lent soundBefore went lent inFlight
  rcases soundBefore with ⟨flightsBefore, handBefore, soundBefore⟩
  refine ⟨flight.grip, ?_, ?_⟩
  · exact Engine.gripUnder?_of_inFlight soundBefore.accounts.books.pools_wellFormed inFlightBefore
  · exact Engine.gripUnder?_of_inFlight sound.accounts.books.pools_wellFormed inFlight

open Simulation in
/-- A file is being opened within a time limit. The ring keeps both records while another file is to
be opened, for which the pool grows, and a third operation is completed and told. Both entries stay
as they were pushed, and so do the places of the path and of the time limit. -/
theorem lends_guarded_open :
    ∃ (earlier later : List (Move Script String)) (pushed scene : Scene Script String),
      (Scene.opening .default
          (.new 8 .wait none [⟨some .nop, some ⟨.fixed 0, .none⟩⟩])).play?
            (Script.platform (.silent _)) earlier = some pushed ∧
        pushed.play? (Script.platform (.silent _)) later = some scene ∧
        pushed.Lent (Script.platform (.silent _)) 0 later ∧
        pushed.Lent (Script.platform (.silent _)) 1 later ∧
        pushed.engine.pools.opening.entries.size = 1 ∧
        scene.engine.pools.opening.entries.size = 2 ∧
        scene.engine.statistics.completed = 1 ∧ scene.engine.Lends ∧
        (∃ grip, pushed.engine.gripUnder? 0 = some grip ∧
          scene.engine.gripUnder? 0 = some grip ∧ (grip.entry.render .blank).places = [⟨0⟩]) ∧
        ∃ grip, pushed.engine.gripUnder? 1 = some grip ∧
          scene.engine.gripUnder? 1 = some grip ∧ (grip.entry.render .blank).places = [⟨2⟩] := by
  let earlier : List (Move Script String) :=
    [Move.request ⟨.opening, .ofPath [46], some (.ofMillis 5)⟩ "open", Move.step, Move.cycle none] ++
      List.replicate 3 Move.step
  let later : List (Move Script String) :=
    List.replicate 3 Move.step ++ [Move.request ⟨.opening, .ofPath [47], none⟩ "other", Move.step,
      Move.request ⟨.nop, (), none⟩ "nop", Move.step, Move.cycle none] ++ List.replicate 5 Move.step
  let holds (scene : Scene Script String) : Bool :=
    decide (scene.engine.Handed 0 ∧ scene.engine.Handed 1)
  let pointsAt (tag : UInt32) (place : Place) (scene : Scene Script String) : Bool :=
    (scene.engine.gripUnder? tag).all fun grip => (grip.entry.render .blank).places = [place]
  have plays : ((Scene.opening .default
      (Script.new 8 .wait none [⟨some .nop, some ⟨.fixed 0, .none⟩⟩])).play?
      (Script.platform (.silent _)) earlier).any fun pushed =>
        (pushed.engine.pools.opening.entries.size == 1 && pointsAt 0 ⟨0⟩ pushed &&
          pointsAt 1 ⟨2⟩ pushed) &&
        (later.inits.all fun part =>
          (pushed.play? (Script.platform (.silent _)) part).all holds) &&
        (pushed.play? (Script.platform (.silent _)) later).any fun scene =>
          scene.engine.pools.opening.entries.size == 2 &&
            scene.engine.statistics.completed == 1 && !scene.engine.terminated &&
            !scene.engine.frames.any Frame.isFail := by
    decide +kernel
  rcases (Option.any_eq_true _ _).mp plays with ⟨pushed, played, goes⟩
  simp only [Bool.and_eq_true, beq_iff_eq, Option.any_eq_true] at goes
  rcases goes with ⟨⟨⟨⟨small, pathAt⟩, limitAt⟩, throughout⟩, scene, went, shows⟩
  simp only [Bool.not_eq_true'] at shows
  rcases shows with ⟨⟨⟨grown, completed⟩, unterminated⟩, calm⟩
  have kept : .released ∉ scene.engine.journal := by
    have whole := (Scene.play?_append played).trans went
    apply (Scene.candid_of_play whole).not.mp
    simp [Released, unterminated, calm]
  have handed (part : List (Move Script String)) (between : Scene Script String)
      (isPart : part <+: later)
      (reached : pushed.play? (Script.platform (.silent _)) part = some between) :
      between.engine.Handed 0 ∧ between.engine.Handed 1 := by
    have here := List.all_eq_true.mp throughout part ((List.mem_inits part later).mpr isPart)
    rw [reached] at here
    exact of_decide_eq_true here
  have lent : pushed.Lent (Script.platform (.silent _)) 0 later ∧
      pushed.Lent (Script.platform (.silent _)) 1 later :=
    ⟨fun part between isPart reached => (handed part between isPart reached).1,
      fun part between isPart reached => (handed part between isPart reached).2⟩
  have stays := lends_of_play played went kept
  have placed {tag : UInt32} {place : Place} (seen : pointsAt tag place pushed)
      {grip : Grip (Continuation String)} (under : pushed.engine.gripUnder? tag = some grip) :
      (grip.entry.render .blank).places = [place] := by
    simp only [pointsAt, under, Option.all_some] at seen
    exact of_decide_eq_true seen
  rcases stays.2 0 lent.1 with ⟨path, pathBefore, pathAfter⟩
  rcases stays.2 1 lent.2 with ⟨limit, limitBefore, limitAfter⟩
  exact ⟨earlier, later, pushed, scene, played, went, lent.1, lent.2, small, grown, completed,
    stays.1, ⟨path, pathBefore, pathAfter, placed pathAt pathBefore⟩,
    limit, limitBefore, limitAfter, placed limitAt limitBefore⟩

end CompletionEngine
