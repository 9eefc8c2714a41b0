import CompletionEngine.Proofs.Engine.Traffic
import CompletionEngine.Proofs.Runs.Scene

/-!
# What each record is for

An observer of a run can tell what each record is for, although a record bears only a tag, and tags
are used again and again. The observer keeps a manifest. When a request is staged, its errands are
noted beside the records that appear; when the ring accepts what is staged, the notes move along
with it; and what is staged no longer without having been accepted has been refused or given up.

The manifest of a run agrees with the engine: a tag in use stands for an operation that was put in
flight for just the errand that is noted beside the last record pushed with this tag.
-/

namespace CompletionEngine

variable {κ τ : Type}

/-- What has been written into the journal since an earlier moment. -/
def Engine.eventsSince (before after : Engine κ τ) : List (Event τ) :=
  after.journal.take (after.journal.length - before.journal.length)

theorem Engine.eventsSince_eq {before after : Engine κ τ} {events : List (Event τ)}
    (appended : after.journal = events ++ before.journal) : before.eventsSince after = events := by
  simp [eventsSince, appended]

/-- The errands of records of operations. -/
structure Manifest (τ : Type) where
  /-- Of what is staged, the oldest in front. -/
  staged : List (SubmitRecord × Errand τ)
  /-- Of what the ring has accepted, the last in front. -/
  pushed : List (SubmitRecord × Errand τ)

namespace Manifest

/-- The errand of the last record that was pushed with these user data. -/
def lastPushed (userData : UInt64) (manifest : Manifest τ) : Option (Errand τ) :=
  (manifest.pushed.find? fun row => row.1.userData = userData).map Prod.snd

/-- Note the errands of a request beside the records that a step stages for it. -/
def note (platform : Platform κ) (before after : Engine κ τ) (manifest : Manifest τ) :
    Manifest τ :=
  match before.frames with
  | .stage request :: _ =>
    { manifest with
      staged := manifest.staged ++
        (after.staged.drop before.staged.length).zip
          (request.errands (platform.now before.world)) }
  | _ => manifest

/-- What is staged has been accepted once a push succeeds. -/
def hear (event : Event τ) (manifest : Manifest τ) : Manifest τ :=
  match event with
  | .pushed _ (.ok ()) => ⟨[], manifest.staged.reverse ++ manifest.pushed⟩
  | _ => manifest

/-- Forget what is staged no longer. -/
def settle (staged : List SubmitRecord) (manifest : Manifest τ) : Manifest τ :=
  if (operations staged).isEmpty then { manifest with staged := [] } else manifest

/-- Hear what happened, and then look at what is staged. -/
def listen (events : List (Event τ)) (staged : List SubmitRecord) (manifest : Manifest τ) :
    Manifest τ :=
  (events.foldr hear manifest).settle staged

/-- Observe a move. -/
def observe (platform : Platform κ) (move : Move κ τ) (before after : Engine κ τ)
    (manifest : Manifest τ) : Manifest τ :=
  let noted := match move with
    | .step => manifest.note platform before after
    | _ => manifest
  noted.listen (before.eventsSince after) after.staged

/-- An operation is what is noted beside a record: it holds the errand, and its entry renders to the
record once more. -/
def Describes (row : SubmitRecord × Errand τ) (grip : Grip (Continuation τ)) : Prop :=
  row.2.HeldBy grip ∧ grip.entry.render .blank = row.1

/-- What is noted beside the last record that was pushed with these user data. -/
def lastRow (userData : UInt64) (manifest : Manifest τ) : Option (SubmitRecord × Errand τ) :=
  manifest.pushed.find? fun row => row.1.userData = userData

/-- A manifest agrees with an engine. -/
structure Follows (engine : Engine κ τ) (manifest : Manifest τ) : Prop where
  staged_eq : manifest.staged.map Prod.fst = operations engine.staged
  pushed_eq : manifest.pushed.map Prod.fst = accepted engine.journal
  /-- What is noted beside a staged record describes its operation. -/
  staged_held : ∀ row ∈ manifest.staged, ∀ tag grip, engine.InFlight tag grip →
    tag.toUInt64 = row.1.userData → Describes row grip
  /-- What is noted beside the last record pushed under a tag describes the operation, as long as
  its completion has not been delivered. -/
  pushed_held : ∀ tag grip, engine.InFlight tag grip → engine.Handed tag.toUInt64 →
    ∃ row, manifest.lastRow tag.toUInt64 = some row ∧ Describes row grip

variable {manifest : Manifest τ} {before after : Engine κ τ}

theorem hear_of_not_traffic (event : Event τ) (silent : event.isTraffic = false)
    (manifest : Manifest τ) : manifest.hear event = manifest := by
  cases event with
  | pushed records outcome =>
    cases outcome with
    | ok value => simp [Event.isTraffic] at silent
    | error error => rfl
  | _ => rfl

namespace Follows

/-- A manifest that agrees has nothing to forget. -/
theorem settle_eq (follows : manifest.Follows before) {staged : List SubmitRecord}
    (kept : operations staged = operations before.staged) : manifest.settle staged = manifest := by
  unfold settle
  split
  · rename_i nothing
    have staged_eq := follows.staged_eq
    rw [← kept, List.isEmpty_iff.mp nothing, List.map_eq_nil_iff] at staged_eq
    rw [← staged_eq]
  · rfl

/-- A manifest goes on agreeing while nothing new is put in flight or handed to the ring. -/
theorem recedes (follows : manifest.Follows before)
    (inFlight : ∀ tag grip, after.InFlight tag grip → before.InFlight tag grip)
    (staged : operations after.staged = operations before.staged ∨ operations after.staged = [])
    (handed : ∀ userData, after.Handed userData → before.Handed userData)
    (accepted_eq : accepted after.journal = accepted before.journal) :
    (manifest.settle after.staged).Follows after := by
  have pushed_held : ∀ tag grip, after.InFlight tag grip → after.Handed tag.toUInt64 →
      ∃ row, manifest.lastRow tag.toUInt64 = some row ∧ Describes row grip :=
    fun tag grip inFlightAfter handedAfter =>
      follows.pushed_held tag grip (inFlight tag grip inFlightAfter) (handed _ handedAfter)
  have pushed_eq : manifest.pushed.map Prod.fst = accepted after.journal := by
    rw [accepted_eq, follows.pushed_eq]
  unfold settle
  split
  · rename_i nothing
    exact ⟨(List.isEmpty_iff.mp nothing).symm, pushed_eq, by simp, pushed_held⟩
  · rename_i something
    have kept : operations after.staged = operations before.staged := by
      rcases staged with kept | nothing
      · exact kept
      · exact absurd (List.isEmpty_iff.mpr nothing) something
    refine ⟨by rw [kept, follows.staged_eq], pushed_eq, ?_, pushed_held⟩
    intro row rowMem tag grip inFlightAfter named
    exact follows.staged_held row rowMem tag grip (inFlight tag grip inFlightAfter) named

theorem rests (follows : manifest.Follows before) (rests : before.Rests after) :
    (manifest.settle after.staged).Follows after :=
  follows.recedes rests.inFlight rests.staged (fun _ => rests.handed) rests.accepted_eq

theorem kept (follows : manifest.Follows before) (rests : before.Rests after)
    (kept : operations after.staged = operations before.staged) : manifest.Follows after := by
  have settled := follows.rests rests
  rwa [follows.settle_eq kept] at settled

theorem exists_row (follows : manifest.Follows before) {tag : UInt32}
    (staged : tag.toUInt64 ∈ before.staged.map SubmitRecord.userData) :
    ∃ row ∈ manifest.staged, row.1.userData = tag.toUInt64 := by
  rcases List.mem_map.mp staged with ⟨record, recordMem, named⟩
  have operation : record ∈ operations before.staged :=
    mem_operations.mpr ⟨recordMem, named ▸ tag_ne_wakeUserData tag⟩
  rw [← follows.staged_eq] at operation
  rcases List.mem_map.mp operation with ⟨row, rowMem, rfl⟩
  exact ⟨row, rowMem, named⟩

theorem pushes (follows : manifest.Follows before) (world : κ) {events : List (Event τ)}
    (silent : ∀ event ∈ events, event.isTraffic = false) :
    Follows { before with
      world := world
      staged := []
      journal := .pushed before.staged (.ok ()) :: (events ++ before.journal) }
      ⟨[], manifest.staged.reverse ++ manifest.pushed⟩ where
  staged_eq := rfl
  pushed_eq := by
    rw [List.map_append, List.map_reverse, follows.staged_eq, follows.pushed_eq, accepted,
      append_of_skips _ accepted_cons_of_not_traffic silent]
  staged_held := by simp
  pushed_held := by
    intro tag grip inFlight handed
    rw [lastRow, List.find?_append]
    cases found : manifest.staged.reverse.find? fun row => row.1.userData = tag.toUInt64 with
    | some row =>
        have rowMem := List.mem_reverse.mp (List.mem_of_find?_eq_some found)
        have named : row.1.userData = tag.toUInt64 := by simpa using List.find?_some found
        exact ⟨row, rfl, follows.staged_held row rowMem tag grip inFlight named.symm⟩
    | none =>
        have unnamed : tag.toUInt64 ∉ before.staged.map SubmitRecord.userData := by
          intro staged
          rcases follows.exists_row staged with ⟨row, rowMem, named⟩
          have other := List.find?_eq_none.mp found row (List.mem_reverse.mpr rowMem)
          simp [named] at other
        have handedBefore : before.Handed tag.toUInt64 := by
          rcases handed with delivering | owed
          · exact .inl delivering
          · rw [outstanding, outstanding_append_of_not_traffic silent, Multiset.mem_add] at owed
            exact .inr (owed.resolve_left unnamed)
        exact follows.pushed_held tag grip inFlight handedBefore

theorem drains (follows : manifest.Follows before) (world : κ) {batch : List CompletionRecord}
    (owed : (batch.map CompletionRecord.userData : Multiset UInt64) ≤ outstanding before.journal) :
    Follows { before with
      world := world
      dispatching := true
      journal := .drained batch :: before.journal
      frames := .dispatch batch 0 before.dispatching :: before.frames } manifest where
  staged_eq := follows.staged_eq
  pushed_eq := follows.pushed_eq
  staged_held := follows.staged_held
  pushed_held := by
    intro tag grip inFlight handed
    apply follows.pushed_held tag grip inFlight
    rcases handed with ⟨other, otherMem, named⟩ | left
    · rcases List.mem_cons.mp otherMem with rfl | otherMem
      · exact .inr (Multiset.mem_of_le owed named)
      · exact .inl ⟨other, otherMem, named⟩
    · exact .inr (Multiset.mem_of_le tsub_le_self left)

/-- A manifest goes on agreeing by listening. -/
theorem passes (follows : manifest.Follows before) (passes : before.Passes after) :
    (manifest.listen (before.eventsSince after) after.staged).Follows after := by
  cases passes with
  | rests rests =>
      rcases rests.journal with ⟨events, silent, appended⟩
      rw [Engine.eventsSince_eq appended, listen, foldr_of_not_traffic hear hear_of_not_traffic silent]
      exact follows.rests rests
  | pushes between rests kept world events silent after_eq =>
      rcases rests.journal with ⟨earlier, earlierSilent, appended⟩
      have pushed := (follows.kept rests kept).pushes world silent
      rw [← after_eq] at pushed
      have since : after.journal =
          (.pushed between.staged (.ok ()) :: (events ++ earlier)) ++ before.journal := by
        rw [after_eq, appended]
        simp
      have heard : (events ++ earlier).foldr hear manifest = manifest := by
        apply foldr_of_not_traffic hear hear_of_not_traffic
        intro event eventMem
        exact (List.mem_append.mp eventMem).elim (silent event) (earlierSilent event)
      rw [Engine.eventsSince_eq since, listen, List.foldr_cons, heard]
      rw [hear, pushed.settle_eq rfl]
      exact pushed
  | drains between rests kept world batch owed after_eq =>
      rcases rests.journal with ⟨earlier, earlierSilent, appended⟩
      have drained := (follows.kept rests kept).drains world owed
      rw [← after_eq] at drained
      have since : after.journal = (.drained batch :: earlier) ++ before.journal := by
        rw [after_eq, appended]
        rfl
      rw [Engine.eventsSince_eq since, listen, List.foldr_cons,
        foldr_of_not_traffic hear hear_of_not_traffic earlierSilent]
      rw [hear, drained.settle_eq rfl]
      · exact drained
      · simp

section Flights

variable {flights : Multiset (Flight τ)} {hand : Multiset (Grip (Continuation τ))}

theorem enroll (follows : manifest.Follows before) (sound : before.Sound flights hand)
    (opened : before.closed = false) {admissions : List (Admission τ)}
    (staged_eq : after.staged = before.staged ++ admissions.map Admission.record)
    (inDelivery_eq : inDelivery after.frames = inDelivery before.frames)
    (journal_eq : after.journal = before.journal)
    (books : Books after.pools after.tags (↑(admissions.map Admission.flight) + flights) hand)
    (proper : ∀ admission ∈ admissions, admission.Proper) :
    Follows after ⟨manifest.staged ++
      admissions.map fun admission => (admission.record, admission.errand), manifest.pushed⟩ := by
  have admitted : ∀ admission ∈ admissions, admission.flight ∈
      (↑(admissions.map Admission.flight) + flights : Multiset (Flight τ)) :=
    fun admission admissionMem => Multiset.mem_add.mpr
      (.inl (Multiset.mem_coe.mpr (List.mem_map_of_mem admissionMem)))
  have records : operations (admissions.map Admission.record) =
      admissions.map Admission.record := by
    rw [operations, List.filter_eq_self]
    intro record recordMem
    rcases List.mem_map.mp recordMem with ⟨admission, admissionMem, rfl⟩
    simpa [(proper admission admissionMem).named] using tag_ne_wakeUserData _
  refine ⟨?_, by rw [journal_eq, follows.pushed_eq], ?_, ?_⟩
  · rw [List.map_append, List.map_map, follows.staged_eq, staged_eq]
    simp only [operations, List.filter_append] at records ⊢
    rw [records]
    rfl
  · intro row rowMem tag grip inFlight named
    rcases List.mem_append.mp rowMem with old | new
    · have recordMem : row.1 ∈ operations before.staged :=
        follows.staged_eq ▸ List.mem_map_of_mem old
      have staged : tag.toUInt64 ∈ before.staged.map SubmitRecord.userData :=
        named ▸ List.mem_map_of_mem (mem_operations.mp recordMem).1
      exact follows.staged_held row old tag grip
        (sound.inFlight_of_more opened books inFlight (.inl staged)) named
    · rcases List.mem_map.mp new with ⟨admission, admissionMem, rfl⟩
      obtain rfl : tag = admission.flight.tag :=
        UInt32.toUInt64_inj.mp (named.trans (proper admission admissionMem).named)
      rw [books.eq_of_inFlight (admitted admission admissionMem) inFlight]
      exact ⟨(proper admission admissionMem).holds, (proper admission admissionMem).rendered⟩
  · intro tag grip inFlight handed
    have handedBefore : before.Handed tag.toUInt64 := by
      rwa [Engine.Handed, inDelivery_eq, journal_eq] at handed
    exact follows.pushed_held tag grip
      (sound.inFlight_of_more opened books inFlight (.inr handedBefore)) handedBefore

variable {engine : Engine κ τ} {platform : Platform κ}

theorem stage {request : Request τ} (follows : manifest.Follows (engine.next (.stage request)))
    (sound : (engine.next (.stage request)).Sound flights hand) (platform : Platform κ)
    (spare : engine.inFlight + 2 ≤ UInt32.size) :
    (manifest.observe platform .step (engine.next (.stage request))
      (engine.runFrame platform (.stage request))).Follows
        (engine.runFrame platform (.stage request)) := by
  rcases sound.stages platform spare with ⟨after, after_eq, ⟨rests, staged_eq⟩ |
    ⟨opened, admissions, staged_eq, inDelivery_eq, journal_eq, books, errands, proper⟩⟩
  · have nothing : manifest.note platform (engine.next (.stage request)) after = manifest := by
      simp [note, Engine.next, staged_eq]
    rw [after_eq, observe, nothing]
    exact follows.passes (.rests rests)
  · have agrees := follows.enroll sound opened staged_eq inDelivery_eq journal_eq books proper
    have noted : manifest.note platform (engine.next (.stage request)) after =
        ⟨manifest.staged ++ admissions.map fun admission => (admission.record, admission.errand),
          manifest.pushed⟩ := by
      simp [note, Engine.next, staged_eq, ← errands, List.zip_map']
    have silent : (engine.next (.stage request)).eventsSince after = [] :=
      Engine.eventsSince_eq journal_eq
    rw [after_eq, observe, noted, silent, listen, List.foldr_nil, agrees.settle_eq rfl]
    exact agrees

theorem dispatch {batch : List CompletionRecord} {delivered : ℕ} {outer : Bool}
    (follows : manifest.Follows (engine.next (.dispatch batch delivered outer)))
    (sound : (engine.next (.dispatch batch delivered outer)).Sound flights hand)
    (platform : Platform κ) :
    (manifest.observe platform .step (engine.next (.dispatch batch delivered outer))
      (engine.runFrame platform (.dispatch batch delivered outer))).Follows
        (engine.runFrame platform (.dispatch batch delivered outer)) := by
  cases batch with
  | nil =>
      have left := Engine.rests_endDispatch (engine.next (.report delivered)) outer
      rcases left.journal with ⟨events, silent, appended⟩
      have handed : ∀ userData, ((engine.next (.report delivered)).endDispatch outer).Handed userData →
          (engine.next (.dispatch [] delivered outer)).Handed userData := by
        intro userData handed
        rcases left.handed handed with ⟨batch, batchMem, named⟩ | owed
        · exact .inl ⟨batch, List.mem_cons_of_mem _ batchMem, named⟩
        · exact .inr owed
      have since : (engine.next (.dispatch [] delivered outer)).eventsSince
          ((engine.next (.report delivered)).endDispatch outer) = events :=
        Engine.eventsSince_eq appended
      rw [Engine.runFrame, observe, since, listen, foldr_of_not_traffic hear hear_of_not_traffic silent]
      exact follows.recedes left.inFlight left.staged handed left.accepted_eq
  | cons record rest =>
      rcases sound.delivers platform with
        ⟨event, after, after_eq, journal_eq, silent, staged_eq, inDelivery_eq, inFlight, -⟩
      rw [after_eq]
      have since : (engine.next (.dispatch (record :: rest) delivered outer)).eventsSince after =
          [event] := Engine.eventsSince_eq journal_eq
      have outstanding_eq : outstanding after.journal = outstanding engine.journal := by
        rw [journal_eq, outstanding_cons_of_not_traffic _ _ silent]
      have handed : ∀ userData, after.Handed userData →
          (engine.next (.dispatch (record :: rest) delivered outer)).Handed userData := by
        intro userData handed
        rw [Engine.Handed, inDelivery_eq, outstanding_eq] at handed
        rcases handed with ⟨batch, batchMem, named⟩ | owed
        · rcases List.mem_cons.mp batchMem with rfl | batchMem
          · exact .inl ⟨record :: batch, List.mem_cons_self, List.mem_cons_of_mem _ named⟩
          · exact .inl ⟨batch, List.mem_cons_of_mem _ batchMem, named⟩
        · exact .inr owed
      have accepted_eq : accepted after.journal = accepted engine.journal := by
        rw [journal_eq, accepted_cons_of_not_traffic _ _ silent]
      rw [observe, since, listen, List.foldr_cons, List.foldr_nil, hear_of_not_traffic _ silent]
      exact follows.recedes inFlight (.inl (by rw [staged_eq]; rfl)) handed accepted_eq

/-- A manifest goes on agreeing from step to step. -/
theorem step (follows : manifest.Follows engine) (sound : engine.Sound flights hand)
    (platform : Platform κ) (spare : engine.inFlight + 2 ≤ UInt32.size)
    (keeps : keepsContract (engine.step platform).journal) :
    (manifest.observe platform .step engine (engine.step platform)).Follows
      (engine.step platform) := by
  rcases Engine.step_cases engine platform with ⟨turn, same⟩ | ⟨below, frame, rfl, stepped⟩
  · have nothing : manifest.note platform engine engine = manifest := by
      rcases Engine.frames_of_awaitsCaller sound.healthy turn with empty | ⟨rest, running⟩
      · simp only [note, empty]
      · simp only [note, running]
    rw [same, observe, nothing]
    exact follows.passes (.rests (.refl engine))
  · rw [stepped] at keeps ⊢
    cases staging : frame.isStage with
    | true =>
        cases frame with
        | stage request => exact follows.stage sound platform spare
        | _ => cases staging
    | false =>
        cases delivering : frame.batch? with
        | some batch =>
            cases frame with
            | dispatch batch delivered outer => exact follows.dispatch sound platform
            | _ => cases delivering
        | none =>
            have nothing : manifest.note platform (below.next frame)
                (below.runFrame platform frame) = manifest := by
              cases frame <;> first | rfl | cases staging
            rw [observe, nothing]
            exact follows.passes (sound.passes_runFrame platform keeps staging delivering)

end Flights

end Follows

end Manifest

namespace Scene

variable {platform : Platform κ} {engine : Engine κ τ}

theorem rests_finish (engine : Engine κ τ) : engine.Rests engine.finish := by
  unfold Engine.finish
  split
  · rename_i rest running
    refine .of_same rfl rfl rfl ?_ ⟨[], by simp, rfl⟩
    rw [running]
    rfl
  · exact .refl engine

theorem rests_wake (engine : Engine κ τ) (platform : Platform κ) :
    engine.Rests (engine.wake platform) :=
  .of_same rfl rfl rfl rfl ⟨[.notified _], by simp [Event.isTraffic], rfl⟩

theorem rests_advancePush (engine : Engine κ τ) (platform : Platform κ)
    (phase : PushPhase (Task τ)) : engine.Rests (engine.advancePush platform phase).2 := by
  rcases advancePush_eq engine platform phase with ⟨world, advanced⟩
  rw [advanced]
  exact .of_same rfl rfl rfl rfl ⟨_, PushEffect.isTraffic_events _ platform engine.world, rfl⟩

/-- Of all moves but a step, only a request may pass something to the ring. -/
theorem passes_perform {pushes : List (PushPhase (Task τ))} {move : Move κ τ}
    (platform : Platform κ) (other : move ≠ .step) :
    engine.Passes ((Scene.mk engine pushes).perform platform move).engine := by
  have silent : ∀ event ∈ ([] : List (Event τ)), event.isTraffic = false := by simp
  cases move with
  | step => exact absurd rfl other
  | request command label => exact Engine.passes_beginRequest platform (.refl engine) rfl _
  | requestPromise command promise =>
      exact Engine.passes_beginRequest platform (.refl engine) rfl _
  | cycle limit => exact .rests (.of_same rfl rfl rfl rfl ⟨[], silent, rfl⟩)
  | work => exact .rests (.of_same rfl rfl rfl rfl ⟨[], silent, rfl⟩)
  | shutdown => exact .rests (Engine.rests_shutdown engine)
  | finish => exact .rests (rests_finish engine)
  | drop =>
      simp only [perform, Engine.drop]
      split
      · exact .rests (.refl engine)
      · exact .rests (Engine.rests_shutdown engine)
  | push task => exact .rests (.refl engine)
  | advance index =>
      simp only [perform, advance]
      split
      · exact .rests (.refl engine)
      · exact .rests (rests_advancePush engine platform _)
  | closeInbox => exact .rests (.of_same rfl rfl rfl rfl ⟨[], silent, rfl⟩)
  | wake => exact .rests (rests_wake engine platform)
  | drift world => exact .rests (.of_same rfl rfl rfl rfl ⟨[], silent, rfl⟩)

/-- A manifest goes on agreeing from move to move. -/
theorem follows_perform {manifest : Manifest τ} (follows : manifest.Follows engine)
    {flights : Multiset (Flight τ)} {hand : Multiset (Grip (Continuation τ))}
    (sound : engine.Sound flights hand) {pushes : List (PushPhase (Task τ))} {move : Move κ τ}
    (allowed : (Scene.mk engine pushes).allows move)
    (keeps : keepsContract ((Scene.mk engine pushes).perform platform move).engine.journal) :
    (manifest.observe platform move engine
      ((Scene.mk engine pushes).perform platform move).engine).Follows
        ((Scene.mk engine pushes).perform platform move).engine := by
  cases move with
  | step => exact follows.step sound platform (by simpa [allows] using allowed) keeps
  | _ => exact follows.passes (passes_perform platform (by simp))

end Scene

end CompletionEngine
