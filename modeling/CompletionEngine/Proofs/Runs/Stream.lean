import CompletionEngine.Proofs.Engine.Parcels
import CompletionEngine.Proofs.Runs.Course
import CompletionEngine.Proofs.Runs.Manifest
import CompletionEngine.Simulation.Script

/-!
# The stream of records

An observer of a run writes down what is staged, parcel by parcel. What is staged goes to the ring
in shipments, each of which the ring accepts or refuses as a whole; what is staged when the ring is
given up is given up with it. So what the ring accepts is what has been staged, in this order and
without the shipments that it refused. Parcels are never torn apart, and with them no record of a
request from that of its guard.
-/

namespace CompletionEngine

variable {κ τ : Type}

/-- The slices of records that the ring has accepted, the last in front. -/
def sent : List (Event τ) → List (List SubmitRecord)
  | [] => []
  | .pushed records (.ok ()) :: journal => records :: sent journal
  | _ :: journal => sent journal

/-- What the ring has said in the end to each slice of records, the last in front. A full ring is
tried once more after a submission, and only what it says then counts. -/
def verdicts : List (Event τ) → List (List SubmitRecord × Except RingError Unit)
  | [] => []
  | .submitted (.ok _) :: .pushed _ (.error .full) :: journal => verdicts journal
  | .submitted (.error error) :: .pushed records (.error .full) :: journal =>
    (records, .error error) :: verdicts journal
  | .pushed records outcome :: journal => (records, outcome) :: verdicts journal
  | _ :: journal => verdicts journal

/-- Parcels that go to the ring together. -/
structure Shipment (τ : Type) where
  parcels : List (Parcel τ)
  /-- What the ring said to them. It said nothing to what was given up with it. -/
  verdict : Option (Except RingError Unit)

namespace Shipment

def records (shipment : Shipment τ) : List SubmitRecord := Parcel.all shipment.parcels

/-- What was pushed of the shipment, and what the ring said. -/
def told? (shipment : Shipment τ) : Option (List SubmitRecord × Except RingError Unit) :=
  shipment.verdict.map fun verdict => (shipment.records, verdict)

def sent? (shipment : Shipment τ) : Option (List SubmitRecord) :=
  match shipment.verdict with
  | some (.ok ()) => some shipment.records
  | _ => none

end Shipment

/-- The parcels that have been staged went to the ring in shipments, or wait. -/
structure Stream (parcels : List (Parcel τ)) (shipments : List (Shipment τ))
    (waiting : List (Parcel τ)) (engine : Engine κ τ) : Prop where
  /-- Each parcel is part of one shipment, or waits. -/
  whole : shipments.flatMap Shipment.parcels ++ waiting = parcels
  staged_eq : Parcel.all waiting = engine.staged
  /-- Each shipment that was pushed was pushed as a whole, in its turn, and settled by one verdict. -/
  verdicts_eq : shipments.filterMap Shipment.told? = (verdicts engine.journal).reverse
  sent_eq : shipments.filterMap Shipment.sent? = (sent engine.journal).reverse
  /-- Nothing but shipments is pushed, also when the ring is full and the push is tried again. -/
  pushed : ∀ records outcome, .pushed records outcome ∈ engine.journal →
    ∃ shipment ∈ shipments, shipment.verdict.isSome ∧ shipment.records = records
  /-- What is given up is given up with the ring, and nothing is staged after it. -/
  givenUp : ∀ shipment ∈ shipments, shipment.verdict = none →
    .released ∈ engine.journal ∧ waiting = []
  last : shipments.Pairwise fun earlier later => earlier.verdict = none → later.parcels = []

theorem verdicts_append_of_silent {events : List (Event τ)}
    (silent : ∀ event ∈ events, event.isShipping = false) (journal : List (Event τ)) :
    verdicts (events ++ journal) = verdicts journal := by
  have skips (event : Event τ) (journal : List (Event τ)) (plain : event.isShipping = false) :
      verdicts (event :: journal) = verdicts journal := by
    cases event <;> first | rfl | cases plain
  exact append_of_skips verdicts skips silent journal

theorem sent_append_of_silent {events : List (Event τ)}
    (silent : ∀ event ∈ events, event.isShipping = false) (journal : List (Event τ)) :
    sent (events ++ journal) = sent journal := by
  have skips (event : Event τ) (journal : List (Event τ)) (plain : event.isShipping = false) :
      sent (event :: journal) = sent journal := by
    cases event <;> first | rfl | cases plain
  exact append_of_skips sent skips silent journal

/-- What a push tried in vain before it succeeded does not count. -/
theorem verdicts_of_tries {records : List SubmitRecord} {events : List (Event τ)}
    (tries : Engine.Tries records events) (journal : List (Event τ)) :
    verdicts (.pushed records (.ok ()) :: (events ++ journal)) =
        (records, .ok ()) :: verdicts journal ∧
      sent (.pushed records (.ok ()) :: (events ++ journal)) = records :: sent journal ∧
      ∀ other outcome, .pushed other outcome ∈ events → other = records := by
  rcases tries with rfl | ⟨count, rfl⟩
  · exact ⟨rfl, rfl, by simp⟩
  · exact ⟨rfl, rfl, by simp⟩

theorem verdicts_of_refuses {records : List SubmitRecord} {error : RingError}
    {events : List (Event τ)} (refuses : Engine.Refuses records error events)
    (journal : List (Event τ)) :
    verdicts (events ++ journal) = (records, .error error) :: verdicts journal ∧
      sent (events ++ journal) = sent journal ∧
      ∀ other outcome, .pushed other outcome ∈ events → other = records := by
  rcases refuses with ⟨-, rfl⟩ | rfl | ⟨count, rfl⟩
  · exact ⟨rfl, rfl, by simp⟩
  · exact ⟨rfl, rfl, by simp⟩
  · refine ⟨rfl, rfl, fun other outcome pushed => ?_⟩
    simp only [List.mem_cons, Event.pushed.injEq, reduceCtorEq, List.not_mem_nil, or_false,
      false_or] at pushed
    rcases pushed with ⟨same, -⟩ | ⟨same, -⟩
    · exact same
    · exact same

namespace Stream

variable {parcels fresh waiting : List (Parcel τ)} {shipments : List (Shipment τ)}
  {before after : Engine κ τ} {more : List SubmitRecord}

theorem opening (engine : Engine κ τ) (nothing : engine.staged = [])
    (silent : engine.journal = []) : Stream [] [] [] engine where
  whole := rfl
  staged_eq := nothing.symm
  verdicts_eq := by rw [silent]; rfl
  sent_eq := by rw [silent]; rfl
  pushed := by simp [silent]
  givenUp := by simp
  last := .nil

theorem keeps (stream : Stream parcels shipments waiting before) (events : List (Event τ))
    (silent : ∀ event ∈ events, event.isShipping = false)
    (staged_eq : after.staged = before.staged ++ Parcel.all fresh)
    (journal_eq : after.journal = events ++ before.journal)
    (ended : .released ∈ before.journal → fresh = []) :
    Stream (parcels ++ fresh) shipments (waiting ++ fresh) after where
  whole := by rw [← List.append_assoc, stream.whole]
  staged_eq := by rw [Parcel.all_append, stream.staged_eq, staged_eq]
  verdicts_eq := by rw [journal_eq, verdicts_append_of_silent silent, stream.verdicts_eq]
  sent_eq := by rw [journal_eq, sent_append_of_silent silent, stream.sent_eq]
  pushed := by
    intro records outcome pushed
    rw [journal_eq] at pushed
    rcases List.mem_append.mp pushed with new | old
    · cases silent _ new
    · exact stream.pushed records outcome old
  givenUp := by
    intro shipment shipmentMem unsaid
    rcases stream.givenUp shipment shipmentMem unsaid with ⟨released, nothing⟩
    rw [journal_eq, nothing, ended released]
    exact ⟨List.mem_append_right _ released, rfl⟩
  last := stream.last

theorem departs (stream : Stream parcels shipments waiting before)
    (verdict : Option (Except RingError Unit)) (events : List (Event τ))
    (nothing : after.staged = [])
    (journal_eq : after.journal = events ++ before.journal)
    (ended : .released ∈ before.journal → fresh = [])
    (verdicts_eq : verdicts after.journal =
      (Shipment.told? ⟨waiting ++ fresh, verdict⟩).toList ++ verdicts before.journal)
    (sent_eq : sent after.journal =
      (Shipment.sent? ⟨waiting ++ fresh, verdict⟩).toList ++ sent before.journal)
    (pushed : ∀ records outcome, .pushed records outcome ∈ events →
      verdict.isSome ∧ Parcel.all (waiting ++ fresh) = records)
    (givenUp : verdict = none → .released ∈ after.journal) :
    Stream (parcels ++ fresh) (shipments ++ [⟨waiting ++ fresh, verdict⟩]) [] after where
  whole := by simp [← stream.whole]
  staged_eq := nothing.symm
  verdicts_eq := by
    rw [List.filterMap_append, stream.verdicts_eq, verdicts_eq, List.reverse_append]
    cases verdict <;> rfl
  sent_eq := by
    rw [List.filterMap_append, stream.sent_eq, sent_eq, List.reverse_append]
    cases told : Shipment.sent? ⟨waiting ++ fresh, verdict⟩ <;> simp [told]
  pushed := by
    intro records outcome told
    rw [journal_eq] at told
    rcases List.mem_append.mp told with new | old
    · exact ⟨_, List.mem_append_right _ List.mem_cons_self, pushed records outcome new⟩
    · rcases stream.pushed records outcome old with ⟨shipment, shipmentMem, same⟩
      exact ⟨shipment, List.mem_append_left _ shipmentMem, same⟩
  givenUp := by
    intro shipment shipmentMem unsaid
    refine ⟨?_, rfl⟩
    rcases List.mem_append.mp shipmentMem with old | new
    · rw [journal_eq]
      exact List.mem_append_right _ (stream.givenUp shipment old unsaid).1
    · rw [List.mem_singleton.mp new] at unsaid
      exact givenUp unsaid
  last := by
    refine List.pairwise_append.mpr ⟨stream.last, List.pairwise_singleton _ _, ?_⟩
    intro earlier earlierMem later laterMem unsaid
    rcases stream.givenUp earlier earlierMem unsaid with ⟨released, nothing⟩
    rw [List.mem_singleton.mp laterMem, nothing, ended released]
    rfl

/-- Whatever becomes of what is staged, it becomes of all of it. -/
theorem ships (stream : Stream parcels shipments waiting before) (ships : before.Ships more after)
    (whole : Parcel.all fresh = more) (ended : .released ∈ before.journal → fresh = []) :
    ∃ shipments waiting, Stream (parcels ++ fresh) shipments waiting after := by
  have slice : before.staged ++ more = Parcel.all (waiting ++ fresh) := by
    rw [Parcel.all_append, stream.staged_eq, whole]
  have unsaid {events : List (Event τ)} (silent : ∀ event ∈ events, event.isShipping = false)
      (records : List SubmitRecord) (outcome : Except RingError Unit) :
      .pushed records outcome ∉ events := by
    intro pushed
    cases silent _ pushed
  cases ships with
  | keeps events silent staged_eq journal_eq =>
      exact ⟨_, _, stream.keeps events silent (whole ▸ staged_eq) journal_eq ended⟩
  | sends events earlier silent tries nothing journal_eq =>
      rw [slice] at tries journal_eq
      rcases verdicts_of_tries tries (earlier ++ before.journal) with ⟨told, accepted, same⟩
      rw [← journal_eq, verdicts_append_of_silent silent] at told
      rw [← journal_eq, sent_append_of_silent silent] at accepted
      refine ⟨_, _, stream.departs (some (.ok ()))
        (.pushed (Parcel.all (waiting ++ fresh)) (.ok ()) :: (events ++ earlier)) nothing
        (by rw [journal_eq, List.cons_append, List.append_assoc]) ended told accepted ?_ (by simp)⟩
      intro records outcome pushed
      rcases List.mem_cons.mp pushed with new | tried
      · cases new
        exact ⟨rfl, rfl⟩
      · rcases List.mem_append.mp tried with tried | before
        · exact ⟨rfl, (same records outcome tried).symm⟩
        · exact absurd before (unsaid silent records outcome)
  | refuses error events earlier silent refuses nothing journal_eq =>
      rw [slice] at refuses
      rcases verdicts_of_refuses refuses (earlier ++ before.journal) with ⟨told, accepted, same⟩
      rw [← journal_eq, verdicts_append_of_silent silent] at told
      rw [← journal_eq, sent_append_of_silent silent] at accepted
      refine ⟨_, _, stream.departs (some (.error error)) (events ++ earlier) nothing
        (by rw [journal_eq, List.append_assoc]) ended told accepted ?_ (by simp)⟩
      intro records outcome pushed
      rcases List.mem_append.mp pushed with tried | before
      · exact ⟨rfl, (same records outcome tried).symm⟩
      · exact absurd before (unsaid silent records outcome)
  | gives noMore nothing journal_eq =>
      refine ⟨_, _, stream.departs none [.released] nothing journal_eq ended ?_ ?_ ?_ ?_⟩
      · rw [journal_eq]
        rfl
      · rw [journal_eq]
        rfl
      · simp
      · intro _
        rw [journal_eq]
        exact List.mem_cons_self

end Stream

namespace Engine

/-- What a move stages: what has been pushed or is staged afterwards, apart from what was staged
before. -/
def stagedIn (before after : Engine κ τ) : List SubmitRecord :=
  (((before.eventsSince after).findSome? Event.pushed?).getD after.staged).drop before.staged.length

theorem Ships.stagedIn_eq {before after : Engine κ τ} {more : List SubmitRecord}
    (ships : before.Ships more after) : before.stagedIn after = more := by
  have unsaid {events : List (Event τ)} (silent : ∀ event ∈ events, event.isShipping = false) :
      events.findSome? Event.pushed? = none :=
    List.findSome?_eq_none_iff.mpr fun event eventMem =>
      Event.pushed?_of_not_shipping (silent event eventMem)
  cases ships with
  | keeps events silent staged_eq journal_eq =>
      simp [stagedIn, eventsSince_eq journal_eq, unsaid silent, staged_eq]
  | sends events earlier silent tries nothing journal_eq =>
      have since : before.eventsSince after =
          .pushed (before.staged ++ more) (.ok ()) :: (events ++ earlier) :=
        eventsSince_eq (by rw [journal_eq, List.cons_append, List.append_assoc])
      rw [stagedIn, since, List.findSome?_cons]
      exact List.drop_left
  | refuses error events earlier silent refuses nothing journal_eq =>
      have since : before.eventsSince after = events ++ earlier :=
        eventsSince_eq (by rw [journal_eq, List.append_assoc])
      have found : events.findSome? Event.pushed? = some (before.staged ++ more) := by
        rcases refuses with ⟨-, rfl⟩ | rfl | ⟨count, rfl⟩
        · rfl
        · rfl
        · rfl
      simp [stagedIn, since, List.findSome?_append, found]
  | gives noMore nothing journal_eq =>
      have since : before.eventsSince after = [.released] := eventsSince_eq journal_eq
      simp [stagedIn, since, nothing, noMore, Event.pushed?]

end Engine

/-- The request that a move brings, by a caller or in a task of another thread. -/
def Move.asked? : Move κ τ → Option (Request τ)
  | .push task => task.request?
  | move => move.request?

namespace Scene

def parcels (platform : Platform κ) (moves : List (Move κ τ)) (start : Scene κ τ) :
    List (Parcel τ) :=
  start.knows platform (fun _ before after parcels =>
    parcels ++ before.engine.parcelsOf platform (before.engine.stagedIn after.engine)) [] moves

/-- Nobody has asked for a guard, which only the engine itself makes. -/
structure Modest (scene : Scene κ τ) : Prop where
  frames : ∀ request ∈ requestsIn scene.engine.frames, request.command.kind ≠ .guard
  queue : ∀ task ∈ scene.engine.inbox.queue, ∀ request ∈ task.request?,
    request.command.kind ≠ .guard
  pushes : ∀ push ∈ scene.pushes, ∀ task ∈ push.task?, ∀ request ∈ task.request?,
    request.command.kind ≠ .guard

section Moves

variable {platform : Platform κ} {engine : Engine κ τ} {flights : Multiset (Flight τ)}
  {hand : Multiset (Grip (Continuation τ))}

theorem modest_step {pushes : List (PushPhase (Task τ))} (modest : (Scene.mk engine pushes).Modest)
    (sound : engine.Sound flights hand) (platform : Platform κ)
    (spare : engine.inFlight + 2 ≤ UInt32.size) :
    (Scene.mk (engine.step platform) pushes).Modest := by
  rcases sound.takes_step platform spare with leaves | ⟨task, takes⟩
  · refine ⟨fun request requestMem => modest.frames request (leaves.requests.subset requestMem), ?_,
      modest.pushes⟩
    rw [leaves.queue_eq]
    exact modest.queue
  · have queued := modest.queue
    simp only [takes.queue_eq] at queued
    refine ⟨?_, fun other otherMem => queued other (List.mem_cons_of_mem _ otherMem), modest.pushes⟩
    intro request requestMem
    simp only [takes.requests_eq, List.mem_append, Option.mem_toList] at requestMem
    rcases requestMem with own | old
    · exact queued task List.mem_cons_self request own
    · exact modest.frames request old

theorem modest_advance {pushes : List (PushPhase (Task τ))}
    (modest : (Scene.mk engine pushes).Modest) (index : ℕ) :
    ((Scene.mk engine pushes).advance platform index).Modest := by
  unfold advance
  cases found : pushes[index]? with
  | none => simpa only [found] using modest
  | some phase =>
      rcases advancePush_eq engine platform phase with ⟨world, advanced⟩
      simp only [advanced]
      have known : ∀ task ∈ engine.inbox.queue ++ phase.task?.toList, ∀ request ∈ task.request?,
          request.command.kind ≠ .guard := by
        intro task taskMem
        rcases List.mem_append.mp taskMem with queued | own
        · exact modest.queue task queued
        · exact modest.pushes phase (List.mem_of_getElem? found) task (Option.mem_toList.mp own)
      -- Where a task is afterwards, it was before in the inbox or with this push.
      have same (task : Task τ) := congrArg (task ∈ ·) (phase.tasks_advance engine.inbox)
      simp only [Multiset.mem_coe, List.mem_append, Option.mem_toList, eq_iff_iff] at same known
      refine ⟨modest.frames, fun task queued => known task ((same task).mp (.inl queued)), ?_⟩
      intro push pushMem task own
      rcases List.mem_or_eq_of_mem_set pushMem with old | rfl
      · exact modest.pushes push old task own
      · exact known task ((same task).mp (.inr (.inl own)))

/-- As long as callers ask for what they may ask for, nobody has asked for a guard. -/
theorem modest_perform {pushes : List (PushPhase (Task τ))}
    (modest : (Scene.mk engine pushes).Modest) (sound : engine.Sound flights hand)
    {move : Move κ τ} (allowed : (Scene.mk engine pushes).allows move)
    (asked : ∀ request ∈ move.asked?, request.command.kind ≠ .guard) :
    ((Scene.mk engine pushes).perform platform move).Modest := by
  by_cases step : move = .step
  · subst step
    exact modest_step modest sound platform (by simpa [allows] using allowed)
  by_cases advances : ∃ index, move = .advance index
  · rcases advances with ⟨index, rfl⟩
    exact modest_advance modest index
  · have leaves : (move.request?.elim engine fun request => engine.next (.stage request)).Leaves
        ((Scene.mk engine pushes).perform platform move).engine :=
      leaves_perform platform step fun index same => advances ⟨index, same⟩
    refine ⟨?_, ?_, ?_⟩
    · intro request requestMem
      have known := leaves.requests.subset requestMem
      cases named : move.request? with
      | none =>
          rw [named] at known
          exact modest.frames request known
      | some own =>
          rw [named] at known
          rcases List.mem_cons.mp known with rfl | old
          · exact asked _ (by cases move <;> first | exact named | cases named)
          · exact modest.frames request old
    · rw [leaves.queue_eq]
      cases named : move.request? with
      | none => exact modest.queue
      | some own => exact modest.queue
    · cases move with
      | advance index => exact absurd ⟨index, rfl⟩ advances
      | push task =>
          intro push pushMem own ownMem
          rcases List.mem_append.mp pushMem with old | new
          · exact modest.pushes push old own ownMem
          · rw [List.mem_singleton.mp new] at ownMem
            cases ownMem
            exact asked
      | _ => exact modest.pushes

theorem ships_perform {pushes : List (PushPhase (Task τ))} (sound : engine.Sound flights hand)
    {move : Move κ τ} (allowed : (Scene.mk engine pushes).allows move)
    (keeps : keepsContract ((Scene.mk engine pushes).perform platform move).engine.journal) :
    ∃ more, engine.Ships more ((Scene.mk engine pushes).perform platform move).engine ∧
      engine.StagesWell platform more := by
  by_cases step : move = .step
  · subst step
    exact sound.ships_step platform (by simpa [allows] using allowed) keeps
  · have dealt : engine.Deals ((Scene.mk engine pushes).perform platform move).engine :=
      deals_perform platform step
    have unarmed : ((Scene.mk engine pushes).perform platform move).engine.wakeArmed =
        engine.wakeArmed := wakeArmed_perform platform step
    rcases dealt.ships with
      ⟨more, ships, rfl | ⟨descriptor, -, before, after, -⟩⟩
    · exact ⟨[], ships, Engine.stagesWell_nil platform engine⟩
    · rw [unarmed, before] at after
      cases after

end Moves

/-- In every run in which nobody asks for a guard, which only the engine itself can make, what has
been staged is a sequence of proper parcels. It goes to the ring in shipments of whole parcels, in
this order: each shipment is accepted, or refused, or given up with the ring, and the last parcels may
still wait. A request and its guard are one parcel, and in every shipment their records follow each
other directly. -/
theorem stream_of_play {platform : Platform κ} {configuration : Configuration} {world : κ}
    {moves : List (Move κ τ)} {scene : Scene κ τ}
    (played : (opening configuration world).play? platform moves = some scene)
    (asked : ∀ move ∈ moves, ∀ request ∈ move.asked?, request.command.kind ≠ .guard) :
    ∃ shipments waiting,
      Stream ((opening configuration world).parcels platform moves) shipments waiting scene.engine ∧
        (∀ parcel ∈ (opening configuration world).parcels platform moves, parcel.Proper) ∧
        (∀ shipment ∈ shipments, Linked shipment.parcels) ∧ Linked waiting := by
  let start : Scene κ τ := opening configuration world
  suffices invariant : (∀ move ∈ moves, ∀ request ∈ move.asked?, request.command.kind ≠ .guard) →
      scene.Modest ∧ (∀ parcel ∈ start.parcels platform moves, parcel.Proper) ∧
        ∃ shipments waiting, Stream (start.parcels platform moves) shipments waiting scene.engine by
    rcases invariant asked with ⟨-, proper, shipments, waiting, stream⟩
    have among (parcel : Parcel τ) (part : parcel ∈ shipments.flatMap Shipment.parcels ++ waiting) :
        parcel.Proper := proper parcel (stream.whole ▸ part)
    refine ⟨shipments, waiting, stream, proper, ?_, .of_proper ?_⟩
    · intro shipment shipmentMem
      refine .of_proper fun parcel parcelMem => among parcel (List.mem_append_left _ ?_)
      exact List.mem_flatMap.mpr ⟨shipment, shipmentMem, parcelMem⟩
    · intro parcel parcelMem
      exact among parcel (List.mem_append_right _ parcelMem)
  refine play?_induction (fun moves scene =>
    (∀ move ∈ moves, ∀ request ∈ move.asked?, request.command.kind ≠ .guard) →
      scene.Modest ∧ (∀ parcel ∈ start.parcels platform moves, parcel.Proper) ∧
        ∃ shipments waiting, Stream (start.parcels platform moves) shipments waiting scene.engine)
    ?_ ?_ played
  · intro _
    refine ⟨⟨?_, ?_, ?_⟩, ?_, [], [], .opening _ rfl rfl⟩
    all_goals simp [opening, Engine.new, Inbox.new, requestsIn, start, parcels, knows, observed]
  · intro moves before move after playedBefore invariant moved asked
    rcases move?_eq_some.mp moved with ⟨allowed, keeps, rfl⟩
    rcases invariant fun other otherMem => asked other (List.mem_append_left _ otherMem) with
      ⟨modest, proper, shipments, waiting, stream⟩
    rcases sound_of_play playedBefore with ⟨flights, hand, sound⟩
    rcases ships_perform sound allowed keeps with ⟨more, ships, opened, stagesWell⟩
    have staged : start.parcels platform (moves ++ [move]) =
        start.parcels platform moves ++ before.engine.parcelsOf platform more := by
      rw [parcels, knows_concat platform _ _ playedBefore, ships.stagedIn_eq]
      rfl
    -- Whoever has given the ring up is closed, and stages nothing more.
    have ended : .released ∈ before.engine.journal →
        before.engine.parcelsOf platform more = [] := by
      intro released
      have closed := sound.disciplined.isClosed_of_released
        ((candid_of_play playedBefore).mpr released)
      by_cases nothing : more = []
      · rw [nothing, Engine.parcelsOf]
        split <;> rfl
      · cases (opened nothing).symm.trans closed
    refine ⟨modest_perform modest sound allowed
      (asked move (List.mem_append_right _ List.mem_cons_self)), ?_, ?_⟩
    · rw [staged]
      intro parcel parcelMem
      rcases List.mem_append.mp parcelMem with old | new
      · exact proper parcel old
      · exact stagesWell modest.frames parcel new
    · rw [staged]
      exact stream.ships ships (Engine.all_parcelsOf platform _ _) ended

open Simulation in
/-- The ring refuses the first shipment, and the code of the refused operation asks for a read with
a time limit. The read goes to the ring with its guard, and the wake-up poll behind them. -/
theorem stream_after_refusal :
    ∃ (moves : List (Move Script String)) (scene : Scene Script String),
      let start := Scene.opening .default
        { Script.new 4 .wait (some 7) [] with errors := [(.push, some (.system 11))] }
      start.play? (Script.platform Script.notifier) moves = some scene ∧
        (∀ move ∈ moves, ∀ request ∈ move.asked?, request.command.kind ≠ .guard) ∧
        (verdicts scene.engine.journal).map (fun verdict => verdict.1.map SubmitRecord.opcode) =
          [[.read, .linkTimeout, .pollAdd], [.nop, .pollAdd]] ∧
        (sent scene.engine.journal).length = 1 ∧
        ∃ shipments waiting,
          Stream (start.parcels (Script.platform Script.notifier) moves) shipments waiting
              scene.engine ∧
            (∀ parcel ∈ start.parcels (Script.platform Script.notifier) moves, parcel.Proper) ∧
            (∀ shipment ∈ shipments, Linked shipment.parcels) ∧ Linked waiting := by
  let moves : List (Move Script String) :=
    [.request ⟨.nop, (), none⟩ "first", Move.step, Move.cycle none] ++ List.replicate 5 Move.step ++
      [.request ⟨.read, ⟨⟨3⟩, ⟨4096, 16⟩, .current⟩, some ⟨5⟩⟩ "second", Move.step, Move.finish] ++
      List.replicate 5 Move.step ++ [Move.cycle none] ++ List.replicate 4 Move.step
  have plays : ((Scene.opening .default
      { Script.new 4 .wait (some 7) [] with errors := [(.push, some (.system 11))] }).play?
      (Script.platform Script.notifier) moves).any fun scene =>
        (verdicts scene.engine.journal).map (fun verdict => verdict.1.map SubmitRecord.opcode) ==
          [[.read, .linkTimeout, .pollAdd], [.nop, .pollAdd]] &&
        (sent scene.engine.journal).length == 1 := by
    decide +kernel
  have asked : ∀ move ∈ moves, ∀ request ∈ move.asked?, request.command.kind ≠ .guard := by
    decide +kernel
  rcases (Option.any_eq_true _ _).mp plays with ⟨scene, played, shown⟩
  simp only [Bool.and_eq_true, beq_iff_eq] at shown
  exact ⟨moves, scene, played, asked, shown.1, shown.2, stream_of_play played asked⟩

end Scene

end CompletionEngine
