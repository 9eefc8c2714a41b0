import CompletionEngine.Proofs.Engine.Tasks

/-!
# What is staged in one go

A request stages its record together with that of its guard, if it has one, and a cycle stages the
wake-up poll. What is staged in one go is a parcel. Whatever a step does with staged records, it does
with all of them: they stay, the ring accepts or refuses them, or they are given up with the ring.

The record of a request with a time limit is linked to the record right behind it, which is that of
its guard. No other record is linked, and nothing but a guard is a linked timeout. This holds parcel
by parcel, and so in every sequence of whole parcels.
-/

namespace CompletionEngine

variable {κ τ : Type}

/-- Whether an event is about records on their way to the ring. -/
def Event.isShipping : Event τ → Bool
  | .pushed .. | .submitted _ => true
  | _ => false

/-- The records that an event tells to have been pushed. -/
def Event.pushed? : Event τ → Option (List SubmitRecord)
  | .pushed records _ => some records
  | _ => none

theorem Event.isShipping_of_not_marked {event : Event τ} (unmarked : event.isMarked = false) :
    event.isShipping = false := by
  cases event <;> first | rfl | cases unmarked

theorem Event.pushed?_of_not_shipping {event : Event τ} (silent : event.isShipping = false) :
    event.pushed? = none := by
  cases event <;> first | rfl | cases silent

/-- Records that are staged in one go. -/
inductive Parcel (τ : Type) where
  /-- The wake-up poll. -/
  | poll (record : SubmitRecord)
  /-- The records of a request that was staged at this moment. -/
  | request (request : Request τ) (moment : Instant) (records : List SubmitRecord)

namespace Parcel

def records : Parcel τ → List SubmitRecord
  | .poll record => [record]
  | .request _ _ records => records

def all (parcels : List (Parcel τ)) : List SubmitRecord := parcels.flatMap records

@[simp]
theorem all_nil : all ([] : List (Parcel τ)) = [] := rfl

@[simp]
theorem all_cons (parcel : Parcel τ) (parcels : List (Parcel τ)) :
    all (parcel :: parcels) = parcel.records ++ all parcels := by
  simp [all]

@[simp]
theorem all_append (parcels more : List (Parcel τ)) :
    all (parcels ++ more) = all parcels ++ all more := by
  simp [all]

end Parcel

/-- A record is what an entry renders that holds the errand. -/
def SubmitRecord.Serves (record : SubmitRecord) (errand : Errand τ) : Prop :=
  ∃ grip, errand.HeldBy grip ∧ grip.entry.render .blank = record

theorem SubmitRecord.Serves.opcode_iff {record : SubmitRecord} {errand : Errand τ}
    (serves : record.Serves errand) : record.opcode = .linkTimeout ↔ errand.kind = .guard := by
  rcases serves with ⟨grip, ⟨slot, entry, previous, heap, rfl, -, -⟩, rendered⟩
  rw [← rendered]
  exact Entry.opcode_render entry .blank

/-- What a parcel may hold. -/
inductive Parcel.Proper : Parcel τ → Prop
  | poll (descriptor : Int32) : Proper (.poll (Engine.wakeRecord descriptor))
  /-- A request without a time limit stages its own record alone, and not linked. -/
  | alone {request : Request τ} {moment : Instant} {record : SubmitRecord}
      (unlimited : request.command.limit = none) (other : request.command.kind ≠ .guard)
      (serves : record.Serves
        ⟨request.command.kind, request.command.params, moment, request.continuation⟩)
      (unlinked : record.flags = .empty) : Proper (.request request moment [record])
  /-- A request with a time limit stages its own record, linked to that of its guard. -/
  | guarded {request : Request τ} {moment : Instant} {primary guard : SubmitRecord}
      {limit : TimeLimit} (limited : request.command.limit = some limit)
      (other : request.command.kind ≠ .guard)
      (serves : primary.Serves
        ⟨request.command.kind, request.command.params, moment, request.continuation⟩)
      (linked : primary.flags = .ioLink)
      (guards : guard.Serves (⟨.guard, limit, moment, .guard⟩ : Errand τ))
      (unlinked : guard.flags = .empty) : Proper (.request request moment [primary, guard])

theorem Parcel.Proper.of_request {request : Request τ} {moment : Instant} {records : List SubmitRecord}
    (other : request.command.kind ≠ .guard)
    (serves : List.Forall₂ SubmitRecord.Serves records (request.errands moment))
    (links : records.map SubmitRecord.flags = request.links) :
    (Parcel.request request moment records).Proper := by
  cases limited : request.command.limit with
  | none =>
      simp only [Request.errands, Request.links, limited] at serves links
      rcases serves with _ | ⟨own, nothing⟩
      cases nothing
      exact .alone limited other own (List.cons.inj links).1
  | some limit =>
      simp only [Request.errands, Request.links, limited] at serves links
      rcases serves with _ | ⟨own, _ | ⟨guards, nothing⟩⟩
      cases nothing
      rcases List.cons.inj links with ⟨linked, rest⟩
      exact .guarded limited other own linked guards (List.cons.inj rest).1

/-- Whether a record is linked to the one behind it. -/
def SubmitRecord.isLinked (record : SubmitRecord) : Bool := record.flags.contains .ioLink

/-- In a sequence of parcels, each linked record is followed by the guard of its own request, and each
guard follows such a record and is not linked itself. -/
structure Linked (parcels : List (Parcel τ)) : Prop where
  followed : ∀ front primary back, Parcel.all parcels = front ++ primary :: back →
    primary.isLinked = true → ∃ request moment guard rest, back = guard :: rest ∧
      guard.opcode = .linkTimeout ∧ .request request moment [primary, guard] ∈ parcels
  preceded : ∀ front guard back, Parcel.all parcels = front ++ guard :: back →
    guard.opcode = .linkTimeout → guard.isLinked = false ∧ ∃ request moment primary earlier,
      front = earlier ++ [primary] ∧ primary.isLinked = true ∧
        .request request moment [primary, guard] ∈ parcels

theorem SubmitRecord.not_isLinked {record : SubmitRecord} (unlinked : record.flags = .empty) :
    record.isLinked = false := by
  rw [isLinked, unlinked]
  decide

theorem SubmitRecord.isLinked_of_ioLink {record : SubmitRecord} (linked : record.flags = .ioLink) :
    record.isLinked = true := by
  rw [isLinked, linked]
  decide

namespace Linked

variable {parcels : List (Parcel τ)} {parcel : Parcel τ}

theorem nil : Linked ([] : List (Parcel τ)) := by
  constructor
  · intro front primary back parts
    simp at parts
  · intro front guard back parts
    simp at parts

theorem cons_alone {record : SubmitRecord} (linked : Linked parcels)
    (alone : parcel.records = [record]) (unlinked : record.isLinked = false)
    (other : record.opcode ≠ .linkTimeout) : Linked (parcel :: parcels) := by
  constructor
  · intro front primary back parts isLinked
    rw [Parcel.all_cons, alone, List.singleton_append] at parts
    cases front with
    | nil =>
        obtain ⟨rfl, -⟩ := List.cons.inj parts
        rw [unlinked] at isLinked
        cases isLinked
    | cons first front =>
        rcases linked.followed front primary back (List.cons.inj parts).2 isLinked with
          ⟨request, moment, guard, rest, next, guards, parcelMem⟩
        exact ⟨request, moment, guard, rest, next, guards, List.mem_cons_of_mem _ parcelMem⟩
  · intro front guard back parts guards
    rw [Parcel.all_cons, alone, List.singleton_append] at parts
    cases front with
    | nil =>
        obtain ⟨rfl, -⟩ := List.cons.inj parts
        exact absurd guards other
    | cons first front =>
        rcases linked.preceded front guard back (List.cons.inj parts).2 guards with
          ⟨notLinked, request, moment, primary, earlier, rfl, isLinked, parcelMem⟩
        exact ⟨notLinked, request, moment, primary, first :: earlier, rfl, isLinked,
          List.mem_cons_of_mem _ parcelMem⟩

theorem cons_guarded {request : Request τ} {moment : Instant} {primary guard : SubmitRecord}
    (linked : Linked parcels) (isLinked : primary.isLinked = true)
    (other : primary.opcode ≠ .linkTimeout) (unlinked : guard.isLinked = false)
    (guards : guard.opcode = .linkTimeout) :
    Linked (.request request moment [primary, guard] :: parcels) := by
  have whole : Parcel.all (.request request moment [primary, guard] :: parcels) =
      primary :: guard :: Parcel.all parcels := rfl
  -- The pair comes first, and what is behind it is settled already.
  constructor
  · intro front record back parts recordLinked
    rw [whole] at parts
    rcases front with _ | ⟨first, _ | ⟨second, front⟩⟩
    · obtain ⟨rfl, rfl⟩ := List.cons.inj parts
      exact ⟨request, moment, guard, _, rfl, guards, List.mem_cons_self⟩
    · obtain ⟨rfl, -⟩ := List.cons.inj (List.cons.inj parts).2
      rw [unlinked] at recordLinked
      cases recordLinked
    · rcases linked.followed front record back (List.cons.inj (List.cons.inj parts).2).2 recordLinked
        with ⟨request, moment, guard, rest, next, guards, parcelMem⟩
      exact ⟨request, moment, guard, rest, next, guards, List.mem_cons_of_mem _ parcelMem⟩
  · intro front record back parts recordGuards
    rw [whole] at parts
    rcases front with _ | ⟨first, _ | ⟨second, front⟩⟩
    · obtain ⟨rfl, -⟩ := List.cons.inj parts
      exact absurd recordGuards other
    · obtain ⟨rfl, behind⟩ := List.cons.inj parts
      obtain ⟨rfl, -⟩ := List.cons.inj behind
      exact ⟨unlinked, request, moment, primary, [], rfl, isLinked, List.mem_cons_self⟩
    · rcases linked.preceded front record back (List.cons.inj (List.cons.inj parts).2).2 recordGuards
        with ⟨notLinked, request, moment, primary, earlier, rfl, isLinked, parcelMem⟩
      exact ⟨notLinked, request, moment, primary, first :: second :: earlier, rfl, isLinked,
        List.mem_cons_of_mem _ parcelMem⟩

theorem of_proper (proper : ∀ parcel ∈ parcels, parcel.Proper) : Linked parcels := by
  induction parcels with
  | nil => exact .nil
  | cons parcel parcels ih =>
      have linked := ih fun other otherMem => proper other (List.mem_cons_of_mem _ otherMem)
      cases proper parcel List.mem_cons_self with
      | poll descriptor =>
          exact linked.cons_alone rfl (SubmitRecord.not_isLinked rfl) (by simp [Engine.wakeRecord])
      | alone unlimited other serves unlinked =>
          refine linked.cons_alone rfl (SubmitRecord.not_isLinked unlinked) fun isGuard => ?_
          exact other (serves.opcode_iff.mp isGuard)
      | guarded limited other serves isLinked guards unlinked =>
          refine linked.cons_guarded (SubmitRecord.isLinked_of_ioLink isLinked) ?_
            (SubmitRecord.not_isLinked unlinked) (guards.opcode_iff.mpr rfl)
          exact fun isGuard => other (serves.opcode_iff.mp isGuard)

end Linked

namespace Engine

/-- What becomes of what is staged when some more is staged first. -/
inductive Ships (more : List SubmitRecord) (before after : Engine κ τ) : Prop where
  | keeps (events : List (Event τ)) (silent : ∀ event ∈ events, event.isShipping = false)
      (staged_eq : after.staged = before.staged ++ more)
      (journal_eq : after.journal = events ++ before.journal)
  | sends (events earlier : List (Event τ))
      (silent : ∀ event ∈ earlier, event.isShipping = false)
      (tries : Tries (before.staged ++ more) events) (staged_eq : after.staged = [])
      (journal_eq : after.journal =
        .pushed (before.staged ++ more) (.ok ()) :: (events ++ (earlier ++ before.journal)))
  | refuses (error : RingError) (events earlier : List (Event τ))
      (silent : ∀ event ∈ earlier, event.isShipping = false)
      (refuses : Refuses (before.staged ++ more) error events) (staged_eq : after.staged = [])
      (journal_eq : after.journal = events ++ (earlier ++ before.journal))
  | gives (nothing : more = []) (staged_eq : after.staged = [])
      (journal_eq : after.journal = .released :: before.journal)

namespace Ships

variable {before after : Engine κ τ}

theorem of_same (events : List (Event τ)) (silent : ∀ event ∈ events, event.isShipping = false)
    (staged_eq : after.staged = before.staged)
    (journal_eq : after.journal = events ++ before.journal) : before.Ships [] after :=
  .keeps events silent (by rw [staged_eq, List.append_nil]) journal_eq

end Ships

variable {before after : Engine κ τ}

theorem Stays.staged_eq (stays : before.Stays after) :
    ∃ more, after.staged = before.staged ++ more ∧ (more = [] ∨ ∃ descriptor,
      before.closed = false ∧ before.wakeArmed = false ∧ after.wakeArmed = true ∧
        more = [wakeRecord descriptor]) := by
  rcases stays.arms with ⟨staged_eq, -⟩ | ⟨descriptor, opened, unarmed, armed, staged_eq⟩
  · exact ⟨[], by rw [staged_eq, List.append_nil], .inl rfl⟩
  · exact ⟨[wakeRecord descriptor], staged_eq, .inr ⟨descriptor, opened, unarmed, armed, rfl⟩⟩

/-- What is staged in dealings with the ring is at most the wake-up poll. -/
theorem Deals.ships (deals : before.Deals after) :
    ∃ more, before.Ships more after ∧ (more = [] ∨ ∃ descriptor,
      before.closed = false ∧ before.wakeArmed = false ∧ after.wakeArmed = true ∧
        more = [wakeRecord descriptor]) := by
  have silent {events : List (Event τ)} (unmarked : ∀ event ∈ events, event.isMarked = false) :
      ∀ event ∈ events, event.isShipping = false :=
    fun event eventMem => Event.isShipping_of_not_marked (unmarked event eventMem)
  cases deals with
  | stays stays =>
      rcases stays.staged_eq with ⟨more, staged_eq, polls⟩
      rcases stays.journal with ⟨events, unmarked, appended⟩
      exact ⟨more, .keeps events (silent unmarked) staged_eq appended, polls⟩
  | pushes between stays world events tries after_eq =>
      rcases stays.staged_eq with ⟨more, staged_eq, polls⟩
      rcases stays.journal with ⟨earlier, unmarked, appended⟩
      rw [after_eq]
      refine ⟨more, .sends events earlier (silent unmarked) (staged_eq ▸ tries) rfl ?_, polls⟩
      rw [← staged_eq, ← appended]
  | refuses between stays world error events refuses after_eq =>
      rcases stays.staged_eq with ⟨more, staged_eq, polls⟩
      rcases stays.journal with ⟨earlier, unmarked, appended⟩
      rw [after_eq]
      refine ⟨more, .refuses error events earlier (silent unmarked) (staged_eq ▸ refuses) rfl ?_, polls⟩
      rw [← appended]
  | drains between stays world batch owed after_eq =>
      rcases stays.staged_eq with ⟨more, staged_eq, polls⟩
      rcases stays.journal with ⟨earlier, unmarked, appended⟩
      rw [after_eq]
      refine ⟨more, .keeps (.drained batch :: earlier) ?_ staged_eq (by rw [appended]; rfl), polls⟩
      intro event eventMem
      rcases List.mem_cons.mp eventMem with rfl | old
      · rfl
      · exact silent unmarked event old

/-- The parcels that records make which are staged in one go. -/
def parcelsOf (platform : Platform κ) (engine : Engine κ τ) (records : List SubmitRecord) :
    List (Parcel τ) :=
  match engine.frames with
  | .stage request :: _ =>
    if records.isEmpty then [] else [.request request (platform.now engine.world) records]
  | _ => records.map .poll

/-- Nothing is lost when records are made into parcels. -/
theorem all_parcelsOf (platform : Platform κ) (engine : Engine κ τ) (records : List SubmitRecord) :
    Parcel.all (engine.parcelsOf platform records) = records := by
  unfold parcelsOf
  split
  · cases records with
    | nil => rfl
    | cons record rest => simp [Parcel.records]
  · induction records with
    | nil => rfl
    | cons record rest ih => rw [List.map_cons, Parcel.all_cons, ih]; rfl

/-- What is staged makes proper parcels, and is staged by an open engine. -/
def StagesWell (platform : Platform κ) (engine : Engine κ τ) (more : List SubmitRecord) : Prop :=
  (more ≠ [] → engine.closed = false) ∧
    ((∀ request ∈ requestsIn engine.frames, request.command.kind ≠ .guard) →
      ∀ parcel ∈ engine.parcelsOf platform more, parcel.Proper)

theorem stagesWell_nil (platform : Platform κ) (engine : Engine κ τ) :
    engine.StagesWell platform [] := by
  refine ⟨fun something => absurd rfl something, fun _ parcel parcelMem => ?_⟩
  unfold parcelsOf at parcelMem
  split at parcelMem <;> cases parcelMem

theorem stagesWell_poll (platform : Platform κ) {engine : Engine κ τ} (opened : engine.closed = false)
    (other : ∀ frame ∈ engine.frames.head?, frame.isStage = false) (descriptor : Int32) :
    engine.StagesWell platform [wakeRecord descriptor] := by
  refine ⟨fun _ => opened, fun _ parcel parcelMem => ?_⟩
  unfold parcelsOf at parcelMem
  split at parcelMem
  · rename_i request rest frames_eq
    have plain := other (.stage request) (by rw [frames_eq]; rfl)
    cases plain
  · rw [List.mem_singleton.mp parcelMem]
    exact .poll descriptor

namespace Sound

variable {engine : Engine κ τ} {flights : Multiset (Flight τ)}
  {hand : Multiset (Grip (Continuation τ))} {frame : Frame τ}

/-- The records of a request, its guard's included, make one parcel. -/
theorem ships_stage {request : Request τ}
    (sound : (engine.next (.stage request)).Sound flights hand) (platform : Platform κ)
    (spare : engine.inFlight + 2 ≤ UInt32.size) :
    ∃ more, (engine.next (.stage request)).Ships more (engine.runFrame platform (.stage request)) ∧
      (engine.next (.stage request)).StagesWell platform more := by
  rcases sound.of_next rfl with ⟨below, -⟩
  rcases below.accounts.books.stageRequest engine (below.room spare) platform request with
    ⟨pools, tags, failure, rejected, -⟩ |
      ⟨opened, pools, tags, admissions, admitted, -, errands, links, proper⟩
  · have told : (request.continuation.event ⟨request.command.kind, .error failure⟩).isShipping =
        false := Event.isShipping_of_not_marked (Continuation.isMarked_event _ _)
    simp only [Engine.runFrame, rejected, orRaise, deliver_some]
    exact ⟨[], .of_same [_] (by simp [told]) rfl rfl, stagesWell_nil platform _⟩
  · simp only [Engine.runFrame, admitted, orRaise]
    refine ⟨admissions.map Admission.record, .keeps [] (by simp) rfl rfl, fun _ => opened, ?_⟩
    intro modest parcel parcelMem
    have other : request.command.kind ≠ .guard := modest request List.mem_cons_self
    have serves : List.Forall₂ SubmitRecord.Serves (admissions.map Admission.record)
        (request.errands (platform.now engine.world)) := by
      rw [← errands, List.forall₂_map_left_iff, List.forall₂_map_right_iff, List.forall₂_same]
      intro admission admissionMem
      exact ⟨_, (proper admission admissionMem).holds, (proper admission admissionMem).rendered⟩
    simp only [parcelsOf, Engine.next] at parcelMem
    split at parcelMem
    · cases parcelMem
    · rw [List.mem_singleton.mp parcelMem]
      exact .of_request other serves (by rw [List.map_map]; exact links)

/-- A frame that settles an operation stages nothing. -/
theorem ships_settling (sound : (engine.next frame).Sound flights hand) (platform : Platform κ)
    (settling : frame.isBatch ∨ frame.isFail) (business : frame.isBusiness) :
    (engine.next frame).Ships [] (engine.runFrame platform frame) := by
  have told (continuation : Continuation τ) (outcome : Outcome) :
      ∀ event ∈ [continuation.event outcome], event.isShipping = false := by
    intro event eventMem
    rw [List.mem_singleton.mp eventMem]
    exact Event.isShipping_of_not_marked (continuation.isMarked_event outcome)
  cases frame with
  | dispatch batch delivered outer =>
      cases batch with
      | nil => cases business
      | cons record rest =>
          simp only [Engine.runFrame]
          split
          · exact .of_same [.acknowledged _] (by simp [Event.isShipping]) rfl rfl
          · rename_i operation
            rcases sound.dispatchOne_eq platform operation with
              ⟨flight, others, continuation, pools, tags, -, -, -, -, dispatched⟩
            rw [dispatched, orRaise, deliver_some]
            exact .of_same _ (told continuation _) rfl rfl
  | refuse records failure outer =>
      cases records with
      | nil => cases business
      | cons record rest =>
          simp only [Engine.runFrame]
          split
          · exact .of_same [] (by simp) rfl rfl
          · rename_i operation
            rcases sound.refuseOne_eq operation with
              ⟨flight, others, continuation, pools, tags, -, -, -, -, refused⟩
            rw [refused, orRaise, deliver_some]
            exact .of_same _ (told continuation _) rfl rfl
  | fail leftovers =>
      cases leftovers with
      | nil => exact .of_same [.terminated] (by simp [Event.isShipping]) rfl rfl
      | cons leftover rest =>
          rcases sound.fail_eq platform with
            ⟨grip, others, continuation, pools, -, -, -, -, -, failed⟩
          rw [failed, deliver_some]
          exact .of_same _ (told continuation _) rfl rfl
  | _ => simp [Frame.isBatch, Frame.isFail] at settling

theorem ships_runFrame (sound : (engine.next frame).Sound flights hand) (platform : Platform κ)
    (spare : engine.inFlight + 2 ≤ UInt32.size)
    (keeps : keepsContract (engine.runFrame platform frame).journal) :
    ∃ more, (engine.next frame).Ships more (engine.runFrame platform frame) ∧
      (engine.next frame).StagesWell platform more := by
  cases major : frame.isBusiness with
  | false =>
      rcases (deals_runFrame platform keeps major).ships with
        ⟨more, ships, rfl | ⟨descriptor, opened, -, -, rfl⟩⟩
      · exact ⟨[], ships, stagesWell_nil platform _⟩
      · refine ⟨_, ships, stagesWell_poll platform opened ?_ descriptor⟩
        intro top topMem
        cases topMem
        cases frame <;> first | rfl | cases major
  | true =>
      cases frame with
      | stage request => exact sound.ships_stage platform spare
      | dispatch batch delivered outer =>
          exact ⟨[], sound.ships_settling platform (.inl rfl) major, stagesWell_nil platform _⟩
      | refuse records failure outer =>
          exact ⟨[], sound.ships_settling platform (.inl rfl) major, stagesWell_nil platform _⟩
      | release => exact ⟨[], .gives rfl rfl rfl, stagesWell_nil platform _⟩
      | fail leftovers =>
          exact ⟨[], sound.ships_settling platform (.inr rfl) major, stagesWell_nil platform _⟩
      | _ => cases major

theorem ships_step (sound : engine.Sound flights hand) (platform : Platform κ)
    (spare : engine.inFlight + 2 ≤ UInt32.size)
    (keeps : keepsContract (engine.step platform).journal) :
    ∃ more, engine.Ships more (engine.step platform) ∧ engine.StagesWell platform more := by
  rcases step_cases engine platform with ⟨-, same⟩ | ⟨below, frame, rfl, stepped⟩
  · rw [same]
    exact ⟨[], .of_same [] (by simp) rfl rfl, stagesWell_nil platform _⟩
  · rw [stepped] at keeps ⊢
    exact sound.ships_runFrame platform spare keeps

end Sound

end Engine

end CompletionEngine
