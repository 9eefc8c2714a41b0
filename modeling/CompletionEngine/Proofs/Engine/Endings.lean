import CompletionEngine.Proofs.Engine.Dealings

/-!
# How each operation ends

An operation ends when its completion is delivered, when its record is failed because the ring
refused it, or when it is left over at the end of a shutdown. A step ends at most one operation,
and which one can be told from the engine before the step. What ends and what begins accounts for
everything that changes: the entries in use, the completions and refused records in hand, and the
counts.
-/

namespace CompletionEngine

variable {κ τ : Type}

/-- How an operation ends. -/
inductive Fate where
  /-- With a completion of the kernel. -/
  | completed (record : CompletionRecord)
  /-- With the refusal of its record. -/
  | refused (record : SubmitRecord) (failure : Failure)
  /-- As a leftover of a shutdown. -/
  | leftOver

/-- The end of an operation. -/
structure Ending (κ τ : Type) where
  /-- The engine that ends the operation with its next step. -/
  moment : Engine κ τ
  /-- The entry of the operation. -/
  grip : Grip (Continuation τ)
  fate : Fate

namespace Ending

/-- What the continuation of the operation is to be told. -/
def outcome (platform : Platform κ) (ending : Ending κ τ) : Outcome :=
  match ending.fate with
  | .completed record => (ending.grip.outcome platform record ending.moment.world).1
  | .refused _ failure => ⟨ending.grip.reference.kind, .error failure⟩
  | .leftOver => ⟨ending.grip.reference.kind, .error .closed⟩

/-- The completion that ended the operation. -/
def completion? (ending : Ending κ τ) : Option CompletionRecord :=
  match ending.fate with
  | .completed record => some record
  | _ => none

/-- The refused record of the operation, and why the ring refused it. -/
def refusal? (ending : Ending κ τ) : Option (SubmitRecord × Failure) :=
  match ending.fate with
  | .refused record failure => some (record, failure)
  | _ => none

/-- Whether the operation was left over. -/
def isLeftOver (ending : Ending κ τ) : Bool :=
  match ending.fate with
  | .leftOver => true
  | _ => false

/-- The completion or refusal that ended the operation bears its tag. -/
def Named (ending : Ending κ τ) : Prop :=
  match ending.fate with
  | .completed record => ending.grip.entry.tag.map UInt32.toUInt64 = some record.userData
  | .refused record _ => ending.grip.entry.tag.map UInt32.toUInt64 = some record.userData
  | .leftOver => True

/-- At its moment, the next that happens is that the continuation of the operation is told its
outcome. -/
def Told (platform : Platform κ) (journal : List (Event τ)) (ending : Ending κ τ) : Prop :=
  ∃ continuation, ending.grip.entry.continuation = some continuation ∧
    continuation.event (ending.outcome platform) :: ending.moment.journal <:+ journal

end Ending

namespace Engine

/-- The entry in a slot. -/
def gripAt? (reference : SlotRef) (engine : Engine κ τ) : Option (Grip (Continuation τ)) :=
  ((engine.pools.get reference.kind).entries[reference.slot.toNat]?).map fun entry =>
    ⟨reference, entry⟩

/-- The entry that is registered under a tag. -/
def gripUnder? (tag : UInt32) (engine : Engine κ τ) : Option (Grip (Continuation τ)) :=
  (engine.tags.lookup? tag).bind fun reference => engine.gripAt? reference

/-- The operation that the next step ends. -/
def ending? (engine : Engine κ τ) : Option (Ending κ τ) :=
  match engine.frames with
  | .dispatch (record :: _) _ _ :: _ =>
    if record.userData = wakeUserData then none
    else (engine.gripUnder? (tagOfCompletion record.userData)).map fun grip =>
      ⟨engine, grip, .completed record⟩
  | .refuse (record :: _) failure _ :: _ =>
    if record.userData = wakeUserData then none
    else (engine.gripUnder? record.userData.toUInt32).map fun grip =>
      ⟨engine, grip, .refused record failure⟩
  | .fail ((_, reference) :: _) :: _ =>
    (engine.gripAt? reference).map fun grip => ⟨engine, grip, .leftOver⟩
  | _ => none

end Engine

/-- The completions that the ring has handed out. -/
def returned : List (Event τ) → Multiset CompletionRecord
  | [] => 0
  | .drained batch :: journal => (batch : Multiset CompletionRecord) + returned journal
  | _ :: journal => returned journal

/-- The records that the ring has refused for good, each with what its operation fails with. A full
ring is tried once more after a submission, and only what it says then counts. -/
def refusals : List (Event τ) → Multiset (SubmitRecord × Failure)
  | [] => 0
  | .submitted (.ok _) :: .pushed _ (.error .full) :: journal => refusals journal
  | .submitted (.error error) :: .pushed records (.error .full) :: journal =>
    (records.map fun record => (record, error.toFailure) : Multiset _) + refusals journal
  | .pushed records (.error error) :: journal =>
    (records.map fun record => (record, error.toFailure) : Multiset _) + refusals journal
  | _ :: journal => refusals journal

/-- The completions of operations. -/
def ofOperations (completions : Multiset CompletionRecord) : Multiset CompletionRecord :=
  completions.filter fun record => record.userData ≠ wakeUserData

/-- The refused records of operations. -/
def ofRefused (rows : Multiset (SubmitRecord × Failure)) : Multiset (SubmitRecord × Failure) :=
  rows.filter fun row => row.1.userData ≠ wakeUserData

/-- No submission is told apart from the push that it was made for. -/
def Whole (events : List (Event τ)) : Prop :=
  ∀ outcome, events.getLast? ≠ some (.submitted outcome)

@[simp]
theorem ofOperations_add (left right : Multiset CompletionRecord) :
    ofOperations (left + right) = ofOperations left + ofOperations right :=
  Multiset.filter_add _ _ _

@[simp]
theorem ofRefused_add (left right : Multiset (SubmitRecord × Failure)) :
    ofRefused (left + right) = ofRefused left + ofRefused right :=
  Multiset.filter_add _ _ _

theorem returned_append (later earlier : List (Event τ)) :
    returned (later ++ earlier) = returned later + returned earlier := by
  induction later with
  | nil => simp [returned]
  | cons event later ih => cases event <;> simp_all [returned, add_assoc]

theorem whole_append {later earlier : List (Event τ)} (laterWhole : Whole later)
    (earlierWhole : Whole earlier) : Whole (later ++ earlier) := by
  intro outcome
  rw [List.getLast?_append]
  cases last : earlier.getLast? with
  | none => simpa using laterWhole outcome
  | some event => simpa [last] using earlierWhole outcome

theorem whole_of_unmarked {events : List (Event τ)}
    (unmarked : ∀ event ∈ events, event.isMarked = false) : Whole events := by
  intro outcome last
  have marked := unmarked _ (List.mem_of_getLast? last)
  simp [Event.isMarked] at marked

theorem Whole.of_cons {event : Event τ} {events : List (Event τ)} (whole : Whole (event :: events)) :
    Whole events := by
  intro outcome last
  apply whole outcome
  rw [List.getLast?_cons, last]
  rfl

theorem refusals_append {later : List (Event τ)} (whole : Whole later) (earlier : List (Event τ)) :
    refusals (later ++ earlier) = refusals later + refusals earlier := by
  fun_induction refusals later with
  | case1 => simp
  | case2 count records journal ih => simp [refusals, ih whole.of_cons.of_cons]
  | case3 error records journal ih => simp [refusals, ih whole.of_cons.of_cons, add_assoc]
  | case4 records error journal ih => simp [refusals, ih whole.of_cons, add_assoc]
  | case5 event journal retried given refused ih =>
      -- What comes after the event tells whether it is about a refused push, and that is not earlier.
      have alone (outcome : Except RingError ℕ) (records : List SubmitRecord) (rest : List (Event τ))
          (submitted : event = .submitted outcome)
          (next : journal ++ earlier = .pushed records (.error .full) :: rest) : False := by
        cases journal with
        | nil => exact whole outcome (by rw [submitted]; rfl)
        | cons first others =>
            simp only [List.cons_append, List.cons.injEq] at next
            cases outcome with
            | ok count => exact retried count records others submitted (by rw [next.1])
            | error error => exact given error records others submitted (by rw [next.1])
      rw [List.cons_append, refusals.eq_5 _ _ ?_ ?_ refused, ih whole.of_cons]
      · intro count records rest submitted next
        exact alone _ records rest submitted next
      · intro error records rest submitted next
        exact alone _ records rest submitted next

theorem returned_of_unmarked {events : List (Event τ)}
    (unmarked : ∀ event ∈ events, event.isMarked = false) : returned events = 0 := by
  have skips (event : Event τ) (journal : List (Event τ)) (plain : event.isMarked = false) :
      returned (event :: journal) = returned journal := by
    cases event <;> first | rfl | cases plain
  simpa [returned] using append_of_skips returned skips unmarked []

theorem refusals_of_unmarked {events : List (Event τ)}
    (unmarked : ∀ event ∈ events, event.isMarked = false) : refusals events = 0 := by
  have skips (event : Event τ) (journal : List (Event τ)) (plain : event.isMarked = false) :
      refusals (event :: journal) = refusals journal := by
    cases event <;> first | rfl | cases plain
  simpa [refusals] using append_of_skips refusals skips unmarked []

theorem refusals_of_refuses {records : List SubmitRecord} {error : RingError}
    {events : List (Event τ)} (refuses : Engine.Refuses records error events) :
    Whole events ∧ returned events = 0 ∧ .released ∉ events ∧
      refusals events = (records.map fun record => (record, error.toFailure) : Multiset _) := by
  rcases refuses with ⟨-, rfl⟩ | rfl | ⟨count, rfl⟩
  all_goals simp [Whole, returned, refusals]

theorem refusals_of_tries {records : List SubmitRecord} {events : List (Event τ)}
    (tries : Engine.Tries records events) :
    Whole events ∧ returned events = 0 ∧ .released ∉ events ∧ refusals events = 0 := by
  rcases tries with rfl | ⟨count, rfl⟩
  all_goals simp [Whole, returned, refusals]

theorem Continuation.account_eq (continuation : Continuation τ) (outcome : Outcome)
    (statistics : Statistics) :
    (continuation.account outcome statistics).submitted = statistics.submitted ∧
      (continuation.account outcome statistics).completed = statistics.completed ∧
      (continuation.account outcome statistics).synthesized = statistics.synthesized := by
  cases continuation with
  | caller label => exact ⟨rfl, rfl, rfl⟩
  | promise label => exact ⟨rfl, rfl, rfl⟩
  | guard =>
      simp only [account, Statistics.recordGuard]
      split <;> exact ⟨rfl, rfl, rfl⟩

namespace Engine

/-- The journal tells whether the ring has been given up. -/
def Candid (engine : Engine κ τ) : Prop :=
  Released engine.frames engine.terminated ↔ .released ∈ engine.journal

/-- What has begun, what has ended and what has happened between two moments accounts for all that
has changed. -/
structure Flows (platform : Platform κ) (before : Engine κ τ) (begun : List (Admission τ))
    (ended : List (Ending κ τ)) (events : List (Event τ)) (after : Engine κ τ) : Prop where
  journal_eq : after.journal = events ++ before.journal
  whole : Whole events
  held_eq : (ended.map Ending.grip : Multiset (Grip (Continuation τ))) + after.pools.held =
    before.pools.held + (begun.map fun admission => admission.flight.grip : Multiset _)
  completions_eq : (ended.filterMap Ending.completion? : Multiset CompletionRecord) +
      ofOperations (completionsInHand after.frames) =
    ofOperations (completionsInHand before.frames) + ofOperations (returned events)
  refusals_eq : (ended.filterMap Ending.refusal? : Multiset (SubmitRecord × Failure)) +
      ofRefused (refusalsInHand after.frames) =
    ofRefused (refusalsInHand before.frames) + ofRefused (refusals events)
  submitted_eq : after.statistics.submitted = before.statistics.submitted + begun.length
  completed_eq : after.statistics.completed =
    before.statistics.completed + (ended.filterMap Ending.completion?).length
  synthesized_eq : after.statistics.synthesized =
    before.statistics.synthesized + ended.countP Ending.isLeftOver
  /-- At its moment, the entry of an operation that ends is still in use. -/
  placed : ∀ ending ∈ ended, ending.grip ∈ ending.moment.pools.held
  named : ∀ ending ∈ ended, ending.Named
  told : ∀ ending ∈ ended, ending.Told platform after.journal
  due : ∀ ending ∈ ended, ending.isLeftOver ↔ .released ∈ ending.moment.journal
  candid : before.Candid → after.Candid
  /-- A closed engine stays closed and begins nothing. -/
  closed : before.closed = true → after.closed = true ∧ begun = []

namespace Flows

variable {platform : Platform κ} {before after : Engine κ τ}

theorem add_balance {α : Type} [AddCommMonoid α] {out more first between last into added : α}
    (earlier : out + between = first + into) (later : more + last = between + added) :
    more + out + last = first + (added + into) := by
  calc more + out + last = out + (more + last) := by abel
    _ = out + between + added := by rw [later, add_assoc]
    _ = first + (added + into) := by rw [earlier]; abel

theorem refl (engine : Engine κ τ) : engine.Flows platform [] [] [] engine where
  journal_eq := rfl
  whole := by simp [Whole]
  held_eq := by simp
  completions_eq := by simp [returned, ofOperations]
  refusals_eq := by simp [refusals, ofRefused]
  submitted_eq := rfl
  completed_eq := rfl
  synthesized_eq := rfl
  placed := by simp
  named := by simp
  told := by simp
  due := by simp
  candid := id
  closed := fun closed => ⟨closed, rfl⟩

theorem trans {between : Engine κ τ} {begun more : List (Admission τ)}
    {ended others : List (Ending κ τ)} {events later : List (Event τ)}
    (first : before.Flows platform begun ended events between)
    (second : between.Flows platform more others later after) :
    before.Flows platform (more ++ begun) (others ++ ended) (later ++ events) after where
  journal_eq := by rw [second.journal_eq, first.journal_eq, List.append_assoc]
  whole := whole_append second.whole first.whole
  held_eq := by
    rw [List.map_append, List.map_append, ← Multiset.coe_add, ← Multiset.coe_add]
    exact add_balance first.held_eq second.held_eq
  completions_eq := by
    rw [List.filterMap_append, ← Multiset.coe_add, returned_append, ofOperations_add]
    exact add_balance first.completions_eq second.completions_eq
  refusals_eq := by
    rw [List.filterMap_append, ← Multiset.coe_add, refusals_append second.whole, ofRefused_add]
    exact add_balance first.refusals_eq second.refusals_eq
  submitted_eq := by
    rw [second.submitted_eq, first.submitted_eq, List.length_append]
    omega
  completed_eq := by
    rw [second.completed_eq, first.completed_eq, List.filterMap_append, List.length_append]
    omega
  synthesized_eq := by
    rw [second.synthesized_eq, first.synthesized_eq, List.countP_append]
    omega
  placed := by
    intro ending endingMem
    rcases List.mem_append.mp endingMem with new | old
    · exact second.placed ending new
    · exact first.placed ending old
  named := by
    intro ending endingMem
    rcases List.mem_append.mp endingMem with new | old
    · exact second.named ending new
    · exact first.named ending old
  told := by
    intro ending endingMem
    rcases List.mem_append.mp endingMem with new | old
    · exact second.told ending new
    · rcases first.told ending old with ⟨continuation, awaited, told⟩
      refine ⟨continuation, awaited, told.trans ?_⟩
      rw [second.journal_eq]
      exact List.suffix_append _ _
  due := by
    intro ending endingMem
    rcases List.mem_append.mp endingMem with new | old
    · exact second.due ending new
    · exact first.due ending old
  candid := fun candid => second.candid (first.candid candid)
  closed := by
    intro closed
    rcases first.closed closed with ⟨closedBetween, rfl⟩
    rcases second.closed closedBetween with ⟨closedAfter, rfl⟩
    exact ⟨closedAfter, rfl⟩

/-- Nothing begins and nothing ends. -/
theorem of_idle {events : List (Event τ)} (journal_eq : after.journal = events ++ before.journal)
    (whole : Whole events) (held_eq : after.pools.held = before.pools.held)
    (completions_eq : ofOperations (completionsInHand after.frames) =
      ofOperations (completionsInHand before.frames) + ofOperations (returned events))
    (refusals_eq : ofRefused (refusalsInHand after.frames) =
      ofRefused (refusalsInHand before.frames) + ofRefused (refusals events))
    (counts : after.statistics.submitted = before.statistics.submitted ∧
      after.statistics.completed = before.statistics.completed ∧
      after.statistics.synthesized = before.statistics.synthesized)
    (candid : before.Candid → after.Candid) (closed : before.closed = true → after.closed = true) :
    before.Flows platform [] [] events after where
  journal_eq := journal_eq
  whole := whole
  held_eq := by simp [held_eq]
  completions_eq := by simpa using completions_eq
  refusals_eq := by simpa using refusals_eq
  submitted_eq := counts.1
  completed_eq := counts.2.1
  synthesized_eq := counts.2.2
  placed := by simp
  named := by simp
  told := by simp
  due := by simp
  candid := candid
  closed := fun was => ⟨closed was, rfl⟩

end Flows

theorem Candid.congr {before after : Engine κ τ} (events : List (Event τ))
    (released : Released after.frames after.terminated ↔
      Released before.frames before.terminated)
    (appended : after.journal = events ++ before.journal) (silent : .released ∉ events)
    (candid : before.Candid) : after.Candid := by
  have told : Released before.frames before.terminated ↔ .released ∈ before.journal := candid
  rw [Candid, released, told, appended]
  simp [silent]

theorem Stays.flows {before after : Engine κ τ} (stays : before.Stays after)
    (platform : Platform κ) : ∃ events, before.Flows platform [] [] events after := by
  rcases stays.journal with ⟨events, unmarked, appended⟩
  have silent : Event.released ∉ events := by
    intro released
    cases unmarked _ released
  refine ⟨events, .of_idle appended (whole_of_unmarked unmarked) stays.held_eq ?_ ?_ ?_ ?_
    stays.closed_imp⟩
  · simp [stays.completions_eq, returned_of_unmarked unmarked, ofOperations]
  · simp [stays.refusals_eq, refusals_of_unmarked unmarked, ofRefused]
  · simp [stays.statistics_eq]
  · exact Candid.congr events stays.released_iff appended silent

/-- What passes between an engine and its ring begins and ends nothing. -/
theorem Deals.flows {before after : Engine κ τ} (deals : before.Deals after)
    (platform : Platform κ) : ∃ events, before.Flows platform [] [] events after := by
  cases deals with
  | stays stays => exact stays.flows platform
  | pushes between stays world tries tried after_eq =>
      rcases stays.flows platform with ⟨earlier, flows⟩
      rcases refusals_of_tries tried with ⟨whole, nothing, silent, none⟩
      have pushed : between.Flows platform [] [] (.pushed between.staged (.ok ()) :: tries) after := by
        rw [after_eq]
        have pushedWhole : Whole ([.pushed between.staged (.ok ())] : List (Event τ)) := by simp [Whole]
        refine .of_idle rfl (whole_append pushedWhole whole) rfl ?_ ?_ ⟨rfl, rfl, rfl⟩
          (Candid.congr (.pushed between.staged (.ok ()) :: tries) Iff.rfl rfl ?_) id
        · simp [returned, nothing, ofOperations]
        · simp [refusals, none, ofRefused]
        · simp [silent]
      exact ⟨_, flows.trans pushed⟩
  | refuses between stays world error events refuses after_eq =>
      rcases stays.flows platform with ⟨earlier, flows⟩
      rcases refusals_of_refuses refuses with ⟨whole, nothing, silent, refused⟩
      have taken : between.Flows platform [] [] events after := by
        rw [after_eq]
        refine .of_idle rfl whole rfl ?_ ?_ ⟨rfl, rfl, rfl⟩ (Candid.congr events ?_ rfl silent) id
        · simp [nothing, ofOperations, Frame.completions]
        · simp [refused, Frame.refusals, add_comm]
        · simp [Released, Frame.isFail]
      exact ⟨_, flows.trans taken⟩
  | drains between stays world batch owed after_eq =>
      rcases stays.flows platform with ⟨earlier, flows⟩
      have taken : between.Flows platform [] [] [.drained batch] after := by
        rw [after_eq]
        refine .of_idle rfl ?_ rfl ?_ ?_ ⟨rfl, rfl, rfl⟩ (Candid.congr [.drained batch] ?_ rfl ?_) id
        · simp [Whole]
        · simp [returned, Frame.completions, add_comm]
        · simp [refusals, ofRefused, Frame.refusals]
        · simp [Released, Frame.isFail]
        · simp
      exact ⟨_, flows.trans taken⟩

theorem gripAt?_of_held {engine : Engine κ τ} (wellFormed : engine.pools.WellFormed)
    {grip : Grip (Continuation τ)} (held : grip ∈ engine.pools.held) :
    engine.gripAt? grip.reference = some grip := by
  have here := ((Pool.mem_held (wellFormed _)).mp (Pools.mem_held.mp held)).2
  simp [gripAt?, here]

theorem gripUnder?_of_inFlight {engine : Engine κ τ} (wellFormed : engine.pools.WellFormed)
    {tag : UInt32} {grip : Grip (Continuation τ)} (inFlight : engine.InFlight tag grip) :
    engine.gripUnder? tag = some grip := by
  rw [gripUnder?, inFlight.1, Option.bind_some, gripAt?_of_held wellFormed inFlight.2]

theorem moment_of_ending? {engine : Engine κ τ} {ending : Ending κ τ}
    (ends : engine.ending? = some ending) : ending.moment = engine := by
  unfold ending? at ends
  split at ends
  · split at ends
    · cases ends
    · rcases Option.map_eq_some_iff.mp ends with ⟨grip, -, rfl⟩
      rfl
  · split at ends
    · cases ends
    · rcases Option.map_eq_some_iff.mp ends with ⟨grip, -, rfl⟩
      rfl
  · rcases Option.map_eq_some_iff.mp ends with ⟨grip, -, rfl⟩
    rfl
  · cases ends

theorem ending?_of_minor {engine : Engine κ τ} {frame : Frame τ} (minor : frame.isBusiness = false) :
    (engine.next frame).ending? = none := by
  unfold ending?
  cases frame with
  | dispatch batch => cases batch <;> first | rfl | cases minor
  | refuse records => cases records <;> first | rfl | cases minor
  | fail leftovers => cases minor
  | _ => rfl

theorem ending?_of_awaitsCaller {engine : Engine κ τ} (healthy : engine.fault = none)
    (turn : engine.awaitsCaller) : engine.ending? = none := by
  rcases frames_of_awaitsCaller healthy turn with empty | ⟨rest, running⟩
  · simp only [ending?, empty]
  · simp only [ending?, running]

/-- One operation ends, and its continuation is called. -/
theorem Flows.of_ending {platform : Platform κ} {before after : Engine κ τ}
    {ending : Ending κ τ} {continuation : Continuation τ} (moment_eq : ending.moment = before)
    (awaited : ending.grip.entry.continuation = some continuation)
    (journal_eq : after.journal =
      continuation.event (ending.outcome platform) :: before.journal)
    (held_eq : before.pools.held = ending.grip ::ₘ after.pools.held) (named : ending.Named)
    (completions_eq : ofOperations (completionsInHand before.frames) =
      ([ending].filterMap Ending.completion? : Multiset CompletionRecord) +
        ofOperations (completionsInHand after.frames))
    (refusals_eq : ofRefused (refusalsInHand before.frames) =
      ([ending].filterMap Ending.refusal? : Multiset (SubmitRecord × Failure)) +
        ofRefused (refusalsInHand after.frames))
    (counts : after.statistics.submitted = before.statistics.submitted ∧
      after.statistics.completed =
        before.statistics.completed + ([ending].filterMap Ending.completion?).length ∧
      after.statistics.synthesized =
        before.statistics.synthesized + [ending].countP Ending.isLeftOver)
    (released : Released after.frames after.terminated ↔
      Released before.frames before.terminated)
    (due : ending.isLeftOver ↔ Released before.frames before.terminated)
    (closed_eq : after.closed = before.closed) (candid : before.Candid) :
    ∃ events, before.Flows platform [] [ending] events after := by
  have unmarked : ∀ event ∈ [continuation.event (ending.outcome platform)],
      event.isMarked = false := by simp
  have silent : Event.released ∉ [continuation.event (ending.outcome platform)] := by
    intro told
    cases unmarked _ told
  refine ⟨[continuation.event (ending.outcome platform)], journal_eq, whole_of_unmarked unmarked, ?_,
    ?_, ?_, counts.1, counts.2.1, counts.2.2, ?_, ?_, ?_, ?_,
    Candid.congr _ released journal_eq silent, ?_⟩
  · simp [held_eq]
  · rw [returned_of_unmarked unmarked, completions_eq, ofOperations, ofOperations,
      Multiset.filter_zero, add_zero]
  · rw [refusals_of_unmarked unmarked, refusals_eq, ofRefused, ofRefused, Multiset.filter_zero,
      add_zero]
  · intro other otherMem
    rw [List.mem_singleton.mp otherMem, moment_eq, held_eq]
    exact Multiset.mem_cons_self _ _
  · intro other otherMem
    rwa [List.mem_singleton.mp otherMem]
  · intro other otherMem
    rw [List.mem_singleton.mp otherMem]
    refine ⟨continuation, awaited, ?_⟩
    rw [moment_eq, journal_eq]
  · intro other otherMem
    rw [List.mem_singleton.mp otherMem, moment_eq, due]
    exact candid
  · intro closed
    exact ⟨closed_eq.trans closed, rfl⟩

/-- Giving the ring up ends nothing yet. -/
theorem flows_release (engine : Engine κ τ) (platform : Platform κ) :
    ∃ events, (engine.next .release).Flows platform [] [] events
      (engine.runFrame platform .release) := by
  have given : engine.runFrame platform .release = { engine with
      world := platform.ring.release engine.world
      staged := []
      wakeArmed := false
      tags := engine.tags.drain.2
      journal := .released :: engine.journal
      frames := .fail engine.tags.drain.1 :: engine.frames } := rfl
  rw [given]
  refine ⟨[.released], .of_idle rfl (by simp [Whole]) rfl ?_ ?_ ⟨rfl, rfl, rfl⟩ ?_ id⟩
  · simp [Engine.next, Frame.completions, returned, ofOperations]
  · simp [Engine.next, Frame.refusals, refusals, ofRefused]
  · intro _
    exact iff_of_true (.inr rfl) (by simp)

namespace Sound

variable {engine : Engine κ τ} {flights : Multiset (Flight τ)}
  {hand : Multiset (Grip (Continuation τ))} {frame : Frame τ} (platform : Platform κ)

theorem gripUnder?_eq {flight : Flight τ} (sound : engine.Sound (flight ::ₘ flights) hand) :
    engine.gripUnder? flight.tag = some flight.grip := by
  have books := sound.accounts.books
  apply gripUnder?_of_inFlight books.pools_wellFormed
  exact books.inFlight_iff.mpr ⟨flight, Multiset.mem_cons_self _ _, rfl, rfl⟩

theorem ending?_dispatch {flight : Flight τ} {record : CompletionRecord}
    {rest : List CompletionRecord} {delivered : ℕ} {outer : Bool}
    (sound : (engine.next (.dispatch (record :: rest) delivered outer)).Sound (flight ::ₘ flights) hand)
    (operation : record.userData ≠ wakeUserData)
    (named : flight.tag.toUInt64 = record.userData) :
    (engine.next (.dispatch (record :: rest) delivered outer)).ending? =
      some ⟨engine.next (.dispatch (record :: rest) delivered outer), flight.grip,
        .completed record⟩ := by
  have found := sound.gripUnder?_eq
  have tagged : tagOfCompletion record.userData = flight.tag := by
    rw [← named, tagOfCompletion_toUInt64]
  simp only [ending?, Engine.next, if_neg operation, tagged] at found ⊢
  rw [found]
  rfl

theorem ending?_refuse {flight : Flight τ} {record : SubmitRecord} {rest : List SubmitRecord}
    {failure : Failure} {outer : Bool}
    (sound : (engine.next (.refuse (record :: rest) failure outer)).Sound (flight ::ₘ flights) hand)
    (operation : record.userData ≠ wakeUserData)
    (named : flight.tag.toUInt64 = record.userData) :
    (engine.next (.refuse (record :: rest) failure outer)).ending? =
      some ⟨engine.next (.refuse (record :: rest) failure outer), flight.grip,
        .refused record failure⟩ := by
  have found := sound.gripUnder?_eq
  have tagged : record.userData.toUInt32 = flight.tag := by
    rw [← named, UInt32.toUInt32_toUInt64]
  simp only [ending?, Engine.next, if_neg operation, tagged] at found ⊢
  rw [found]
  rfl

theorem ending?_fail {leftover : UInt32 × SlotRef} {rest : List (UInt32 × SlotRef)}
    {grip : Grip (Continuation τ)}
    (sound : (engine.next (.fail (leftover :: rest))).Sound flights (grip ::ₘ hand))
    (slot : grip.reference = leftover.2) :
    (engine.next (.fail (leftover :: rest))).ending? =
      some ⟨engine.next (.fail (leftover :: rest)), grip, .leftOver⟩ := by
  have held := sound.accounts.books.held_eq
  rw [Multiset.cons_add] at held
  have found : (engine.next (.fail (leftover :: rest))).gripAt? grip.reference = some grip := by
    apply gripAt?_of_held sound.accounts.books.pools_wellFormed
    rw [held]
    exact Multiset.mem_cons_self _ _
  simp only [ending?, Engine.next, ← slot] at found ⊢
  rw [found]
  rfl

theorem flows_dispatch {record : CompletionRecord} {rest : List CompletionRecord} {delivered : ℕ}
    {outer : Bool}
    (sound : (engine.next (.dispatch (record :: rest) delivered outer)).Sound flights hand)
    (candid : (engine.next (.dispatch (record :: rest) delivered outer)).Candid) :
    ∃ events, (engine.next (.dispatch (record :: rest) delivered outer)).Flows platform []
      (engine.next (.dispatch (record :: rest) delivered outer)).ending?.toList events
      (engine.runFrame platform (.dispatch (record :: rest) delivered outer)) := by
  by_cases wake : record.userData = wakeUserData
  · have nothing : (engine.next (.dispatch (record :: rest) delivered outer)).ending? = none := by
      simp [ending?, Engine.next, wake]
    have acknowledged : ∃ outcome world,
        engine.runFrame platform (.dispatch (record :: rest) delivered outer) =
          { engine.next (.dispatch rest delivered outer) with
            world := world
            wakeArmed := false
            statistics.wakeups := engine.statistics.wakeups + 1
            journal := .acknowledged outcome :: engine.journal } := by
      simp only [Engine.runFrame, if_pos wake]
      exact ⟨_, _, rfl⟩
    rcases acknowledged with ⟨outcome, world, acknowledged⟩
    rw [nothing, acknowledged]
    refine ⟨[.acknowledged outcome], .of_idle rfl (by simp [Whole]) rfl ?_ ?_ ⟨rfl, rfl, rfl⟩
      (Candid.congr [.acknowledged outcome] ?_ rfl (by simp)) id⟩
    · simp [Engine.next, Frame.completions, returned, ofOperations, ← Multiset.cons_coe, wake]
    · simp [Engine.next, Frame.refusals, refusals, ofRefused]
    · simp [Engine.next, Released, Frame.isFail]
  · have notReleased := sound.not_released_of_batch rfl
    rcases sound.dispatchOne_eq platform wake with
      ⟨flight, others, continuation, pools, tags, rfl, named, holds, books, dispatched⟩
    have ready := sound.accounts.ready flight (Multiset.mem_cons_self _ _)
    rw [sound.ending?_dispatch wake named]
    simp only [Engine.runFrame, if_neg wake, dispatched, orRaise, deliver_some]
    have bears := continuation.frames_bear (.dispatch rest (delivered + 1) outer :: engine.frames)
    refine Flows.of_ending rfl holds rfl ?_ ?_ ?_ ?_ ?_ ?_ ?_ rfl candid
    · have before := sound.accounts.books.held_eq
      rw [Multiset.map_cons, Multiset.add_cons] at before
      exact before.trans (by rw [books.held_eq])
    · simp [Ending.Named, ready.tag_eq, named]
    · simp only [Engine.next, bears.1]
      simp [Frame.completions, ofOperations, ← Multiset.cons_coe, wake, Ending.completion?]
    · simp only [Engine.next, bears.2.1]
      simp [Frame.refusals, ofRefused, Ending.refusal?]
    · have counts := continuation.account_eq (flight.grip.outcome platform record engine.world).1
        { engine.statistics with completed := engine.statistics.completed + 1 }
      exact counts
    · exact released_congr bears.2.2 rfl
    · constructor
      · intro leftOver
        cases leftOver
      · intro released
        exact absurd released notReleased

theorem flows_refuse {record : SubmitRecord} {rest : List SubmitRecord} {failure : Failure}
    {outer : Bool} (sound : (engine.next (.refuse (record :: rest) failure outer)).Sound flights hand)
    (candid : (engine.next (.refuse (record :: rest) failure outer)).Candid) :
    ∃ events, (engine.next (.refuse (record :: rest) failure outer)).Flows platform []
      (engine.next (.refuse (record :: rest) failure outer)).ending?.toList events
      (engine.runFrame platform (.refuse (record :: rest) failure outer)) := by
  by_cases wake : record.userData = wakeUserData
  · have nothing : (engine.next (.refuse (record :: rest) failure outer)).ending? = none := by
      simp [ending?, Engine.next, wake]
    rw [nothing]
    simp only [Engine.runFrame, if_pos wake]
    refine ⟨[], .of_idle rfl (by simp [Whole]) rfl ?_ ?_ ⟨rfl, rfl, rfl⟩
      (Candid.congr [] (released_congr rfl rfl) rfl (by simp)) id⟩
    · simp [Engine.next, Frame.completions, returned, ofOperations]
    · simp [Engine.next, Frame.refusals, refusals, ofRefused, ← Multiset.cons_coe, wake]
  · have notReleased := sound.not_released_of_batch rfl
    rcases sound.refuseOne_eq wake with
      ⟨flight, others, continuation, pools, tags, rfl, named, holds, books, refused⟩
    have ready := sound.accounts.ready flight (Multiset.mem_cons_self _ _)
    rw [sound.ending?_refuse wake named]
    simp only [Engine.runFrame, if_neg wake, refused, orRaise, deliver_some]
    have bears := continuation.frames_bear (.refuse rest failure outer :: engine.frames)
    refine Flows.of_ending rfl holds rfl ?_ ?_ ?_ ?_ ?_ ?_ ?_ rfl candid
    · have before := sound.accounts.books.held_eq
      rw [Multiset.map_cons, Multiset.add_cons] at before
      exact before.trans (by rw [books.held_eq])
    · simp [Ending.Named, ready.tag_eq, named]
    · simp only [Engine.next, bears.1]
      simp [Frame.completions, ofOperations, Ending.completion?]
    · simp only [Engine.next, bears.2.1]
      simp [Frame.refusals, ofRefused, ← Multiset.cons_coe, wake, Ending.refusal?]
    · exact continuation.account_eq _ engine.statistics
    · exact released_congr bears.2.2 rfl
    · constructor
      · intro leftOver
        cases leftOver
      · intro released
        exact absurd released notReleased

theorem flows_fail {leftovers : List (UInt32 × SlotRef)}
    (sound : (engine.next (.fail leftovers)).Sound flights hand)
    (candid : (engine.next (.fail leftovers)).Candid) :
    ∃ events, (engine.next (.fail leftovers)).Flows platform []
      (engine.next (.fail leftovers)).ending?.toList events
      (engine.runFrame platform (.fail leftovers)) := by
  have released : Released (engine.next (.fail leftovers)).frames engine.terminated := .inr rfl
  cases leftovers with
  | nil =>
      have noHeld := sound.accounts.books.held_eq
      rcases sound.finishFail with ⟨rfl, rfl, -⟩
      have finished : engine.runFrame platform (.fail []) = { engine with
          pools := engine.pools.clear
          terminated := true
          journal := .terminated :: engine.journal } := rfl
      rw [finished]
      refine ⟨[.terminated], .of_idle rfl (by simp [Whole]) ?_ ?_ ?_ ⟨rfl, rfl, rfl⟩
        (Candid.congr [.terminated] ?_ rfl (by simp)) id⟩
      · simpa using noHeld.symm
      · simp [Engine.next, Frame.completions, returned, ofOperations]
      · simp [Engine.next, Frame.refusals, refusals, ofRefused]
      · exact iff_of_true (.inl rfl) released
  | cons leftover rest =>
      rcases sound.fail_eq platform with
        ⟨grip, others, continuation, pools, rfl, slot, -, holds, books, failed⟩
      have held := sound.accounts.books.held_eq
      rw [Multiset.cons_add] at held
      rw [sound.ending?_fail slot, failed, deliver_some]
      have bears := continuation.frames_bear (.fail rest :: engine.frames)
      refine Flows.of_ending rfl holds rfl ?_ trivial ?_ ?_ ?_ ?_ ?_ rfl candid
      · exact held.trans (by rw [books.held_eq])
      · simp only [Engine.next, bears.1]
        simp [Frame.completions, ofOperations, Ending.completion?]
      · simp only [Engine.next, bears.2.1]
        simp [Frame.refusals, ofRefused, Ending.refusal?]
      · exact continuation.account_eq _
          { engine.statistics with synthesized := engine.statistics.synthesized + 1 }
      · exact (released_congr bears.2.2 rfl).trans (iff_of_true (.inr rfl) released)
      · exact iff_of_true rfl released

/-- A request that is admitted begins operations. A closed engine admits none. -/
theorem flows_stage {request : Request τ} (sound : (engine.next (.stage request)).Sound flights hand)
    (spare : engine.inFlight + 2 ≤ UInt32.size) :
    ∃ begun events, (engine.next (.stage request)).Flows platform begun [] events
        (engine.runFrame platform (.stage request)) ∧
      (begun ≠ [] → (engine.runFrame platform (.stage request)).closed = false) := by
  rcases sound.stage_cases platform spare with
    ⟨failure, stays, -⟩ | ⟨opened, pools, tags, admissions, admitted, books, errands, -⟩
  · rcases stays.flows platform with ⟨events, flows⟩
    exact ⟨[], events, flows, by simp⟩
  · have number : admissions.length = request.command.recordCount := by
      have length := congrArg List.length errands
      rwa [List.length_map, Request.length_errands] at length
    rw [admitted]
    refine ⟨admissions, [], ⟨rfl, by simp [Whole], ?_, ?_, ?_, ?_, rfl, rfl, by simp, by simp, by simp,
      by simp, ?_, ?_⟩, fun _ => opened⟩
    · have before : engine.pools.held = hand + flights.map Flight.grip :=
        sound.accounts.books.held_eq
      simp only [List.map_nil, Multiset.coe_nil, zero_add, books.held_eq, Engine.next, before,
        Multiset.map_add, Multiset.map_coe, List.map_map]
      rw [add_assoc, add_comm (Multiset.map Flight.grip flights)]
      rfl
    · simp [Engine.next, Frame.completions, returned, ofOperations]
    · simp [Engine.next, Frame.refusals, refusals, ofRefused]
    · simp [Engine.next, number]
    · exact Candid.congr [] (released_congr rfl rfl) rfl (by simp)
    · intro closed
      exact absurd (opened.symm.trans closed) (by simp)

/-- Only the staging of a request begins operations. -/
theorem flows_of_not_stage (sound : (engine.next frame).Sound flights hand)
    (keeps : keepsContract (engine.runFrame platform frame).journal)
    (candid : (engine.next frame).Candid) (notStage : frame.isStage = false) :
    ∃ events, (engine.next frame).Flows platform [] (engine.next frame).ending?.toList events
      (engine.runFrame platform frame) := by
  cases major : frame.isBusiness with
  | false =>
      rw [ending?_of_minor major]
      exact (deals_runFrame platform keeps major).flows platform
  | true =>
      cases frame with
      | stage request => cases notStage
      | dispatch batch delivered outer =>
          cases batch with
          | nil => cases major
          | cons record rest => exact sound.flows_dispatch platform candid
      | refuse records failure outer =>
          cases records with
          | nil => cases major
          | cons record rest => exact sound.flows_refuse platform candid
      | release => exact engine.flows_release platform
      | fail leftovers => exact sound.flows_fail platform candid
      | _ => cases major

theorem flows_runFrame (sound : (engine.next frame).Sound flights hand)
    (spare : engine.inFlight + 2 ≤ UInt32.size)
    (keeps : keepsContract (engine.runFrame platform frame).journal)
    (candid : (engine.next frame).Candid) :
    ∃ begun events, (engine.next frame).Flows platform begun (engine.next frame).ending?.toList
        events (engine.runFrame platform frame) ∧
      (begun ≠ [] → (engine.runFrame platform frame).closed = false) := by
  cases stages : frame.isStage with
  | false =>
      rcases sound.flows_of_not_stage platform keeps candid stages with ⟨events, flows⟩
      exact ⟨[], events, flows, by simp⟩
  | true =>
      cases frame with
      | stage request => exact sound.flows_stage platform spare
      | _ => cases stages

/-- What a step ends can be told before it, and what it begins and ends accounts for all that it
changes. -/
theorem flows_step (sound : engine.Sound flights hand) (spare : engine.inFlight + 2 ≤ UInt32.size)
    (keeps : keepsContract (engine.step platform).journal) (candid : engine.Candid) :
    ∃ begun events,
      engine.Flows platform begun engine.ending?.toList events (engine.step platform) ∧
        (begun ≠ [] → (engine.step platform).closed = false) := by
  rcases step_cases engine platform with ⟨turn, same⟩ | ⟨below, frame, rfl, stepped⟩
  · rw [same, ending?_of_awaitsCaller sound.healthy turn]
    exact ⟨[], [], .refl engine, by simp⟩
  · rw [stepped] at keeps ⊢
    exact sound.flows_runFrame platform spare keeps candid

end Sound

end Engine

end CompletionEngine
