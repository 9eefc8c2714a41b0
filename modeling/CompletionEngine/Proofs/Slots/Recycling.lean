import CompletionEngine.Proofs.Operation.Alike
import CompletionEngine.Proofs.Slots.Entry
import CompletionEngine.Simulation.Descriptors

/-!
# Recycled entries

An entry is used over and over. What is done with it is a sequence of acts, each at a moment of a
clock; an act out of turn is a fault and leaves the entry as it is.

Once a history ends with the entry closed or disposed of, the entry is as good as new, although its
payload may still hold what earlier operations and the kernel left in it: it refuses the parameters
that a fresh entry refuses, and once parameters are accepted, no sequence of acts whatsoever is
answered differently, apart from the time that a delay measured and from the places of memory. In
particular the next use of the entry renders the same record, over memory that holds the same, and
comes to the same result.
-/

namespace CompletionEngine

def Completion.timeless {kind : Kind} {γ : Type} (completion : Completion kind γ) :
    Completion kind γ :=
  ⟨completion.continuation, kind.timeless completion.result⟩

namespace Entry

/-- What may be done with an entry. A completion comes with the state the system is in by then. -/
inductive Act (kind : Kind) (γ σ : Type) where
  | prepare (params : kind.Params) (continuation : γ)
  | assignTag (tag : UInt32)
  | link
  | render (record : SubmitRecord)
  | submit
  | receive (written : KernelWrite)
  | complete (result : Int32) (system : σ)
  | abort (failure : Failure)
  | close
  | dispose

/-- What an act whose turn has come answers. -/
inductive Answer (kind : Kind) (γ σ : Type) where
  | done
  | prepared (outcome : Except Failure Unit)
  | rendered (record : SubmitRecord)
  | completed (completion : Completion kind γ) (system : σ)
  | aborted (completion : Completion kind γ)

variable {kind : Kind} {γ σ : Type}

/-- The answer without the time that a delay measured and without the places of memory. -/
def Answer.bare : Answer kind γ σ → Answer kind γ σ
  | rendered record => rendered record.unplaced
  | completed completion system => completed completion.timeless system
  | answer => answer

/-- Carry an act out at a moment. -/
def perform (calls : SocketCalls σ) (now : Moment) (entry : Entry kind γ) :
    Act kind γ σ → Except Fault (Answer kind γ σ × Entry kind γ)
  | .prepare params continuation => do
    let (outcome, entry) ← entry.prepare now params continuation
    .ok (.prepared outcome, entry)
  | .assignTag tag => .ok (.done, entry.assignTag tag)
  | .link => .ok (.done, entry.link)
  | .render record => .ok (.rendered (entry.render record), entry)
  | .submit => do
    let entry ← entry.markSubmitted
    .ok (.done, entry)
  | .receive written => .ok (.done, entry.receive written)
  | .complete result system => do
    let (completion, entry, system) ← entry.complete calls now.time result system
    .ok (.completed completion system, entry)
  | .abort failure => do
    let (completion, entry) ← entry.abort failure
    .ok (.aborted completion, entry)
  | .close => do
    let entry ← entry.close
    .ok (.done, entry)
  | .dispose => .ok (.done, entry.dispose)

/-- The answer to an act, or its fault, and the entry after it. -/
def respond (calls : SocketCalls σ) (now : Moment) (act : Act kind γ σ) (entry : Entry kind γ) :
    Except Fault (Answer kind γ σ) × Entry kind γ :=
  match entry.perform calls now act with
  | .ok (answer, entry) => (.ok answer, entry)
  | .error fault => (.error fault, entry)

/-- The answers to a sequence of acts, by a clock that tells the moment of each. -/
def answers (calls : SocketCalls σ) :
    (Nat → Moment) → List (Act kind γ σ) → Entry kind γ → List (Except Fault (Answer kind γ σ))
  | _, [], _ => []
  | clock, act :: rest, entry =>
    (entry.respond calls (clock 0) act).1 ::
      answers calls (fun index => clock (index + 1)) rest (entry.respond calls (clock 0) act).2

def after (calls : SocketCalls σ) :
    (Nat → Moment) → List (Act kind γ σ) → Entry kind γ → Entry kind γ
  | _, [], entry => entry
  | clock, act :: rest, entry =>
    after calls (fun index => clock (index + 1)) rest (entry.respond calls (clock 0) act).2

/-- Entries that no act tells apart. -/
structure Alike (left right : Entry kind γ) : Prop where
  state_eq : left.state = right.state
  tag_eq : left.tag = right.tag
  flags_eq : left.flags = right.flags
  continuation_eq : left.continuation = right.continuation
  payload_alike : kind.Alike left.payload right.payload

/-- Two outcomes of an act that nobody tells apart. -/
def Agree : Except Fault (Answer kind γ σ × Entry kind γ) →
    Except Fault (Answer kind γ σ × Entry kind γ) → Prop
  | .ok left, .ok right => left.1.bare = right.1.bare ∧ left.2.Alike right.2
  | .error left, .error right => left = right
  | _, _ => False

section Steps

variable {left right : Entry kind γ} {calls : SocketCalls σ}

/-- An act is in turn for both of two entries in the same state, or for neither. -/
theorem agree_of_expect (same : left.state = right.state) (allowed : List EntryState)
    (action : EntryAction) {next next' : Unit → Except Fault (Answer kind γ σ × Entry kind γ)}
    (agree : Agree (next ()) (next' ())) :
    Agree (left.expect allowed action >>= next) (right.expect allowed action >>= next') := by
  unfold expect
  rw [same]
  split
  · exact agree
  · rfl

theorem Alike.render_eq (alike : left.Alike right) (record : SubmitRecord) :
    (left.render record).unplaced = (right.render record).unplaced := by
  have filled := alike.payload_alike.fill_eq record.clear
  simp only [SubmitRecord.unplaced, SubmitRecord.mk.injEq] at filled
  simp only [SubmitRecord.unplaced, render, alike.flags_eq, alike.tag_eq, filled]

theorem Alike.perform (alike : left.Alike right) (now now' : Moment) (act : Act kind γ σ) :
    Agree (left.perform calls now act) (right.perform calls now' act) := by
  have render_eq := alike.render_eq
  rcases alike with ⟨state_eq, tag_eq, flags_eq, continuation_eq, payload_alike⟩
  cases act with
  | prepare params continuation =>
      simp only [Entry.perform, prepare, bind_assoc]
      refine agree_of_expect state_eq _ _ ?_
      by_cases accepts : kind.Accepts params
      · rcases Kind.prepare_of_accepts accepts now now' left.payload right.payload with
          ⟨payload, payload', prepared, prepared', alike⟩
        simp only [prepared, prepared']
        exact ⟨rfl, rfl, tag_eq, flags_eq, rfl, alike⟩
      · -- Refused parameters leave both payloads as they were, and those were alike.
        simp only [Kind.prepare_of_refuses accepts]
        exact ⟨rfl, rfl, tag_eq, flags_eq, rfl, payload_alike⟩
  | assignTag tag => exact ⟨rfl, state_eq, rfl, flags_eq, continuation_eq, payload_alike⟩
  | link =>
      refine ⟨rfl, state_eq, tag_eq, ?_, continuation_eq, payload_alike⟩
      exact congrArg (fun flags => Flags.union flags .ioLink) flags_eq
  | render record =>
      refine ⟨?_, state_eq, tag_eq, flags_eq, continuation_eq, payload_alike⟩
      exact congrArg Answer.rendered (render_eq record)
  | submit =>
      simp only [Entry.perform, markSubmitted, bind_assoc]
      refine agree_of_expect state_eq _ _ ?_
      exact ⟨rfl, rfl, tag_eq, flags_eq, continuation_eq, payload_alike⟩
  | receive written =>
      exact ⟨rfl, state_eq, tag_eq, flags_eq, continuation_eq, payload_alike.receive written⟩
  | complete result system =>
      simp only [Entry.perform, complete, bind_assoc]
      refine agree_of_expect state_eq _ _ ?_
      rcases payload_alike.translate calls now.time now'.time result system with
        ⟨outcome_eq, payload_alike, system_eq⟩
      refine ⟨?_, rfl, tag_eq, flags_eq, rfl, payload_alike⟩
      simp only [Answer.bare, Completion.timeless, finish]
      rw [continuation_eq, outcome_eq, system_eq]
  | abort failure =>
      simp only [Entry.perform, abort, bind_assoc]
      refine agree_of_expect state_eq _ _ ?_
      refine ⟨?_, rfl, tag_eq, flags_eq, rfl, payload_alike⟩
      simp only [Answer.bare, finish, continuation_eq]
  | close =>
      simp only [Entry.perform, close, bind_assoc]
      refine agree_of_expect state_eq _ _ ?_
      exact ⟨rfl, rfl, rfl, rfl, rfl, payload_alike.recycle⟩
  | dispose => exact ⟨rfl, rfl, rfl, rfl, rfl, payload_alike.dispose⟩

theorem Alike.respond (alike : left.Alike right) (now now' : Moment) (act : Act kind γ σ) :
    (left.respond calls now act).1.map Answer.bare =
        (right.respond calls now' act).1.map Answer.bare ∧
      (left.respond calls now act).2.Alike (right.respond calls now' act).2 := by
  have agree : Agree (left.perform calls now act) (right.perform calls now' act) :=
    alike.perform now now' act
  unfold Entry.respond
  revert agree
  rcases left.perform calls now act with fault | outcome
  · rcases right.perform calls now' act with fault' | outcome'
    · intro agree
      exact ⟨congrArg Except.error agree, alike⟩
    · intro agree
      exact agree.elim
  · rcases right.perform calls now' act with fault' | outcome'
    · intro agree
      exact agree.elim
    · intro agree
      exact ⟨congrArg Except.ok agree.1, agree.2⟩

/-- Whatever is done with alike entries, and whenever, they answer alike. -/
theorem Alike.answers (alike : left.Alike right) (clock clock' : Nat → Moment)
    (acts : List (Act kind γ σ)) :
    (left.answers calls clock acts).map (·.map Answer.bare) =
      (right.answers calls clock' acts).map (·.map Answer.bare) := by
  induction acts generalizing left right clock clock' with
  | nil => rfl
  | cons act rest ih =>
      have responses : (left.respond calls (clock 0) act).1.map Answer.bare =
            (right.respond calls (clock' 0) act).1.map Answer.bare ∧
          (left.respond calls (clock 0) act).2.Alike (right.respond calls (clock' 0) act).2 :=
        alike.respond (clock 0) (clock' 0) act
      rcases responses with ⟨answer_eq, alike⟩
      simp only [Entry.answers, List.map_cons, answer_eq]
      rw [ih alike]

end Steps

structure Use (kind : Kind) (γ σ : Type) where
  params : kind.Params
  continuation : γ
  tag : UInt32
  linked : Bool
  /-- The record that the entry is rendered into, used before or not. -/
  record : SubmitRecord
  /-- What the kernel writes while the operation is under way. -/
  writes : List KernelWrite
  result : Int32
  system : σ

namespace Use

def acts (use : Use kind γ σ) : List (Act kind γ σ) :=
  .prepare use.params use.continuation :: .assignTag use.tag ::
    ((if use.linked then [.link] else []) ++ .render use.record :: .submit ::
      (use.writes.map .receive ++ [.complete use.result use.system]))

/-- The answers to a use in which no act is out of turn. -/
def answers (use : Use kind γ σ) (record : SubmitRecord) (completion : Completion kind γ)
    (system : σ) : List (Except Fault (Answer kind γ σ)) :=
  .ok (.prepared (.ok ())) :: .ok .done ::
    ((if use.linked then [.ok .done] else []) ++ .ok (.rendered record) :: .ok .done ::
      (use.writes.map (fun _ => .ok .done) ++ [.ok (.completed completion system)]))

def flags (use : Use kind γ σ) : SubmitFlags := if use.linked then .ioLink else .empty

/-- The entry of a use when it is rendered. -/
def staged (use : Use kind γ σ) (payload : kind.Payload) : Entry kind γ :=
  ⟨.prepared, some use.tag, use.flags, some use.continuation, payload⟩

def filled (use : Use kind γ σ) (payload : kind.Payload) : kind.Payload :=
  use.writes.foldl (fun payload written => kind.operation.receive written payload) payload

/-- What a use that is completed at a moment comes to. -/
def outcome (use : Use kind γ σ) (calls : SocketCalls σ) (now : Instant) (payload : kind.Payload) :
    Completion kind γ × σ :=
  let translated := kind.operation.translate calls now use.result (use.filled payload) use.system
  (⟨some use.continuation, translated.1⟩, translated.2.2)

end Use

theorem supplies_render {entry : Entry kind γ} {params : kind.Params} {record : SubmitRecord}
    (supplies : kind.Supplies params (kind.operation.fill entry.payload .blank)) :
    kind.Supplies params (entry.render record) := by
  cases kind <;> exact supplies

section Alikeness

variable (use : Use kind γ σ) {payload payload' : kind.Payload}

theorem Use.staged_of_alike (alike : kind.Alike payload payload') :
    (use.staged payload).Alike (use.staged payload') := ⟨rfl, rfl, rfl, rfl, alike⟩

theorem Use.filled_of_alike (alike : kind.Alike payload payload') :
    kind.Alike (use.filled payload) (use.filled payload') := by
  unfold Use.filled
  induction use.writes generalizing payload payload' with
  | nil => exact alike
  | cons written writes ih => exact ih (alike.receive written)

theorem Use.outcome_of_alike (alike : kind.Alike payload payload') (calls : SocketCalls σ)
    (now now' : Instant) :
    (use.outcome calls now payload).1.timeless = (use.outcome calls now' payload').1.timeless ∧
      (use.outcome calls now payload).2 = (use.outcome calls now' payload').2 := by
  rcases (use.filled_of_alike alike).translate calls now now' use.result use.system with
    ⟨result_eq, _, system_eq⟩
  exact ⟨congrArg (Completion.mk (some use.continuation)) result_eq, system_eq⟩

end Alikeness

/-- An entry of which nobody can tell that it was used before. -/
structure AsNew (calls : SocketCalls σ) (entry : Entry kind γ) : Prop where
  /-- It accepts parameters unless a path in them holds a NUL byte. -/
  accepts_iff : ∀ now params continuation,
    (entry.respond calls now (.prepare params continuation)).1 = .ok (.prepared (.ok ())) ↔
      kind.Accepts params
  /-- It refuses the others with the failure that a fresh entry refuses them with. -/
  verdict_eq : ∀ now now' params continuation,
    (entry.respond calls now (.prepare params continuation)).1 =
      (fresh.respond calls now' (.prepare params continuation)).1
  /-- Once it has accepted parameters, no acts are answered as a fresh entry would not. -/
  answers_eq : ∀ clock clock' params continuation acts, kind.Accepts params →
    (entry.answers calls clock (.prepare params continuation :: acts)).map
        (·.map Answer.bare) =
      (fresh.answers calls clock' (.prepare params continuation :: acts)).map
        (·.map Answer.bare)
  /--
  A use of it renders the record that the same use of a fresh entry renders, but for the places of the
  memory. What this memory holds is determined by the parameters. The continuation is handed the same
  result.
  -/
  use_eq : ∀ clock clock' (use : Use kind γ σ), kind.Accepts use.params →
    ∃ record record' completion completion' system,
      entry.answers calls clock use.acts = use.answers record completion system ∧
      fresh.answers calls clock' use.acts = use.answers record' completion' system ∧
      record.unplaced = record'.unplaced ∧ completion.timeless = completion'.timeless ∧
      completion.continuation = some use.continuation ∧
      record.flags = use.flags ∧ record.userData = use.tag.toUInt64 ∧
      kind.Supplies use.params record

section Uses

variable {entry : Entry kind γ} {calls : SocketCalls σ}

theorem answers_cons {clock : Nat → Moment} {act : Act kind γ σ} {answer : Answer kind γ σ}
    {next : Entry kind γ} (performed : entry.perform calls (clock 0) act = .ok (answer, next))
    (rest : List (Act kind γ σ)) :
    entry.answers calls clock (act :: rest) =
      .ok answer :: next.answers calls (fun index => clock (index + 1)) rest := by
  simp only [answers, respond, performed]

theorem perform_prepare_of_ok (idle : entry.Idle) {now : Moment} {params : kind.Params}
    {payload : kind.Payload}
    (accepted : kind.operation.prepare now params entry.payload = .ok payload) (continuation : γ) :
    entry.perform calls now (.prepare params continuation) =
      .ok (.prepared (.ok ()), ⟨.prepared, none, .empty, some continuation, payload⟩) := by
  rcases entry with ⟨state, tag, flags, held, former⟩
  rcases idle with ⟨rfl, rfl, rfl, rfl⟩
  simp only [perform, prepare, accepted]
  rfl

theorem perform_prepare_of_error (idle : entry.Idle) {now : Moment} {params : kind.Params}
    {failure : Failure}
    (refused : kind.operation.prepare now params entry.payload = .error failure)
    (continuation : γ) :
    entry.perform calls now (.prepare params continuation) =
      .ok (.prepared (.error failure),
        ⟨.prepared, none, .empty, some continuation, entry.payload⟩) := by
  rcases entry with ⟨state, tag, flags, held, former⟩
  rcases idle with ⟨rfl, rfl, rfl, rfl⟩
  simp only [perform, prepare, refused]
  rfl

theorem answers_receive (clock : Nat → Moment) (writes : List KernelWrite)
    (rest : List (Act kind γ σ)) (entry : Entry kind γ) :
    entry.answers calls clock (writes.map .receive ++ rest) =
      writes.map (fun _ => .ok .done) ++
        answers calls (fun index => clock (index + writes.length)) rest
          { entry with payload := writes.foldl (fun payload written =>
              kind.operation.receive written payload) entry.payload } := by
  induction writes generalizing clock entry with
  | nil => rfl
  | cons written writes ih =>
      rw [List.map_cons, List.cons_append, answers_cons rfl, ih]
      rfl

theorem answers_linked (use : Use kind γ σ) (payload : kind.Payload) (clock : Nat → Moment)
    (rest : List (Act kind γ σ)) :
    ∃ later, answers calls clock ((if use.linked then [.link] else []) ++ rest)
        ⟨.prepared, some use.tag, .empty, some use.continuation, payload⟩ =
      (if use.linked then [.ok .done] else []) ++
        (use.staged payload).answers calls later rest := by
  cases linked : use.linked with
  | false =>
      refine ⟨clock, ?_⟩
      simp [Use.staged, Use.flags, linked]
  | true =>
      refine ⟨fun index => clock (index + 1), ?_⟩
      have staged : use.staged payload =
          link ⟨.prepared, some use.tag, .empty, some use.continuation, payload⟩ := by
        simp only [Use.staged, Use.flags, linked, link]
        rfl
      rw [staged]
      rfl

theorem answers_staged (use : Use kind γ σ) (payload : kind.Payload) (clock : Nat → Moment) :
    ∃ now, (use.staged payload).answers calls clock
        (.render use.record :: .submit ::
          (use.writes.map .receive ++ [.complete use.result use.system])) =
      .ok (.rendered ((use.staged payload).render use.record)) :: .ok .done ::
        (use.writes.map (fun _ => .ok .done) ++
          [.ok (.completed (use.outcome calls now payload).1
            (use.outcome calls now payload).2)]) := by
  -- Named here, so that the entry does not grow by a layer with each act.
  have submitted (moment : Moment) : (use.staged payload).perform calls moment .submit =
      .ok (.done, { use.staged payload with state := .submitted }) := rfl
  refine ⟨(clock (0 + use.writes.length + 1 + 1)).time, ?_⟩
  rw [answers_cons rfl, answers_cons (submitted _), answers_receive, answers_cons rfl]
  rfl

/-- An idle entry that accepts the parameters of a use carries it through. -/
theorem answers_use (idle : entry.Idle) (use : Use kind γ σ) {clock : Nat → Moment}
    {payload : kind.Payload}
    (accepted : kind.operation.prepare (clock 0) use.params entry.payload = .ok payload) :
    ∃ now, entry.answers calls clock use.acts =
      use.answers ((use.staged payload).render use.record) (use.outcome calls now payload).1
        (use.outcome calls now payload).2 := by
  have tagged (moment : Moment) :
      perform calls moment ⟨.prepared, none, .empty, some use.continuation, payload⟩
        (.assignTag use.tag) =
        .ok (.done, ⟨.prepared, some use.tag, .empty, some use.continuation, payload⟩) := rfl
  rcases answers_linked use payload (fun index => clock (index + 1 + 1))
    (.render use.record :: .submit ::
      (use.writes.map .receive ++ [.complete use.result use.system])) with ⟨later, linked⟩
  rcases answers_staged use payload later with ⟨now, staged⟩
  refine ⟨now, ?_⟩
  rw [Use.acts, answers_cons (perform_prepare_of_ok idle accepted _), answers_cons (tagged _),
    linked, staged]
  rfl

theorem respond_prepare_of_accepts (idle : entry.Idle) {params : kind.Params}
    (accepts : kind.Accepts params) (now : Moment) (continuation : γ) :
    (entry.respond calls now (.prepare params continuation)).1 = .ok (.prepared (.ok ())) := by
  rcases Kind.prepare_of_accepts accepts now now entry.payload entry.payload with
    ⟨payload, _, accepted, _, _⟩
  simp only [respond, perform_prepare_of_ok idle accepted]

theorem respond_prepare_of_refuses (idle : entry.Idle) {params : kind.Params}
    (refuses : ¬ kind.Accepts params) (now : Moment) (continuation : γ) :
    (entry.respond calls now (.prepare params continuation)).1 =
      .ok (.prepared (.error .pathHoldsNul)) := by
  have refused := Kind.prepare_of_refuses refuses now entry.payload
  simp only [respond, perform_prepare_of_error idle refused]

/-- An entry between two operations is as good as new, whatever its payload holds. -/
theorem asNew_of_idle (idle : entry.Idle) : entry.AsNew calls where
  accepts_iff := by
    intro now params continuation
    refine ⟨fun accepted => ?_, fun accepts => respond_prepare_of_accepts idle accepts _ _⟩
    by_cases accepts : kind.Accepts params
    · exact accepts
    · rw [respond_prepare_of_refuses idle accepts] at accepted
      cases accepted
  verdict_eq := by
    intro now now' params continuation
    by_cases accepts : kind.Accepts params
    · rw [respond_prepare_of_accepts idle accepts, respond_prepare_of_accepts idle_fresh accepts]
    · rw [respond_prepare_of_refuses idle accepts, respond_prepare_of_refuses idle_fresh accepts]
  answers_eq := by
    intro clock clock' params continuation acts accepts
    rcases Kind.prepare_of_accepts accepts (clock 0) (clock' 0) entry.payload
      (fresh : Entry kind γ).payload with ⟨payload, payload', accepted, accepted', alike⟩
    rw [answers_cons (perform_prepare_of_ok idle accepted _),
      answers_cons (perform_prepare_of_ok idle_fresh accepted' _), List.map_cons, List.map_cons]
    have prepared : Alike
        (⟨.prepared, none, .empty, some continuation, payload⟩ : Entry kind γ)
        ⟨.prepared, none, .empty, some continuation, payload'⟩ := ⟨rfl, rfl, rfl, rfl, alike⟩
    rw [prepared.answers]
  use_eq := by
    intro clock clock' use accepts
    rcases Kind.prepare_of_accepts accepts (clock 0) (clock' 0) entry.payload
      (fresh : Entry kind γ).payload with ⟨payload, payload', accepted, accepted', alike⟩
    -- Both entries go through the same turns; what differs is hidden in payloads that are alike.
    rcases answers_use idle use accepted with ⟨now, answered⟩
    rcases answers_use idle_fresh use accepted' with ⟨now', answered'⟩
    rcases use.outcome_of_alike alike calls now now' with ⟨completion_eq, system_eq⟩
    have rendered := (use.staged_of_alike alike).render_eq use.record
    rw [← system_eq] at answered'
    refine ⟨_, _, _, _, _, answered, answered', rendered, completion_eq, rfl, ?_, rfl, ?_⟩
    · exact flags_render _ _
    · exact supplies_render (Kind.supplies_of_prepare accepts accepted)

end Uses

section Histories

variable {calls : SocketCalls σ}

theorem idle_of_close {entry closed : Entry kind γ} (closes : entry.close = .ok closed) :
    closed.Idle := by
  unfold close at closes
  cases turn : entry.expect [.free, .completed] .close with
  | error fault => simp [turn, bind, Except.bind] at closes
  | ok done =>
      simp only [turn, bind, Except.bind] at closes
      cases closes
      exact idle_reset _

/-- Whatever was done with an entry, once it is closed or disposed of it is as good as new. -/
theorem asNew_of_recycled {clock : Nat → Moment} {history : List (Act kind γ σ)}
    {final : Act kind γ σ} (recycles : final = .close ∨ final = .dispose) {now : Moment}
    {recycled : Entry kind γ}
    (ended : (fresh.after calls clock history).perform calls now final = .ok (.done, recycled)) :
    recycled.AsNew calls := by
  rcases recycles with rfl | rfl
  · unfold perform at ended
    cases closes : (fresh.after calls clock history).close with
    | error fault => simp [closes, bind, Except.bind] at ended
    | ok closed =>
        simp only [closes, bind, Except.bind] at ended
        cases ended
        exact asNew_of_idle (idle_of_close closes)
  · cases ended
    exact asNew_of_idle (idle_reset _)

open Simulation in
/-- An entry keeps the status its first query found, also when it refuses the path of the next. -/
theorem asNew_refused_query :
    let found : StatusBlock := { StatusBlock.zero with size := 42, mode := 0x81a4 }
    let clock (index : Nat) : Moment := ⟨index, ⟨2 * index⟩⟩
    let history : List (Act .status String DescriptorTable) :=
      [.prepare (StatusParams.ofPath [47, 97]) "first", .assignTag 7, .link, .render .blank,
        .submit, .receive (.status found), .complete 0 [], .close,
        .prepare (StatusParams.ofPath [47, 0]) "second", .abort .pathHoldsNul]
    ∃ recycled : Entry .status String,
      (fresh.after DescriptorTable.socketCalls clock history).perform DescriptorTable.socketCalls
        (clock 10) .close = .ok (.done, recycled) ∧
      StatusPayload.block recycled.payload = some ⟨⟨1⟩, found⟩ ∧
      recycled.AsNew DescriptorTable.socketCalls := by
  intro found clock history
  have ended : (fresh.after DescriptorTable.socketCalls clock history).perform
      DescriptorTable.socketCalls (clock 10) .close =
        .ok (.done, ⟨.free, none, .empty, none,
          (⟨.invalid, none, .empty, .basicStatus, some ⟨⟨1⟩, found⟩⟩ : StatusPayload)⟩) := rfl
  exact ⟨_, ended, rfl, asNew_of_recycled (.inl rfl) ended⟩

end Histories

end Entry

end CompletionEngine
