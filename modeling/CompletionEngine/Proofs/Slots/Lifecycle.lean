import Mathlib.Data.List.Induction
import CompletionEngine.Proofs.Slots.InPlace

/-!
# The life of an entry

An entry goes round: it is prepared, submitted, completed and recycled. Acts may come in any order,
also out of turn, and whoever makes them may carry on after a fault.

`Entry.Responds` lists what an act comes to. All that matters of an operation is the continuation that
was taken over with its parameters: it lies in the entry as long as the operation is pending, and
leaves it with the first act that ends the operation, in a completion, unless the entry is disposed of.
-/

namespace CompletionEngine

namespace Entry

variable {kind : Kind} {γ σ : Type}

section Acts

/-- The action that an act is, if it has to wait for its turn, and the states in which this comes. -/
def Act.turn? : Act kind γ σ → Option (EntryAction × List EntryState)
  | .prepare .. => some (.prepare, [.free])
  | .submit => some (.submit, [.prepared])
  | .complete .. => some (.complete, [.submitted])
  | .abort _ => some (.abort, [.prepared, .submitted])
  | .close => some (.close, [.free, .completed])
  | .assignTag _ | .link | .render _ | .receive _ | .dispose => none

/-- Whether an act ends the operation that is pending. -/
def Act.ends : Act kind γ σ → Bool
  | .complete .. | .abort _ | .dispose => true
  | _ => false

/-- The completion in an answer. -/
def Answer.completion? : Answer kind γ σ → Option (Completion kind γ)
  | .completed completion _ | .aborted completion => some completion
  | _ => none

end Acts

/-- Whether an operation is under way. -/
def Pending (entry : Entry kind γ) : Prop := entry.state = .prepared ∨ entry.state = .submitted

/-- What an act may come to. -/
inductive Responds (entry : Entry kind γ) :
    Act kind γ σ → Except Fault (Answer kind γ σ) → Entry kind γ → Prop
  | refuses {act : Act kind γ σ} {action : EntryAction} {allowed : List EntryState}
    (turn : act.turn? = some (action, allowed)) (outOfTurn : entry.state ∉ allowed) :
    Responds entry act (.error (.outOfTurn kind action entry.state)) entry
  | prepares (free : entry.state = .free) (params : kind.Params) (continuation : γ)
    (outcome : Except Failure Unit) (payload : kind.Payload) :
    Responds entry (.prepare params continuation) (.ok (.prepared outcome)) { entry with
      state := .prepared
      continuation := some continuation
      payload := payload }
  | tags (tag : UInt32) : Responds entry (.assignTag tag) (.ok .done) (entry.assignTag tag)
  | links : Responds entry .link (.ok .done) entry.link
  | renders (record : SubmitRecord) :
    Responds entry (.render record) (.ok (.rendered (entry.render record))) entry
  | submits (prepared : entry.state = .prepared) :
    Responds entry .submit (.ok .done) { entry with state := .submitted }
  | receives (written : KernelWrite) :
    Responds entry (.receive written) (.ok .done) (entry.receive written)
  | completes (submitted : entry.state = .submitted) (result : Int32) (system after : σ)
    (outcome : Except Failure kind.Output) (payload : kind.Payload) :
    Responds entry (.complete result system) (.ok (.completed ⟨entry.continuation, outcome⟩ after))
      { entry with
        state := .completed
        continuation := none
        payload := payload }
  | aborts (pending : entry.Pending) (failure : Failure) :
    Responds entry (.abort failure) (.ok (.aborted ⟨entry.continuation, .error failure⟩))
      { entry with
        state := .completed
        continuation := none }
  | closes (ended : entry.state = .free ∨ entry.state = .completed) {recycled : Entry kind γ}
    (idle : recycled.Idle) : Responds entry .close (.ok .done) recycled
  | disposes {recycled : Entry kind γ} (idle : recycled.Idle) :
    Responds entry .dispose (.ok .done) recycled

section Responses

variable {calls : SocketCalls σ} {entry : Entry kind γ}

/-- An act out of turn is a fault, and changes nothing. -/
theorem respond_of_outOfTurn {act : Act kind γ σ} {action : EntryAction}
    {allowed : List EntryState} (turn : act.turn? = some (action, allowed))
    (outOfTurn : entry.state ∉ allowed) (now : Moment) :
    entry.respond calls now act = (.error (.outOfTurn kind action entry.state), entry) := by
  have faults := expect_of_notMem outOfTurn action
  cases act <;> cases turn <;>
    simp only [respond, perform, prepare, markSubmitted, complete, abort, close, faults] <;> rfl

/-- A free entry takes the continuation over whether or not its payload accepts the parameters. -/
theorem responds_prepare (free : entry.state = .free) (now : Moment) (params : kind.Params)
    (continuation : γ) :
    entry.Responds (.prepare params continuation)
      (entry.respond calls now (.prepare params continuation)).1
      (entry.respond calls now (.prepare params continuation)).2 := by
  have turn : entry.state ∈ [EntryState.free] := by simpa using free
  cases prepared : kind.operation.prepare now params entry.payload with
  | error failure =>
      have answered : entry.respond calls now (.prepare params continuation) =
          (.ok (.prepared (.error failure)), { entry with
            state := .prepared
            continuation := some continuation }) := by
        simp only [respond, perform, prepare, expect_of_mem turn, prepared]
        rfl
      rw [answered]
      exact .prepares free params continuation (.error failure) entry.payload
  | ok payload =>
      have answered : entry.respond calls now (.prepare params continuation) =
          (.ok (.prepared (.ok ())), { entry with
            state := .prepared
            continuation := some continuation
            payload := payload }) := by
        simp only [respond, perform, prepare, expect_of_mem turn, prepared]
        rfl
      rw [answered]
      exact .prepares free params continuation (.ok ()) payload

/-- Every act comes to one of these. -/
theorem responds (calls : SocketCalls σ) (now : Moment) (act : Act kind γ σ)
    (entry : Entry kind γ) :
    entry.Responds act (entry.respond calls now act).1 (entry.respond calls now act).2 := by
  -- Whatever the act, it is either out of turn, or its state is known.
  have refused : ∀ action allowed, act.turn? = some (action, allowed) → entry.state ∉ allowed →
      entry.Responds act (entry.respond calls now act).1 (entry.respond calls now act).2 := by
    intro action allowed turn outOfTurn
    rw [respond_of_outOfTurn turn outOfTurn]
    exact .refuses turn outOfTurn
  cases act with
  | assignTag tag => exact .tags tag
  | link => exact .links
  | render record => exact .renders record
  | receive written => exact .receives written
  | dispose => exact .disposes (idle_reset _)
  | prepare params continuation =>
      by_cases turn : entry.state ∈ [EntryState.free]
      · exact responds_prepare (by simpa using turn) now params continuation
      · exact refused _ _ rfl turn
  | submit =>
      by_cases turn : entry.state ∈ [EntryState.prepared]
      · have prepared : entry.state = .prepared := by simpa using turn
        simp only [respond, perform, markSubmitted_of_prepared prepared]
        exact .submits prepared
      · exact refused _ _ rfl turn
  | complete result system =>
      by_cases turn : entry.state ∈ [EntryState.submitted]
      · have submitted : entry.state = .submitted := by simpa using turn
        simp only [respond, perform, complete_of_submitted submitted]
        exact .completes submitted result system _ _ _
      · exact refused _ _ rfl turn
  | abort failure =>
      by_cases turn : entry.state ∈ [EntryState.prepared, .submitted]
      · have pending : entry.Pending := by simpa [Pending] using turn
        simp only [respond, perform, abort_of_pending pending]
        exact .aborts pending failure
      · exact refused _ _ rfl turn
  | close =>
      by_cases turn : entry.state ∈ [EntryState.free, .completed]
      · have ended : entry.state = .free ∨ entry.state = .completed := by simpa using turn
        simp only [respond, perform, close, expect_of_mem turn]
        exact .closes ended (idle_reset _)
      · exact refused _ _ rfl turn

end Responses

section Histories

variable {calls : SocketCalls σ}

theorem after_append (clock : Nat → Moment) (earlier later : List (Act kind γ σ))
    (entry : Entry kind γ) :
    entry.after calls clock (earlier ++ later) =
      (entry.after calls clock earlier).after calls (fun index => clock (index + earlier.length))
        later := by
  induction earlier generalizing clock entry with
  | nil => rfl
  | cons act rest ih => exact ih (fun index => clock (index + 1)) _

/-- The entry after one more act. -/
theorem after_concat (clock : Nat → Moment) (earlier : List (Act kind γ σ)) (act : Act kind γ σ)
    (entry : Entry kind γ) :
    entry.after calls clock (earlier ++ [act]) =
      ((entry.after calls clock earlier).respond calls (clock earlier.length) act).2 := by
  rw [after_append]
  simp only [after, Nat.zero_add]

/-- The answers to some acts that follow others. -/
def answersAfter (calls : SocketCalls σ) (clock : Nat → Moment) (earlier acts : List (Act kind γ σ))
    (entry : Entry kind γ) : List (Except Fault (Answer kind γ σ)) :=
  (entry.after calls clock earlier).answers calls (fun index => clock (index + earlier.length)) acts

theorem answersAfter_cons (clock : Nat → Moment) (earlier : List (Act kind γ σ))
    (act : Act kind γ σ) (rest : List (Act kind γ σ)) (entry : Entry kind γ) :
    entry.answersAfter calls clock earlier (act :: rest) =
      ((entry.after calls clock earlier).respond calls (clock earlier.length) act).1 ::
        entry.answersAfter calls clock (earlier ++ [act]) rest := by
  have shifted : (fun index => clock (index + 1 + earlier.length)) =
      fun index => clock (index + (earlier.length + 1)) := by
    funext index
    rw [Nat.add_assoc, Nat.add_comm 1]
  simp only [answersAfter, answers, after_concat, Nat.zero_add, List.length_append,
    List.length_singleton, shifted]

/-- The completions in some answers. -/
def completions (answers : List (Except Fault (Answer kind γ σ))) : List (Completion kind γ) :=
  answers.filterMap fun answer => answer.toOption.bind Answer.completion?

/-- Of the answers to some acts, those that end an operation. -/
def endings (acts : List (Act kind γ σ)) (answers : List (Except Fault (Answer kind γ σ))) :
    List (Answer kind γ σ) :=
  (acts.zip answers).filterMap fun (act, answer) => if act.ends then answer.toOption else none

/-- Whether some answers are about one operation at most, since none takes over parameters. -/
def Continues (answers : List (Except Fault (Answer kind γ σ))) : Prop :=
  ∀ outcome, .ok (.prepared outcome) ∉ answers

end Histories

section Operations

variable {calls : SocketCalls σ} {entry after : Entry kind γ} {act : Act kind γ σ}
  {answer : Except Fault (Answer kind γ σ)}

/-- What an act comes to while an operation is pending, as far as it matters for its continuation. -/
theorem Responds.of_pending (responds : entry.Responds act answer after) (pending : entry.Pending) :
    after.Pending ∧ after.continuation = entry.continuation ∧
        answer.toOption.bind Answer.completion? = none ∧ (act.ends → answer.toOption = none) ∨
      ¬after.Pending ∧ act.ends ∧ ∃ value, answer = .ok value ∧
        ∀ completion, value.completion? = some completion →
          completion.continuation = entry.continuation := by
  cases responds with
  | refuses turn outOfTurn => exact .inl ⟨pending, rfl, rfl, fun _ => rfl⟩
  | prepares free => simp [Pending, free] at pending
  | tags | links | renders | receives => exact .inl ⟨pending, rfl, rfl, nofun⟩
  | submits prepared => exact .inl ⟨.inr rfl, rfl, rfl, nofun⟩
  | completes submitted => exact .inr ⟨by simp [Pending], rfl, _, rfl, by rintro _ ⟨⟩; rfl⟩
  | aborts _ failure => exact .inr ⟨by simp [Pending], rfl, _, rfl, by rintro _ ⟨⟩; rfl⟩
  | closes ended =>
      rcases ended with free | completed
      · simp [Pending, free] at pending
      · simp [Pending, completed] at pending
  | disposes idle => exact .inr ⟨by simp [Pending, idle.state_eq], rfl, _, rfl, nofun⟩

/-- While no operation is pending, only parameters that are taken over begin one, and nothing is
handed out. -/
theorem Responds.of_not_pending (responds : entry.Responds act answer after)
    (quiet : ¬entry.Pending) (continues : ∀ outcome, answer ≠ .ok (.prepared outcome)) :
    ¬after.Pending ∧ answer.toOption.bind Answer.completion? = none := by
  cases responds with
  | refuses turn outOfTurn => exact ⟨quiet, rfl⟩
  | prepares _ _ _ outcome => exact absurd rfl (continues outcome)
  | tags | links | renders | receives => exact ⟨quiet, rfl⟩
  | submits prepared => exact absurd (.inl prepared) quiet
  | completes submitted => exact absurd (.inr submitted) quiet
  | aborts pending => exact absurd pending quiet
  | closes _ idle | disposes idle => exact ⟨by simp [Pending, idle.state_eq], rfl⟩

theorem Continues.of_cons {answers : List (Except Fault (Answer kind γ σ))}
    (continues : Continues (answer :: answers)) :
    (∀ outcome, answer ≠ .ok (.prepared outcome)) ∧ Continues answers :=
  ⟨fun outcome same => continues outcome (same ▸ List.mem_cons_self),
    fun outcome there => continues outcome (List.mem_cons_of_mem _ there)⟩

theorem completions_cons (answer : Except Fault (Answer kind γ σ))
    (answers : List (Except Fault (Answer kind γ σ))) :
    completions (answer :: answers) =
      (answer.toOption.bind Answer.completion?).toList ++ completions answers := by
  simp only [completions, List.filterMap_cons]
  cases answer.toOption.bind Answer.completion? <;> rfl

theorem completions_eq_nil {clock : Nat → Moment} {acts : List (Act kind γ σ)}
    (quiet : ¬entry.Pending) (continues : Continues (entry.answers calls clock acts)) :
    completions (entry.answers calls clock acts) = [] := by
  induction acts generalizing clock entry with
  | nil => rfl
  | cons act rest ih =>
      rcases continues.of_cons with ⟨first, others⟩
      rcases (responds calls (clock 0) act entry).of_not_pending quiet first with ⟨still, nothing⟩
      rw [answers, completions_cons, nothing, ih still others]
      rfl

theorem endings_cons (act : Act kind γ σ) (acts : List (Act kind γ σ))
    (answer : Except Fault (Answer kind γ σ)) (answers : List (Except Fault (Answer kind γ σ))) :
    endings (act :: acts) (answer :: answers) =
      (if act.ends then answer.toOption else none).toList ++ endings acts answers := by
  simp only [endings, List.zip_cons_cons, List.filterMap_cons]
  cases (if act.ends then answer.toOption else none) <;> rfl

/-- The continuation of a pending operation is handed out once, by the first act that ends it, unless
this disposes of the entry. -/
theorem completions_of_pending {clock : Nat → Moment} {acts : List (Act kind γ σ)} {continuation : γ}
    (pending : entry.Pending) (held : entry.continuation = some continuation)
    (continues : Continues (entry.answers calls clock acts)) :
    completions (entry.answers calls clock acts) =
        ((endings acts (entry.answers calls clock acts)).head?.bind Answer.completion?).toList ∧
      ∀ completion ∈ completions (entry.answers calls clock acts),
        completion.continuation = some continuation := by
  induction acts generalizing clock entry with
  | nil => exact ⟨rfl, nofun⟩
  | cons act rest ih =>
      rcases continues.of_cons with ⟨first, others⟩
      rw [answers, completions_cons, endings_cons]
      rcases (responds calls (clock 0) act entry).of_pending pending with
        ⟨still, kept, nothing, unended⟩ | ⟨ended, ends, value, answered, own⟩
      · have skipped : (if act.ends then (entry.respond calls (clock 0) act).1.toOption else none) =
            none := by
          split
          · next ends => exact unended ends
          · rfl
        rw [nothing, skipped]
        exact ih still (kept.trans held) others
      · rw [completions_eq_nil ended others, answered, List.append_nil, if_pos ends]
        refine ⟨rfl, fun completion there => ?_⟩
        rw [own completion (Option.mem_toList.mp there), held]

end Operations

section Origins

variable {calls : SocketCalls σ} {clock : Nat → Moment}

theorem answers_concat (clock : Nat → Moment) (acts : List (Act kind γ σ)) (act : Act kind γ σ)
    (entry : Entry kind γ) :
    entry.answers calls clock (acts ++ [act]) = entry.answers calls clock acts ++
      [((entry.after calls clock acts).respond calls (clock acts.length) act).1] := by
  induction acts generalizing clock entry with
  | nil => rfl
  | cons first rest ih =>
      rw [List.cons_append, answers, ih]
      rfl

theorem length_answersAfter (earlier acts : List (Act kind γ σ)) (entry : Entry kind γ) :
    (entry.answersAfter calls clock earlier acts).length = acts.length := by
  induction acts generalizing earlier with
  | nil => rfl
  | cons act rest ih =>
      rw [answersAfter_cons]
      exact congrArg (· + 1) (ih _)

theorem answersAfter_concat (earlier acts : List (Act kind γ σ)) (act : Act kind γ σ)
    (entry : Entry kind γ) :
    entry.answersAfter calls clock earlier (acts ++ [act]) =
      entry.answersAfter calls clock earlier acts ++
        [((entry.after calls clock (earlier ++ acts)).respond calls
          (clock (earlier ++ acts).length) act).1] := by
  rw [answersAfter, answers_concat, after_append, List.length_append, Nat.add_comm earlier.length]
  rfl

theorem endings_concat {acts : List (Act kind γ σ)}
    {answers : List (Except Fault (Answer kind γ σ))} (same : answers.length = acts.length)
    (act : Act kind γ σ) (answer : Except Fault (Answer kind γ σ)) :
    endings (acts ++ [act]) (answers ++ [answer]) =
      endings acts answers ++ endings [act] [answer] := by
  simp only [endings]
  rw [List.zip_append same.symm, List.filterMap_append]

theorem Continues.concat {answers : List (Except Fault (Answer kind γ σ))}
    (continues : Continues answers) {answer : Except Fault (Answer kind γ σ)}
    (other : ∀ outcome, answer ≠ .ok (.prepared outcome)) : Continues (answers ++ [answer]) := by
  intro outcome there
  rcases List.mem_append.mp there with former | last
  · exact continues outcome former
  · exact other outcome (List.mem_singleton.mp last).symm

/-- Where the continuation of a pending operation came from: from parameters that a free entry took
over, when since then no others were taken over and nothing has ended the operation. -/
def Stems (calls : SocketCalls σ) (clock : Nat → Moment) (entry : Entry kind γ)
    (history : List (Act kind γ σ)) (continuation : Option γ) : Prop :=
  ∃ earlier params own during, history = earlier ++ .prepare params own :: during ∧
    (entry.after calls clock earlier).state = .free ∧
    Continues (entry.answersAfter calls clock (earlier ++ [.prepare params own]) during) ∧
    endings during (entry.answersAfter calls clock (earlier ++ [.prepare params own]) during) = [] ∧
    continuation = some own

theorem Stems.concat {entry : Entry kind γ} {history : List (Act kind γ σ)} {continuation : Option γ}
    (stems : entry.Stems calls clock history continuation) {act : Act kind γ σ}
    {answer : Except Fault (Answer kind γ σ)}
    (answered : ((entry.after calls clock history).respond calls (clock history.length) act).1 =
      answer)
    (other : ∀ outcome, answer ≠ .ok (.prepared outcome))
    (unended : act.ends → answer.toOption = none) :
    entry.Stems calls clock (history ++ [act]) continuation := by
  rcases stems with ⟨earlier, params, own, during, rfl, free, continues, nothing, held⟩
  refine ⟨earlier, params, own, during ++ [act], by simp, free, ?_, ?_, held⟩
  all_goals
    rw [answersAfter_concat]
    rw [List.append_cons] at answered
    rw [answered]
  · exact continues.concat other
  · have last : endings [act] [answer] = [] := by
      rw [endings_cons]
      split
      · next ends => rw [unended ends]; rfl
      · rfl
    rw [endings_concat (length_answersAfter _ _ _), nothing, last]
    rfl

/-- An entry that was once fresh holds a continuation exactly while an operation is pending, and
that is the operation's own. -/
theorem awaits_of_history (calls : SocketCalls σ) (clock : Nat → Moment)
    (history : List (Act kind γ σ)) {entry : Entry kind γ} (idle : entry.Idle) :
    ((entry.after calls clock history).continuation.isSome ↔
        (entry.after calls clock history).Pending) ∧
      ((entry.after calls clock history).Pending →
        entry.Stems calls clock history (entry.after calls clock history).continuation) := by
  -- By induction on the acts, from the last one back: each continues an operation, begins or ends one.
  induction history using List.reverseRecOn with
  | nil =>
      have quiet : ¬entry.Pending := by simp [Pending, idle.state_eq]
      simp [after, idle.continuation_eq, quiet]
  | append_singleton history act ih =>
      rw [after_concat]
      generalize former_eq : entry.after calls clock history = former at ih ⊢
      rcases ih with ⟨awaited, stems⟩
      have responds := responds calls (clock history.length) act former
      generalize answer_eq : (former.respond calls (clock history.length) act).1 = answer
        at responds
      generalize (former.respond calls (clock history.length) act).2 = next at responds ⊢
      rw [← former_eq] at answer_eq
      have ended {next : Entry kind γ} (empty : next.continuation = none) (quiet : ¬next.Pending) :
          (next.continuation.isSome ↔ next.Pending) ∧ (next.Pending →
            entry.Stems calls clock (history ++ [act]) next.continuation) :=
        ⟨by simp [empty, quiet], fun pending => absurd pending quiet⟩
      cases responds with
      | refuses turn outOfTurn =>
          exact ⟨awaited, fun pending => (stems pending).concat answer_eq nofun fun _ => rfl⟩
      | prepares free params own outcome payload =>
          refine ⟨by simp [Pending], fun _ => ?_⟩
          exact ⟨history, params, own, [], rfl, former_eq ▸ free, nofun, rfl, rfl⟩
      | tags | links | renders | receives =>
          exact ⟨awaited, fun pending => (stems pending).concat answer_eq nofun nofun⟩
      | submits prepared =>
          refine ⟨?_, fun _ => (stems (.inl prepared)).concat answer_eq nofun nofun⟩
          exact ⟨fun _ => .inr rfl, fun _ => awaited.mpr (.inl prepared)⟩
      | completes | aborts => exact ended rfl (by simp [Pending])
      | closes _ idle | disposes idle =>
          exact ended idle.continuation_eq (by simp [Pending, idle.state_eq])

end Origins

section Turns

variable {calls : SocketCalls σ}

/-- The life of an entry that was fresh before a history of acts, whichever of them were faults. -/
structure Lifecycle (calls : SocketCalls σ) (clock : Nat → Moment)
    (history : List (Act kind γ σ)) (entry : Entry kind γ) : Prop where
  /-- An act out of turn breaks off with a fault, and writes nothing. -/
  out_of_turn : ∀ now (act : Act kind γ σ) action allowed,
    act.turn? = some (action, allowed) → entry.state ∉ allowed →
      (performInPlace calls now act).on entry =
        (.error (.outOfTurn kind action entry.state), entry)
  /-- Any other act is carried out. -/
  in_turn : ∀ now (act : Act kind γ σ),
    (∀ action allowed, act.turn? = some (action, allowed) → entry.state ∈ allowed) →
      ∃ answer next, (performInPlace calls now act).on entry = (.ok answer, next)
  /-- A continuation is held while an operation is prepared or submitted, and only then. -/
  awaited : entry.continuation.isSome ↔ entry.state = .prepared ∨ entry.state = .submitted
  /-- A free entry takes a continuation over, also with parameters that its payload refuses. -/
  taken_over : entry.state = .free → ∀ now params continuation, ∃ outcome next,
    (performInPlace calls now (.prepare params continuation)).on entry =
        (.ok (.prepared outcome), next) ∧
      next.state = .prepared ∧ next.continuation = some continuation
  /-- Until another continuation is taken over, at most one completion is handed out, by the act that
  ends the operation, if it hands one out; and the completion is of that very continuation. -/
  answered_once : entry.state = .free → ∀ params continuation during,
    let prepared := history ++ [.prepare params continuation]
    let answers := fresh.answersAfter calls clock prepared during
    Continues answers →
      completions answers = ((endings during answers).head?.bind Answer.completion?).toList ∧
        ∀ completion ∈ completions answers, completion.continuation = some continuation
  /-- An act that ends an operation hands a completion out, unless it disposes of the entry. -/
  ended : ∀ now (act : Act kind γ σ) answer, act.ends →
    (entry.respond calls now act).1 = .ok answer → (answer.completion? = none ↔ act = .dispose)
  /-- No completion is handed out but that of an operation under way. -/
  no_other : ∀ (act : Act kind γ σ) answer completion,
    (entry.respond calls (clock history.length) act).1 = .ok answer →
      answer.completion? = some completion →
        fresh.Stems calls clock history completion.continuation
  /-- An entry stays completed until it is closed or disposed of. -/
  stays_completed : entry.state = .completed → ∀ now (act : Act kind γ σ),
    (entry.respond calls now act).2.state ≠ .completed → act = .close ∨ act = .dispose
  /-- Closed or disposed of, it is free and knows nothing of the operation. -/
  recycled : ∀ now (act : Act kind γ σ), act = .close ∨ act = .dispose →
    ∀ answer next, entry.respond calls now act = (.ok answer, next) → next.Idle
  /-- Rendering reads the entry only. -/
  rendered : ∀ now record, (performInPlace calls now (.render record)).on entry =
    (.ok (.rendered (entry.render record)), entry)

variable {entry after : Entry kind γ} {act : Act kind γ σ}

theorem Responds.exists_ok {answer : Except Fault (Answer kind γ σ)}
    (responds : entry.Responds act answer after)
    (inTurn : ∀ action allowed, act.turn? = some (action, allowed) → entry.state ∈ allowed) :
    ∃ value, answer = .ok value := by
  cases responds with
  | refuses turn outOfTurn => exact absurd (inTurn _ _ turn) outOfTurn
  | _ => exact ⟨_, rfl⟩

theorem Responds.completion?_eq_none {answer : Answer kind γ σ}
    (responds : entry.Responds act (.ok answer) after) (ends : act.ends) :
    answer.completion? = none ↔ act = .dispose := by
  cases responds with
  | completes | aborts | disposes => simp [Answer.completion?]
  | prepares | tags | links | renders | submits | receives | closes => cases ends

/-- A completion is handed out by a pending operation, with its continuation. -/
theorem Responds.completion_of {answer : Answer kind γ σ} {completion : Completion kind γ}
    (responds : entry.Responds act (.ok answer) after)
    (handed : answer.completion? = some completion) :
    entry.Pending ∧ completion.continuation = entry.continuation := by
  cases responds with
  | completes submitted => cases handed; exact ⟨.inr submitted, rfl⟩
  | aborts pending => cases handed; exact ⟨pending, rfl⟩
  | prepares | tags | links | renders | submits | receives | closes | disposes => cases handed

theorem Responds.of_completed {answer : Except Fault (Answer kind γ σ)}
    (responds : entry.Responds act answer after) (completed : entry.state = .completed)
    (left : after.state ≠ .completed) : act = .close ∨ act = .dispose := by
  cases responds with
  | closes => exact .inl rfl
  | disposes => exact .inr rfl
  | refuses | tags | links | renders | receives => exact absurd completed left
  | prepares free => exact nomatch free.symm.trans completed
  | submits prepared => exact nomatch prepared.symm.trans completed
  | completes | aborts => exact absurd rfl left

theorem Responds.idle {answer : Answer kind γ σ} (responds : entry.Responds act (.ok answer) after)
    (recycles : act = .close ∨ act = .dispose) : after.Idle := by
  cases responds with
  | closes _ idle | disposes idle => exact idle
  | prepares | tags | links | renders | submits | receives | completes | aborts =>
      simp at recycles

theorem prepares_of_free (calls : SocketCalls σ) (free : entry.state = .free) (now : Moment)
    (params : kind.Params) (continuation : γ) : ∃ outcome next,
      entry.respond calls now (.prepare params continuation) = (.ok (.prepared outcome), next) ∧
        next.state = .prepared ∧ next.continuation = some continuation := by
  have responds := responds calls now (.prepare params continuation) entry
  generalize answer_eq : (entry.respond calls now (.prepare params continuation)).1 = answer
    at responds
  generalize next_eq : (entry.respond calls now (.prepare params continuation)).2 = next at responds
  cases responds with
  | refuses turn outOfTurn =>
      cases turn
      simp [free] at outOfTurn
  | prepares _ _ _ outcome payload => exact ⟨outcome, _, Prod.ext answer_eq next_eq, rfl, rfl⟩

/-- Whatever is done with an entry, in turn or not, it goes through its life. -/
theorem lifecycle_of_history (calls : SocketCalls σ) (clock : Nat → Moment)
    (history : List (Act kind γ σ)) :
    (fresh.after calls clock history).Lifecycle calls clock history := by
  have awaits := awaits_of_history calls clock history (idle_fresh : (fresh : Entry kind γ).Idle)
  have respond_eq {now : Moment} {act : Act kind γ σ} {answer : Answer kind γ σ}
      (answered : ((fresh.after calls clock history).respond calls now act).1 = .ok answer) :
      (fresh.after calls clock history).Responds act (.ok answer)
        ((fresh.after calls clock history).respond calls now act).2 :=
    answered ▸ responds calls now act _
  constructor
  · intro now act action allowed turn outOfTurn
    rw [on_performInPlace]
    exact respond_of_outOfTurn turn outOfTurn now
  · intro now act inTurn
    rw [on_performInPlace]
    rcases (responds calls now act _).exists_ok inTurn with ⟨value, answered⟩
    exact ⟨value, _, Prod.ext answered rfl⟩
  · exact awaits.1
  · intro free now params continuation
    rw [on_performInPlace]
    exact prepares_of_free calls free now params continuation
  · intro free params continuation during prepared answers continues
    have taken := prepares_of_free calls free (clock history.length) params continuation
    rcases taken with ⟨outcome, next, response, pending, held⟩
    have same : fresh.after calls clock prepared = next := by
      rw [after_concat, response]
    have unfolded : answers =
        next.answers calls (fun index => clock (index + prepared.length)) during := by
      rw [← same]
      rfl
    rw [unfolded] at continues ⊢
    exact completions_of_pending (.inl pending) held continues
  · intro now act answer ends answered
    exact (respond_eq answered).completion?_eq_none ends
  · intro act answer completion answered handed
    rcases (respond_eq answered).completion_of handed with ⟨pending, own⟩
    exact own ▸ awaits.2 pending
  · intro completed now act left
    exact (responds calls now act _).of_completed completed left
  · intro now act recycles answer next response
    have responds := responds calls now act (fresh.after calls clock history)
    rw [response] at responds
    exact responds.idle recycles
  · intro now record
    rw [on_performInPlace]
    rfl

end Turns

end Entry

end CompletionEngine
