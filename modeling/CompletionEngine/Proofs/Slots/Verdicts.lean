import CompletionEngine.Proofs.Operation.Conclusions
import CompletionEngine.Proofs.Slots.Recycling

/-!
# Verdicts

What an entry hands its continuation, for every raw result that it may be completed with. Between
the moment at which it accepts parameters and its completion, an entry serves them: it is given a
tag, linked, submitted, and the kernel writes to the memory that it owns. None of this makes it
forget what the completion has to go by, and so the sign of the result, read as its kind reads it,
says all.
-/

namespace CompletionEngine

namespace Entry

variable {kind : Kind} {γ σ : Type}

section Serving

variable (params : kind.Params) (start : Instant) (continuation : γ)

/-- Entries on their way from accepting parameters to a completion, with what the kernel has written
to them. -/
inductive Serves : Entry kind γ → List KernelWrite → Prop where
  | accepts {entry prepared : Entry kind γ} {heap : Heap}
    (accepted : entry.prepare ⟨start, heap⟩ params continuation = .ok (.ok (), prepared)) :
    Serves prepared []
  | assignTag {entry : Entry kind γ} {writes : List KernelWrite} (serves : Serves entry writes)
    (tag : UInt32) : Serves (entry.assignTag tag) writes
  | link {entry : Entry kind γ} {writes : List KernelWrite} (serves : Serves entry writes) :
    Serves entry.link writes
  | submit {entry submitted : Entry kind γ} {writes : List KernelWrite}
    (serves : Serves entry writes) (submits : entry.markSubmitted = .ok submitted) :
    Serves submitted writes
  | receive {entry : Entry kind γ} {writes : List KernelWrite} (serves : Serves entry writes)
    (written : KernelWrite) : Serves (entry.receive written) (writes ++ [written])

variable {params start continuation} {entry : Entry kind γ}

theorem payload_of_prepare {now : Moment} {prepared : Entry kind γ}
    (accepted : entry.prepare now params continuation = .ok (.ok (), prepared)) :
    prepared.continuation = some continuation ∧
      kind.operation.prepare now params entry.payload = .ok prepared.payload := by
  unfold prepare at accepted
  cases turn : entry.expect [.free] .prepare with
  | error fault => simp [turn, bind, Except.bind] at accepted
  | ok done =>
      simp only [turn, bind, Except.bind] at accepted
      split at accepted
      · next payload taken =>
          cases accepted
          exact ⟨rfl, taken⟩
      · cases accepted

theorem markSubmitted_eq {submitted : Entry kind γ}
    (submits : entry.markSubmitted = .ok submitted) :
    submitted = { entry with state := .submitted } := by
  unfold markSubmitted at submits
  cases turn : entry.expect [.prepared] .submit with
  | error fault => simp [turn, bind, Except.bind] at submits
  | ok done =>
      simp only [turn, bind, Except.bind] at submits
      cases submits
      rfl

/-- An entry that serves parameters holds its continuation and all that the completion goes by. -/
theorem Serves.remembers {writes : List KernelWrite}
    (serves : entry.Serves params start continuation writes) :
    entry.continuation = some continuation ∧
      kind.Recalls params start writes entry.payload := by
  induction serves with
  | accepts accepted =>
      rcases payload_of_prepare accepted with ⟨kept, prepared⟩
      exact ⟨kept, Kind.recalls_of_prepare prepared⟩
  | assignTag serves tag ih => exact ih
  | link serves ih => exact ih
  | submit serves submits ih =>
      rw [markSubmitted_eq submits]
      exact ih
  | receive serves written ih => exact ⟨ih.1, ih.2.receive written⟩

end Serving

/-- Completing an entry hands a completion out, by way of the calls of a trace. -/
structure Completes (calls : SocketCalls σ) (now : Instant) (result : Int32) (system : σ)
    (entry : Entry kind γ) (completion : Completion kind γ) (completed : Entry kind γ)
    (trace : SocketTrace) (after : σ) : Prop where
  complete_eq : entry.complete calls now result system = .ok (completion, completed, after)
  recorded_eq : entry.complete calls.recorded now result (system, []) =
    .ok (completion, completed, after, trace)

end Entry

/-- What an operation comes to by the sign of its result, with the calls that are made for it. -/
structure Kind.Ending.Settles {kind : Kind} {σ : Type} (ending : kind.Ending)
    (calls : SocketCalls σ) (system : σ) (outcome : Except Failure kind.Output)
    (trace : SocketTrace) (after : σ) : Prop where
  /-- A negative result is a failure with the number that it negates, or what a timer spares. -/
  of_neg : ending.result < 0 → outcome = ending.verdict ∧ trace = [] ∧ after = system
  /-- Any other is a success, unless a call fails that finishes a new socket. -/
  of_nonneg : 0 ≤ ending.result → (kind = .guard → ending.result = 0) →
    calls.Finishes ending.created ending.script ending.Yields system outcome trace after
  /-- Only a guard takes a positive result for a failure. -/
  of_guard : kind = .guard → 0 < ending.result →
    outcome = .error (.native ⟨ending.result.toInt.toNat⟩)

namespace Entry

variable {kind : Kind} {γ σ : Type} {entry : Entry kind γ} {params : kind.Params} {start : Instant}
  {continuation : γ} {writes : List KernelWrite}

theorem Serves.exists_completes (serves : entry.Serves params start continuation writes)
    (submitted : entry.state = .submitted) (calls : SocketCalls σ) (now : Instant) (result : Int32)
    (system : σ) :
    ∃ completion completed trace after,
      entry.Completes calls now result system completion completed trace after ∧
      completion.continuation = some continuation ∧ completed.state = .completed ∧
      (⟨params, now - start, writes, result⟩ : kind.Ending).Settles calls system completion.result
        trace after := by
  rcases serves.remembers with ⟨kept, recalls⟩
  let ending : kind.Ending := ⟨params, now - start, writes, result⟩
  have recorded := complete_of_submitted submitted calls.recorded now result (system, [])
  have seen := calls.recorded_shows.complete now result entry (system, [])
  rw [recorded] at seen
  refine ⟨_, _, _, _, ⟨seen, recorded⟩, kept, rfl, ?_, ?_, ?_⟩
  · intro negative
    rw [ending.translate_of_neg calls.recorded (system, []) recalls rfl negative]
    exact ⟨rfl, rfl, rfl⟩
  · intro nonneg unguarded
    rcases ending.finishes calls.recorded (system, []) recalls rfl nonneg unguarded with
      ⟨trace, finishes⟩
    rcases finishes.of_recorded with ⟨finishes, written⟩
    rw [written]
    exact finishes
  · rintro rfl positive
    have refused :=
      Kind.Ending.translate_guard_of_pos calls.recorded (system, []) positive now entry.payload
    exact congrArg Prod.fst refused

/--
A new socket is either handed out, finished and open, or closed again, and nothing else is closed. A
failure leaves no mark on the entry: once it is recycled, nobody can tell that it was used.
-/
theorem keeps_or_closes_socket (creates : kind = .socket ∨ kind = .listen)
    (serves : entry.Serves params start continuation writes) (submitted : entry.state = .submitted)
    (calls : SocketCalls σ) (now : Instant) (result : Int32) (system : σ) :
    ∃ completion completed trace after recycled,
      entry.Completes calls now result system completion completed trace after ∧
      completion.continuation = some continuation ∧
      let ending : kind.Ending := ⟨params, now - start, writes, result⟩
      (result < 0 →
        completion.result = .error (.native ⟨(-result.toInt).toNat⟩) ∧ trace = [] ∧
          after = system) ∧
      (0 ≤ result →
        calls.Finishes ⟨result⟩ ending.script ending.Yields system completion.result trace after ∧
        (∀ output, completion.result = .ok output →
          trace.closed = [] ∧ ∀ isOpen : Descriptor → σ → Prop, calls.Tracks isOpen →
            ∀ descriptor, isOpen descriptor after ↔ isOpen descriptor system) ∧
        ∀ failure, completion.result = .error failure →
          trace.closed = [⟨result⟩] ∧ ∀ isOpen : Descriptor → σ → Prop, calls.Tracks isOpen →
            ∀ descriptor, isOpen descriptor after ↔
              isOpen descriptor system ∧ descriptor ≠ ⟨result⟩) ∧
      completed.close = .ok recycled ∧
      ∀ {τ : Type} (others : SocketCalls τ), recycled.AsNew others := by
  rcases serves.exists_completes submitted calls now result system with
    ⟨completion, completed, trace, after, completes, kept, done, settles⟩
  rcases close_of_completed done with ⟨recycled, closes, idle⟩
  have keeps : ∀ call ∈ Kind.Ending.script ⟨params, now - start, writes, result⟩,
      call.closed? = none :=
    fun call member => Kind.Ending.closed?_of_mem_script _ member
  have unguarded : kind ≠ .guard := by
    rintro rfl
    simp at creates
  refine ⟨completion, completed, trace, after, recycled, completes, kept, ?_, ?_, closes, ?_⟩
  · intro negative
    rcases settles.of_neg negative with ⟨refused, silent, unchanged⟩
    refine ⟨refused.trans ?_, silent, unchanged⟩
    rcases creates with rfl | rfl <;> rfl
  · intro nonneg
    have finishes := settles.of_nonneg nonneg fun guarded => absurd guarded unguarded
    refine ⟨finishes, ?_, ?_⟩
    · intro output succeeds
      rw [succeeds] at finishes
      exact finishes.of_ok keeps
    · intro failure fails
      rw [fails] at finishes
      exact finishes.of_error keeps
  · intro τ others
    exact asNew_of_idle idle

open Simulation in
/-- A datagram socket is bound, but does not listen, and is closed for that. -/
theorem closes_datagram_listener :
    let params : Kind.listen.Params :=
      (⟨.v4 #v[127, 0, 0, 1] 80, .datagram, .closeOnExec, .reuseAddress, 128⟩ : ListenParams)
    let entry : Entry .listen String :=
      ⟨.submitted, some 7, .empty, some "server", ⟨some params, none⟩⟩
    let system : DescriptorTable := [(5, .socket (.fresh .inet .datagram)), (4, .counter 0)]
    entry.Serves params 0 "server" [] ∧
      ∃ completion completed trace after recycled,
        entry.Completes DescriptorTable.socketCalls 3 5 system completion completed trace after ∧
        completion.result = .error (.native .notSupported) ∧ trace.closed = [⟨5⟩] ∧
        (after.file? 5).isSome = false ∧ (after.file? 4).isSome = true ∧
        completed.close = .ok recycled ∧ recycled.AsNew DescriptorTable.socketCalls := by
  intro params entry system
  have accepted : (fresh : Entry .listen String).prepare ⟨0, .untouched⟩ params "server" =
      .ok (.ok (), ⟨.prepared, none, .empty, some "server", ⟨some params, none⟩⟩) := rfl
  have serves : entry.Serves params 0 "server" [] := .submit (.assignTag (.accepts accepted) 7) rfl
  have told : (entry.complete DescriptorTable.socketCalls.recorded 3 5 (system, [])).map
      (fun ended => (ended.1.result : Except Failure Listener)) =
        .ok (.error (.native .notSupported)) := by decide +kernel
  rcases keeps_or_closes_socket (.inr rfl) serves rfl DescriptorTable.socketCalls 3 5 system with
    ⟨completion, completed, trace, after, recycled, completes, _, _, nonneg, closes, asNew⟩
  rw [completes.recorded_eq] at told
  have failed : completion.result = .error (.native .notSupported) := Except.ok.inj told
  rcases (nonneg (by decide)).2.2 _ failed with ⟨closed, isOpen_iff⟩
  have open_iff := isOpen_iff _ DescriptorTable.tracks
  refine ⟨serves, completion, completed, trace, after, recycled, completes, failed, closed, ?_, ?_,
    closes, asNew _⟩
  · have shut := (open_iff ⟨5⟩).not.mpr fun still => still.2 rfl
    simpa using shut
  · exact (open_iff ⟨4⟩).mpr ⟨rfl, by decide⟩

/--
A non-negative result is a success with the value of the operation's kind, unless a call fails that
finishes a new socket. A negative one is a failure with its number, unless a timer spares it. A
guard breaks the rule: it takes a positive result for a failure too.
-/
theorem delivers_by_sign (serves : entry.Serves params start continuation writes)
    (submitted : entry.state = .submitted) (calls : SocketCalls σ) (now : Instant) (result : Int32)
    (system : σ) :
    ∃ completion completed trace after,
      entry.Completes calls now result system completion completed trace after ∧
      completion.continuation = some continuation ∧
      let ending : kind.Ending := ⟨params, now - start, writes, result⟩
      (result < 0 → completion.result = ending.verdict ∧ trace = [] ∧ after = system) ∧
      (0 ≤ result → (kind = .guard → result = 0) →
        calls.Finishes ⟨result⟩ ending.script ending.Yields system completion.result trace after ∧
        ∀ failure, completion.result = .error failure →
          (kind = .socket ∨ kind = .listen) ∧ ∃ error, failure = .native error ∧
            ∃ call ∈ ending.script, (call, .error error) ∈ trace) ∧
      (kind = .guard → 0 < result →
        completion.result = .error (.native ⟨result.toInt.toNat⟩)) := by
  rcases serves.exists_completes submitted calls now result system with
    ⟨completion, completed, trace, after, completes, kept, _, settles⟩
  refine ⟨completion, completed, trace, after, completes, kept, settles.of_neg, ?_,
    settles.of_guard⟩
  intro nonneg unguarded
  have finishes := settles.of_nonneg nonneg unguarded
  refine ⟨finishes, ?_⟩
  intro failure fails
  rw [fails] at finishes
  rcases finishes.exists_failed with ⟨error, failure_eq, call, member, told⟩
  exact ⟨Kind.Ending.creates_of_mem_script _ member, error, failure_eq, call, member, told⟩

open Simulation in
/-- A guard that is completed with one fails with that for a number. -/
theorem delivers_failure_of_positive_guard :
    let limit : Kind.guard.Params := (⟨5⟩ : TimeLimit)
    let entry : Entry .guard String :=
      ⟨.submitted, some 7, .empty, some "late", some ⟨⟨0⟩, TimeLimit.timeSpec ⟨5⟩⟩⟩
    entry.Serves limit 0 "late" [] ∧
      ∃ completion completed trace after,
        entry.Completes DescriptorTable.socketCalls 3 1 [] completion completed trace after ∧
        completion.continuation = some "late" ∧ completion.result = .error (.native ⟨1⟩) := by
  intro limit entry
  have accepted : (fresh : Entry .guard String).prepare ⟨0, .untouched⟩ limit "late" =
      .ok (.ok (), ⟨.prepared, none, .empty, some "late", some ⟨⟨0⟩, TimeLimit.timeSpec ⟨5⟩⟩⟩) :=
    rfl
  have serves : entry.Serves limit 0 "late" [] := .submit (.assignTag (.accepts accepted) 7) rfl
  rcases delivers_by_sign serves rfl DescriptorTable.socketCalls 3 1 [] with
    ⟨completion, completed, trace, after, completes, kept, _, _, positive⟩
  exact ⟨serves, completion, completed, trace, after, completes, kept, positive rfl (by decide)⟩

end Entry

end CompletionEngine
