import CompletionEngine.Proofs.Runs.Shutdown
import CompletionEngine.Proofs.Runs.Signals

/-!
# What becomes of tasks

A task of another thread is queued, or refused before it is. What is queued is run by the engine, or
swept away by a push that finds the inbox closed when it looks again: such a push rejects whatever
it finds in the queue, be it its own task or that of another. An observer of a run keeps a docket of
this. Every task is in one place at a time, and settled once.
-/

namespace CompletionEngine

variable {κ τ : Type}

/-- What has become of a task. -/
inductive Disposal where
  /-- The engine has begun what the task asks for. -/
  | run
  /-- The task has not been queued, and its push fails. -/
  | refused (failure : Failure)
  /-- The task was queued, and a push has rejected it that found the inbox closed. -/
  | swept (sweeper : ℕ)
  deriving DecidableEq

namespace Disposal

/-- Why the task will never run. -/
def failure? : Disposal → Option Failure
  | run => none
  | refused failure => some failure
  | swept _ => some .closed

/-- What the journal tells of a job. -/
def event (disposal : Disposal) (body : τ) : Event τ :=
  match disposal.failure? with
  | none => .started body
  | some failure => .dropped body failure

/-- The request that the engine has begun. -/
def begun? (task : Task τ) : Disposal → Option (Request τ)
  | run => task.request?
  | _ => none

end Disposal

/-- What tells that a task will never run. -/
def Task.refusal (failure : Failure) : Task τ → Event τ
  | .request command promise => .settled promise ⟨command.kind, .error failure⟩
  | .job body => .dropped body failure

theorem PushEffect.events_reject (task : Task τ) (failure : Failure) (platform : Platform κ)
    (world : κ) : (reject task failure).events platform world = [task.refusal failure] := by
  cases task <;> rfl

theorem Task.filter_refusal (task : Task τ) {disposal : Disposal} {failure : Failure}
    (rejected : disposal.failure? = some failure) :
    [task.refusal failure].filter Event.isJob = task.job?.toList.map disposal.event := by
  cases task with
  | request command promise => rfl
  | job body => simp [Task.refusal, Task.job?, Disposal.event, rejected, Event.isJob]

/-- Whether a push may have swept tasks away. -/
def PushPhase.isSweeper {α : Type} : PushPhase α → Bool
  | .sweep | .returned (.ok ()) => true
  | _ => false

theorem PushPhase.task?_of_isReturned {α : Type} {phase : PushPhase α}
    (returned : phase.isReturned) : phase.task? = none ∧ phase.isLooking = false := by
  cases phase <;> first | exact ⟨rfl, rfl⟩ | cases returned

theorem promised_of_isReturned {phase : PushPhase (Task τ)} (returned : phase.isReturned) :
    phase.promised = 0 := by
  cases phase <;> first | rfl | cases returned

theorem PushPhase.not_isSweeper {α : Type} (phase : PushPhase α) {task : α}
    (pends : phase.task? = some task) : phase.isSweeper = false := by
  cases phase <;> first | rfl | cases pends

/-- What an observer of a run knows of the tasks of other threads. -/
structure Docket (τ : Type) where
  /-- What is queued, the oldest in front. -/
  queued : List (Ticket τ)
  /-- What has become of the others, the last in front. -/
  settled : List (Ticket τ × Disposal)
  /-- The requests that steps have put on top of what is to be done, the last in front. -/
  begun : List (Request τ)

def Move.pushed? : Move κ τ → Option (Task τ)
  | .push task => some task
  | _ => none

/-- The tasks that the moves of a run begin to push. -/
def pushedTasks (moves : List (Move κ τ)) : List (Task τ) := moves.filterMap Move.pushed?

namespace Docket

/-- All tasks that have been queued or refused. -/
def tickets (docket : Docket τ) : List (Ticket τ) := docket.queued ++ docket.settled.map Prod.fst

/-- What is known once the front of the queue has gone. -/
def leave (disposal : Disposal) (before after : Scene κ τ) (docket : Docket τ) : Docket τ :=
  let gone := before.engine.inbox.queue.length - after.engine.inbox.queue.length
  { docket with
    queued := docket.queued.drop gone
    settled := (docket.queued.take gone).reverse.map (fun ticket => (ticket, disposal)) ++
      docket.settled }

/-- What is known after a move. -/
def observe (move : Move κ τ) (before after : Scene κ τ) (docket : Docket τ) : Docket τ :=
  match move with
  | .step =>
    let fresh := (requestsIn after.engine.frames).length - (requestsIn before.engine.frames).length
    { docket.leave .run before after with
      begun := (requestsIn after.engine.frames).take fresh ++ docket.begun }
  | .advance index =>
    match before.pushes[index]?.bind PushPhase.task?, after.pushes[index]? with
    | some task, some .recheck => { docket with queued := docket.queued ++ [⟨index, task⟩] }
    | some task, some (.returned (.error failure)) =>
      { docket with settled := (⟨index, task⟩, .refused failure) :: docket.settled }
    | some _, _ => docket
    | none, _ => docket.leave (.swept index) before after
  | _ => docket

/-- A task has been queued. -/
def Accepted (docket : Docket τ) (ticket : Ticket τ) : Prop :=
  ticket ∈ docket.queued ∨ ∃ disposal, (ticket, disposal) ∈ docket.settled ∧
    ∀ failure, disposal ≠ .refused failure

/-- What is known of a push that has come so far. -/
def Stands (docket : Docket τ) (tasks : List (Task τ)) (index : ℕ) : PushPhase (Task τ) → Prop
  | .check task | .enqueue task =>
    tasks[index]? = some task ∧ ∀ ticket ∈ docket.tickets, ticket.push ≠ index
  | .returned (.error failure) => ∃ task, (⟨index, task⟩, .refused failure) ∈ docket.settled
  | .recheck | .sweep | .wake | .returned (.ok ()) => ∃ task, docket.Accepted ⟨index, task⟩

/-- What is known agrees with a scene, when these tasks have been pushed. -/
structure Agrees (docket : Docket τ) (tasks : List (Task τ)) (scene : Scene κ τ) : Prop where
  length_eq : scene.pushes.length = tasks.length
  /-- No task is written down twice. -/
  nodup : (docket.tickets.map Ticket.push).Nodup
  known : ∀ ticket ∈ docket.tickets, tasks[ticket.push]? = some ticket.task
  stands : ∀ (index : ℕ) phase, scene.pushes[index]? = some phase →
    docket.Stands tasks index phase
  swept : ∀ ticket sweeper, (ticket, .swept sweeper) ∈ docket.settled →
    ∃ phase, scene.pushes[sweeper]? = some phase ∧ phase.isSweeper
  queue_eq : docket.queued.map Ticket.task = scene.engine.inbox.queue
  room : scene.engine.inbox.queue.length ≤ scene.engine.inbox.capacity
  /-- The jobs that the engine has entered or that have been dropped are those of settled tasks. -/
  jobs_eq : scene.engine.journal.filter Event.isJob =
    docket.settled.filterMap fun row => row.1.task.job?.map row.2.event
  /-- The requests that the engine has begun for other threads are those of tasks that have run. -/
  begun_eq : docket.begun = docket.settled.filterMap fun row => row.2.begun? row.1.task
  /-- Whoever holds the promise of a rejected task has been told. -/
  told : ∀ ticket disposal failure, (ticket, disposal) ∈ docket.settled →
    disposal.failure? = some failure → ticket.task.refusal failure ∈ scene.engine.journal

/-- Everything that has been pushed is settled, and settled once. -/
def Complete (docket : Docket τ) (tasks : List (Task τ)) : Prop :=
  docket.queued = [] ∧ (docket.settled.map fun row => row.1.push).Perm (List.range tasks.length)

section Observation

variable {docket later : Docket τ} {tasks : List (Task τ)} {before after : Scene κ τ}
  {index : ℕ} {phase : PushPhase (Task τ)} {task : Task τ}

theorem Stands.mono (stands : docket.Stands tasks index phase) {more : List (Task τ)}
    (further : tasks <+: more)
    (apart : (∀ ticket ∈ docket.tickets, ticket.push ≠ index) →
      ∀ ticket ∈ later.tickets, ticket.push ≠ index)
    (settled : docket.settled ⊆ later.settled)
    (accepted : ∀ ticket, docket.Accepted ticket → later.Accepted ticket) :
    later.Stands more index phase := by
  have same (task : Task τ) (own : tasks[index]? = some task) : more[index]? = some task := by
    rcases further with ⟨rest, rfl⟩
    rw [List.getElem?_append_left (List.getElem?_eq_some_iff.mp own).1]
    exact own
  rcases phase with task | task | - | - | - | (failure | ⟨⟨⟩⟩)
  · exact ⟨same task stands.1, apart stands.2⟩
  · exact ⟨same task stands.1, apart stands.2⟩
  · exact stands.imp fun task => accepted _
  · exact stands.imp fun task => accepted _
  · exact stands.imp fun task => accepted _
  · exact stands.imp fun task refused => settled refused
  · exact stands.imp fun task => accepted _

/-- A task is with its push, or has been given up before it was queued, or has been queued. -/
theorem stands_cases (stands : docket.Stands tasks index phase) :
    (∃ task, phase.task? = some task ∧ tasks[index]? = some task ∧
      ∀ ticket ∈ docket.tickets, ticket.push ≠ index) ∨
    (∃ task failure, phase = .returned (.error failure) ∧
      (⟨index, task⟩, .refused failure) ∈ docket.settled) ∨
    phase.task? = none ∧ ∃ task, docket.Accepted ⟨index, task⟩ := by
  rcases phase with task | task | - | - | - | (failure | ⟨⟨⟩⟩)
  · exact .inl ⟨task, rfl, stands⟩
  · exact .inl ⟨task, rfl, stands⟩
  · exact .inr (.inr ⟨rfl, stands⟩)
  · exact .inr (.inr ⟨rfl, stands⟩)
  · exact .inr (.inr ⟨rfl, stands⟩)
  · rcases stands with ⟨task, refused⟩
    exact .inr (.inl ⟨task, failure, rfl, refused⟩)
  · exact .inr (.inr ⟨rfl, stands⟩)

theorem leave_of_same (docket : Docket τ) (disposal : Disposal)
    (queue_eq : after.engine.inbox.queue = before.engine.inbox.queue) :
    docket.leave disposal before after = docket := by
  simp [leave, queue_eq]

theorem leave_of_cons {ticket : Ticket τ} {rest : List (Ticket τ)} {disposal : Disposal}
    (front : docket.queued = ticket :: rest)
    (queue_eq : before.engine.inbox.queue = task :: after.engine.inbox.queue) :
    docket.leave disposal before after = { docket with
      queued := rest, settled := (ticket, disposal) :: docket.settled } := by
  simp [leave, queue_eq, front]

/-- Nothing happens to tasks. -/
theorem Agrees.of_same (agrees : docket.Agrees tasks before) (events : List (Event τ))
    (same : (after.engine.inbox.queue, after.engine.inbox.capacity) =
      (before.engine.inbox.queue, before.engine.inbox.capacity))
    (jobless : ∀ event ∈ events, event.isJob = false)
    (appended : after.engine.journal = events ++ before.engine.journal)
    (length_eq : after.pushes.length = before.pushes.length)
    (pushes : ∀ (index : ℕ) phase, after.pushes[index]? = some phase →
      docket.Stands tasks index phase)
    (sweepers : ∀ (index : ℕ) phase, before.pushes[index]? = some phase → phase.isSweeper →
      ∃ next, after.pushes[index]? = some next ∧ next.isSweeper) :
    docket.Agrees tasks after where
  length_eq := length_eq.trans agrees.length_eq
  nodup := agrees.nodup
  known := agrees.known
  stands := pushes
  swept := by
    intro ticket sweeper swept
    rcases agrees.swept ticket sweeper swept with ⟨phase, here, sweeps⟩
    exact sweepers sweeper phase here sweeps
  queue_eq := by
    rw [agrees.queue_eq]
    exact (congrArg Prod.fst same).symm
  room := by
    simp only [Prod.mk.injEq] at same
    rw [same.1, same.2]
    exact agrees.room
  jobs_eq := by
    rw [appended, List.filter_append, List.filter_eq_nil_iff.mpr, List.nil_append, agrees.jobs_eq]
    intro event eventMem
    simp [jobless event eventMem]
  begun_eq := agrees.begun_eq
  told := by
    intro ticket disposal failure settled rejected
    rw [appended]
    exact List.mem_append_right _ (agrees.told ticket disposal failure settled rejected)

theorem Agrees.leave (agrees : docket.Agrees tasks before) (disposal : Disposal)
    (events : List (Event τ))
    (queue_eq : before.engine.inbox.queue = task :: after.engine.inbox.queue)
    (capacity_eq : after.engine.inbox.capacity = before.engine.inbox.capacity)
    (pushes_eq : after.pushes = before.pushes)
    (accepts : ∀ failure, disposal ≠ .refused failure)
    (sweeps : ∀ sweeper, disposal = .swept sweeper →
      ∃ phase, before.pushes[sweeper]? = some phase ∧ phase.isSweeper)
    (jobs : events.filter Event.isJob = task.job?.toList.map disposal.event)
    (told : ∀ failure, disposal.failure? = some failure → task.refusal failure ∈ events)
    (appended : after.engine.journal = events ++ before.engine.journal) :
    Agrees { docket.leave disposal before after with
      begun := (disposal.begun? task).toList ++ docket.begun } tasks after := by
  have before_eq := agrees.queue_eq
  rw [queue_eq] at before_eq
  rcases List.map_eq_cons_iff.mp before_eq with ⟨ticket, rest, front, rfl, rest_eq⟩
  rw [leave_of_cons front queue_eq]
  have moved : (rest ++ ticket :: docket.settled.map Prod.fst).Perm docket.tickets := by
    rw [tickets, front]
    exact List.perm_middle
  refine ⟨?_, ?_, ?_, ?_, ?_, rest_eq, ?_, ?_, ?_, ?_⟩
  · rw [pushes_eq]
    exact agrees.length_eq
  · exact (moved.map Ticket.push).nodup_iff.mpr agrees.nodup
  · intro other otherMem
    exact agrees.known other (moved.mem_iff.mp otherMem)
  · intro index phase here
    rw [pushes_eq] at here
    refine (agrees.stands index phase here).mono List.prefix_rfl ?_ (List.subset_cons_self _ _) ?_
    · intro apart other otherMem
      exact apart other (moved.mem_iff.mp otherMem)
    · rintro other (waiting | ⟨earlier, settled, accepted⟩)
      · rw [front] at waiting
        rcases List.mem_cons.mp waiting with rfl | later
        · exact .inr ⟨disposal, List.mem_cons_self, accepts⟩
        · exact .inl later
      · exact .inr ⟨earlier, List.mem_cons_of_mem _ settled, accepted⟩
  · intro other sweeper swept
    rw [pushes_eq]
    rcases List.mem_cons.mp swept with own | earlier
    · exact sweeps sweeper (Prod.mk.inj own).2.symm
    · exact agrees.swept other sweeper earlier
  · have shorter := agrees.room
    rw [queue_eq, List.length_cons] at shorter
    rw [capacity_eq]
    omega
  · rw [appended, List.filter_append, jobs, agrees.jobs_eq, List.filterMap_cons]
    cases ticket.task.job? <;> rfl
  · simp only [List.filterMap_cons, agrees.begun_eq]
    cases disposal.begun? ticket.task <;> rfl
  · intro other earlier failure settled rejected
    rw [appended]
    rcases List.mem_cons.mp settled with own | old
    · obtain ⟨rfl, rfl⟩ := Prod.mk.inj own
      exact List.mem_append_left _ (told failure rejected)
    · exact List.mem_append_right _ (agrees.told other earlier failure old rejected)

theorem Agrees.sweep (agrees : docket.Agrees tasks before)
    (found : before.pushes[index]? = some .sweep)
    (queue_eq : before.engine.inbox.queue = task :: after.engine.inbox.queue)
    (capacity_eq : after.engine.inbox.capacity = before.engine.inbox.capacity)
    (pushes_eq : after.pushes = before.pushes)
    (journal_eq : after.engine.journal = task.refusal .closed :: before.engine.journal) :
    (docket.leave (.swept index) before after).Agrees tasks after := by
  have rejected : (Disposal.swept index).failure? = some .closed := rfl
  refine agrees.leave (.swept index) [task.refusal .closed] queue_eq capacity_eq pushes_eq (by simp)
    ?_ (task.filter_refusal rejected) ?_ journal_eq
  · rintro sweeper ⟨rfl⟩
    exact ⟨.sweep, found, rfl⟩
  · rintro failure ⟨rfl⟩
    exact List.mem_singleton_self _

/-- What the docket says of the other pushes stays true when a push comes to another phase. -/
theorem Agrees.stands_set (agrees : docket.Agrees tasks before) {next : PushPhase (Task τ)}
    (own : later.Stands tasks index next)
    (others : ∀ other phase, other ≠ index → docket.Stands tasks other phase →
      later.Stands tasks other phase) (other : ℕ) (phase : PushPhase (Task τ))
    (here : (before.pushes.set index next)[other]? = some phase) :
    later.Stands tasks other phase := by
  by_cases same : index = other
  · subst same
    have inside : index < before.pushes.length := by
      simpa using (List.getElem?_eq_some_iff.mp here).1
    rw [List.getElem?_set_self inside] at here
    cases here
    exact own
  · rw [List.getElem?_set_ne same] at here
    exact others other phase (Ne.symm same) (agrees.stands other phase here)

theorem sweeper_set {pushes : List (PushPhase (Task τ))} {next : PushPhase (Task τ)}
    (found : pushes[index]? = some phase) (stays : phase.isSweeper → next.isSweeper)
    {sweeper : ℕ} {earlier : PushPhase (Task τ)} (here : pushes[sweeper]? = some earlier)
    (sweeps : earlier.isSweeper) :
    ∃ later, (pushes.set index next)[sweeper]? = some later ∧ later.isSweeper := by
  by_cases same : index = sweeper
  · subst same
    cases found.symm.trans here
    exact ⟨next, List.getElem?_set_self (List.getElem?_eq_some_iff.mp found).1, stays sweeps⟩
  · exact ⟨earlier, by rwa [List.getElem?_set_ne same], sweeps⟩

theorem Agrees.turn (agrees : docket.Agrees tasks before) {next : PushPhase (Task τ)}
    (found : before.pushes[index]? = some phase) (events : List (Event τ))
    (same : (after.engine.inbox.queue, after.engine.inbox.capacity) =
      (before.engine.inbox.queue, before.engine.inbox.capacity))
    (jobless : ∀ event ∈ events, event.isJob = false)
    (appended : after.engine.journal = events ++ before.engine.journal)
    (pushes_eq : after.pushes = before.pushes.set index next)
    (stands : docket.Stands tasks index phase → docket.Stands tasks index next)
    (stays : phase.isSweeper → next.isSweeper) : docket.Agrees tasks after := by
  refine agrees.of_same events same jobless appended (by rw [pushes_eq, List.length_set]) ?_ ?_
  · rw [pushes_eq]
    exact agrees.stands_set (stands (agrees.stands index phase found)) fun _ _ _ stands => stands
  · intro sweeper earlier here sweeps
    rw [pushes_eq]
    exact sweeper_set found stays here sweeps

theorem Agrees.pending (agrees : docket.Agrees tasks before)
    (found : before.pushes[index]? = some phase)
    (pends : phase.task? = some task) :
    tasks[index]? = some task ∧ ∀ ticket ∈ docket.tickets, ticket.push ≠ index := by
  have stands := agrees.stands index phase found
  cases phase <;> first | (cases pends; exact stands) | cases pends

/-- A task that has been with its push until now is written down. -/
theorem Agrees.enter (agrees : docket.Agrees tasks before) (later : Docket τ)
    (next : PushPhase (Task τ)) (found : before.pushes[index]? = some phase)
    (pends : phase.task? = some task)
    (enters : later.tickets.Perm (⟨index, task⟩ :: docket.tickets))
    (own : later.Stands tasks index next)
    (settled : docket.settled ⊆ later.settled)
    (accepted : ∀ ticket, docket.Accepted ticket → later.Accepted ticket) :
    (later.tickets.map Ticket.push).Nodup ∧
      (∀ ticket ∈ later.tickets, tasks[ticket.push]? = some ticket.task) ∧
      ∀ (other : ℕ) phase, (before.pushes.set index next)[other]? = some phase →
        later.Stands tasks other phase := by
  rcases agrees.pending found pends with ⟨known, apart⟩
  refine ⟨?_, ?_, agrees.stands_set own ?_⟩
  · refine (enters.map Ticket.push).nodup_iff.mpr (List.nodup_cons.mpr ⟨?_, agrees.nodup⟩)
    intro written
    rcases List.mem_map.mp written with ⟨ticket, ticketMem, same⟩
    exact apart ticket ticketMem same
  · intro ticket ticketMem
    rcases List.mem_cons.mp (enters.mem_iff.mp ticketMem) with rfl | old
    · exact known
    · exact agrees.known ticket old
  · intro other phase ne stands
    refine stands.mono List.prefix_rfl ?_ settled accepted
    intro others ticket ticketMem
    rcases List.mem_cons.mp (enters.mem_iff.mp ticketMem) with rfl | old
    · exact ne.symm
    · exact others ticket old

theorem Agrees.queue (agrees : docket.Agrees tasks before)
    (found : before.pushes[index]? = some phase)
    (pends : phase.task? = some task)
    (queue_eq : after.engine.inbox.queue = before.engine.inbox.queue ++ [task])
    (room : after.engine.inbox.queue.length ≤ after.engine.inbox.capacity)
    (journal_eq : after.engine.journal = before.engine.journal)
    (pushes_eq : after.pushes = before.pushes.set index .recheck) :
    Agrees { docket with queued := docket.queued ++ [⟨index, task⟩] } tasks after := by
  let later : Docket τ := { docket with queued := docket.queued ++ [⟨index, task⟩] }
  have enters : later.tickets.Perm (⟨index, task⟩ :: docket.tickets) := by
    rw [tickets, List.append_assoc]
    exact List.perm_middle
  have accepted : ∀ ticket, docket.Accepted ticket → later.Accepted ticket := by
    rintro ticket (waiting | settled)
    · exact .inl (List.mem_append_left _ waiting)
    · exact .inr settled
  have waits : later.Accepted ⟨index, task⟩ :=
    .inl (List.mem_append_right _ List.mem_cons_self)
  rcases agrees.enter later .recheck found pends enters ⟨task, waits⟩ (List.Subset.refl _)
    accepted with ⟨nodup, known, stands⟩
  refine ⟨?_, nodup, known, ?_, ?_, ?_, room, ?_, agrees.begun_eq, ?_⟩
  · rw [pushes_eq, List.length_set]
    exact agrees.length_eq
  · rw [pushes_eq]
    exact stands
  · intro ticket sweeper swept
    rw [pushes_eq]
    rcases agrees.swept ticket sweeper swept with ⟨earlier, here, sweeps⟩
    exact sweeper_set found (fun own => absurd own (by simp [phase.not_isSweeper pends])) here
      sweeps
  · rw [queue_eq, ← agrees.queue_eq, List.map_append]
    rfl
  · rw [journal_eq]
    exact agrees.jobs_eq
  · rw [journal_eq]
    exact agrees.told

theorem Agrees.refuse (agrees : docket.Agrees tasks before)
    (found : before.pushes[index]? = some phase)
    (pends : phase.task? = some task) (failure : Failure)
    (same : (after.engine.inbox.queue, after.engine.inbox.capacity) =
      (before.engine.inbox.queue, before.engine.inbox.capacity))
    (journal_eq : after.engine.journal = task.refusal failure :: before.engine.journal)
    (pushes_eq : after.pushes = before.pushes.set index (.returned (.error failure))) :
    Agrees { docket with settled := (⟨index, task⟩, .refused failure) :: docket.settled } tasks
      after := by
  simp only [Prod.mk.injEq] at same
  have rejected : (Disposal.refused failure).failure? = some failure := rfl
  let later : Docket τ :=
    { docket with settled := (⟨index, task⟩, .refused failure) :: docket.settled }
  have accepted : ∀ ticket, docket.Accepted ticket → later.Accepted ticket := by
    rintro ticket (waiting | ⟨disposal, settled, accepted⟩)
    · exact .inl waiting
    · exact .inr ⟨disposal, List.mem_cons_of_mem _ settled, accepted⟩
  rcases agrees.enter later (.returned (.error failure)) found pends List.perm_middle
    ⟨task, List.mem_cons_self⟩ (List.subset_cons_self _ _) accepted with ⟨nodup, known, stands⟩
  refine ⟨?_, nodup, known, ?_, ?_, ?_, ?_, ?_, agrees.begun_eq, ?_⟩
  · rw [pushes_eq, List.length_set]
    exact agrees.length_eq
  · rw [pushes_eq]
    exact stands
  · intro ticket sweeper swept
    rw [pushes_eq]
    rcases List.mem_cons.mp swept with new | old
    · cases (Prod.mk.inj new).2
    · rcases agrees.swept ticket sweeper old with ⟨earlier, here, sweeps⟩
      exact sweeper_set found (fun own => absurd own (by simp [phase.not_isSweeper pends])) here
        sweeps
  · rw [same.1]
    exact agrees.queue_eq
  · rw [same.1, same.2]
    exact agrees.room
  · rw [journal_eq, ← List.singleton_append, List.filter_append, task.filter_refusal rejected,
      agrees.jobs_eq, List.filterMap_cons]
    cases task.job? <;> rfl
  · intro ticket disposal reason settled rejected
    rw [journal_eq]
    rcases List.mem_cons.mp settled with new | old
    · obtain ⟨rfl, rfl⟩ := Prod.mk.inj new
      cases rejected
      exact List.mem_cons_self
    · exact List.mem_cons_of_mem _ (agrees.told ticket disposal reason old rejected)

/-- A push that has come so far has its task written down, unless the task is still with it. -/
theorem Agrees.written (agrees : docket.Agrees tasks before)
    (found : before.pushes[index]? = some phase)
    (free : phase.task? = none) : ∃ ticket ∈ docket.tickets, ticket.push = index := by
  rcases stands_cases (agrees.stands index phase found) with
    ⟨task, pends, -, -⟩ | ⟨task, failure, -, refused⟩ | ⟨-, task, accepted⟩
  · cases free.symm.trans pends
  · exact ⟨⟨index, task⟩, List.mem_append_right _ (List.mem_map_of_mem refused), rfl⟩
  · refine ⟨⟨index, task⟩, ?_, rfl⟩
    rcases accepted with waiting | ⟨disposal, settled, -⟩
    · exact List.mem_append_left _ waiting
    · exact List.mem_append_right _ (List.mem_map_of_mem settled)

theorem Agrees.complete (agrees : docket.Agrees tasks before)
    (empty : before.engine.inbox.queue = []) (returned : ∀ push ∈ before.pushes, push.isReturned) :
    docket.Complete tasks := by
  have nothing : docket.queued = [] := by
    have queue_eq := agrees.queue_eq
    rw [empty] at queue_eq
    exact List.map_eq_nil_iff.mp queue_eq
  have settled : docket.tickets = docket.settled.map Prod.fst := by rw [tickets, nothing]; rfl
  -- No push is listed twice on either side, so it is enough that the same pushes are listed.
  refine ⟨nothing, (List.perm_ext_iff_of_nodup ?_ List.nodup_range).mpr fun index => ?_⟩
  · have nodup := agrees.nodup
    rw [settled, List.map_map] at nodup
    exact nodup
  · rw [List.mem_range]
    constructor
    · intro listed
      rcases List.mem_map.mp listed with ⟨row, rowMem, rfl⟩
      have known := agrees.known row.1 (settled ▸ List.mem_map_of_mem rowMem)
      exact (List.getElem?_eq_some_iff.mp known).1
    · intro inside
      rw [← agrees.length_eq] at inside
      have free := (PushPhase.task?_of_isReturned (returned _ (List.getElem_mem inside))).1
      rcases agrees.written (List.getElem?_eq_getElem inside) free with ⟨ticket, ticketMem, rfl⟩
      rw [settled] at ticketMem
      rcases List.mem_map.mp ticketMem with ⟨row, rowMem, rfl⟩
      exact List.mem_map.mpr ⟨row, rowMem, rfl⟩

theorem Agrees.push {engine : Engine κ τ} {pushes : List (PushPhase (Task τ))}
    (agrees : docket.Agrees tasks ⟨engine, pushes⟩) (task : Task τ) :
    docket.Agrees (tasks ++ [task]) ⟨engine, pushes ++ [.check task]⟩ := by
  have length_eq : pushes.length = tasks.length := agrees.length_eq
  have known (ticket : Ticket τ) (ticketMem : ticket ∈ docket.tickets) :
      ticket.push < tasks.length :=
    (List.getElem?_eq_some_iff.mp (agrees.known ticket ticketMem)).1
  refine ⟨?_, agrees.nodup, ?_, ?_, ?_, agrees.queue_eq, agrees.room, agrees.jobs_eq,
    agrees.begun_eq, agrees.told⟩
  · simp [length_eq]
  · intro ticket ticketMem
    rw [List.getElem?_append_left (known ticket ticketMem)]
    exact agrees.known ticket ticketMem
  · intro index phase here
    rw [List.getElem?_append] at here
    split at here
    · exact (agrees.stands index phase here).mono (List.prefix_append _ _) id
        (List.Subset.refl _) fun _ accepted => accepted
    · rw [List.getElem?_singleton] at here
      split at here
      · cases here
        have last : index = tasks.length := by omega
        refine ⟨by simp [last], fun ticket ticketMem same => ?_⟩
        have inside := known ticket ticketMem
        omega
      · cases here
  · intro ticket sweeper swept
    rcases agrees.swept ticket sweeper swept with ⟨phase, here, sweeps⟩
    refine ⟨phase, ?_, sweeps⟩
    rw [List.getElem?_append_left (List.getElem?_eq_some_iff.mp here).1]
    exact here

end Observation

end Docket

namespace Scene

/-- What is known of the tasks of other threads after some moves. -/
def docket (platform : Platform κ) (moves : List (Move κ τ)) (start : Scene κ τ) : Docket τ :=
  start.knows platform Docket.observe ⟨[], [], []⟩ moves

section Moves

variable {docket : Docket τ} {tasks : List (Task τ)} {platform : Platform κ} {engine : Engine κ τ}
  {pushes : List (PushPhase (Task τ))}

theorem docket_agrees_advance (agrees : docket.Agrees tasks ⟨engine, pushes⟩) (index : ℕ) :
    (docket.observe (.advance index) ⟨engine, pushes⟩
      ((Scene.mk engine pushes).advance platform index)).Agrees tasks
        ((Scene.mk engine pushes).advance platform index) := by
  unfold advance
  cases found : pushes[index]? with
  | none =>
      simp only [Docket.observe, found, Option.bind_none, docket.leave_of_same _ rfl]
      exact agrees
  | some phase =>
      rcases advancePush_eq engine platform phase with ⟨world, advanced⟩
      have inside : index < pushes.length := (List.getElem?_eq_some_iff.mp found).1
      have here (next : PushPhase (Task τ)) : (pushes.set index next)[index]? = some next :=
        List.getElem?_set_self inside
      simp only [advanced, Docket.observe, found, Option.bind_some, here]
      cases phase with
      | check task =>
          cases closed : engine.inbox.closed with
          | true =>
              simp only [PushPhase.advance, closed, PushPhase.task?]
              refine agrees.refuse found rfl .closed rfl ?_ rfl
              simp [PushEffect.events_reject]
          | false =>
              simp only [PushPhase.advance, closed, PushPhase.task?]
              exact agrees.turn found [] rfl (by simp) rfl rfl id id
      | enqueue task =>
          by_cases room : engine.inbox.queue.length < engine.inbox.capacity
          · simp only [PushPhase.advance, Inbox.enqueue?, if_pos room, PushPhase.task?]
            refine agrees.queue found rfl rfl ?_ rfl rfl
            simpa using room
          · simp only [PushPhase.advance, Inbox.enqueue?, if_neg room, PushPhase.task?]
            refine agrees.refuse found rfl (.exhausted .requestQueue) rfl ?_ rfl
            simp [PushEffect.events_reject]
      | recheck =>
          simp only [PushPhase.advance, PushPhase.task?]
          rw [docket.leave_of_same (.swept index)]
          · refine agrees.turn found [] rfl (by simp) rfl rfl ?_ (by simp [PushPhase.isSweeper])
            cases engine.inbox.closed <;> exact id
          · rfl
      | sweep =>
          cases queued : engine.inbox.queue with
          | nil =>
              simp only [PushPhase.advance, Inbox.pop?, queued, PushPhase.task?]
              rw [docket.leave_of_same (.swept index)]
              · exact agrees.turn found [] rfl (by simp) rfl rfl id fun _ => rfl
              · rfl
          | cons task rest =>
              simp only [PushPhase.advance, Inbox.pop?, queued, PushPhase.task?,
                PushEffect.events_reject]
              apply agrees.sweep found
              · exact queued
              · rfl
              · exact (List.getElem?_eq_some_iff.mp found).2 ▸ List.set_getElem_self inside
              · rfl
      | wake =>
          simp only [PushPhase.advance, PushPhase.task?]
          rw [docket.leave_of_same (.swept index)]
          · refine agrees.turn found (PushEffect.events platform engine.world .wake) rfl ?_ rfl rfl
              id fun _ => rfl
            simp [PushEffect.events, Event.isJob]
          · rfl
      | returned result =>
          simp only [PushPhase.advance, PushPhase.task?]
          rw [docket.leave_of_same (.swept index)]
          · exact agrees.turn found [] rfl (by simp) rfl rfl id id
          · rfl

theorem docket_agrees_step (agrees : docket.Agrees tasks ⟨engine, pushes⟩)
    {flights : Multiset (Flight τ)} {hand : Multiset (Grip (Continuation τ))}
    (sound : engine.Sound flights hand) (platform : Platform κ)
    (spare : engine.inFlight + 2 ≤ UInt32.size) :
    (docket.observe .step ⟨engine, pushes⟩ ⟨engine.step platform, pushes⟩).Agrees tasks
      ⟨engine.step platform, pushes⟩ := by
  rcases sound.takes_step platform spare with leaves | ⟨task, takes⟩
  · rcases leaves.journal with ⟨events, jobless, appended⟩
    have fresh : (requestsIn (engine.step platform).frames).length -
        (requestsIn engine.frames).length = 0 := Nat.sub_eq_zero_of_le leaves.requests.length_le
    simp only [Docket.observe, fresh, List.take_zero, List.nil_append]
    rw [docket.leave_of_same .run leaves.queue_eq]
    refine agrees.of_same events ?_ jobless appended rfl agrees.stands ?_
    · simp only [leaves.queue_eq, leaves.capacity_eq]
    · exact fun index phase here sweeps => ⟨phase, here, sweeps⟩
  · rcases takes.journal with ⟨events, jobs, appended⟩
    -- The requests on top of those from before are those of the task, and nothing is begun twice.
    have fresh : (requestsIn (engine.step platform).frames).take
        ((requestsIn (engine.step platform).frames).length - (requestsIn engine.frames).length) =
          task.request?.toList := by
      rw [takes.requests_eq, List.length_append, Nat.add_sub_cancel, List.take_left]
    simp only [Docket.observe, fresh]
    apply agrees.leave .run events
    · exact takes.queue_eq
    · exact takes.capacity_eq
    · rfl
    · simp
    · simp
    · exact jobs
    · simp [Disposal.failure?]
    · exact appended

theorem docket_agrees_perform (agrees : docket.Agrees tasks ⟨engine, pushes⟩)
    {flights : Multiset (Flight τ)} {hand : Multiset (Grip (Continuation τ))}
    (sound : engine.Sound flights hand) {move : Move κ τ}
    (allowed : (Scene.mk engine pushes).allows move) :
    (docket.observe move ⟨engine, pushes⟩ ((Scene.mk engine pushes).perform platform move)).Agrees
      (tasks ++ move.pushed?.toList) ((Scene.mk engine pushes).perform platform move) := by
  by_cases step : move = .step
  · subst step
    change (docket.observe .step ⟨engine, pushes⟩ _).Agrees (tasks ++ []) _
    rw [List.append_nil]
    exact docket_agrees_step agrees sound platform (by simpa [allows] using allowed)
  by_cases advances : ∃ index, move = .advance index
  · rcases advances with ⟨index, rfl⟩
    change (docket.observe (.advance index) ⟨engine, pushes⟩ _).Agrees (tasks ++ []) _
    rw [List.append_nil]
    exact docket_agrees_advance agrees index
  · have leaves : (move.request?.elim engine fun request => engine.next (.stage request)).Leaves
        ((Scene.mk engine pushes).perform platform move).engine :=
      leaves_perform platform step fun index same => advances ⟨index, same⟩
    rcases leaves with ⟨queue_eq, capacity_eq, -, events, jobless, appended⟩
    have same : (((Scene.mk engine pushes).perform platform move).engine.inbox.queue,
        ((Scene.mk engine pushes).perform platform move).engine.inbox.capacity) =
          (engine.inbox.queue, engine.inbox.capacity) := by
      rw [queue_eq, capacity_eq]
      cases move.request? <;> rfl
    have appended : ((Scene.mk engine pushes).perform platform move).engine.journal =
        events ++ engine.journal := by
      rw [appended]
      cases move.request? <;> rfl
    have kept : docket.Agrees tasks
        ⟨((Scene.mk engine pushes).perform platform move).engine, pushes⟩ :=
      agrees.of_same events same jobless appended rfl agrees.stands
        fun index phase here sweeps => ⟨phase, here, sweeps⟩
    cases move with
    | step => exact absurd rfl step
    | advance index => exact absurd ⟨index, rfl⟩ advances
    | push task => exact kept.push task
    | _ =>
        change docket.Agrees (tasks ++ []) _
        rw [List.append_nil]
        exact kept

end Moves

theorem docket_agrees_of_play {platform : Platform κ} {configuration : Configuration} {world : κ}
    {moves : List (Move κ τ)} {scene : Scene κ τ}
    (played : (opening configuration world).play? platform moves = some scene) :
    ((opening configuration world).docket platform moves).Agrees (pushedTasks moves) scene := by
  refine play?_induction (fun moves scene =>
    ((opening configuration world).docket platform moves).Agrees (pushedTasks moves) scene)
    ?_ ?_ played
  · refine ⟨rfl, List.nodup_nil, ?_, ?_, ?_, rfl, Nat.zero_le _, rfl, rfl, ?_⟩
    · exact fun ticket ticketMem => absurd ticketMem List.not_mem_nil
    · intro index phase here
      cases here
    · exact fun ticket sweeper swept => absurd swept List.not_mem_nil
    · exact fun ticket disposal failure settled => absurd settled List.not_mem_nil
  · intro moves before move after playedBefore agrees moved
    rcases move?_eq_some.mp moved with ⟨allowed, -, rfl⟩
    rcases sound_of_play playedBefore with ⟨flights, hand, sound⟩
    have tasks_eq : pushedTasks (moves ++ [move]) = pushedTasks moves ++ move.pushed?.toList := by
      rw [pushedTasks, List.filterMap_append]
      cases pushed : move.pushed? <;> simp [pushed, pushedTasks]
    rw [docket, knows_concat platform _ _ playedBefore, tasks_eq]
    exact docket_agrees_perform agrees sound allowed

theorem Emptied.queue_eq_nil {scene : Scene κ τ} (emptied : scene.Emptied)
    (terminated : scene.engine.terminated = true)
    (returned : ∀ push ∈ scene.pushes, push.isReturned) : scene.engine.inbox.queue = [] := by
  rcases emptied.tended (.inl terminated) with empty | ⟨push, pushMem, looking⟩
  · exact empty
  · rw [(PushPhase.task?_of_isReturned (returned push pushMem)).2] at looking
    cases looking

theorem capacity_advance {α : Type} (phase : PushPhase α) (inbox : Inbox α) :
    (phase.advance inbox).2.2.capacity = inbox.capacity := by
  cases phase with
  | check task =>
      simp only [PushPhase.advance]
      split <;> rfl
  | enqueue task =>
      simp only [PushPhase.advance, Inbox.enqueue?]
      by_cases room : inbox.queue.length < inbox.capacity
      · rw [if_pos room]
      · rw [if_neg room]
  | sweep =>
      simp only [PushPhase.advance, Inbox.pop?]
      cases inbox.queue <;> rfl
  | recheck | wake | returned => rfl

theorem capacity_of_play {platform : Platform κ} {configuration : Configuration} {world : κ}
    {moves : List (Move κ τ)} {scene : Scene κ τ}
    (played : (opening configuration world).play? platform moves = some scene) :
    scene.engine.inbox.capacity = max configuration.inboxCapacity.toNat 1 := by
  refine play?_induction (fun _ scene =>
    scene.engine.inbox.capacity = max configuration.inboxCapacity.toNat 1) rfl ?_ played
  rintro moves ⟨engine, pushes⟩ move after playedBefore capacity_eq moved
  rcases move?_eq_some.mp moved with ⟨allowed, -, rfl⟩
  rcases sound_of_play playedBefore with ⟨flights, hand, sound⟩
  by_cases step : move = .step
  · subst step
    rcases sound.takes_step platform (by simpa [allows] using allowed) with leaves | ⟨task, takes⟩
    · exact leaves.capacity_eq.trans capacity_eq
    · exact takes.capacity_eq.trans capacity_eq
  by_cases advances : ∃ index, move = .advance index
  · rcases advances with ⟨index, rfl⟩
    simp only [perform, advance]
    split
    · exact capacity_eq
    · rename_i phase _
      rcases advancePush_eq engine platform phase with ⟨world, advanced⟩
      rw [advanced]
      exact (capacity_advance phase engine.inbox).trans capacity_eq
  · refine (leaves_perform platform step ?_).capacity_eq.trans ?_
    · exact fun index same => advances ⟨index, same⟩
    · cases move.request? <;> exact capacity_eq

/-- However the moves of callers, of other threads and of the engine are interleaved, the inbox
never holds more tasks than it has room for, and what becomes of each task is written down once.
When everything has been given up and all pushes have returned, each task has been run or rejected,
and each promise has been resolved once, but for that of a request whose call is still being carried
out. -/
theorem docket_of_play {platform : Platform κ} {configuration : Configuration} {world : κ}
    {moves : List (Move κ τ)} {scene : Scene κ τ}
    (played : (opening configuration world).play? platform moves = some scene) :
    ((opening configuration world).docket platform moves).Agrees (pushedTasks moves) scene ∧
      scene.engine.inbox.queue.length ≤ max configuration.inboxCapacity.toNat 1 ∧
      (scene.engine.terminated = true → (∀ push ∈ scene.pushes, push.isReturned) →
        ((opening configuration world).docket platform moves).Complete (pushedTasks moves) ∧
          invoked scene.engine.journal + scene.engine.underway = handedOver moves ∧
          (scene.engine.awaitsCaller → invoked scene.engine.journal = handedOver moves)) := by
  have agrees := docket_agrees_of_play played
  refine ⟨agrees, capacity_of_play played ▸ agrees.room, fun terminated returned => ?_⟩
  have empty := (emptied_of_play played).queue_eq_nil terminated returned
  have queued : scene.queued = 0 := by
    rw [Scene.queued, empty, List.map_congr_left fun push pushMem =>
      promised_of_isReturned (returned push pushMem)]
    simp [promisedBy]
  rcases sound_of_play played with ⟨flights, hand, sound⟩
  have balanced := invoked_of_terminated played terminated
  rw [queued, add_zero] at balanced
  refine ⟨agrees.complete empty returned, balanced, fun turn => ?_⟩
  rw [sound.underway_of_awaitsCaller turn, add_zero] at balanced
  exact balanced

open Simulation in
/-- An inbox has room for one task. A job is run, a request is refused as there is no room for it,
and another job is queued only after the engine has found the inbox empty for the last time. -/
theorem docket_late_job :
    ∃ (moves : List (Move Script String)) (scene : Scene Script String),
      let start := Scene.opening { Configuration.default with inboxCapacity := 1 }
        (Script.new 8 .wait none [])
      let docket := start.docket (Script.platform (.silent _)) moves
      start.play? (Script.platform (.silent _)) moves = some scene ∧
        scene.engine.terminated = true ∧ (∀ push ∈ scene.pushes, push.isReturned) ∧
        scene.engine.awaitsCaller ∧
        (docket.settled.map fun row => (row.1.push, row.2.failure?.isSome)) =
          [(2, true), (0, false), (1, true)] ∧
        docket.Complete (pushedTasks moves) ∧
        invoked scene.engine.journal = {.promise "nop"} := by
  let moves : List (Move Script String) :=
    [Move.push (.job "first"), Move.push (.request ⟨.nop, (), none⟩ "nop"), Move.push (.job "late"),
      Move.advance 0, Move.advance 1, Move.advance 2, Move.advance 0, Move.advance 1,
      Move.cycle none, Move.step, Move.finish] ++
    List.replicate 6 Move.step ++ [Move.shutdown] ++ List.replicate 8 Move.step ++
    List.replicate 4 (Move.advance 2) ++ List.replicate 2 (Move.advance 0)
  have plays : ((Scene.opening { Configuration.default with inboxCapacity := 1 }
      (Script.new 8 .wait none [])).play? (Script.platform (.silent _)) moves).any fun scene =>
        scene.engine.terminated && scene.pushes.all PushPhase.isReturned &&
          scene.engine.awaitsCaller := by
    decide +kernel
  have rows : (((Scene.opening { Configuration.default with inboxCapacity := 1 }
      (Script.new 8 .wait none [])).docket (Script.platform (.silent _)) moves).settled.map
        fun row => (row.1.push, row.2.failure?.isSome)) = [(2, true), (0, false), (1, true)] := by
    decide +kernel
  rcases (Option.any_eq_true _ _).mp plays with ⟨scene, played, shown⟩
  simp only [Bool.and_eq_true, List.all_eq_true] at shown
  rcases shown with ⟨⟨terminated, returned⟩, turn⟩
  rcases (docket_of_play played).2.2 terminated returned with ⟨complete, -, told⟩
  exact ⟨moves, scene, played, terminated, returned, turn, rows, complete, told turn⟩

end Scene

end CompletionEngine
