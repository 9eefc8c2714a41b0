import CompletionEngine.Proofs.Runs.Manifest
import CompletionEngine.Proofs.Runs.Moves

/-!
# Signals for queued tasks

A push signals after it has queued its task, and one acknowledgement consumes the signals of all
pushes. So of the tasks that were queued at the last acknowledgement none has a signal of its own any
more: as long as they are queued they are overdue. Every other task does have one, as soon as its
push has returned.
-/

namespace CompletionEngine

variable {κ τ : Type}

/-- The signals that have not been consumed. -/
def signals : List (Event τ) → ℕ
  | [] => 0
  | .notified (.ok _) :: journal => signals journal + 1
  | .acknowledged _ :: _ => 0
  | _ :: journal => signals journal

/-- Whether an event tells that the signals have been consumed. -/
def Event.isAcknowledgement : Event τ → Bool
  | .acknowledged _ => true
  | _ => false

theorem Event.isAcknowledgement_of_silent {event : Event τ} (silent : event.isSignal = false) :
    event.isAcknowledgement = false := by
  cases event <;> first | rfl | cases silent

/-- Whether the push has queued its task and not returned yet. -/
def PushPhase.isUnderway {α : Type} : PushPhase α → Bool
  | .recheck | .sweep | .wake => true
  | _ => false

/-- A task that is queued, and the push that queued it. -/
structure Ticket (τ : Type) where
  push : ℕ
  task : Task τ

/-- What an observer of a run knows of the inbox. -/
structure Watch (τ : Type) where
  /-- What is queued. -/
  tickets : List (Ticket τ)
  /-- How many tasks were queued when signals were consumed last. -/
  backlog : ℕ
  /-- How many of these still are. -/
  overdue : ℕ
  /-- Whether a caller has begun a cycle while another call was running. -/
  nested : Bool
  /-- Whether the ring has refused what was staged. -/
  refused : Bool

/-- Whether a caller begins cycles. -/
def Move.isCycle : Move κ τ → Bool
  | .cycle _ | .work => true
  | _ => false

theorem signals_append_of_silent {events : List (Event τ)}
    (silent : ∀ event ∈ events, event.isSignal = false) (journal : List (Event τ)) :
    signals (events ++ journal) = signals journal := by
  have skips (event : Event τ) (journal : List (Event τ)) (plain : event.isSignal = false) :
      signals (event :: journal) = signals journal := by
    cases event <;> first | rfl | cases plain
  exact append_of_skips signals skips silent journal

/-- A push never consumes signals, and may add one. -/
theorem signals_events (effect : PushEffect (Task τ)) (platform : Platform κ) (world : κ)
    (journal : List (Event τ)) :
    signals journal ≤ signals (effect.events platform world ++ journal) := by
  cases effect with
  | nothing => exact le_rfl
  | reject task failure => cases task <;> exact le_rfl
  | wake =>
      cases outcome : (platform.notifier.notify world).1 with
      | error error => simp [PushEffect.events, outcome, signals]
      | ok value => simp [PushEffect.events, outcome, signals]

theorem PushEffect.isAcknowledgement_events (effect : PushEffect (Task τ)) (platform : Platform κ)
    (world : κ) : ∀ event ∈ effect.events platform world, event.isAcknowledgement = false := by
  cases effect with
  | reject task failure => cases task <;> simp [events, Event.isAcknowledgement]
  | _ => simp [events, Event.isAcknowledgement]

/-- A push queues its task when there is room. Otherwise the queue does not grow, and a push that had
queued its task goes on until it has signalled or found nothing queued. -/
theorem PushPhase.advance_cases {α : Type} (phase : PushPhase α) (inbox : Inbox α) :
    (∃ task, phase = .enqueue task ∧ phase.advance inbox =
      (.recheck, .nothing, { inbox with queue := inbox.queue ++ [task] })) ∨
    (phase.advance inbox).2.2.queue <:+ inbox.queue ∧
      (phase.isUnderway → (phase.advance inbox).2.1 = .wake ∨
        (phase.advance inbox).2.2.queue = [] ∨ (phase.advance inbox).1.isUnderway) := by
  cases phase with
  | check task =>
      refine .inr ⟨?_, by simp [isUnderway]⟩
      simp only [advance]
      split <;> exact List.suffix_rfl
  | enqueue task =>
      by_cases room : inbox.queue.length < inbox.capacity
      · exact .inl ⟨task, rfl, by simp [advance, Inbox.enqueue?, room]⟩
      · exact .inr ⟨by simp [advance, Inbox.enqueue?, room], by simp [isUnderway]⟩
  | recheck =>
      refine .inr ⟨List.suffix_rfl, fun _ => .inr (.inr ?_)⟩
      simp only [advance]
      split <;> rfl
  | sweep =>
      cases queued : inbox.queue with
      | nil =>
          have empty : (sweep.advance inbox).2.2.queue = [] := by simp [advance, Inbox.pop?, queued]
          exact .inr ⟨empty ▸ List.nil_suffix, fun _ => .inr (.inl empty)⟩
      | cons task rest =>
          refine .inr ⟨by simp [advance, Inbox.pop?, queued], fun _ => .inr (.inr ?_)⟩
          simp [advance, Inbox.pop?, queued, isUnderway]
  | wake => exact .inr ⟨List.suffix_rfl, fun _ => .inl rfl⟩
  | returned result => exact .inr ⟨List.suffix_rfl, by simp [isUnderway]⟩

namespace Watch

/-- Nothing has been queued yet. -/
def opening : Watch τ := ⟨[], 0, 0, false, false⟩

/-- What is known after a move. Tasks leave the inbox at its front, and a push queues at its end. -/
def observe (move : Move κ τ) (before after : Scene κ τ) (watch : Watch τ) : Watch τ :=
  let earlier := before.engine.inbox.queue
  let later := after.engine.inbox.queue
  let left := watch.tickets.drop (earlier.length - later.length)
  let consumed := (before.engine.eventsSince after.engine).any Event.isAcknowledgement
  { tickets := match move with
      | .advance index => left ++ (later.drop earlier.length).map (Ticket.mk index)
      | _ => left
    backlog := if consumed then left.length else watch.backlog
    overdue := if consumed then left.length else watch.overdue - (earlier.length - later.length)
    nested := watch.nested || move.isCycle && !before.engine.frames.isEmpty
    refused := watch.refused || after.engine.frames.any Frame.isRefuse }

/-- What is known agrees with a scene. -/
structure Agrees (watch : Watch τ) (scene : Scene κ τ) : Prop where
  queue_eq : watch.tickets.map Ticket.task = scene.engine.inbox.queue
  overdue_le : watch.overdue ≤ watch.tickets.length
  overdue_le_backlog : watch.overdue ≤ watch.backlog
  /-- What is not overdue has a signal, or its push will signal yet. -/
  signalled : ∀ ticket ∈ watch.tickets.drop watch.overdue, 0 < signals scene.engine.journal ∨
    ∃ push, scene.pushes[ticket.push]? = some push ∧ push.isUnderway
  calm : watch.refused = false → ∀ frame ∈ scene.engine.frames, frame.isRefuse = false

section Observation

variable {watch : Watch τ} {before after : Scene κ τ} {move : Move κ τ} {events : List (Event τ)}

theorem calm_observe (calm : (watch.observe move before after).refused = false) :
    watch.refused = false ∧ ∀ frame ∈ after.engine.frames, frame.isRefuse = false := by
  simpa [observe] using calm

/-- Unless signals are consumed, tasks that leave the inbox are all that changes for the others. -/
theorem overdue_observe (watch : Watch τ) (move : Move κ τ) (before after : Scene κ τ)
    (appended : after.engine.journal = events ++ before.engine.journal)
    (quiet : ∀ event ∈ events, event.isAcknowledgement = false) :
    (watch.observe move before after).backlog = watch.backlog ∧
      (watch.observe move before after).overdue = watch.overdue -
        (before.engine.inbox.queue.length - after.engine.inbox.queue.length) := by
  have none : events.any Event.isAcknowledgement = false := by simpa using quiet
  simp [observe, Engine.eventsSince_eq appended, none]

theorem tickets_observe (watch : Watch τ) (move : Move κ τ)
    (queue : after.engine.inbox.queue <:+ before.engine.inbox.queue) :
    (watch.observe move before after).tickets = watch.tickets.drop
      (before.engine.inbox.queue.length - after.engine.inbox.queue.length) := by
  have nothing : after.engine.inbox.queue.drop before.engine.inbox.queue.length = [] :=
    List.drop_eq_nil_of_le queue.length_le
  cases move with
  | advance index => simp [observe, nothing]
  | _ => rfl

/-- What was not overdue had a signal, or its push was to signal yet. -/
theorem Agrees.of_fewer (agrees : watch.Agrees before)
    (queue : after.engine.inbox.queue <:+ before.engine.inbox.queue)
    (appended : after.engine.journal = events ++ before.engine.journal)
    (quiet : ∀ event ∈ events, event.isAcknowledgement = false)
    (kept : 0 < signals before.engine.journal → 0 < signals after.engine.journal)
    (pushes : ∀ (index : ℕ) push, before.pushes[index]? = some push → push.isUnderway →
      0 < signals after.engine.journal ∨ after.engine.inbox.queue = [] ∨
        ∃ push, after.pushes[index]? = some push ∧ push.isUnderway) :
    (watch.observe move before after).Agrees after := by
  have tickets_eq := tickets_observe watch move queue
  rcases overdue_observe watch move before after appended quiet with ⟨backlog_eq, overdue_eq⟩
  have queue_eq : (watch.observe move before after).tickets.map Ticket.task =
      after.engine.inbox.queue := by
    rw [tickets_eq, List.map_drop, agrees.queue_eq]
    exact (List.suffix_iff_eq_drop.mp queue).symm
  refine ⟨queue_eq, ?_, ?_, ?_, fun calm => (calm_observe calm).2⟩
  · rw [tickets_eq, overdue_eq, List.length_drop]
    exact Nat.sub_le_sub_right agrees.overdue_le _
  · rw [overdue_eq, backlog_eq]
    exact (Nat.sub_le _ _).trans agrees.overdue_le_backlog
  · intro ticket ticketMem
    have earlier : ticket ∈ watch.tickets.drop watch.overdue := by
      rw [tickets_eq, overdue_eq, List.drop_drop] at ticketMem
      exact List.drop_subset_drop_left _ (by omega) ticketMem
    rcases agrees.signalled ticket earlier with signal | ⟨push, here, underway⟩
    · exact .inl (kept signal)
    · rcases pushes ticket.push push here underway with signal | empty | later
      · exact .inl signal
      · rw [← queue_eq, List.map_eq_nil_iff] at empty
        rw [empty, List.drop_nil] at ticketMem
        cases ticketMem
      · exact .inr later

/-- Once signals are consumed, everything queued is overdue. -/
theorem Agrees.of_acknowledged (agrees : watch.Agrees before) (move : Move κ τ) (after : Scene κ τ)
    {outcome : Except RingError Unit}
    (queue_eq : after.engine.inbox.queue = before.engine.inbox.queue)
    (appended : after.engine.journal = [.acknowledged outcome] ++ before.engine.journal) :
    (watch.observe move before after).Agrees after ∧
      (watch.observe move before after).backlog = watch.tickets.length ∧
      (watch.observe move before after).overdue = watch.tickets.length := by
  have queue : after.engine.inbox.queue <:+ before.engine.inbox.queue := queue_eq ▸ List.suffix_rfl
  have tickets_eq := tickets_observe watch move queue
  rw [queue_eq, Nat.sub_self, List.drop_zero] at tickets_eq
  have numbers : (watch.observe move before after).backlog = watch.tickets.length ∧
      (watch.observe move before after).overdue = watch.tickets.length := by
    simp [observe, Engine.eventsSince_eq appended, Event.isAcknowledgement, queue_eq]
  refine ⟨⟨?_, ?_, ?_, ?_, fun calm => (calm_observe calm).2⟩, numbers⟩
  · rw [tickets_eq, agrees.queue_eq, queue_eq]
  · rw [tickets_eq, numbers.2]
  · rw [numbers.1, numbers.2]
  · intro ticket ticketMem
    rw [tickets_eq, numbers.2, List.drop_length] at ticketMem
    cases ticketMem

/-- A task that is queued has a push that will signal. -/
theorem Agrees.of_queued {task : Task τ} {index : ℕ} (agrees : watch.Agrees before)
    (queue_eq : after.engine.inbox.queue = before.engine.inbox.queue ++ [task])
    (journal_eq : after.engine.journal = before.engine.journal)
    (queues : before.pushes[index]? = some (.enqueue task))
    (pushes_eq : after.pushes = before.pushes.set index .recheck) :
    (watch.observe (.advance index) before after).Agrees after := by
  have tickets_eq : (watch.observe (.advance index) before after).tickets =
      watch.tickets ++ [⟨index, task⟩] := by
    simp [observe, queue_eq]
  have none : ∀ event ∈ ([] : List (Event τ)), event.isAcknowledgement = false := by simp
  have appended : after.engine.journal = [] ++ before.engine.journal := journal_eq
  rcases overdue_observe watch (.advance index) before after appended none with
    ⟨backlog_eq, overdue_eq⟩
  have noneGone : before.engine.inbox.queue.length - after.engine.inbox.queue.length = 0 := by
    simp [queue_eq]
  rw [noneGone, Nat.sub_zero] at overdue_eq
  have inside : index < before.pushes.length := (List.getElem?_eq_some_iff.mp queues).1
  refine ⟨?_, ?_, ?_, ?_, fun calm => (calm_observe calm).2⟩
  · rw [tickets_eq, List.map_append, agrees.queue_eq, queue_eq]
    rfl
  · rw [tickets_eq, overdue_eq, List.length_append]
    exact agrees.overdue_le.trans (Nat.le_add_right _ _)
  · rw [overdue_eq, backlog_eq]
    exact agrees.overdue_le_backlog
  · intro ticket ticketMem
    rw [tickets_eq, overdue_eq, List.drop_append_of_le_length agrees.overdue_le, List.mem_append,
      List.mem_singleton] at ticketMem
    rw [journal_eq, pushes_eq]
    rcases ticketMem with earlier | rfl
    · rcases agrees.signalled ticket earlier with signal | ⟨push, here, underway⟩
      · exact .inl signal
      · have ne : index ≠ ticket.push := by
          rintro rfl
          cases queues.symm.trans here
          cases underway
        exact .inr ⟨push, by rwa [List.getElem?_set_ne ne], underway⟩
    · exact .inr ⟨.recheck, List.getElem?_set_self inside, rfl⟩

end Observation

end Watch

namespace Scene

/-- What an observer knows of the inbox after some moves. -/
def watch (platform : Platform κ) (moves : List (Move κ τ)) (start : Scene κ τ) : Watch τ :=
  start.knows platform Watch.observe .opening moves

section Moves

variable {watch : Watch τ} {platform : Platform κ} {engine : Engine κ τ}
  {pushes : List (PushPhase (Task τ))}

theorem agrees_advance (agrees : watch.Agrees ⟨engine, pushes⟩)
    (heard : ∀ world, (platform.notifier.notify world).1 = .ok ()) (index : ℕ) :
    (watch.observe (.advance index) ⟨engine, pushes⟩
      ((Scene.mk engine pushes).advance platform index)).Agrees
        ((Scene.mk engine pushes).advance platform index) := by
  unfold advance
  cases found : pushes[index]? with
  | none =>
      have appended : engine.journal = [] ++ engine.journal := rfl
      refine agrees.of_fewer List.suffix_rfl appended (by simp) id ?_
      exact fun _ push here underway => .inr (.inr ⟨push, here, underway⟩)
  | some phase =>
      rcases advancePush_eq engine platform phase with ⟨world, advanced⟩
      have inside : index < pushes.length := (List.getElem?_eq_some_iff.mp found).1
      simp only [advanced]
      rcases phase.advance_cases engine.inbox with ⟨task, rfl, queued⟩ | ⟨fewer, goesOn⟩
      · simp only [queued]
        exact agrees.of_queued rfl rfl found rfl
      · refine agrees.of_fewer fewer rfl
          (PushEffect.isAcknowledgement_events _ platform engine.world) ?_ ?_
        · exact fun signal => signal.trans_le (signals_events _ platform engine.world _)
        · intro other push here underway
          by_cases same : index = other
          · subst same
            cases found.symm.trans here
            rcases goesOn underway with wakes | empty | later
            · left
              simp [wakes, PushEffect.events, heard, signals]
            · exact .inr (.inl empty)
            · exact .inr (.inr ⟨_, List.getElem?_set_self inside, later⟩)
          · exact .inr (.inr ⟨push, by rwa [List.getElem?_set_ne same], underway⟩)

/-- Only a step consumes signals, and nothing changes the configuration. -/
theorem unacknowledged_perform (platform : Platform κ) (engine : Engine κ τ)
    (pushes : List (PushPhase (Task τ))) {move : Move κ τ} (notStep : move ≠ .step) :
    ((Scene.mk engine pushes).perform platform move).engine.configuration = engine.configuration ∧
      ∃ events, (∀ event ∈ events, event.isAcknowledgement = false) ∧
        ((Scene.mk engine pushes).perform platform move).engine.journal =
          events ++ engine.journal := by
  by_cases wakes : move = .wake
  · subst wakes
    exact ⟨rfl, _, PushEffect.isAcknowledgement_events .wake platform engine.world, rfl⟩
  by_cases advances : ∃ index, move = .advance index
  · rcases advances with ⟨index, rfl⟩
    simp only [perform, advance]
    split
    · exact ⟨rfl, [], by simp, rfl⟩
    · rename_i phase _
      rcases advancePush_eq engine platform phase with ⟨world, advanced⟩
      rw [advanced]
      exact ⟨rfl, _, PushEffect.isAcknowledgement_events _ platform engine.world, rfl⟩
  · rcases proceeds_perform platform notStep (fun index same => advances ⟨index, same⟩) wakes with
      ⟨proceeds, -⟩
    rcases proceeds.journal with ⟨events, silent, appended⟩
    exact ⟨proceeds.configuration_eq, events,
      fun event eventMem => Event.isAcknowledgement_of_silent (silent event eventMem), appended⟩

/-- Whatever is moved, what the observer knows goes on agreeing. -/
theorem agrees_perform (agrees : watch.Agrees ⟨engine, pushes⟩)
    {flights : Multiset (Flight τ)} {hand : Multiset (Grip (Continuation τ))}
    (sound : engine.Sound flights hand)
    (heard : ∀ world, (platform.notifier.notify world).1 = .ok ()) {move : Move κ τ}
    (allowed : (Scene.mk engine pushes).allows move) :
    (watch.observe move ⟨engine, pushes⟩ ((Scene.mk engine pushes).perform platform move)).Agrees
      ((Scene.mk engine pushes).perform platform move) := by
  have alone {after : Scene κ τ} (proceeds : engine.Proceeds after.engine)
      (further : pushes <+: after.pushes) :
      (watch.observe move ⟨engine, pushes⟩ after).Agrees after := by
    rcases proceeds.journal with ⟨events, silent, appended⟩
    refine agrees.of_fewer proceeds.queue appended ?_ ?_ ?_
    · exact fun event eventMem => Event.isAcknowledgement_of_silent (silent event eventMem)
    · intro signal
      rwa [appended, signals_append_of_silent silent]
    · intro index push here underway
      rcases further with ⟨more, pushes_eq⟩
      have inside : index < pushes.length := (List.getElem?_eq_some_iff.mp here).1
      refine .inr (.inr ⟨push, ?_, underway⟩)
      rwa [← pushes_eq, List.getElem?_append_left inside]
  by_cases step : move = .step
  · subst step
    rcases sound.proceeds_step platform (by simpa [allows] using allowed) with
      proceeds | ⟨below, record, rest, delivered, outer, rfl, acknowledged⟩
    · exact alone proceeds List.prefix_rfl
    · have appended :
          ((below.next (.dispatch (record :: rest) delivered outer)).step platform).journal =
            [.acknowledged (platform.notifier.acknowledge below.world).1] ++ below.journal := by
        rw [acknowledged]
        rfl
      refine (agrees.of_acknowledged .step _ ?_ appended).1
      simp only [perform, acknowledged]
      rfl
  by_cases wakes : move = .wake
  · subst wakes
    refine agrees.of_fewer List.suffix_rfl rfl
      (PushEffect.isAcknowledgement_events .wake platform engine.world) ?_ ?_
    · exact fun signal => signal.trans_le (signals_events .wake platform engine.world _)
    · exact fun _ push here underway => .inr (.inr ⟨push, here, underway⟩)
  by_cases advances : ∃ index, move = .advance index
  · rcases advances with ⟨index, rfl⟩
    exact agrees_advance agrees heard index
  · rcases proceeds_perform platform step (fun index same => advances ⟨index, same⟩) wakes with
      ⟨proceeds, further⟩
    exact alone proceeds further

end Moves

/-- In every run, what the observer knows agrees with the scene. -/
theorem agrees_of_play {platform : Platform κ} {configuration : Configuration} {world : κ}
    {moves : List (Move κ τ)} {scene : Scene κ τ}
    (played : (opening configuration world).play? platform moves = some scene)
    (heard : ∀ world, (platform.notifier.notify world).1 = .ok ()) :
    ((opening configuration world).watch platform moves).Agrees scene := by
  refine play?_induction
    (fun moves scene => ((opening configuration world).watch platform moves).Agrees scene)
    ?_ ?_ played
  · exact ⟨rfl, le_rfl, le_rfl, fun _ ticketMem => absurd ticketMem List.not_mem_nil,
      fun _ _ frameMem => absurd frameMem List.not_mem_nil⟩
  · intro moves before move after playedBefore agrees moved
    rcases move?_eq_some.mp moved with ⟨allowed, -, rfl⟩
    rcases sound_of_play playedBefore with ⟨flights, hand, sound⟩
    rw [watch, knows_concat platform _ _ playedBefore]
    exact agrees_perform agrees sound heard allowed

end Scene

end CompletionEngine
