import CompletionEngine.Proofs.Promise.Resolution
import CompletionEngine.Proofs.Promise.Threads

/-!
# Awaiting a promise

Tasks poll promises and are woken when these are resolved, while any number of threads attach, poll
and resolve, also from inside code that a promise has entered. A task that polls a pending promise
leaves its waker before the thread that resolves the promise takes the wakers out, or else it is told
the result: both happen under the lock of the promise. So no wake-up is lost. The thread that has
resolved the promise goes through the actions that it has taken out, and then through the wakers.
-/

namespace CompletionEngine.Promise

variable {θ α ω : Type}

/-- What is entered when an action is run on a result. -/
def Action.entered (action : Action α ℕ) (result : Except Failure α) : List (Event α ℕ ω) :=
  action.hook?.elim [] fun (code, hook) => (hook.sees result).map fun seen => .entered code seen

namespace Store

variable {store before between after : Store α ℕ ω}

/-- Whether a store has at most more to do than another, and more has happened. -/
structure Extends (before after : Store α ℕ ω) : Prop where
  frames : before.frames <:+ after.frames
  journal : before.journal <:+ after.journal

theorem Extends.refl (store : Store α ℕ ω) : store.Extends store :=
  ⟨List.suffix_refl _, List.suffix_refl _⟩

theorem Extends.trans (earlier : before.Extends between) (later : between.Extends after) :
    before.Extends after :=
  ⟨earlier.frames.trans later.frames, earlier.journal.trans later.journal⟩

theorem extends_next (frame : Frame α ℕ ω) (store : Store α ℕ ω) :
    store.Extends (store.next frame) := ⟨List.suffix_cons .., List.suffix_refl _⟩

theorem extends_create (cell : Cell α ℕ ω) (store : Store α ℕ ω) :
    store.Extends (store.create cell).2 := ⟨List.suffix_refl _, List.suffix_refl _⟩

theorem extends_attach (id : Id) (action : Action α ℕ) (store : Store α ℕ ω) :
    store.Extends (store.attach id action) := by
  unfold attach
  split
  · exact ⟨List.suffix_refl _, List.suffix_refl _⟩
  · exact extends_next _ store
  · exact .refl store

theorem extends_resolve (id : Id) (result : Except Failure α) (store : Store α ℕ ω) :
    store.Extends (store.resolve id result).2 := by
  unfold resolve
  split
  · exact ⟨List.suffix_append .., List.suffix_refl _⟩
  · exact .refl store

theorem extends_runFrame (frame : Frame α ℕ ω) (store : Store α ℕ ω) :
    store.Extends (store.runFrame frame) := by
  cases frame with
  | client => exact extends_next _ store
  | wake waker => exact ⟨List.suffix_refl _, List.suffix_cons ..⟩
  | resolve target result => exact extends_resolve target result store
  | attach source action =>
      cases source with
      | promise id => exact extends_attach id action store
      | settled result => exact extends_next _ store
      | map source mapper | chain source mapper =>
          exact ((extends_create _ store).trans (extends_next _ _)).trans (extends_next _ _)
  | run action result =>
      rcases store.runAction_eq action result with ⟨frames, -, ran⟩
      rw [runFrame, ran]
      exact ⟨List.suffix_append .., List.suffix_append ..⟩

/-- A store that need not wait for a caller does what is to be done next. -/
theorem step_next {frame : Frame α ℕ ω} (busy : (store.next frame).awaitsCaller = false) :
    (store.next frame).step = store.runFrame frame := by
  rw [step, busy]
  rfl

end Store

namespace Chronicle

variable [DecidableEq ω] {chronicle : Chronicle α ω} {move : Move α ω} {below : Store α ℕ ω}
  {frame : Frame α ℕ ω}

theorem extends_of_call (isCall : move ≠ .step ∧ move ≠ .finish) :
    chronicle.store.Extends (chronicle.act move) := by
  cases move with
  | step => exact absurd rfl isCall.1
  | finish => exact absurd rfl isCall.2
  | new | resolved result => exact Store.extends_create _ _
  | resolve id result => exact Store.extends_resolve id result _
  | attach hook id => cases hook <;> exact Store.extends_attach id _ _
  | map id mapper | flatMap id mapper =>
      exact (Store.extends_create _ _).trans (Store.extends_attach id _ _)
  | poll id waker =>
      rcases Store.poll_eq id waker chronicle.store with same | ⟨-, -, wakers, polled⟩
      · rw [act, same]
        exact .refl _
      · rw [act, polled]
        exact ⟨List.suffix_refl _, List.suffix_refl _⟩

/-- A move is about the first thing that is to be done, and leaves what is below it. -/
theorem extends_act (store_eq : chronicle.store = below.next frame) (move : Move α ω) :
    below.Extends (chronicle.act move) := by
  by_cases isStep : move = .step
  · subst isStep
    rw [act, store_eq]
    cases turn : (below.next frame).awaitsCaller with
    | true =>
        rw [Store.step, turn, if_pos rfl]
        exact Store.extends_next frame below
    | false =>
        rw [Store.step_next turn]
        exact Store.extends_runFrame frame below
  · by_cases isFinish : move = .finish
    · subst isFinish
      rw [act, store_eq, Store.finish]
      cases frame with
      | client => exact .refl below
      | _ => exact Store.extends_next _ below
    · have called : chronicle.store.Extends (chronicle.act move) :=
        extends_of_call ⟨isStep, isFinish⟩
      exact (store_eq ▸ Store.extends_next frame below).trans called

theorem journal_suffix_act (move : Move α ω) (chronicle : Chronicle α ω) :
    chronicle.store.journal <:+ (chronicle.act move).journal := by
  rcases chronicle with ⟨⟨cells, _ | ⟨frame, rest⟩, journal⟩, past, moves⟩
  · by_cases isCall : move ≠ .step ∧ move ≠ .finish
    · exact (extends_of_call isCall).journal
    · have rests : move = .step ∨ move = .finish := by
        rwa [← or_iff_not_and_not] at isCall
      rcases rests with rfl | rfl <;> exact List.suffix_refl _
  · let below : Store α ℕ ω := ⟨cells, rest, journal⟩
    let whole : Chronicle α ω := ⟨⟨cells, frame :: rest, journal⟩, past, moves⟩
    have extended : below.Extends (whole.act move) := extends_act rfl move
    exact extended.journal

omit [DecidableEq ω] in
/-- While it is not a caller's turn, only steps are made. -/
theorem eq_step_of_busy (busy : chronicle.store.awaitsCaller = false)
    (allowed : chronicle.allows move) : move = .step := by
  cases move with
  | step => rfl
  | _ => simp [allows, busy] at allowed

omit [DecidableEq ω] in
/-- An attempt that succeeds finds the promise pending, and takes its actions and wakers out. -/
theorem resolve_of_won {store : Store α ℕ ω} {id : Id} {result : Except Failure α}
    (won : (store.resolve id result).1 = true) :
    store.result? id = none ∧ (store.resolve id result).2.frames =
      (store.waiting id).map (.run · result) ++ ((store.wakers id).map .wake ++ store.frames) := by
  cases stored : store.result? id with
  | some first =>
      rw [Store.resolve_of_result? stored] at won
      cases won
  | none =>
      rcases lt_or_ge id store.size with inside | outside
      · rw [Store.resolve_of_pending inside stored, ← List.append_assoc]
        exact ⟨rfl, rfl⟩
      · rw [Store.resolve_of_size_le outside] at won
        cases won

theorem frames_of_won {agent : Agent} {id : Id} {result : Except Failure α}
    (won : .attempted agent id result true ∈ chronicle.happenings move) :
    chronicle.store.result? id = none ∧ (chronicle.act move).frames =
      (chronicle.store.waiting id).map (.run · result) ++
        ((chronicle.store.wakers id).map .wake ++ chronicle.floor move) := by
  have told := happenings_of_attempted won
  cases move with
  | resolve other stored =>
      simp only [happenings, List.cons.injEq, Happening.attempted.injEq] at told
      rcases told with ⟨⟨-, rfl, rfl, succeeds⟩, -⟩
      exact resolve_of_won succeeds
  | step =>
      rcases (next_of_attempted won).2 with ⟨below, store_eq⟩
      have succeeds : ((below.next (.resolve id result)).resolve id result).1 = true := by
        simp only [happenings, store_eq, stepHappenings, Store.next, List.cons.injEq,
          Happening.attempted.injEq] at told
        exact told.1.2.2.2
      rw [Store.won_next] at succeeds
      rw [act, floor, store_eq, Store.step_next rfl]
      exact resolve_of_won succeeds
  | new | resolved | attach | map | flatMap | poll | finish => simp [happenings] at told

end Chronicle

namespace Assembly

variable [DecidableEq θ] [DecidableEq ω] {start done now : Assembly θ α ω} {thread other : θ}
  {move : Move α ω} {events : List (Event α ℕ ω)}

section Logged

/-- Whether some events have happened since, in order. -/
def Logged (start now : Assembly θ α ω) (events : List (Event α ℕ ω)) : Prop :=
  ∃ recent, now.journal = recent ++ start.journal ∧ events.reverse.Sublist recent

omit [DecidableEq θ] [DecidableEq ω] in
theorem logged_nil (start : Assembly θ α ω) : start.Logged start [] :=
  ⟨[], rfl, .slnil⟩

omit [DecidableEq θ] [DecidableEq ω] in
theorem Logged.trans {between : Assembly θ α ω} {more : List (Event α ℕ ω)}
    (earlier : start.Logged between events) (later : between.Logged now more) :
    start.Logged now (events ++ more) := by
  rcases earlier with ⟨old, old_eq, amongOld⟩
  rcases later with ⟨new, new_eq, amongNew⟩
  refine ⟨new ++ old, by rw [new_eq, old_eq, List.append_assoc], ?_⟩
  rw [List.reverse_append]
  exact amongNew.append amongOld

omit [DecidableEq θ] [DecidableEq ω] in
theorem logged_of_journal {more : List (Event α ℕ ω)}
    (happened : now.journal = more.reverse ++ start.journal) : start.Logged now more :=
  ⟨more.reverse, happened, .refl _⟩

theorem Logged.perform (logged : start.Logged now events) (thread : θ) (move : Move α ω) :
    start.Logged (now.perform thread move) events := by
  rcases logged with ⟨recent, journal_eq, among⟩
  rcases Chronicle.journal_suffix_act move (now.viewOf thread) with ⟨more, same⟩
  refine ⟨more ++ recent, ?_, among.trans (List.sublist_append_right more recent)⟩
  rw [List.append_assoc, ← journal_eq]
  exact same.symm

end Logged

section Frames

variable {base : List (Frame α ℕ ω)}

/-- What is below the first thing that a thread has to do stays. -/
theorem suffix_perform {frame : Frame α ℕ ω} (frames_eq : now.frames thread = frame :: base)
    (move : Move α ω) : base <:+ (now.perform thread move).frames thread := by
  rw [frames_perform_self]
  exact (Chronicle.extends_act (viewOf_store_eq frames_eq) move).frames

/-- A thread that is at an action runs it, and enters its code. -/
theorem perform_run {action : Action α ℕ} {result : Except Failure α}
    (frames_eq : now.frames thread = .run action result :: base)
    (allowed : (now.viewOf thread).allows move) :
    (now.perform thread move).journal = (action.entered result).reverse ++ now.journal := by
  have store_eq := viewOf_store_eq frames_eq
  have busy : (now.viewOf thread).store.awaitsCaller = false := by
    rw [store_eq]
    rfl
  have single : (action.entered result : List (Event α ℕ ω)).reverse = action.entered result := by
    unfold Action.entered
    cases action.hook? with
    | none => rfl
    | some attached =>
        simp only [Option.elim_some, Hook.sees]
        split <;> rfl
  rw [Chronicle.eq_step_of_busy busy allowed, single]
  have stepped : ((now.viewOf thread).act .step).journal =
      action.entered result ++ now.journal := by
    rw [Chronicle.act, store_eq, Store.step_next rfl, Store.runFrame]
    rcases Store.runAction_eq action result ⟨now.cells, base, now.journal⟩ with ⟨frames, -, ran⟩
    rw [ran]
    rfl
  exact stepped

/-- A thread that is at a waker wakes it. -/
theorem perform_wake {waker : ω} (frames_eq : now.frames thread = .wake waker :: base)
    (allowed : (now.viewOf thread).allows move) :
    (now.perform thread move).journal = .woken waker :: now.journal ∧
      (now.perform thread move).frames thread = base := by
  have store_eq := viewOf_store_eq frames_eq
  have busy : (now.viewOf thread).store.awaitsCaller = false := by
    rw [store_eq]
    rfl
  rw [Chronicle.eq_step_of_busy busy allowed]
  have stepped : (now.viewOf thread).act .step =
      ⟨now.cells, base, .woken waker :: now.journal⟩ := by
    rw [Chronicle.act, store_eq, Store.step_next rfl]
    rfl
  refine ⟨congrArg Store.journal stepped, ?_⟩
  rw [frames_perform_self, stepped]

end Frames

section Resolving

variable {result : Except Failure α} {actions : List (Action α ℕ)} {wakers : List ω}
  {base : List (Frame α ℕ ω)} {turns : List (θ × Move α ω)}

/-- Whether a thread has come to some wakers, and how many of these it has woken since. -/
def Waking (done : Assembly θ α ω) (thread : θ) (wakers : List ω) (base : List (Frame α ℕ ω))
    (now : Assembly θ α ω) : Prop :=
  ∃ told left, told ++ left = wakers ∧ done.Logged now (told.map .woken) ∧
    (left = [] ∨ now.frames thread = left.map .wake ++ base)

/-- How far a thread has come, some turns after it took the actions and the wakers out of a promise. -/
inductive Resolving (start : Assembly θ α ω) (thread : θ) (result : Except Failure α)
    (actions : List (Action α ℕ)) (wakers : List ω) (base : List (Frame α ℕ ω))
    (turns : List (θ × Move α ω)) (now : Assembly θ α ω) : Prop
  /-- It has run some actions, and is at what these have left to be done. All wakers are to come. -/
  | acting (ran left : List (Action α ℕ)) (above : List (Frame α ℕ ω)) (split : ran ++ left = actions)
    (entered : start.Logged now (ran.flatMap fun action => action.entered result))
    (frames_eq : now.frames thread =
      above ++ (left.map (.run · result) ++ (wakers.map .wake ++ base)))
  /-- After some of the turns it had run all actions and come to the wakers. -/
  | waking (acts waits : List (θ × Move α ω)) (done : Assembly θ α ω) (split : acts ++ waits = turns)
    (played : start.play? acts = some done)
    (entered : start.Logged done (actions.flatMap fun action => action.entered result))
    (frames_eq : done.frames thread = wakers.map .wake ++ base)
    (waking : done.Waking thread wakers base now)

theorem Waking.turn (waking : done.Waking thread wakers base now)
    (allowed : (now.viewOf other).allows move) :
    done.Waking thread wakers base (now.perform other move) := by
  rcases waking with ⟨told, left, split, logged, nothing | frames_eq⟩
  · exact ⟨told, left, split, logged.perform other move, .inl nothing⟩
  · by_cases own : other = thread
    · subst own
      cases left with
      | nil => exact ⟨told, [], split, logged.perform other move, .inl rfl⟩
      | cons waker left =>
          rcases perform_wake frames_eq allowed with ⟨journal_eq, frames_eq⟩
          refine ⟨told ++ [waker], left, by simpa using split, ?_, .inr frames_eq⟩
          rw [List.map_append]
          exact logged.trans (logged_of_journal journal_eq)
    · refine ⟨told, left, split, logged.perform other move, .inr ?_⟩
      rw [frames_perform_of_ne (Ne.symm own), frames_eq]

theorem Resolving.turn (resolving : start.Resolving thread result actions wakers base turns now)
    (played : start.play? turns = some now) (allowed : (now.viewOf other).allows move) :
    start.Resolving thread result actions wakers base (turns ++ [(other, move)])
      (now.perform other move) := by
  cases resolving with
  | waking acts waits done split reached entered frames_eq waking =>
      exact .waking acts (waits ++ [(other, move)]) done (by rw [← split, List.append_assoc]) reached
        entered frames_eq (waking.turn allowed)
  | acting ran left above split entered frames_eq =>
      by_cases own : other = thread
      · subst own
        cases above with
        | cons frame above =>
            -- What the actions have left to be done comes first.
            rcases suffix_perform frames_eq move with ⟨more, stays⟩
            refine .acting ran left (more ++ above) split (entered.perform other move) ?_
            rw [List.append_assoc]
            exact stays.symm
        | nil =>
            cases left with
            | cons action left =>
                rcases suffix_perform frames_eq move with ⟨more, stays⟩
                refine .acting (ran ++ [action]) left more (by simpa using split) ?_ stays.symm
                rw [List.flatMap_append, List.flatMap_singleton]
                exact entered.trans (logged_of_journal (perform_run frames_eq allowed))
            | nil =>
                -- All actions have run, so that from now on it is at the wakers.
                rw [List.append_nil] at split
                subst split
                have waking : now.Waking other wakers base now :=
                  ⟨[], wakers, rfl, logged_nil now, .inr frames_eq⟩
                exact .waking turns [(other, move)] now rfl played entered frames_eq
                  (waking.turn allowed)
      · refine .acting ran left above split (entered.perform other move) ?_
        rw [frames_perform_of_ne (Ne.symm own), frames_eq]

/-- From the moment that it has taken them out, a thread goes through the actions and then the
wakers. -/
theorem resolving_of_play (frames_eq : start.frames thread =
      actions.map (.run · result) ++ (wakers.map .wake ++ base))
    (played : start.play? turns = some now) :
    start.Resolving thread result actions wakers base turns now := by
  induction turns using List.reverseRecOn generalizing now with
  | nil =>
      cases played
      exact .acting [] actions [] rfl (logged_nil start) frames_eq
  | append_singleton turns turn ih =>
      rcases play?_concat_eq_some.mp played with ⟨between, reached, allowed, rfl⟩
      exact (ih reached).turn reached allowed

omit [DecidableEq θ] [DecidableEq ω] in
theorem eq_nil_of_suffix {above : List (Frame α ℕ ω)} (below : above ++ base <:+ base) :
    above = [] := by
  have short := below.length_le
  rw [List.length_append] at short
  exact List.length_eq_zero_iff.mp (by omega)

/-- A thread that has nothing more to do than before has run all actions and then woken all wakers. -/
theorem Resolving.returned
    (resolving : start.Resolving thread result actions wakers base turns now)
    (below : now.frames thread <:+ base) :
    start.Logged now ((actions.flatMap fun action => action.entered result) ++
      wakers.map .woken) := by
  cases resolving with
  | acting ran left above split entered frames_eq =>
      rw [frames_eq, ← List.append_assoc, ← List.append_assoc] at below
      have nothing := eq_nil_of_suffix below
      simp only [List.append_eq_nil_iff, List.map_eq_nil_iff] at nothing
      rcases nothing with ⟨⟨-, rfl⟩, rfl⟩
      rw [List.append_nil] at split
      rw [← split, List.map_nil, List.append_nil]
      exact entered
  | waking acts waits done split played entered frames_eq waking =>
      rcases waking with ⟨told, left, rfl, logged, nothing | frames_eq⟩
      · rw [nothing, List.append_nil]
        exact entered.trans logged
      · rw [frames_eq] at below
        have nothing := List.map_eq_nil_iff.mp (eq_nil_of_suffix below)
        rw [nothing, List.append_nil]
        exact entered.trans logged

end Resolving

section Awaits

variable [Fintype θ] {assembly : Assembly θ α ω} {turns : List (θ × Move α ω)}

/-- What those who poll promises may rely on, after some turns of threads. -/
structure Awaits (turns : List (θ × Move α ω)) (assembly : Assembly θ α ω) : Prop where
  /-- Until a promise is resolved, polls of it are told nothing. -/
  pending : ∀ thread id (waker : ω), ((assembly.viewOf thread).store.poll id waker).1 = none ↔
    origin id assembly.past = none ∧ attempts id assembly.past = []
  /-- Then they are told the result that was stored first. -/
  ready : ∀ thread id (waker : ω) result,
    ((assembly.viewOf thread).store.poll id waker).1 = some result →
      origin id assembly.past = some result ∨ FirstWins result (attempts id assembly.past)
  /-- With a pending promise are left the wakers of its polls, each once. -/
  left : ∀ id, assembly.result? id = none → (assembly.wakers id).Nodup ∧
    ∀ waker, waker ∈ assembly.wakers id ↔ (id, waker) ∈ assembly.asked
  /-- For each resolved promise, each waker of its polls has been woken or is to be woken, once, and
  otherwise none is. -/
  balanced : assembly.roll.woken + assembly.roll.toWake = assembly.roll.answered.val.map Prod.snd
  /-- So a waker that was left with one promise only is woken once, for the resolution of this. -/
  once : ∀ id waker, (id, waker) ∈ assembly.asked →
    (∀ other, (other, waker) ∈ assembly.asked → other = id) →
      assembly.roll.woken.count waker + assembly.roll.toWake.count waker =
        if (assembly.result? id).isSome then 1 else 0
  /-- A waker that was left with no promise is not woken. -/
  never : ∀ waker, (∀ id, (id, waker) ∉ assembly.asked) →
    waker ∉ assembly.roll.woken ∧ waker ∉ assembly.roll.toWake
  /-- The thread that has resolved a promise runs its actions, and then wakes its wakers. -/
  resolving : ∀ earlier thread move later before, turns = earlier ++ (thread, move) :: later →
    opening.play? earlier = some before → ∀ agent id result,
      .attempted agent id result true ∈ (before.viewOf thread).happenings move →
        before.result? id = none ∧
          (before.perform thread move).Resolving thread result (before.waiting id)
            (before.wakers id) ((before.viewOf thread).floor move) later assembly
  /-- When the attempt has returned, all actions have been run and then all wakers been woken. -/
  returned : ∀ earlier thread move later before, turns = earlier ++ (thread, move) :: later →
    opening.play? earlier = some before → ∀ agent id result,
      .attempted agent id result true ∈ (before.viewOf thread).happenings move →
        assembly.frames thread <:+ (before.viewOf thread).floor move →
          (before.perform thread move).Logged assembly
            (((before.waiting id).flatMap fun action => action.entered result) ++
              (before.wakers id).map .woken)
  /-- Nobody is to be woken when all calls have returned. -/
  rest : (∀ thread, assembly.frames thread = []) → assembly.roll.toWake = 0
  /-- A call of a thread returns, or enters code, after finitely many steps. -/
  returns : ∀ thread, ∃ steps, (Store.step^[steps] (assembly.viewOf thread).store).awaitsCaller

theorem sound_of_play (played : opening.play? turns = some assembly) :
    assembly.WellFormed ∧ assembly.Tallied ∧ assembly.roll.Kept := by
  refine keeps_of_play (fun assembly => assembly.WellFormed ∧ assembly.Tallied ∧
    assembly.roll.Kept) ?_ ⟨wellFormed_opening, tallied_opening, kept_opening⟩ played
  rintro before thread move ⟨wellFormed, tallied, kept⟩ allowed
  exact ⟨wellFormed_perform wellFormed allowed, tallied_perform wellFormed tallied allowed,
    kept.turn (rouses_perform wellFormed allowed)⟩

omit [DecidableEq θ] [Fintype θ] in
/-- A poll is told the result of the promise, in whatever thread. -/
theorem poll_fst (thread : θ) (id : Id) (waker : ω) (assembly : Assembly θ α ω) :
    ((assembly.viewOf thread).store.poll id waker).1 = assembly.result? id := by
  have same : assembly.result? id = (assembly.viewOf thread).store.result? id := rfl
  rw [same]
  cases stored : (assembly.viewOf thread).store.result? id with
  | some result => rw [Store.poll_of_result? stored]
  | none =>
      rcases lt_or_ge id (assembly.viewOf thread).store.size with inside | outside
      · rw [Store.poll_of_pending inside stored]
      · rw [Store.poll, Array.getElem?_eq_none outside]

omit [Fintype θ] in
/-- A winning attempt puts its actions and wakers before everything else its thread has to do. -/
theorem resolving_of_won {earlier later : List (θ × Move α ω)} {before : Assembly θ α ω}
    (split : turns = earlier ++ (thread, move) :: later)
    (playedBefore : opening.play? earlier = some before)
    (played : opening.play? turns = some assembly) {agent : Agent} {id : Id}
    {result : Except Failure α}
    (won : .attempted agent id result true ∈ (before.viewOf thread).happenings move) :
    before.result? id = none ∧
      (before.perform thread move).Resolving thread result (before.waiting id)
        (before.wakers id) ((before.viewOf thread).floor move) later assembly := by
  subst split
  rcases play?_append_eq_some.mp played with ⟨between, first, rest⟩
  cases first.symm.trans playedBefore
  rcases play?_cons_eq_some.mp rest with ⟨next, moved, onward⟩
  rcases move?_eq_some.mp moved with ⟨-, rfl⟩
  rcases Chronicle.frames_of_won won with ⟨pending, frames_eq⟩
  refine ⟨pending, resolving_of_play ?_ onward⟩
  rw [frames_perform_self]
  exact frames_eq

/-- However threads take turns, no wake-up is lost and none comes too often. -/
theorem awaits_of_play (played : opening.play? turns = some assembly) : assembly.Awaits turns := by
  rcases sound_of_play played with ⟨wellFormed, tallied, kept⟩
  have counted (waker : ω) : assembly.roll.woken.count waker + assembly.roll.toWake.count waker =
      (assembly.roll.answered.val.map Prod.snd).count waker := by
    rw [← Multiset.count_add, kept.balanced]
  constructor
  · intro thread id waker
    rw [poll_fst]
    refine ⟨(tallied thread).pending id, fun nothing => ?_⟩
    cases stored : assembly.result? id with
    | none => rfl
    | some result =>
        rcases (tallied thread).resolved id result stored with ⟨made, -⟩ | ⟨-, later, first, -⟩
        · exact nomatch nothing.1.symm.trans made
        · exact nomatch nothing.2.symm.trans first
  · intro thread id waker result told
    rw [poll_fst] at told
    rcases (tallied thread).resolved id result told with ⟨made, -⟩ | ⟨-, first⟩
    · exact .inl made
    · exact .inr first
  · intro id pending
    have unresolved : assembly.roll.resolved id = false := by
      simp only [roll, pending, Option.isSome_none]
    refine ⟨kept.nodup id, fun waker => (kept.mem_wakers id waker).trans ?_⟩
    exact and_iff_right unresolved
  · exact kept.balanced
  · intro id waker asked only
    rw [counted]
    exact Roll.count_answered asked only
  · intro waker nowhere
    have absent : waker ∉ assembly.roll.answered.val.map Prod.snd := by
      intro there
      rcases Multiset.mem_map.mp there with ⟨⟨id, _⟩, answered, rfl⟩
      exact nowhere id (List.mem_toFinset.mp (Finset.mem_filter.mp answered).1)
    rw [← kept.balanced, Multiset.mem_add, not_or] at absent
    exact absent
  · intro earlier thread move later before split playedBefore agent id result won
    exact resolving_of_won split playedBefore played won
  · intro earlier thread move later before split playedBefore agent id result won below
    exact (resolving_of_won split playedBefore played won).2.returned below
  · intro idle
    refine Finset.sum_eq_zero fun thread _ => ?_
    rw [Store.toWake, viewOf, idle thread]
    rfl
  · exact fun thread => Store.exists_awaitsCaller _

/-- One task is polled for two promises, another by code that the first promise has entered. -/
theorem awaits_shared_task :
    ∃ (turns : List (Bool × Move ℕ ℕ)) (assembly : Assembly Bool ℕ ℕ),
      opening.play? turns = some assembly ∧ assembly.Awaits turns ∧
        assembly.asked = [(0, 7), (0, 7), (0, 8), (1, 7), (1, 9)] ∧
        assembly.result? 0 = some (.ok 5) ∧ assembly.result? 1 = none ∧
        assembly.wakers 1 = [7, 9] ∧
        assembly.journal.filterMap Event.waker? = [8, 7] ∧ assembly.frames true = [] := by
  let turns : List (Bool × Move ℕ ℕ) :=
    [(true, .new), (false, .new), (true, .attach .result 0), (false, .poll 0 7),
      (false, .poll 0 7), (true, .poll 0 8), (true, .resolve 0 (.ok 5)), (true, .step),
      (false, .poll 0 7), (false, .poll 1 7), (true, .poll 1 9), (true, .finish), (true, .step),
      (false, .resolve 0 (.error .closed)), (true, .step)]
  have plays : ((opening : Assembly Bool ℕ ℕ).play? turns).any fun assembly =>
      assembly.asked = [(0, 7), (0, 7), (0, 8), (1, 7), (1, 9)] ∧
        assembly.result? 0 = some (.ok 5) ∧ assembly.result? 1 = none ∧
        assembly.wakers 1 = [7, 9] ∧
        assembly.journal.filterMap Event.waker? = [8, 7] ∧ (assembly.frames true).isEmpty := by
    decide +kernel
  rcases (Option.any_eq_true _ _).mp plays with ⟨assembly, played, seen⟩
  rcases of_decide_eq_true seen with ⟨asked, first, second, left, woken, idle⟩
  exact ⟨turns, assembly, played, awaits_of_play played, asked, first, second, left, woken,
    List.isEmpty_iff.mp idle⟩

end Awaits

end Assembly

end CompletionEngine.Promise
