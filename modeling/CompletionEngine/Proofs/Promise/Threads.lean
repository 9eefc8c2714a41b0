import CompletionEngine.Proofs.Promise.Sound
import CompletionEngine.Proofs.Promise.Wakers

/-!
# Threads that share promises

Threads share their promises, and each has its own stack of what it still has to do. A call locks a
promise for a moment only, to look at its state and maybe to change it; what it then does with the
actions and wakers that it has taken out it does by itself. So a thread sees a store of its own, with
cells and a journal that others change between its moves, and each of its moves is a move of that
store.
-/

namespace CompletionEngine.Promise

variable {θ α ω : Type}

/-- Promises that threads share, with what has happened to them so far. -/
structure Assembly (θ α ω : Type) where
  cells : Array (Cell α ℕ ω)
  journal : List (Event α ℕ ω)
  /-- What each thread still has to do. -/
  frames : θ → List (Frame α ℕ ω)
  past : List (Happening α)
  /-- The polls of promises that were pending, each with the waker, the first in front. -/
  asked : List (Id × ω)
  /-- The number of moves that have been made. -/
  moves : ℕ

namespace Assembly

/-- Nothing has happened yet. -/
def opening : Assembly θ α ω := ⟨#[], [], fun _ => [], [], [], 0⟩

/-- What a thread sees. -/
def viewOf (thread : θ) (assembly : Assembly θ α ω) : Chronicle α ω :=
  ⟨⟨assembly.cells, assembly.frames thread, assembly.journal⟩, assembly.past, assembly.moves⟩

def result? (id : Id) (assembly : Assembly θ α ω) : Option (Except Failure α) :=
  (assembly.cells[id]?).bind Cell.result?

def size (assembly : Assembly θ α ω) : ℕ := assembly.cells.size

def waiting (id : Id) (assembly : Assembly θ α ω) : List (Action α ℕ) :=
  (assembly.cells[id]?).elim [] Cell.waiting

def wakers (id : Id) (assembly : Assembly θ α ω) : List ω :=
  (assembly.cells[id]?).elim [] Cell.wakers

section Moves

variable [DecidableEq θ] [DecidableEq ω]

/-- The assembly after a move of a thread. -/
def perform (thread : θ) (move : Move α ω) (assembly : Assembly θ α ω) : Assembly θ α ω :=
  let next := (assembly.viewOf thread).perform move
  { cells := next.store.cells
    journal := next.store.journal
    frames := Function.update assembly.frames thread next.store.frames
    past := next.past
    asked := assembly.asked ++ (assembly.viewOf thread).asks move
    moves := next.moves }

/-- The assembly after a move that its thread may make. -/
def move? (turn : θ × Move α ω) (assembly : Assembly θ α ω) : Option (Assembly θ α ω) :=
  if (assembly.viewOf turn.1).allows turn.2 then some (assembly.perform turn.1 turn.2) else none

/-- The assembly after some moves, whichever thread each is of. -/
def play? (turns : List (θ × Move α ω)) (assembly : Assembly θ α ω) :
    Option (Assembly θ α ω) :=
  turns.foldlM (fun assembly turn => assembly.move? turn) assembly

theorem move?_eq_some {turn : θ × Move α ω} {before after : Assembly θ α ω} :
    before.move? turn = some after ↔
      (before.viewOf turn.1).allows turn.2 ∧ before.perform turn.1 turn.2 = after := by
  simp [move?]

theorem play?_append_eq_some {earlier later : List (θ × Move α ω)} {start after : Assembly θ α ω} :
    start.play? (earlier ++ later) = some after ↔
      ∃ between, start.play? earlier = some between ∧ between.play? later = some after := by
  simp [play?, Option.bind_eq_some_iff]

theorem play?_cons_eq_some {turn : θ × Move α ω} {later : List (θ × Move α ω)}
    {start after : Assembly θ α ω} :
    start.play? (turn :: later) = some after ↔
      ∃ between, start.move? turn = some between ∧ between.play? later = some after := by
  simp [play?, Option.bind_eq_some_iff]

theorem play?_concat_eq_some {turn : θ × Move α ω} {earlier : List (θ × Move α ω)}
    {start after : Assembly θ α ω} :
    start.play? (earlier ++ [turn]) = some after ↔
      ∃ between, start.play? earlier = some between ∧
        (between.viewOf turn.1).allows turn.2 ∧ between.perform turn.1 turn.2 = after := by
  simp [play?, Option.bind_eq_some_iff, move?]

theorem keeps_of_play (holds : Assembly θ α ω → Prop)
    (keeps : ∀ before thread move, holds before → (before.viewOf thread).allows move →
      holds (before.perform thread move))
    {turns : List (θ × Move α ω)} {start after : Assembly θ α ω} (first : holds start)
    (played : start.play? turns = some after) : holds after := by
  induction turns generalizing start with
  | nil =>
      cases played
      exact first
  | cons turn later ih =>
      rcases play?_cons_eq_some.mp played with ⟨between, moved, onward⟩
      rcases move?_eq_some.mp moved with ⟨allowed, rfl⟩
      exact ih (keeps start turn.1 turn.2 first allowed) onward

section Views

variable {assembly : Assembly θ α ω} {thread other : θ} {move : Move α ω}

omit [DecidableEq θ] [DecidableEq ω] in
/-- A thread with something to do sees it on a store that has only what is below to be done. -/
theorem viewOf_store_eq {frame : Frame α ℕ ω} {base : List (Frame α ℕ ω)}
    (frames_eq : assembly.frames thread = frame :: base) :
    (assembly.viewOf thread).store =
      Store.next frame ⟨assembly.cells, base, assembly.journal⟩ := by
  rw [viewOf, frames_eq]
  rfl

/-- What a thread sees after its own move is what the move makes of what it has seen before. -/
theorem viewOf_perform_self (thread : θ) (move : Move α ω) (assembly : Assembly θ α ω) :
    (assembly.perform thread move).viewOf thread = (assembly.viewOf thread).perform move := by
  simp only [viewOf, perform, Function.update_self]

theorem frames_perform_self (thread : θ) (move : Move α ω) (assembly : Assembly θ α ω) :
    (assembly.perform thread move).frames thread =
      ((assembly.viewOf thread).act move).frames := by
  simp only [perform, Function.update_self]
  rfl

/-- A thread has its stack to itself. -/
theorem frames_perform_of_ne (differs : other ≠ thread) (move : Move α ω)
    (assembly : Assembly θ α ω) :
    (assembly.perform thread move).frames other = assembly.frames other :=
  Function.update_of_ne differs ..

end Views

/-- Whether every thread finds the promises that are to be resolved, and those that callers have. -/
def WellFormed (assembly : Assembly θ α ω) : Prop :=
  ∀ thread, (assembly.viewOf thread).WellFormed

/-- Whether results and attempts agree, as every thread sees them. -/
def Tallied (assembly : Assembly θ α ω) : Prop :=
  ∀ thread, (assembly.viewOf thread).account.Tallied

variable {assembly before after : Assembly θ α ω} {thread : θ} {move : Move α ω}

omit [DecidableEq θ] [DecidableEq ω] in
theorem wellFormed_opening : (opening : Assembly θ α ω).WellFormed :=
  fun _ => Chronicle.wellFormed_opening

theorem wellFormed_perform (wellFormed : assembly.WellFormed)
    (allowed : (assembly.viewOf thread).allows move) :
    (assembly.perform thread move).WellFormed := by
  intro other
  have own := Chronicle.wellFormed_perform (wellFormed thread) allowed
  rw [← viewOf_perform_self] at own
  by_cases same : other = thread
  · rw [same]
    exact own
  · refine ⟨⟨own.store.waiting, ?_⟩, own.held_lt⟩
    -- The frames of another thread are older, and promises do not go away.
    intro frame frameMem
    have older : frame ∈ ((assembly.viewOf other).store).frames := by
      rwa [viewOf, frames_perform_of_ne same] at frameMem
    exact ((wellFormed other).store.frames frame older).mono
      (Chronicle.size_le_act move (assembly.viewOf thread))

omit [DecidableEq θ] [DecidableEq ω] in
theorem tallied_opening : (opening : Assembly θ α ω).Tallied := fun _ =>
  { outside := fun _ _ => by simp [opening, viewOf, Chronicle.account, Store.result?]
    pending := fun _ _ => ⟨rfl, rfl⟩
    resolved := fun _ _ resolved => by
      simp [opening, viewOf, Chronicle.account, Store.result?] at resolved }

theorem tallied_perform (wellFormed : assembly.WellFormed) (tallied : assembly.Tallied)
    (allowed : (assembly.viewOf thread).allows move) :
    (assembly.perform thread move).Tallied := by
  intro other
  have own := (tallied thread).turn (Chronicle.turns_perform (wellFormed thread) allowed)
  exact own.of_same le_rfl rfl rfl rfl

section Roll

variable [Fintype θ]

/-- The wakers that the threads other than one have to wake. -/
def toWakeBeside (thread : θ) (assembly : Assembly θ α ω) : Multiset ω :=
  ∑ other ∈ Finset.univ.erase thread, ((assembly.viewOf other).store.toWake : Multiset ω)

/-- What matters of an assembly for wakers. -/
def roll (assembly : Assembly θ α ω) : Roll ω where
  size := assembly.size
  resolved := fun id => (assembly.result? id).isSome
  wakers := fun id => assembly.wakers id
  toWake := ∑ thread, ((assembly.viewOf thread).store.toWake : Multiset ω)
  woken := assembly.journal.filterMap Event.waker?
  asked := assembly.asked

omit [DecidableEq ω] in
theorem roll_eq (thread : θ) (assembly : Assembly θ α ω) :
    assembly.roll = (assembly.viewOf thread).roll (assembly.toWakeBeside thread) assembly.asked := by
  ext1
  case toWake =>
    exact (Finset.add_sum_erase Finset.univ _ (Finset.mem_univ thread)).symm
  all_goals rfl

theorem toWakeBeside_perform (thread : θ) (move : Move α ω) (assembly : Assembly θ α ω) :
    (assembly.perform thread move).toWakeBeside thread = assembly.toWakeBeside thread := by
  refine Finset.sum_congr rfl fun other otherMem => ?_
  rw [viewOf, viewOf, frames_perform_of_ne (Finset.ne_of_mem_erase otherMem)]
  rfl

/-- Whatever thread moves, the roll turns. -/
theorem rouses_perform (wellFormed : assembly.WellFormed)
    (allowed : (assembly.viewOf thread).allows move) :
    assembly.roll.Turns (assembly.perform thread move).roll := by
  rw [roll_eq thread, roll_eq thread, toWakeBeside_perform, viewOf_perform_self]
  exact Chronicle.rouses_perform (wellFormed thread) allowed

omit [DecidableEq θ] in
theorem kept_opening : (opening : Assembly θ α ω).roll.Kept where
  asked_lt := nofun
  nodup := fun id => by simp [opening, roll, wakers]
  mem_wakers := fun id waker => by simp [opening, roll, wakers]
  balanced := by simp [opening, roll, Roll.answered, viewOf, Store.toWake]

end Roll

end Moves

end Assembly

end CompletionEngine.Promise
