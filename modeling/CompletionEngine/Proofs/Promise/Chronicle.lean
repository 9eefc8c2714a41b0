import CompletionEngine.Proofs.Promise.Cells

/-!
# Histories of promises

A chronicle is a store of promises with what has happened to them so far. A history is a list of
moves from a store without promises. The store steps, and a caller whose turn it is calls it, also
from inside code that the store has entered. A caller calls only promises that earlier calls have
given it, and a mapper hands out only promises that there are.

Code of callers is named by the move that attached it: what the call made by move `n` attaches is
code `n`. So each piece of code is attached once, as a closure is.
-/

namespace CompletionEngine.Promise

variable {α τ ω : Type}

/-- Whether code that is attached so sees a result. -/
def Hook.admits : Hook → Except Failure α → Bool
  | .result, _ => true
  | .success, .ok _ => true
  | .success, .error _ => false
  | .failure, .ok _ => false
  | .failure, .error _ => true

/-- The results that code sees which is attached so and run once. -/
def Hook.sees (hook : Hook) (result : Except Failure α) : List (Except Failure α) :=
  if hook.admits result then [result] else []

/-- What can happen next. -/
inductive Move (α ω : Type) where
  /-- The store takes a step. -/
  | step
  /-- A caller makes a pending promise. -/
  | new
  /-- A caller makes a promise that holds a result. -/
  | resolved (result : Except Failure α)
  /-- A caller tries to resolve a promise. -/
  | resolve (id : Id) (result : Except Failure α)
  /-- A caller attaches code to a promise. -/
  | attach (hook : Hook) (id : Id)
  /-- A caller derives a promise by a mapper. -/
  | map (id : Id) (mapper : α → α)
  /-- A caller derives a promise by a mapper that answers with another source. -/
  | flatMap (id : Id) (mapper : α → Source α)
  /-- A caller polls a promise. -/
  | poll (id : Id) (waker : ω)
  /-- A caller's code returns. -/
  | finish

/-- Who does something to a promise: a caller, or the store itself on a caller's behalf. -/
inductive Agent where
  | caller
  | store

/-- Something that happened to a promise. -/
inductive Happening (α : Type) where
  /-- A caller made a promise, maybe with a result. -/
  | made (id : Id) (result : Option (Except Failure α))
  /-- A promise was made to hold what a source comes to. -/
  | derived (agent : Agent) (id : Id) (source : Source α)
  /-- Somebody tried to resolve a promise, and was told whether that has done it. -/
  | attempted (agent : Agent) (id : Id) (result : Except Failure α) (won : Bool)
  /-- A caller's code was attached to a promise. -/
  | attached (code : ℕ) (hook : Hook) (id : Id)
  /-- The mapper of a derived promise was called. -/
  | mapped (id : Id) (value : α)

/-- The promise that a caller was given when this happened. -/
def Happening.given? : Happening α → Option Id
  | .made id _ | .derived .caller id _ => some id
  | _ => none

/-- A store of promises with what has happened to them, the first in front. -/
structure Chronicle (α ω : Type) where
  store : Store α ℕ ω
  past : List (Happening α)
  /-- The number of moves that have been made. -/
  moves : ℕ

namespace Chronicle

/-- Nothing has happened yet. -/
def opening : Chronicle α ω := ⟨.empty, [], 0⟩

/-- What a step does to promises. -/
def stepHappenings (store : Store α ℕ ω) : List (Happening α) :=
  match store.frames with
  | .attach (.map source mapper) _ :: _ => [.derived .store store.size (.map source mapper)]
  | .attach (.chain source mapper) _ :: _ => [.derived .store store.size (.chain source mapper)]
  | .run (.map _ _ target) (.ok value) :: _ => [.mapped target value]
  | .run (.chain _ _ target) (.ok value) :: _ => [.mapped target value]
  | .resolve target result :: _ =>
    [.attempted .store target result (store.resolve target result).1]
  | _ => []

/-- What a move does to promises. -/
def happenings (move : Move α ω) (chronicle : Chronicle α ω) : List (Happening α) :=
  let size := chronicle.store.size
  match move with
  | .step => stepHappenings chronicle.store
  | .new => [.made size none]
  | .resolved result => [.made size (some result)]
  | .resolve id result => [.attempted .caller id result (chronicle.store.resolve id result).1]
  | .attach hook id => [.attached chronicle.moves hook id]
  | .map id mapper =>
    [.derived .caller size (.map (.promise id) mapper), .attached chronicle.moves .success id]
  | .flatMap id mapper =>
    [.derived .caller size (.chain (.promise id) mapper), .attached chronicle.moves .success id]
  | .poll _ _ | .finish => []

/-- The store after a move. -/
def act [DecidableEq ω] (move : Move α ω) (chronicle : Chronicle α ω) : Store α ℕ ω :=
  let store := chronicle.store
  let code := chronicle.moves
  match move with
  | .step => store.step
  | .new => store.new.2
  | .resolved result => (store.resolved result).2
  | .resolve id result => (store.resolve id result).2
  | .attach .result id => store.onResult id code
  | .attach .success id => store.onSuccess id code
  | .attach .failure id => store.onFailure id code
  | .map id mapper => (store.map id (some code) mapper).2
  | .flatMap id mapper => (store.flatMap id (some code) mapper).2
  | .poll id waker => (store.poll id waker).2
  | .finish => store.finish

/-- Whether a caller has been given a promise. -/
def holds (id : Id) (chronicle : Chronicle α ω) : Bool :=
  chronicle.past.any fun happening => happening.given? = some id

/-- Whether a move is somebody's to make: a caller calls only in its turn, and only promises that it
has been given. The store attaches actions only to promises that there are. -/
def allows (chronicle : Chronicle α ω) : Move α ω → Bool
  | .step =>
    match chronicle.store.frames with
    | .attach (.promise id) _ :: _ => id < chronicle.store.size
    | _ => true
  | .new | .resolved _ | .finish => chronicle.store.awaitsCaller
  | .resolve id _ | .attach _ id | .map id _ | .flatMap id _ | .poll id _ =>
    chronicle.store.awaitsCaller && chronicle.holds id

/-- The promises that are to be resolved, and those that callers have, are there. -/
structure WellFormed (chronicle : Chronicle α ω) : Prop where
  store : chronicle.store.WellFormed
  held_lt : ∀ id, chronicle.holds id → id < chronicle.store.size

theorem wellFormed_opening : (opening : Chronicle α ω).WellFormed where
  store := ⟨by simp [opening, Store.empty, Store.waiting], by simp [opening, Store.empty]⟩
  held_lt := by simp [opening, holds]

theorem lt_size_of_allows {chronicle : Chronicle α ω} (wellFormed : chronicle.WellFormed) {id : Id}
    (allowed : chronicle.store.awaitsCaller && chronicle.holds id) : id < chronicle.store.size :=
  wellFormed.held_lt id (Bool.and_eq_true_iff.mp allowed).2

theorem lt_size_of_allows_step {chronicle : Chronicle α ω} {below : Store α ℕ ω}
    {source : Source α} {action : Action α ℕ}
    (store_eq : chronicle.store = below.next (.attach source action))
    (allowed : chronicle.allows .step) : ∀ id, source = .promise id → id < below.size := by
  rintro id rfl
  simpa [allows, store_eq, Store.next, Store.size] using allowed

theorem stepHappenings_of_awaitsCaller {store : Store α ℕ ω} (waits : store.awaitsCaller) :
    stepHappenings store = [] := by
  unfold Store.awaitsCaller at waits
  unfold stepHappenings
  split at waits <;> simp_all

theorem given?_stepHappenings {store : Store α ℕ ω} {happening : Happening α}
    (happens : happening ∈ stepHappenings store) : happening.given? = none := by
  unfold stepHappenings at happens
  split at happens <;> simp_all [Happening.given?]

/-- A step tries to resolve a promise only where that is next to be done. -/
theorem next_of_attempted {store : Store α ℕ ω} {agent : Agent} {id : Id}
    {result : Except Failure α} {won : Bool}
    (attempted : .attempted agent id result won ∈ stepHappenings store) :
    agent = .store ∧ ∃ below : Store α ℕ ω, store = below.next (.resolve id result) := by
  rcases store.step_cases with ⟨waits, -⟩ | ⟨below, frame, rfl, -⟩
  · simp [stepHappenings_of_awaitsCaller waits] at attempted
  · cases frame with
    | resolve target stored =>
        simp only [stepHappenings, Store.next, List.mem_singleton,
          Happening.attempted.injEq] at attempted
        rcases attempted with ⟨rfl, rfl, rfl, -⟩
        exact ⟨rfl, below, rfl⟩
    | attach source action => cases source <;> simp [stepHappenings, Store.next] at attempted
    | run action stored =>
        cases action <;> cases stored <;> simp [stepHappenings, Store.next] at attempted
    | client | wake waker => simp [stepHappenings, Store.next] at attempted

/-- A step calls a mapper only on a value, where the action of the mapper is next to be run. -/
theorem next_of_mapped {store : Store α ℕ ω} {id : Id} {value : α}
    (mapped : .mapped id value ∈ stepHappenings store) :
    ∃ (below : Store α ℕ ω) (action : Action α ℕ), store = below.next (.run action (.ok value)) ∧
      ((∃ code mapper, action = .map code mapper id) ∨
        ∃ code mapper, action = .chain code mapper id) := by
  rcases store.step_cases with ⟨waits, -⟩ | ⟨below, frame, rfl, -⟩
  · simp [stepHappenings_of_awaitsCaller waits] at mapped
  · cases frame with
    | run action stored =>
        cases stored with
        | error failure => cases action <;> simp [stepHappenings, Store.next] at mapped
        | ok seen =>
            cases action with
            | map code mapper target =>
                simp only [stepHappenings, Store.next, List.mem_singleton,
                  Happening.mapped.injEq] at mapped
                rcases mapped with ⟨rfl, rfl⟩
                exact ⟨below, _, rfl, .inl ⟨code, mapper, rfl⟩⟩
            | chain code mapper target =>
                simp only [stepHappenings, Store.next, List.mem_singleton,
                  Happening.mapped.injEq] at mapped
                rcases mapped with ⟨rfl, rfl⟩
                exact ⟨below, _, rfl, .inr ⟨code, mapper, rfl⟩⟩
            | _ => simp [stepHappenings, Store.next] at mapped
    | attach source action => cases source <;> simp [stepHappenings, Store.next] at mapped
    | resolve target stored => simp [stepHappenings, Store.next] at mapped
    | client | wake waker => simp [stepHappenings, Store.next] at mapped

section Histories

variable [DecidableEq ω]

/-- The chronicle after a move. -/
def perform (move : Move α ω) (chronicle : Chronicle α ω) : Chronicle α ω where
  store := chronicle.act move
  past := chronicle.past ++ chronicle.happenings move
  moves := chronicle.moves + 1

/-- The chronicle after a move that is allowed. -/
def move? (move : Move α ω) (chronicle : Chronicle α ω) : Option (Chronicle α ω) :=
  if chronicle.allows move then some (chronicle.perform move) else none

/-- The chronicle after some moves. -/
def play? (moves : List (Move α ω)) (chronicle : Chronicle α ω) : Option (Chronicle α ω) :=
  moves.foldlM (fun chronicle move => chronicle.move? move) chronicle

theorem move?_eq_some {move : Move α ω} {before after : Chronicle α ω} :
    before.move? move = some after ↔ before.allows move ∧ before.perform move = after := by
  simp [move?]

theorem play?_append_eq_some {earlier later : List (Move α ω)} {start after : Chronicle α ω} :
    start.play? (earlier ++ later) = some after ↔
      ∃ between, start.play? earlier = some between ∧ between.play? later = some after := by
  simp [play?, Option.bind_eq_some_iff]

theorem play?_cons_eq_some {move : Move α ω} {later : List (Move α ω)}
    {start after : Chronicle α ω} :
    start.play? (move :: later) = some after ↔
      ∃ between, start.move? move = some between ∧ between.play? later = some after := by
  simp [play?, Option.bind_eq_some_iff]

theorem keeps_of_play (holds : Chronicle α ω → Prop)
    (keeps : ∀ before move, holds before → before.allows move → holds (before.perform move))
    {moves : List (Move α ω)} {start after : Chronicle α ω} (first : holds start)
    (played : start.play? moves = some after) : holds after := by
  induction moves generalizing start with
  | nil =>
      cases played
      exact first
  | cons move later ih =>
      rcases play?_cons_eq_some.mp played with ⟨between, moved, onward⟩
      rcases move?_eq_some.mp moved with ⟨allowed, rfl⟩
      exact ih (keeps start move first allowed) onward

section Act

variable {chronicle : Chronicle α ω}

/-- A derived promise is made, and the action that is to resolve it is attached. -/
theorem act_derive (move : Move α ω) (id : Id) (action : Id → Action α ℕ)
    (derives : chronicle.act move = (chronicle.store.create .fresh).2.attach id
      (action chronicle.store.size)) (wellFormed : chronicle.store.WellFormed)
    (inside : id < chronicle.store.size)
    (target : (action chronicle.store.size).target? = some chronicle.store.size) :
    (chronicle.act move).WellFormed := by
  rw [derives]
  refine (wellFormed.create rfl).attach (by simpa using Nat.lt_succ_of_lt inside) ?_
  simp [Action.FitsIn, target]

theorem wellFormed_act (wellFormed : chronicle.WellFormed) {move : Move α ω}
    (allowed : chronicle.allows move) : (chronicle.act move).WellFormed := by
  have stored := wellFormed.store
  cases move with
  | step =>
      rcases chronicle.store.step_cases with ⟨-, same⟩ | ⟨below, frame, store_eq, stepped⟩
      · rw [act, same]
        exact stored
      · rw [act, stepped]
        rw [store_eq] at stored
        apply stored.runFrame
        rintro id action rfl
        exact lt_size_of_allows_step store_eq allowed id rfl
  | new => exact stored.create rfl
  | resolved result => exact stored.create rfl
  | resolve id result => exact stored.resolve (lt_size_of_allows wellFormed allowed) result
  | attach hook id =>
      have inside := lt_size_of_allows wellFormed allowed
      cases hook <;> exact stored.attach inside (by simp [Action.FitsIn, Action.target?])
  | map id mapper =>
      exact act_derive _ id (.map _ mapper) rfl stored (lt_size_of_allows wellFormed allowed) rfl
  | flatMap id mapper =>
      exact act_derive _ id (.chain _ mapper) rfl stored (lt_size_of_allows wellFormed allowed) rfl
  | poll id waker =>
      rw [act]
      rcases Store.poll_eq id waker chronicle.store with same | ⟨inside, -, wakers, polled⟩
      · rw [same]
        exact stored
      · rw [polled]
        exact stored.replace inside (stored.waiting id)
  | finish =>
      rw [act, Store.finish]
      split
      · rename_i rest frames_eq
        refine ⟨stored.waiting, fun frame frameMem => stored.frames frame ?_⟩
        rw [frames_eq]
        exact List.mem_cons_of_mem _ frameMem
      · exact stored

theorem size_le_act (move : Move α ω) (chronicle : Chronicle α ω) :
    chronicle.store.size ≤ (chronicle.act move).size := by
  have created := (Nat.le_succ _).trans (Store.size_create .fresh chronicle.store).ge
  cases move with
  | step =>
      rcases chronicle.store.step_cases with ⟨-, same⟩ | ⟨below, frame, store_eq, stepped⟩
      · rw [act, same]
      · rw [act, stepped, store_eq]
        exact below.size_le_runFrame frame
  | new => exact created
  | resolved result => exact (Nat.le_succ _).trans (Store.size_create _ chronicle.store).ge
  | resolve id result => exact (Store.size_resolve id result _).ge
  | attach hook id => cases hook <;> exact (Store.size_attach id _ _).ge
  | map id mapper => exact created.trans (Store.size_attach id _ _).ge
  | flatMap id mapper => exact created.trans (Store.size_attach id _ _).ge
  | poll id waker =>
      rw [act]
      rcases Store.poll_eq id waker chronicle.store with same | ⟨-, -, wakers, polled⟩
      · rw [same]
      · rw [polled, Store.size_replace]
  | finish =>
      rw [act, Store.finish]
      split <;> exact le_rfl

theorem lt_size_of_given? {move : Move α ω} {happening : Happening α} {id : Id}
    (happens : happening ∈ chronicle.happenings move) (given : happening.given? = some id) :
    id < (chronicle.act move).size := by
  have made : ∀ (other : Id) (action : Action α ℕ) (cell : Cell α ℕ ω),
      chronicle.store.size < ((chronicle.store.create cell).2.attach other action).size ∧
        chronicle.store.size < (chronicle.store.create cell).2.size := by simp
  cases move with
  | step => simp [given?_stepHappenings happens] at given
  | new =>
      simp only [happenings, List.mem_singleton] at happens
      subst happens
      cases given
      exact (made 0 (.forward 0) _).2
  | resolved result =>
      simp only [happenings, List.mem_singleton] at happens
      subst happens
      cases given
      exact (made 0 (.forward 0) _).2
  | map source mapper | flatMap source mapper =>
      simp only [happenings, List.mem_cons, List.not_mem_nil, or_false] at happens
      rcases happens with rfl | rfl
      · cases given
        exact (made _ _ _).1
      · cases given
  | resolve other result | attach hook other =>
      simp only [happenings, List.mem_singleton] at happens
      subst happens
      cases given
  | poll | finish => simp [happenings] at happens

theorem wellFormed_perform (wellFormed : chronicle.WellFormed) {move : Move α ω}
    (allowed : chronicle.allows move) : (chronicle.perform move).WellFormed where
  store := wellFormed_act wellFormed allowed
  held_lt := by
    intro id held
    rw [holds, perform, List.any_append, Bool.or_eq_true] at held
    rcases held with before | now
    · exact (wellFormed.held_lt id before).trans_le (size_le_act move chronicle)
    · rcases List.any_eq_true.mp now with ⟨happening, happens, given⟩
      exact lt_size_of_given? happens (by simpa using given)

end Act

end Histories

end Chronicle

end CompletionEngine.Promise
