import CompletionEngine.Promise.Calls
import Mathlib

/-!
# What calls do to promises

The cell of a promise is told by its result, when there is one, and else by the actions that wait for
it and the wakers left with it. This file says for each operation on a store what it does to results,
to waiting actions and wakers, and to what is still to be done. The other files on promises speak of
stores through these only.
-/

namespace CompletionEngine.Promise

variable {α τ ω : Type}

/-- The actions that wait for a promise, in the order of attachment. -/
def Cell.waiting : Cell α τ ω → List (Action α τ)
  | pending actions _ => actions
  | resolved _ => []

/-- The wakers left with a promise, in the order in which they came. -/
def Cell.wakers : Cell α τ ω → List ω
  | pending _ wakers => wakers
  | resolved _ => []

namespace Store

variable {store : Store α τ ω}

/-- The number of promises. -/
def size (store : Store α τ ω) : ℕ := store.cells.size

/-- The actions that wait for a promise, in the order of attachment. -/
def waiting (id : Id) (store : Store α τ ω) : List (Action α τ) :=
  (store.cells[id]?).elim [] Cell.waiting

/-- The wakers left with a promise, in the order in which they came. -/
def wakers (id : Id) (store : Store α τ ω) : List ω := (store.cells[id]?).elim [] Cell.wakers

theorem cell_of_result? {id : Id} {result : Except Failure α}
    (resolved : store.result? id = some result) : store.cells[id]? = some (.resolved result) := by
  rcases Option.bind_eq_some_iff.mp resolved with ⟨cell, found, held⟩
  cases cell with
  | pending actions wakers => cases held
  | resolved stored =>
      cases held
      exact found

theorem waiting_of_result? {id : Id} {result : Except Failure α}
    (resolved : store.result? id = some result) : store.waiting id = [] := by
  rw [waiting, cell_of_result? resolved]
  rfl

theorem cell_of_pending {id : Id} (inside : id < store.size) (pending : store.result? id = none) :
    store.cells[id]? = some (.pending (store.waiting id) (store.wakers id)) := by
  have found : store.cells[id]? = some store.cells[id] := Array.getElem?_eq_getElem inside
  rw [waiting, wakers, found]
  rw [result?, found] at pending
  cases cell : store.cells[id] with
  | pending actions wakers => rfl
  | resolved result =>
      rw [cell] at pending
      cases pending

theorem result?_of_size_le {id : Id} (outside : store.size ≤ id) : store.result? id = none := by
  rw [result?, Array.getElem?_eq_none outside]
  rfl

theorem waiting_of_size_le {id : Id} (outside : store.size ≤ id) : store.waiting id = [] := by
  rw [waiting, Array.getElem?_eq_none outside]
  rfl

section Create

theorem result?_create (cell : Cell α τ ω) (store : Store α τ ω) (id : Id) :
    (store.create cell).2.result? id =
      if id = store.size then cell.result? else store.result? id := by
  simp only [create, result?, Array.getElem?_push, size]
  by_cases new : id = store.cells.size <;> simp [new]

theorem waiting_create (cell : Cell α τ ω) (store : Store α τ ω) (id : Id) :
    (store.create cell).2.waiting id =
      if id = store.size then cell.waiting else store.waiting id := by
  simp only [create, waiting, Array.getElem?_push, size]
  by_cases new : id = store.cells.size <;> simp [new]

@[simp]
theorem size_create (cell : Cell α τ ω) (store : Store α τ ω) :
    (store.create cell).2.size = store.size + 1 := by
  simp [create, size]

theorem result?_create_fresh (store : Store α τ ω) (id : Id) :
    (store.create .fresh).2.result? id = store.result? id := by
  rw [result?_create]
  split
  · rename_i new
    rw [new, result?_of_size_le le_rfl]
    rfl
  · rfl

theorem waiting_create_of_nil {cell : Cell α τ ω} (nothing : cell.waiting = [])
    (store : Store α τ ω) (id : Id) : (store.create cell).2.waiting id = store.waiting id := by
  rw [waiting_create]
  split
  · rename_i new
    rw [new, waiting_of_size_le le_rfl, nothing]
  · rfl

theorem wakers_create_of_nil {cell : Cell α τ ω} (nobody : cell.wakers = [])
    (store : Store α τ ω) (id : Id) : (store.create cell).2.wakers id = store.wakers id := by
  simp only [create, wakers, Array.getElem?_push]
  by_cases new : id = store.cells.size
  · simp [new, nobody]
  · simp [new]

end Create

section Replace

/-- A store in which the cell of one promise has been replaced. -/
def replace (id : Id) (cell : Cell α τ ω) (store : Store α τ ω) : Store α τ ω :=
  { store with cells := store.cells.setIfInBounds id cell }

@[simp]
theorem size_replace (id : Id) (cell : Cell α τ ω) (store : Store α τ ω) :
    (store.replace id cell).size = store.size := by
  simp [replace, size]

theorem result?_replace {id : Id} (inside : id < store.size) (cell : Cell α τ ω) (other : Id) :
    (store.replace id cell).result? other =
      if other = id then cell.result? else store.result? other := by
  have inside : id < store.cells.size := inside
  simp only [replace, result?, Array.getElem?_setIfInBounds]
  by_cases same : other = id
  · simp [same, inside]
  · simp [same, Ne.symm same]

theorem waiting_replace {id : Id} (inside : id < store.size) (cell : Cell α τ ω) (other : Id) :
    (store.replace id cell).waiting other =
      if other = id then cell.waiting else store.waiting other := by
  have inside : id < store.cells.size := inside
  simp only [replace, waiting, Array.getElem?_setIfInBounds]
  by_cases same : other = id
  · simp [same, inside]
  · simp [same, Ne.symm same]

theorem wakers_replace {id : Id} (inside : id < store.size) (cell : Cell α τ ω) (other : Id) :
    (store.replace id cell).wakers other =
      if other = id then cell.wakers else store.wakers other := by
  have inside : id < store.cells.size := inside
  simp only [replace, wakers, Array.getElem?_setIfInBounds]
  by_cases same : other = id
  · simp [same, inside]
  · simp [same, Ne.symm same]

end Replace

section Resolve

theorem resolve_of_result? {id : Id} {stored : Except Failure α}
    (resolved : store.result? id = some stored) (result : Except Failure α) :
    store.resolve id result = (false, store) := by
  rw [resolve, cell_of_result? resolved]

/-- The first resolution stores the result, and leaves what waited for it to be done. -/
theorem resolve_of_pending {id : Id} (inside : id < store.size)
    (pending : store.result? id = none) (result : Except Failure α) :
    store.resolve id result = (true,
      { store.replace id (.resolved result) with
        frames := (store.waiting id).map (.run · result) ++ (store.wakers id).map .wake ++
          store.frames }) := by
  rw [resolve, cell_of_pending inside pending]
  rfl

/-- What is to be done does not tell whether an attempt resolves a promise. -/
theorem won_next {id : Id} {result : Except Failure α} (frame : Frame α τ ω)
    (store : Store α τ ω) :
    ((store.next frame).resolve id result).1 = (store.resolve id result).1 := by
  have same : (store.next frame).cells[id]? = store.cells[id]? := rfl
  unfold resolve
  rw [same]
  split <;> rfl

@[simp]
theorem size_resolve (id : Id) (result : Except Failure α) (store : Store α τ ω) :
    (store.resolve id result).2.size = store.size := by
  unfold resolve
  split
  · simp [size]
  · rfl

end Resolve

section Attach

theorem attach_of_result? {id : Id} {result : Except Failure α}
    (resolved : store.result? id = some result) (action : Action α τ) :
    store.attach id action = store.next (.run action result) := by
  rw [attach, cell_of_result? resolved]

/-- An action that is attached to a pending promise waits behind those before it. -/
theorem attach_of_pending {id : Id} (inside : id < store.size)
    (pending : store.result? id = none) (action : Action α τ) :
    store.attach id action =
      store.replace id (.pending (store.waiting id ++ [action]) (store.wakers id)) := by
  rw [attach, cell_of_pending inside pending]
  rfl

@[simp]
theorem size_attach (id : Id) (action : Action α τ) (store : Store α τ ω) :
    (store.attach id action).size = store.size := by
  unfold attach
  split <;> simp [size, next]

end Attach

section Poll

/-- Polling a pending promise leaves the waker with it, unless it is there already. -/
theorem poll_of_pending [DecidableEq ω] {id : Id} (inside : id < store.size)
    (pending : store.result? id = none) (waker : ω) :
    store.poll id waker = (none, store.replace id (.pending (store.waiting id)
      (if waker ∈ store.wakers id then store.wakers id else store.wakers id ++ [waker]))) := by
  rw [poll, cell_of_pending inside pending]
  rfl

theorem poll_of_result? [DecidableEq ω] {id : Id} {result : Except Failure α}
    (resolved : store.result? id = some result) (waker : ω) :
    store.poll id waker = (some result, store) := by
  rw [poll, cell_of_result? resolved]

/-- Polling changes neither results nor what waits for them. -/
theorem poll_eq [DecidableEq ω] (id : Id) (waker : ω) (store : Store α τ ω) :
    (store.poll id waker).2 = store ∨ id < store.size ∧ store.result? id = none ∧
      ∃ wakers, (store.poll id waker).2 = store.replace id (.pending (store.waiting id) wakers) := by
  rcases lt_or_ge id store.size with inside | outside
  · cases held : store.result? id with
    | some result => exact .inl (by rw [poll_of_result? held])
    | none => exact .inr ⟨inside, rfl, _, by rw [poll_of_pending inside held]⟩
  · refine .inl ?_
    rw [poll, Array.getElem?_eq_none outside]

end Poll

section Steps

theorem size_le_runFrame (frame : Frame α τ ω) (store : Store α τ ω) :
    store.size ≤ (store.runFrame frame).size := by
  cases frame with
  | client | wake waker => exact le_rfl
  | attach source action =>
      cases source with
      | promise id => exact (size_attach id action store).ge
      | settled result => exact le_rfl
      | map source mapper | chain source mapper =>
          exact (Nat.le_succ _).trans (size_create .fresh store).ge
  | run action result =>
      cases action with
      | onResult code | forward target => exact le_rfl
      | onSuccess code | onFailure code => cases result <;> exact le_rfl
      | map code mapper target | chain code mapper target =>
          cases result <;> cases code <;> exact le_rfl
  | resolve target result => exact (size_resolve target result store).ge

/-- A step does what is to be done next, unless it is a caller's turn. -/
theorem step_cases (store : Store α τ ω) :
    store.awaitsCaller ∧ store.step = store ∨
      ∃ (below : Store α τ ω) (frame : Frame α τ ω), store = below.next frame ∧
        store.step = below.runFrame frame := by
  rcases store with ⟨cells, frames, journal⟩
  cases frames with
  | nil => exact .inl ⟨rfl, rfl⟩
  | cons frame rest =>
      cases frame with
      | client => exact .inl ⟨rfl, rfl⟩
      | _ => exact .inr ⟨⟨cells, rest, journal⟩, _, rfl, rfl⟩

end Steps

end Store

/-- For which results code is attached. -/
inductive Hook where
  | result
  | success
  | failure

/-- The code of a caller that an action enters, and for which results. -/
def Action.hook? : Action α τ → Option (τ × Hook)
  | onResult code => some (code, .result)
  | onSuccess code => some (code, .success)
  | onFailure code => some (code, .failure)
  | map code _ _ => code.map (·, .success)
  | chain code _ _ => code.map (·, .success)
  | forward _ => none

/-- The promise that an action is to resolve in the end. -/
def Action.target? : Action α τ → Option Id
  | onResult _ | onSuccess _ | onFailure _ => none
  | map _ _ target | chain _ _ target | forward target => some target

/-- Whether the promise that an action is to resolve is among the first so many. -/
def Action.FitsIn (size : ℕ) (action : Action α τ) : Prop := ∀ target ∈ action.target?, target < size

/-- Whether the promise that a frame is about is among the first so many. What is still to be attached
has no code of a caller: calls attach that at once. -/
def Frame.FitsIn (size : ℕ) : Frame α τ ω → Prop
  | attach _ action => action.hook? = none ∧ action.FitsIn size
  | run action _ => action.FitsIn size
  | resolve target _ => target < size
  | client | wake _ => True

theorem Action.FitsIn.mono {size larger : ℕ} {action : Action α τ} (fits : action.FitsIn size)
    (le : size ≤ larger) : action.FitsIn larger :=
  fun target targetMem => (fits target targetMem).trans_le le

theorem Frame.FitsIn.mono {size larger : ℕ} {frame : Frame α τ ω} (fits : frame.FitsIn size)
    (le : size ≤ larger) : frame.FitsIn larger := by
  cases frame with
  | attach source action => exact ⟨fits.1, fits.2.mono le⟩
  | run action result => exact Action.FitsIn.mono fits le
  | resolve target result => exact Nat.lt_of_lt_of_le fits le
  | client | wake waker => trivial

namespace Store

variable {store : Store α τ ω}

/-- Every promise that is to be resolved in the end is there. -/
structure WellFormed (store : Store α τ ω) : Prop where
  waiting : ∀ id, ∀ action ∈ store.waiting id, action.FitsIn store.size
  frames : ∀ frame ∈ store.frames, frame.FitsIn store.size

namespace WellFormed

theorem next (wellFormed : store.WellFormed) {frame : Frame α τ ω}
    (fits : frame.FitsIn store.size) : (store.next frame).WellFormed where
  waiting := wellFormed.waiting
  frames := by
    intro other otherMem
    rcases List.mem_cons.mp otherMem with rfl | old
    · exact fits
    · exact wellFormed.frames other old

theorem of_next {frame : Frame α τ ω} (wellFormed : (store.next frame).WellFormed) :
    store.WellFormed ∧ frame.FitsIn store.size :=
  ⟨⟨wellFormed.waiting, fun other old => wellFormed.frames other (List.mem_cons_of_mem _ old)⟩,
    wellFormed.frames frame List.mem_cons_self⟩

theorem create (wellFormed : store.WellFormed) {cell : Cell α τ ω} (nothing : cell.waiting = []) :
    (store.create cell).2.WellFormed where
  waiting := by
    intro id action actionMem
    rw [waiting_create_of_nil nothing] at actionMem
    exact (wellFormed.waiting id action actionMem).mono (by simp)
  frames := fun frame frameMem => (wellFormed.frames frame frameMem).mono (by simp)

theorem replace (wellFormed : store.WellFormed) {id : Id} (inside : id < store.size)
    {cell : Cell α τ ω} (fits : ∀ action ∈ cell.waiting, action.FitsIn store.size) :
    (store.replace id cell).WellFormed where
  waiting := by
    intro other action actionMem
    rw [waiting_replace inside] at actionMem
    rw [size_replace]
    split at actionMem
    · exact fits action actionMem
    · exact wellFormed.waiting other action actionMem
  frames := by
    rw [size_replace]
    exact wellFormed.frames

theorem resolve (wellFormed : store.WellFormed) {id : Id} (inside : id < store.size)
    (result : Except Failure α) : (store.resolve id result).2.WellFormed := by
  cases pending : store.result? id with
  | some stored =>
      rw [resolve_of_result? pending]
      exact wellFormed
  | none =>
      have resolved := resolve_of_pending inside pending result
      have replaced : (store.replace id (.resolved result)).WellFormed :=
        wellFormed.replace inside (by simp [Cell.waiting])
      rw [resolved]
      refine ⟨replaced.waiting, ?_⟩
      intro frame frameMem
      rcases List.mem_append.mp frameMem with new | old
      · rcases List.mem_append.mp new with runs | wakes
        · rcases List.mem_map.mp runs with ⟨action, actionMem, rfl⟩
          exact (wellFormed.waiting id action actionMem).mono (size_replace _ _ _).ge
        · rcases List.mem_map.mp wakes with ⟨waker, -, rfl⟩
          trivial
      · exact replaced.frames frame old

theorem attach (wellFormed : store.WellFormed) {id : Id} (inside : id < store.size)
    {action : Action α τ} (fits : action.FitsIn store.size) :
    (store.attach id action).WellFormed := by
  cases pending : store.result? id with
  | some stored =>
      rw [attach_of_result? pending]
      exact wellFormed.next fits
  | none =>
      rw [attach_of_pending inside pending]
      apply wellFormed.replace inside
      intro other otherMem
      rcases List.mem_append.mp otherMem with old | new
      · exact wellFormed.waiting id other old
      · rw [List.mem_singleton.mp new]
        exact fits

theorem attachSource (wellFormed : store.WellFormed) {source : Source α} {action : Action α τ}
    (there : ∀ id, source = .promise id → id < store.size) (codeless : action.hook? = none)
    (fits : action.FitsIn store.size) : (store.attachSource source action).WellFormed := by
  have created : (store.create .fresh).2.WellFormed := wellFormed.create rfl
  have larger : action.FitsIn (store.create .fresh).2.size := fits.mono (by simp)
  have waits : ((store.create .fresh).2.next (.attach (.promise store.size) action)).WellFormed :=
    created.next ⟨codeless, larger⟩
  have made : store.size < (store.create .fresh).2.size := by simp
  cases source with
  | promise id => exact wellFormed.attach (there id rfl) fits
  | settled result => exact wellFormed.next fits
  | map source mapper | chain source mapper =>
      apply waits.next
      refine ⟨rfl, ?_⟩
      rintro target ⟨⟩
      exact made

theorem enter? (wellFormed : store.WellFormed) (code : Option τ) (result : Except Failure α) :
    (store.enter? code result).WellFormed := by
  cases code with
  | none => exact wellFormed
  | some code =>
      have logged : (store.log (.entered code result)).WellFormed :=
        ⟨wellFormed.waiting, wellFormed.frames⟩
      exact logged.next trivial

theorem runAction (wellFormed : store.WellFormed) {action : Action α τ}
    (fits : action.FitsIn store.size) (result : Except Failure α) :
    (store.runAction action result).WellFormed := by
  have resolves : ∀ target ∈ action.target?, ∀ stored,
      (store.next (.resolve target stored)).WellFormed := fun target targetMem stored =>
    wellFormed.next (fits target targetMem)
  cases action with
  | onResult code => exact wellFormed.enter? (some code) result
  | onSuccess code =>
      cases result with
      | ok value => exact wellFormed.enter? (some code) (.ok value)
      | error failure => exact wellFormed
  | onFailure code =>
      cases result with
      | ok value => exact wellFormed
      | error failure => exact wellFormed.enter? (some code) (.error failure)
  | map code mapper target =>
      cases result with
      | ok value => exact (resolves target rfl _).enter? code (.ok value)
      | error failure => exact resolves target rfl _
  | chain code mapper target =>
      cases result with
      | ok value =>
          have waits : (store.next (.attach (mapper value) (.forward target))).WellFormed :=
            wellFormed.next ⟨rfl, fits⟩
          exact waits.enter? code (.ok value)
      | error failure => exact resolves target rfl _
  | forward target => exact resolves target rfl result

/-- Doing what is to be done next keeps a store well-formed, when promises that sources name are
there. -/
theorem runFrame {frame : Frame α τ ω} (wellFormed : (store.next frame).WellFormed)
    (there : ∀ id action, frame = .attach (.promise id) action → id < store.size) :
    (store.runFrame frame).WellFormed := by
  rcases wellFormed.of_next with ⟨below, fits⟩
  cases frame with
  | client => exact wellFormed
  | attach source action =>
      exact below.attachSource (fun id same => there id action (by rw [same])) fits.1 fits.2
  | run action result => exact below.runAction fits result
  | resolve target result => exact below.resolve fits result
  | wake waker => exact ⟨below.waiting, below.frames⟩

end WellFormed

end Store

end CompletionEngine.Promise
