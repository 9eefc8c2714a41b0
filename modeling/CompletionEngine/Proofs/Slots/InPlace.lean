import CompletionEngine.Proofs.Slots.Recycling
import CompletionEngine.Slots.Pool

/-!
# Calls in place

Entries and pools are changed in place: a call makes one write after the other, and when it breaks
off at a fault, what it has written by then stays written. Here each call is spelt out write by write.
It comes to what the call on values comes to, and a call that is out of turn, or on a slot that does
not exist, breaks off before its first write. Only giving a free slot back once more leaves a write
behind.
-/

namespace CompletionEngine

/-- A call on something that is changed in place, which may break off. -/
abbrev InPlace (σ α : Type) : Type := ExceptT Fault (StateM σ) α

namespace InPlace

variable {σ α β : Type}

/-- What a call answers, or the fault that it breaks off at, and what it leaves behind. -/
def on (call : InPlace σ α) (state : σ) : Except Fault α × σ := call.run.run state

/-- Read what is there. -/
def read : InPlace σ σ := get

/-- Make one write. -/
def write (change : σ → σ) : InPlace σ Unit := modify change

@[simp]
theorem on_pure (value : α) (state : σ) : (pure value : InPlace σ α).on state = (.ok value, state) :=
  rfl

@[simp]
theorem on_read (state : σ) : (read : InPlace σ σ).on state = (.ok state, state) := rfl

@[simp]
theorem on_write (change : σ → σ) (state : σ) :
    (write change).on state = (.ok (), change state) := rfl

@[simp]
theorem on_throw (fault : Fault) (state : σ) :
    (throw fault : InPlace σ α).on state = (.error fault, state) := rfl

theorem on_bind (call : InPlace σ α) (next : α → InPlace σ β) (state : σ) :
    (call >>= next).on state =
      match call.on state with
      | (.ok value, after) => (next value).on after
      | (.error fault, after) => (.error fault, after) := by
  unfold on
  simp only [ExceptT.run_bind, StateT.run_bind]
  rcases call.run.run state with ⟨fault | value, after⟩ <;> rfl

/-- A call on values, seen as a call that breaks off before its first write or not at all. -/
def settled (state : σ) : Except Fault (α × σ) → Except Fault α × σ
  | .ok (value, after) => (.ok value, after)
  | .error fault => (.error fault, state)

end InPlace

namespace Entry

variable {kind : Kind} {γ σ : Type}

section Calls

/-- Break off unless an action's turn has come. -/
def checkInPlace (allowed : List EntryState) (action : EntryAction) :
    InPlace (Entry kind γ) Unit := do
  let entry ← InPlace.read
  if entry.state ∈ allowed then pure () else throw (.outOfTurn kind action entry.state)

def prepareInPlace (now : Moment) (params : kind.Params) (continuation : γ) :
    InPlace (Entry kind γ) (Except Failure Unit) := do
  checkInPlace [.free] .prepare
  InPlace.write fun entry => { entry with continuation := some continuation }
  InPlace.write fun entry => { entry with state := .prepared }
  let entry ← InPlace.read
  match kind.operation.prepare now params entry.payload with
  | .ok payload => do
    InPlace.write fun entry => { entry with payload := payload }
    pure (.ok ())
  | .error failure => pure (.error failure)

def submitInPlace : InPlace (Entry kind γ) Unit := do
  checkInPlace [.prepared] .submit
  InPlace.write fun entry => { entry with state := .submitted }

/-- Mark the operation as ended, and take the continuation out. -/
def finishInPlace (result : Except Failure kind.Output) :
    InPlace (Entry kind γ) (Completion kind γ) := do
  InPlace.write fun entry => { entry with state := .completed }
  let entry ← InPlace.read
  InPlace.write fun entry => { entry with continuation := none }
  pure ⟨entry.continuation, result⟩

def completeInPlace (calls : SocketCalls σ) (now : Instant) (result : Int32) (system : σ) :
    InPlace (Entry kind γ) (Completion kind γ × σ) := do
  checkInPlace [.submitted] .complete
  let entry ← InPlace.read
  let (outcome, payload, system) :=
    kind.operation.translate calls now result entry.payload system
  InPlace.write fun entry => { entry with payload := payload }
  let completion ← finishInPlace outcome
  pure (completion, system)

def abortInPlace (failure : Failure) : InPlace (Entry kind γ) (Completion kind γ) := do
  checkInPlace [.prepared, .submitted] .abort
  finishInPlace (.error failure)

def resetInPlace : InPlace (Entry kind γ) Unit := do
  InPlace.write fun entry => { entry with continuation := none }
  InPlace.write fun entry => { entry with tag := none }
  InPlace.write fun entry => { entry with flags := .empty }
  InPlace.write fun entry => { entry with state := .free }

def closeInPlace : InPlace (Entry kind γ) Unit := do
  checkInPlace [.free, .completed] .close
  InPlace.write fun entry => { entry with payload := kind.operation.recycle entry.payload }
  resetInPlace

def disposeInPlace : InPlace (Entry kind γ) Unit := do
  InPlace.write fun entry => { entry with payload := kind.operation.dispose entry.payload }
  resetInPlace

/-- Carry an act out in place. -/
def performInPlace (calls : SocketCalls σ) (now : Moment) :
    Act kind γ σ → InPlace (Entry kind γ) (Answer kind γ σ)
  | .prepare params continuation => do
    let outcome ← prepareInPlace now params continuation
    pure (.prepared outcome)
  | .assignTag tag => do
    InPlace.write (·.assignTag tag)
    pure .done
  | .link => do
    InPlace.write (·.link)
    pure .done
  | .render record => do
    let entry ← InPlace.read
    pure (.rendered (entry.render record))
  | .submit => do
    submitInPlace
    pure .done
  | .receive written => do
    InPlace.write (·.receive written)
    pure .done
  | .complete result system => do
    let (completion, system) ← completeInPlace calls now.time result system
    pure (.completed completion system)
  | .abort failure => do
    let completion ← abortInPlace failure
    pure (.aborted completion)
  | .close => do
    closeInPlace
    pure .done
  | .dispose => do
    disposeInPlace
    pure .done

end Calls

section Checked

variable {α : Type} {entry : Entry kind γ} {allowed : List EntryState} {action : EntryAction}

/-- A call that checks its turn first goes on with the entry as it is, or leaves it so. -/
theorem on_check_bind (next : Unit → InPlace (Entry kind γ) α) :
    (checkInPlace allowed action >>= next).on entry =
      match entry.expect allowed action with
      | .ok () => (next ()).on entry
      | .error fault => (.error fault, entry) := by
  simp only [checkInPlace, expect, InPlace.on_bind, InPlace.on_read]
  by_cases turn : entry.state ∈ allowed
  · simp only [turn, if_true, InPlace.on_pure]
  · simp only [turn, if_false, InPlace.on_throw]

/-- In place or on values, a call that is out of turn comes to the same fault, and one whose turn has
come goes on in the same way. -/
theorem settled_check_bind {next : Unit → InPlace (Entry kind γ) α}
    {nextValue : Unit → Except Fault (α × Entry kind γ)}
    (same : (next ()).on entry = InPlace.settled entry (nextValue ())) :
    (checkInPlace allowed action >>= next).on entry =
      InPlace.settled entry (entry.expect allowed action >>= nextValue) := by
  rw [on_check_bind]
  rcases entry.expect allowed action with fault | done
  · rfl
  · exact same

end Checked

/-- Spelt out write by write, every act comes to what it answers, and a fault leaves the entry as it
was. -/
theorem on_performInPlace (calls : SocketCalls σ) (now : Moment) (act : Act kind γ σ)
    (entry : Entry kind γ) : (performInPlace calls now act).on entry = entry.respond calls now act := by
  have settled : entry.respond calls now act =
      InPlace.settled entry (entry.perform calls now act) := by
    unfold respond
    rcases entry.perform calls now act with fault | outcome <;> rfl
  rw [settled]
  cases act with
  | assignTag tag | link | render record | receive written | dispose => rfl
  | prepare params continuation =>
      simp only [performInPlace, prepareInPlace, perform, prepare, bind_assoc]
      refine settled_check_bind ?_
      simp only [InPlace.on_bind, InPlace.on_write, InPlace.on_read]
      rcases kind.operation.prepare now params entry.payload with failure | payload <;> rfl
  | submit =>
      simp only [performInPlace, submitInPlace, perform, markSubmitted, bind_assoc]
      exact settled_check_bind rfl
  | complete result system =>
      simp only [performInPlace, completeInPlace, perform, complete, bind_assoc]
      exact settled_check_bind rfl
  | abort failure =>
      simp only [performInPlace, abortInPlace, perform, abort, bind_assoc]
      exact settled_check_bind rfl
  | close =>
      simp only [performInPlace, closeInPlace, perform, close, bind_assoc]
      exact settled_check_bind rfl

end Entry

namespace Pool

variable {kind : Kind} {γ : Type}

/-- Make a call on the entry in a slot, where it lies. -/
def entryInPlace {α : Type} (slot : UInt32) (call : InPlace (Entry kind γ) α) :
    InPlace (Pool kind γ) α := do
  let pool ← InPlace.read
  match pool.entries[slot.toNat]? with
  | none => throw (.slotOutOfRange pool.entries.size slot.toNat)
  | some entry => do
    let (outcome, entry) := call.on entry
    InPlace.write fun pool => pool.set slot entry
    match outcome with
    | .ok value => pure value
    | .error fault => throw fault

def releaseInPlace (slot : UInt32) : InPlace (Pool kind γ) Unit := do
  entryInPlace slot Entry.closeInPlace
  let pool ← InPlace.read
  if slot ∈ pool.free then throw (.releasedTwice kind slot)
  InPlace.write fun pool => { pool with free := slot :: pool.free }

variable {pool : Pool kind γ} {slot : UInt32}

theorem set_of_getElem? {entry : Entry kind γ} (here : pool.entries[slot.toNat]? = some entry) :
    pool.set slot entry = pool := by
  rcases Array.getElem?_eq_some_iff.mp here with ⟨inside, rfl⟩
  simp only [set]
  congr 1
  rw [Array.setIfInBounds_def, dif_pos inside, Array.set_getElem_self]

/-- A call on an entry comes to the same where it lies. -/
theorem on_entryInPlace {α : Type} {entry : Entry kind γ}
    (here : pool.entries[slot.toNat]? = some entry) (call : InPlace (Entry kind γ) α) :
    (entryInPlace slot call).on pool = ((call.on entry).1, pool.set slot (call.on entry).2) := by
  simp only [entryInPlace, InPlace.on_bind, InPlace.on_read, here, InPlace.on_write]
  rcases call.on entry with ⟨fault | value, changed⟩ <;> rfl

theorem on_closeInPlace (entry : Entry kind γ) :
    (Entry.closeInPlace : InPlace (Entry kind γ) Unit).on entry =
      InPlace.settled entry (entry.close.map fun closed => ((), closed)) := by
  unfold Entry.closeInPlace
  rw [Entry.on_check_bind, Entry.close]
  rcases entry.expect [.free, .completed] .close with fault | done <;> rfl

/-- A slot that does not exist is not given back, and nothing is written. -/
theorem on_releaseInPlace_of_none (outside : pool.entries[slot.toNat]? = none) :
    (releaseInPlace slot).on pool = (.error (.slotOutOfRange pool.entries.size slot.toNat), pool) := by
  simp only [releaseInPlace, entryInPlace, InPlace.on_bind, InPlace.on_read, outside,
    InPlace.on_throw]

/-- An entry that is not closed is not given back, and nothing is written. -/
theorem on_releaseInPlace_of_unclosed {entry : Entry kind γ} {fault : Fault}
    (here : pool.entries[slot.toNat]? = some entry) (unclosed : entry.close = .error fault) :
    (releaseInPlace slot).on pool = (.error fault, pool) := by
  simp only [releaseInPlace, InPlace.on_bind, on_entryInPlace here, on_closeInPlace, unclosed,
    Except.map, InPlace.settled, set_of_getElem? here]

/-- In place or on values, giving a slot back comes to the same. -/
theorem on_releaseInPlace (pool : Pool kind γ) (slot : UInt32) :
    ((releaseInPlace slot).on pool).1 = (pool.release slot).map (fun _ => ()) ∧
      ∀ released, pool.release slot = .ok released →
        (releaseInPlace slot).on pool = (.ok (), released) := by
  cases here : pool.entries[slot.toNat]? with
  | none =>
      have outside : pool.release slot = .error (.slotOutOfRange pool.entries.size slot.toNat) := by
        simp only [release, get, here]
        rfl
      rw [on_releaseInPlace_of_none here, outside]
      exact ⟨rfl, nofun⟩
  | some entry =>
      cases closes : entry.close with
      | error fault =>
          have unclosed : pool.release slot = .error fault := by
            simp only [release, get, here, bind, Except.bind, closes]
          rw [on_releaseInPlace_of_unclosed here closes, unclosed]
          exact ⟨rfl, nofun⟩
      | ok closed =>
          have inPlace : (releaseInPlace slot).on pool =
              if slot ∈ pool.free then (.error (.releasedTwice kind slot), pool.set slot closed)
              else (.ok (), { pool.set slot closed with free := slot :: pool.free }) := by
            simp only [releaseInPlace, InPlace.on_bind, on_entryInPlace here, on_closeInPlace,
              closes, Except.map, InPlace.settled, InPlace.on_read, set]
            split <;> rfl
          have onValues : pool.release slot =
              if slot ∈ pool.free then .error (.releasedTwice kind slot)
              else .ok { pool.set slot closed with free := slot :: pool.free } := by
            simp only [release, get, here, bind, Except.bind, closes, set]
            rfl
          rw [inPlace, onValues]
          split
          · exact ⟨rfl, nofun⟩
          · refine ⟨rfl, fun released gives => ?_⟩
            cases gives
            rfl

end Pool

end CompletionEngine
