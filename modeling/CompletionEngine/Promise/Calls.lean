import CompletionEngine.Promise.Store

/-!
# Calls on promises

What callers may do with promises. Every call begins something that the store's steps carry out; a
call has returned once the steps are back at the caller's turn.
-/

namespace CompletionEngine.Promise.Store

variable {α τ ω : Type}

/-- A new promise, pending. -/
def new (store : Store α τ ω) : Id × Store α τ ω := store.create .fresh

/-- A new promise that holds a result. -/
def resolved (result : Except Failure α) (store : Store α τ ω) : Id × Store α τ ω :=
  store.create (.resolved result)

/-- The result of a promise, when it is resolved. -/
def result? (id : Id) (store : Store α τ ω) : Option (Except Failure α) :=
  (store.cells[id]?).bind Cell.result?

/-- Whether a promise is resolved. -/
def isResolved (id : Id) (store : Store α τ ω) : Bool := (store.result? id).isSome

/-- Resolve a promise with a value. -/
def succeed (id : Id) (value : α) (store : Store α τ ω) : Bool × Store α τ ω :=
  store.resolve id (.ok value)

/-- Resolve a promise with a failure. -/
def fail (id : Id) (failure : Failure) (store : Store α τ ω) : Bool × Store α τ ω :=
  store.resolve id (.error failure)

/-- Run code on the result of a promise. -/
def onResult (id : Id) (code : τ) (store : Store α τ ω) : Store α τ ω :=
  store.attach id (.onResult code)

/-- Run code on the success of a promise. -/
def onSuccess (id : Id) (code : τ) (store : Store α τ ω) : Store α τ ω :=
  store.attach id (.onSuccess code)

/-- Run code on the failure of a promise. -/
def onFailure (id : Id) (code : τ) (store : Store α τ ω) : Store α τ ω :=
  store.attach id (.onFailure code)

/-- A promise of the mapped success of another. Failures pass through. -/
def map (id : Id) (code : Option τ) (mapper : α → α) (store : Store α τ ω) :
    Id × Store α τ ω :=
  let (target, store) := store.create .fresh
  (target, store.attach id (.map code mapper target))

/-- A promise of what the mapped success of another stands for. Failures pass through. -/
def flatMap (id : Id) (code : Option τ) (mapper : α → Source α) (store : Store α τ ω) :
    Id × Store α τ ω :=
  let (target, store) := store.create .fresh
  (target, store.attach id (.chain code mapper target))

/-- The result of a promise, or else a waker left behind, once for every waker. -/
def poll [DecidableEq ω] (id : Id) (waker : ω) (store : Store α τ ω) :
    Option (Except Failure α) × Store α τ ω :=
  match store.cells[id]? with
  | some (.resolved result) => (some result, store)
  | some (.pending actions wakers) =>
    let wakers := if waker ∈ wakers then wakers else wakers ++ [waker]
    (none, { store with cells := store.cells.setIfInBounds id (.pending actions wakers) })
  | none => (none, store)

/-- Return from code that the store entered. -/
def finish (store : Store α τ ω) : Store α τ ω :=
  match store.frames with
  | .client :: rest => { store with frames := rest }
  | _ => store

/-- A promise as diagnostics show it. -/
def debugText? (valueText : α → String) (id : Id) (store : Store α τ ω) : Option String :=
  (store.cells[id]?).map fun cell => cell.debugText valueText

end CompletionEngine.Promise.Store
