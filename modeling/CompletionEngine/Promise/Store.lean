import CompletionEngine.Promise.Basic

/-!
# Promise stores

A store holds promises and what is still to be done for them. Resolving a promise stores the result
at once and leaves its actions, and then its wakers, to be seen to; the store does that step by step
and stops whenever code of a caller is entered, so that the code may call the store again from any
such state. What the code's calls leave to be done comes before everything older.
-/

namespace CompletionEngine.Promise

/-- Something a store still has to do. -/
inductive Frame (α τ ω : Type) where
  /-- Code of a caller is running, until it returns. -/
  | client
  /-- Attach an action to what a source stands for. -/
  | attach (source : Source α) (action : Action α τ)
  /-- Run an action. -/
  | run (action : Action α τ) (result : Except Failure α)
  /-- Resolve a promise. -/
  | resolve (target : Id) (result : Except Failure α)
  /-- Wake somebody who polled. -/
  | wake (waker : ω)

/-- Something that callers can see. -/
inductive Event (α τ ω : Type) where
  /-- Code was entered with the result it observes. -/
  | entered (code : τ) (result : Except Failure α)
  | woken (waker : ω)

/-- Promises, what is to be done for them with the next thing in front, and the last event in front. -/
structure Store (α τ ω : Type) where
  cells : Array (Cell α τ ω)
  frames : List (Frame α τ ω)
  journal : List (Event α τ ω)

namespace Store

variable {α τ ω : Type}

/-- A store without promises. -/
def empty : Store α τ ω := ⟨#[], [], []⟩

/-- Whether it is a caller's turn. -/
def awaitsCaller (store : Store α τ ω) : Bool :=
  match store.frames with
  | [] | .client :: _ => true
  | _ => false

/-- Put something in front of what is to be done. -/
def next (frame : Frame α τ ω) (store : Store α τ ω) : Store α τ ω :=
  { store with frames := frame :: store.frames }

/-- Enter an event into the journal. -/
def log (event : Event α τ ω) (store : Store α τ ω) : Store α τ ω :=
  { store with journal := event :: store.journal }

/-- Add a promise in a given state. -/
def create (cell : Cell α τ ω) (store : Store α τ ω) : Id × Store α τ ω :=
  (store.cells.size, { store with cells := store.cells.push cell })

/-- Resolve a promise unless that has been done, and tell which. -/
def resolve (id : Id) (result : Except Failure α) (store : Store α τ ω) : Bool × Store α τ ω :=
  match store.cells[id]? with
  | some (.pending actions wakers) =>
    (true,
      { store with
        cells := store.cells.setIfInBounds id (.resolved result)
        frames := actions.map (.run · result) ++ wakers.map .wake ++ store.frames })
  | _ => (false, store)

/-- Attach an action to a promise. It is run next when the promise is resolved already. -/
def attach (id : Id) (action : Action α τ) (store : Store α τ ω) : Store α τ ω :=
  match store.cells[id]? with
  | some (.pending actions wakers) =>
    { store with cells := store.cells.setIfInBounds id (.pending (actions ++ [action]) wakers) }
  | some (.resolved result) => store.next (.run action result)
  | none => store

/-- Attach an action to what a source stands for, through a promise for every mapper on the way. -/
def attachSource (source : Source α) (action : Action α τ) (store : Store α τ ω) : Store α τ ω :=
  match source with
  | .promise id => store.attach id action
  | .settled result => store.next (.run action result)
  | .map source mapper =>
    let (target, store) := store.create .fresh
    (store.next (.attach (.promise target) action)).next (.attach source (.map none mapper target))
  | .chain source mapper =>
    let (target, store) := store.create .fresh
    (store.next (.attach (.promise target) action)).next
      (.attach source (.chain none mapper target))

/-- Enter code of a caller. -/
def enter (code : τ) (result : Except Failure α) (store : Store α τ ω) : Store α τ ω :=
  (store.log (.entered code result)).next .client

/-- Enter code of a caller, if there is any. -/
def enter? (code : Option τ) (result : Except Failure α) (store : Store α τ ω) : Store α τ ω :=
  match code with
  | some code => store.enter code result
  | none => store

/-- Run an action on a result. -/
def runAction (action : Action α τ) (result : Except Failure α) (store : Store α τ ω) :
    Store α τ ω :=
  match action, result with
  | .onResult code, result => store.enter code result
  | .onSuccess code, .ok value => store.enter code (.ok value)
  | .onSuccess _, .error _ => store
  | .onFailure _, .ok _ => store
  | .onFailure code, .error failure => store.enter code (.error failure)
  | .map code mapper target, .ok value =>
    (store.next (.resolve target (.ok (mapper value)))).enter? code (.ok value)
  | .map _ _ target, .error failure => store.next (.resolve target (.error failure))
  | .chain code mapper target, .ok value =>
    (store.next (.attach (mapper value) (.forward target))).enter? code (.ok value)
  | .chain _ _ target, .error failure => store.next (.resolve target (.error failure))
  | .forward target, result => store.next (.resolve target result)

/-- Do what a frame says, on a store that has the frame no more. -/
def runFrame (frame : Frame α τ ω) (store : Store α τ ω) : Store α τ ω :=
  match frame with
  | .client => store.next .client
  | .attach source action => store.attachSource source action
  | .run action result => store.runAction action result
  | .resolve target result => (store.resolve target result).2
  | .wake waker => store.log (.woken waker)

/-- One step of a store, which rests while it is a caller's turn. -/
def step (store : Store α τ ω) : Store α τ ω :=
  if store.awaitsCaller then store
  else match store.frames with
    | [] => store
    | frame :: rest => { store with frames := rest }.runFrame frame

/-- Let a store step until it is a caller's turn, at most `fuel` times. -/
def run : Nat → Store α τ ω → Store α τ ω
  | 0, store => store
  | fuel + 1, store => if store.awaitsCaller then store else run fuel store.step

end Store

end CompletionEngine.Promise
