import CompletionEngine.Failure

/-!
# Promises

A promise is a cell that is resolved at most once: the first resolution wins. Actions attached before
that run when it happens, in the order of attachment; actions attached later run at once. All of them
see the same stored result.

Code of callers is not part of a promise; a label of any type `τ` stands for it. Mappers are, since
what a derived promise holds depends on them. Whoever polls leaves a waker of type `ω`.
-/

namespace CompletionEngine.Promise

/-- A promise, by its place in a store. -/
abbrev Id := Nat

/-- Where a result comes from: a promise, a result at hand, or another source through a mapper. -/
inductive Source (α : Type) where
  | promise (id : Id)
  | settled (result : Except Failure α)
  | map (source : Source α) (mapper : α → α)
  | chain (source : Source α) (mapper : α → Source α)

/-- What happens with the result of a promise. -/
inductive Action (α τ : Type) where
  /-- Run code on the result, whatever it is. -/
  | onResult (code : τ)
  /-- Run code on a success. -/
  | onSuccess (code : τ)
  /-- Run code on a failure. -/
  | onFailure (code : τ)
  /-- Run code on a success, then resolve a promise with the mapped value. -/
  | map (code : Option τ) (mapper : α → α) (target : Id)
  /-- Run code on a success, then resolve a promise with what the mapped value stands for. -/
  | chain (code : Option τ) (mapper : α → Source α) (target : Id)
  /-- Resolve a promise with the result. -/
  | forward (target : Id)

/-- The state of a promise. -/
inductive Cell (α τ ω : Type) where
  /-- Not resolved, with the actions that wait in order and the wakers of those who polled. -/
  | pending (actions : List (Action α τ)) (wakers : List ω)
  | resolved (result : Except Failure α)

namespace Cell

variable {α τ ω : Type}

/-- A promise that nothing is attached to. -/
def fresh : Cell α τ ω := pending [] []

/-- The stored result, when there is one. -/
def result? : Cell α τ ω → Option (Except Failure α)
  | pending .. => none
  | resolved result => some result

/-- Whether the promise is resolved. -/
def isResolved (cell : Cell α τ ω) : Bool := cell.result?.isSome

/-- The promise as diagnostics show it, where `valueText` shows a value. -/
def debugText (valueText : α → String) : Cell α τ ω → String
  | pending actions _ => "Promise \x7b pending_actions: " ++ toString actions.length ++ " \x7d"
  | resolved (.ok value) => "Promise(Ok(" ++ valueText value ++ "))"
  | resolved (.error failure) => "Promise(Err(" ++ failure.debugText ++ "))"

end Cell

end CompletionEngine.Promise
