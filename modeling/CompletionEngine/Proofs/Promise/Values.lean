import CompletionEngine.Promise.Basic
import Mathlib

/-!
# What sources come to

Given the results of promises, a source comes to a result or to none yet. Composing sources obeys the
laws of a monad, with failures passing through.
-/

namespace CompletionEngine.Promise

variable {α : Type}

/-- The results of promises, as far as they have any. -/
abbrev Results (α : Type) := Id → Option (Except Failure α)

namespace Source

/-- What a source comes to when promises have some results. -/
def value? (results : Results α) : Source α → Option (Except Failure α)
  | promise id => results id
  | settled result => some result
  | map source mapper => (source.value? results).map (Except.map mapper)
  | chain source mapper => (source.value? results).bind fun
    | .ok value => (mapper value).value? results
    | .error failure => some (.error failure)

section Laws

variable (results : Results α) (source : Source α)

theorem value?_map_map (first second : α → α) :
    ((source.map first).map second).value? results =
      (source.map (second ∘ first)).value? results := by
  simp only [value?, Option.map_map]
  congr 1
  funext result
  cases result <;> rfl

theorem value?_chain_settled (mapper : α → α) :
    (source.chain fun value => .settled (.ok (mapper value))).value? results =
      (source.map mapper).value? results := by
  simp only [value?]
  cases source.value? results with
  | none => rfl
  | some result => cases result <;> rfl

theorem value?_settled_chain (value : α) (mapper : α → Source α) :
    (chain (.settled (.ok value)) mapper).value? results = (mapper value).value? results := by
  simp [value?]

theorem value?_chain_chain (first second : α → Source α) :
    ((source.chain first).chain second).value? results =
      (source.chain fun value => (first value).chain second).value? results := by
  simp only [value?]
  cases source.value? results with
  | none => rfl
  | some result => cases result <;> rfl

variable {results source}

theorem value?_map_of_failure {failure : Failure}
    (failed : source.value? results = some (.error failure)) (mapper : α → α) :
    (source.map mapper).value? results = some (.error failure) := by
  rw [value?, failed]
  rfl

theorem value?_chain_of_failure {failure : Failure}
    (failed : source.value? results = some (.error failure)) (mapper : α → Source α) :
    (source.chain mapper).value? results = some (.error failure) := by
  rw [value?, failed]
  rfl

end Laws

/-- The sources that a source is made of at once. -/
inductive Part : Source α → Source α → Prop
  | map (source : Source α) (mapper : α → α) : Part source (.map source mapper)
  | chain (source : Source α) (mapper : α → Source α) : Part source (.chain source mapper)
  | answer (source : Source α) (mapper : α → Source α) (value : α) :
    Part (mapper value) (.chain source mapper)

/-- Sources are trees. -/
theorem part_wellFounded : WellFounded (Part (α := α)) := by
  refine ⟨fun source => ?_⟩
  induction source with
  | promise id | settled result => exact ⟨_, fun other part => nomatch part⟩
  | map source mapper ih =>
      refine ⟨_, fun other part => ?_⟩
      cases part
      exact ih
  | chain source mapper ih answers =>
      refine ⟨_, fun other part => ?_⟩
      cases part with
      | chain => exact ih
      | answer _ _ value => exact answers value

/-- The sources that a source is made of. -/
abbrev Below : Source α → Source α → Prop := Relation.TransGen Part

theorem below_wellFounded : WellFounded (Below (α := α)) := part_wellFounded.transGen

end Source

end CompletionEngine.Promise
