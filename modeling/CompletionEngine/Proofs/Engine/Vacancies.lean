import CompletionEngine.Engine.Staging
import CompletionEngine.Proofs.Slots.Pools

/-!
# Free slots

An allocation takes the slot on top of the free ones, or makes a new one when there is none, and
what is given back lies on top again. Acting on an entry leaves the free slots alone. So a slot that
is taken and given back at once is where it was, and a new one is the only free slot there is.
-/

namespace CompletionEngine

variable {κ τ γ : Type}

namespace Pool

variable {kind : Kind} {pool : Pool kind γ}

/-- Whether a pool has no slot to hand out. -/
def isExhausted (pool : Pool kind γ) : Bool := pool.free.isEmpty && pool.isFull

theorem alloc_of_exhausted (exhausted : pool.isExhausted = true) :
    pool.alloc = (.error (.exhausted (.pool kind.name)), pool) := by
  simp only [isExhausted, Bool.and_eq_true, List.isEmpty_iff] at exhausted
  simp [alloc, exhausted.1, exhausted.2]

/-- A pool that is not exhausted hands out the slot on top of the free ones, or a new one. -/
theorem alloc_of_not_exhausted (spare : pool.isExhausted = false) :
    ∃ slot allocated, pool.alloc = (.ok slot, allocated) ∧
      (pool.free = slot :: allocated.free ∨ pool.free = [] ∧ allocated.free = []) := by
  unfold alloc
  cases free : pool.free with
  | nil =>
      have notFull : pool.isFull = false := by simpa [isExhausted, free] using spare
      refine ⟨UInt32.ofNat pool.entries.size, { pool with entries := pool.entries.push .fresh }, ?_,
        .inr ⟨rfl, free⟩⟩
      simp [notFull, free]
  | cons slot rest => exact ⟨slot, _, rfl, .inl rfl⟩

end Pool

namespace Pools

/-- The free slots of a kind are these. It has no more room for new ones than before, and no less,
and the pools of all other kinds are the same. -/
structure Vacates (kind : Kind) (free : List UInt32) (before after : Pools γ) : Prop where
  free_eq : (after.get kind).free = free
  full_eq : (after.get kind).isFull = (before.get kind).isFull
  others : ∀ other, other ≠ kind → after.get other = before.get other

/-- Every entry in use is as it was. What was free is free in the same order, and of the one kind at
most one slot is new. -/
structure Restores (kind : Kind) (before after : Pools γ) : Prop where
  held_eq : after.held = before.held
  free : (after.get kind).free = (before.get kind).free ∨
    (before.get kind).free = [] ∧ ∃ slot, (after.get kind).free = [slot]
  others : ∀ other, other ≠ kind → after.get other = before.get other

variable {kind : Kind} {before between after : Pools γ} {free others : List UInt32}

theorem Restores.refl (kind : Kind) (pools : Pools γ) : pools.Restores kind pools :=
  ⟨rfl, .inl rfl, fun _ _ => rfl⟩

theorem vacates_set (pools : Pools γ) (pool : Pool kind γ)
    (full_eq : pool.isFull = (pools.get kind).isFull) :
    pools.Vacates kind pool.free (pools.set kind pool) :=
  ⟨by rw [get_set_self], by rw [get_set_self, full_eq], fun _ ne => get_set_of_ne pools pool ne⟩

theorem vacates_growHeap (pools : Pools γ) (kind : Kind) :
    pools.Vacates kind (pools.get kind).free pools.growHeap :=
  ⟨by rw [get_growHeap], by rw [get_growHeap], fun other _ => get_growHeap pools other⟩

theorem Vacates.trans (first : before.Vacates kind free between)
    (second : between.Vacates kind others after) : before.Vacates kind others after :=
  ⟨second.free_eq, second.full_eq.trans first.full_eq,
    fun other ne => (second.others other ne).trans (first.others other ne)⟩

/-- As long as the free slots stay the same, a pool is as exhausted as before. -/
theorem Vacates.isExhausted_eq (vacates : before.Vacates kind (before.get kind).free after)
    (other : Kind) : (after.get other).isExhausted = (before.get other).isExhausted := by
  by_cases same : other = kind
  · subst same
    rw [Pool.isExhausted, Pool.isExhausted, vacates.free_eq, vacates.full_eq]
  · rw [vacates.others other same]

/-- A slot that was taken and given back is where it was. -/
theorem Vacates.restores {slot : UInt32} {allocated : Pool kind γ}
    (vacates : (before.set kind allocated).Vacates kind (slot :: allocated.free) after)
    (taken : (before.get kind).free = slot :: allocated.free ∨
      (before.get kind).free = [] ∧ allocated.free = [])
    (held_eq : after.held = before.held) : before.Restores kind after := by
  refine ⟨held_eq, ?_, fun other ne => (vacates.others other ne).trans (get_set_of_ne _ _ ne)⟩
  rcases taken with top | ⟨none, left⟩
  · exact .inl (vacates.free_eq.trans top.symm)
  · exact .inr ⟨none, slot, by rw [vacates.free_eq, left]⟩

end Pools

namespace Engine

variable {engine after : Engine κ τ} {kind : Kind} {slot : UInt32}

/-- Acting on an entry replaces it. -/
theorem exists_of_modifyEntry {α : Type} {value : α}
    {action : Entry kind (Continuation τ) → Except Fault (α × Entry kind (Continuation τ))}
    (modified : engine.modifyEntry ⟨kind, slot⟩ action = .ok (value, after)) :
    ∃ entry replacement, (engine.pools.get kind).get slot = .ok entry ∧
      action entry = .ok (value, replacement) ∧
      after.pools = engine.pools.set kind ((engine.pools.get kind).set slot replacement) := by
  rcases exists_of_bind modified with ⟨entry, got, acts⟩
  rcases exists_of_bind acts with ⟨⟨_, replacement⟩, acted, same⟩
  cases same
  exact ⟨entry, replacement, got, acted, rfl⟩

theorem vacates_modifyEntry {α : Type} {value : α}
    {action : Entry kind (Continuation τ) → Except Fault (α × Entry kind (Continuation τ))}
    (modified : engine.modifyEntry ⟨kind, slot⟩ action = .ok (value, after)) :
    engine.pools.Vacates kind (engine.pools.get kind).free after.pools := by
  rcases exists_of_modifyEntry modified with ⟨entry, replacement, -, -, replaced⟩
  rw [replaced]
  refine Pools.vacates_set engine.pools ((engine.pools.get kind).set slot replacement) ?_
  simp [Pool.isFull, Pool.set]

theorem vacates_prepareSlot {platform : Platform κ} {params : kind.Params}
    {continuation : Continuation τ} {outcome : Except Failure Unit}
    (prepared : engine.prepareSlot platform ⟨kind, slot⟩ params continuation =
      .ok (outcome, after)) :
    engine.pools.Vacates kind (engine.pools.get kind).free after.pools := by
  have grown := Pools.vacates_growHeap engine.pools kind
  have modified := vacates_modifyEntry prepared
  rw [grown.free_eq] at modified
  exact grown.trans modified

theorem exists_of_releaseSlot (released : engine.releaseSlot ⟨kind, slot⟩ = .ok after) :
    ∃ pool, (engine.pools.get kind).release slot = .ok pool ∧
      after.pools = engine.pools.set kind pool := by
  rcases exists_of_bind released with ⟨pool, gives, same⟩
  cases same
  exact ⟨pool, gives, rfl⟩

theorem vacates_releaseSlot (released : engine.releaseSlot ⟨kind, slot⟩ = .ok after) :
    engine.pools.Vacates kind (slot :: (engine.pools.get kind).free) after.pools := by
  rcases exists_of_releaseSlot released with ⟨pool, gives, after_eq⟩
  rcases Pool.exists_of_release gives with ⟨entry, recycled, -, -, rfl⟩
  rw [after_eq]
  refine Pools.vacates_set engine.pools ⟨_, _, _⟩ ?_
  simp [Pool.isFull, Pool.set]

theorem vacates_registerSlot {tag : UInt32}
    (registered : engine.registerSlot ⟨kind, slot⟩ = .ok (tag, after)) :
    engine.pools.Vacates kind (engine.pools.get kind).free after.pools := by
  rcases exists_of_bind registered with ⟨⟨_, bound⟩, modified, same⟩
  cases same
  have vacates := vacates_modifyEntry modified
  exact vacates

theorem pools_deliver (continuation : Option (Continuation τ)) (outcome : Outcome)
    (engine : Engine κ τ) : (engine.deliver continuation outcome).pools = engine.pools := by
  rcases continuation with - | continuation
  · rfl
  · cases continuation <;> rfl

/-- Failing an operation gives its slot back. -/
theorem vacates_abortSlot {failure : Failure}
    (aborted : engine.abortSlot ⟨kind, slot⟩ failure = .ok after) :
    engine.pools.Vacates kind (slot :: (engine.pools.get kind).free) after.pools := by
  rcases exists_of_bind aborted with ⟨⟨completion, failed⟩, modified, releases⟩
  rcases exists_of_bind releases with ⟨given, released, same⟩
  cases same
  have ended := vacates_modifyEntry modified
  have back := vacates_releaseSlot released
  rw [ended.free_eq] at back
  rw [pools_deliver]
  exact ended.trans back

end Engine

end CompletionEngine
