import CompletionEngine.Slots.Pools
import CompletionEngine.Slots.Tags
import CompletionEngine.Proofs.Slots.Pool

/-!
# The entries in use over all kinds

A grip is an entry in use together with the reference to its slot. The pools of all kinds hold a
multiset of grips, and what is done to one pool adds a grip, replaces one or takes one away, and
leaves the grips of all other kinds alone.
-/

namespace CompletionEngine

variable {γ : Type}

/-- An entry in use, with the slot it lies in. -/
structure Grip (γ : Type) where
  reference : SlotRef
  entry : Entry reference.kind γ

namespace Pools

theorem nodup_all : Kind.all.Nodup := by decide

theorem mem_all (kind : Kind) : kind ∈ Kind.all := by cases kind <;> decide

@[simp]
theorem get_set_self (pools : Pools γ) (kind : Kind) (pool : Pool kind γ) :
    (pools.set kind pool).get kind = pool := by
  cases kind <;> rfl

@[simp]
theorem get_set_of_ne (pools : Pools γ) {kind other : Kind} (pool : Pool kind γ)
    (ne : other ≠ kind) : (pools.set kind pool).get other = pools.get other := by
  cases kind <;> cases other <;> first | rfl | exact absurd rfl ne

theorem set_get_self (pools : Pools γ) (kind : Kind) : pools.set kind (pools.get kind) = pools := by
  cases kind <;> rfl

theorem get_clear (pools : Pools γ) (kind : Kind) : pools.clear.get kind = (pools.get kind).clear := by
  cases kind <;> rfl

theorem get_new (ceiling : Option ℕ) (kind : Kind) :
    (new ceiling : Pools γ).get kind = Pool.new ceiling := by
  cases kind <;> rfl

@[simp]
theorem heap_set (pools : Pools γ) (kind : Kind) (pool : Pool kind γ) :
    (pools.set kind pool).heap = pools.heap := by
  cases kind <;> rfl

@[simp]
theorem get_growHeap (pools : Pools γ) (kind : Kind) : pools.growHeap.get kind = pools.get kind := by
  cases kind <;> rfl

/-- The pools of all kinds are well-formed. -/
def WellFormed (pools : Pools γ) : Prop := ∀ kind, (pools.get kind).WellFormed

/-- The entries of one kind in use. -/
def gripsOf (kind : Kind) (pool : Pool kind γ) : Multiset (Grip γ) :=
  pool.held.map fun occupant => ⟨⟨kind, occupant.1⟩, occupant.2⟩

/-- The entries in use, over all kinds. -/
def held (pools : Pools γ) : Multiset (Grip γ) :=
  (Kind.all : Multiset Kind).bind fun kind => gripsOf kind (pools.get kind)

/-- The entries in use of all kinds but one. -/
def heldBesides (kind : Kind) (pools : Pools γ) : Multiset (Grip γ) :=
  ((Kind.all : Multiset Kind).erase kind).bind fun other => gripsOf other (pools.get other)

theorem held_eq_add (pools : Pools γ) (kind : Kind) :
    pools.held = gripsOf kind (pools.get kind) + pools.heldBesides kind := by
  have split : (Kind.all : Multiset Kind) = kind ::ₘ (Kind.all : Multiset Kind).erase kind :=
    (Multiset.cons_erase (by simpa using mem_all kind)).symm
  rw [held, split, Multiset.cons_bind]
  rfl

theorem held_set (pools : Pools γ) (kind : Kind) (pool : Pool kind γ) :
    (pools.set kind pool).held = gripsOf kind pool + pools.heldBesides kind := by
  rw [held_eq_add _ kind, get_set_self]
  congr 1
  apply Multiset.bind_congr
  intro other otherMem
  have ne : other ≠ kind := by
    rintro rfl
    exact (Multiset.coe_nodup.mpr nodup_all).notMem_erase otherMem
  rw [get_set_of_ne _ _ ne]

@[simp]
theorem held_growHeap (pools : Pools γ) : pools.growHeap.held = pools.held := by
  simp only [held, get_growHeap]

theorem WellFormed.growHeap {pools : Pools γ} (wellFormed : pools.WellFormed) :
    pools.growHeap.WellFormed := by
  intro kind
  rw [get_growHeap]
  exact wellFormed kind

theorem WellFormed.set {pools : Pools γ} (wellFormed : pools.WellFormed) {kind : Kind}
    {pool : Pool kind γ} (poolWellFormed : pool.WellFormed) : (pools.set kind pool).WellFormed := by
  intro other
  by_cases same : other = kind
  · subst same
    simpa using poolWellFormed
  · simpa [same] using wellFormed other

theorem mem_held {pools : Pools γ} {grip : Grip γ} :
    grip ∈ pools.held ↔
      (grip.reference.slot, grip.entry) ∈ (pools.get grip.reference.kind).held := by
  simp only [held, gripsOf, Multiset.mem_bind, Multiset.mem_coe, Multiset.mem_map]
  constructor
  · rintro ⟨kind, -, ⟨slot, entry⟩, inUse, rfl⟩
    exact inUse
  · intro inUse
    exact ⟨_, mem_all _, _, inUse, rfl⟩

/-- A grip is the only one on its slot. -/
theorem nodup_references {pools : Pools γ} (wellFormed : pools.WellFormed) :
    (pools.held.map Grip.reference).Nodup := by
  have references (kind : Kind) : (gripsOf kind (pools.get kind)).map Grip.reference =
      ((pools.get kind).held.map Prod.fst).map (SlotRef.mk kind) := by
    simp [gripsOf, Multiset.map_map]
  simp only [held, Multiset.map_bind, references, Multiset.nodup_bind]
  constructor
  · intro kind _
    exact (Pool.nodup_held (wellFormed kind)).map fun left right same => (SlotRef.mk.inj same).2
  · refine (Multiset.coe_nodup.mpr nodup_all).pairwise ?_
    intro left _ right _ ne
    rw [Function.onFun, Multiset.disjoint_left]
    intro reference leftMem rightMem
    rcases Multiset.mem_map.mp leftMem with ⟨_, _, rfl⟩
    rcases Multiset.mem_map.mp rightMem with ⟨_, _, same⟩
    exact ne (SlotRef.mk.inj same).1.symm

theorem wellFormed_new (ceiling : Option ℕ) : (new ceiling : Pools γ).WellFormed := by
  intro kind
  rw [get_new]
  exact Pool.wellFormed_new ceiling

@[simp]
theorem held_new (ceiling : Option ℕ) : (new ceiling : Pools γ).held = 0 := by
  simp [held, gripsOf, get_new]

theorem wellFormed_clear (pools : Pools γ) : pools.clear.WellFormed := by
  intro kind
  rw [get_clear]
  exact Pool.wellFormed_clear

@[simp]
theorem held_clear (pools : Pools γ) : pools.clear.held = 0 := by
  simp [held, gripsOf, get_clear]

/-- The count of slots handed out over all kinds is the number of entries in use. -/
theorem card_held {pools : Pools γ} (wellFormed : pools.WellFormed) :
    Multiset.card pools.held = pools.inUse := by
  have counts (kind : Kind) : Multiset.card (gripsOf kind (pools.get kind)) =
      (pools.get kind).statistics.inUse := by
    rw [gripsOf, Multiset.card_map, Pool.inUse_statistics (wellFormed kind)]
  simp only [held, Multiset.card_bind, Function.comp_def, counts, inUse, statistics,
    Multiset.map_coe, Multiset.sum_coe, List.foldr_map, List.sum]

section Alloc

variable {pools : Pools γ} {kind : Kind}

theorem card_pool_le (pools : Pools γ) (kind : Kind) :
    Multiset.card (pools.get kind).held ≤ Multiset.card pools.held := by
  rw [held_eq_add pools kind, Multiset.card_add, gripsOf, Multiset.card_map]
  omega

theorem alloc_of_ok (wellFormed : pools.WellFormed)
    (room : Multiset.card pools.held < UInt32.size) {slot : UInt32}
    {allocated : Pool kind γ} (succeeds : (pools.get kind).alloc = (.ok slot, allocated)) :
    (pools.set kind allocated).WellFormed ∧
      ∃ entry : Entry kind γ, entry.Idle ∧
        (pools.set kind allocated).held = ⟨⟨kind, slot⟩, entry⟩ ::ₘ pools.held := by
  have poolRoom := (card_pool_le pools kind).trans_lt room
  rcases Pool.alloc_of_ok (wellFormed kind) poolRoom succeeds with ⟨poolWellFormed, entry, idle, added⟩
  refine ⟨wellFormed.set poolWellFormed, entry, idle, ?_⟩
  rw [held_set, gripsOf, added, Multiset.map_cons, held_eq_add pools kind, Multiset.cons_add]
  rfl

end Alloc

section Held

variable {pools : Pools γ} {kind : Kind} {slot : UInt32} {entry : Entry kind γ}
  {rest : Multiset (Grip γ)}

/-- The pool of a kind holds what the grip on one of its slots tells, and the rest is elsewhere. -/
theorem held_pool_of_held (inUse : pools.held = ⟨⟨kind, slot⟩, entry⟩ ::ₘ rest) :
    ∃ poolRest, (pools.get kind).held = (slot, entry) ::ₘ poolRest ∧
      rest = poolRest.map (fun occupant => (⟨⟨kind, occupant.1⟩, occupant.2⟩ : Grip γ)) +
        pools.heldBesides kind := by
  have gripMem : (⟨⟨kind, slot⟩, entry⟩ : Grip γ) ∈ pools.held :=
    inUse ▸ Multiset.mem_cons_self _ _
  rcases Multiset.exists_cons_of_mem (mem_held.mp gripMem) with ⟨poolRest, poolHeld⟩
  refine ⟨poolRest, poolHeld, ?_⟩
  rw [held_eq_add pools kind, gripsOf, poolHeld, Multiset.map_cons, Multiset.cons_add,
    Multiset.cons_inj_right] at inUse
  exact inUse.symm

theorem get_of_held (wellFormed : pools.WellFormed)
    (inUse : pools.held = ⟨⟨kind, slot⟩, entry⟩ ::ₘ rest) :
    (pools.get kind).get slot = .ok entry := by
  have gripMem : (⟨⟨kind, slot⟩, entry⟩ : Grip γ) ∈ pools.held :=
    inUse ▸ Multiset.mem_cons_self _ _
  exact Pool.get_of_mem_held (wellFormed kind) (mem_held.mp gripMem)

theorem set_entry_of_held (wellFormed : pools.WellFormed)
    (inUse : pools.held = ⟨⟨kind, slot⟩, entry⟩ ::ₘ rest) (replacement : Entry kind γ) :
    (pools.set kind ((pools.get kind).set slot replacement)).WellFormed ∧
      (pools.set kind ((pools.get kind).set slot replacement)).held =
        ⟨⟨kind, slot⟩, replacement⟩ ::ₘ rest := by
  rcases held_pool_of_held inUse with ⟨poolRest, poolHeld, rfl⟩
  refine ⟨wellFormed.set (Pool.wellFormed_set (wellFormed kind) poolHeld replacement), ?_⟩
  rw [held_set, gripsOf, Pool.held_set (wellFormed kind) poolHeld replacement, Multiset.map_cons,
    Multiset.cons_add]

theorem release_of_held (wellFormed : pools.WellFormed)
    (inUse : pools.held = ⟨⟨kind, slot⟩, entry⟩ ::ₘ rest) (completed : entry.state = .completed) :
    ∃ released, (pools.get kind).release slot = .ok released ∧
      (pools.set kind released).WellFormed ∧ (pools.set kind released).held = rest := by
  rcases held_pool_of_held inUse with ⟨poolRest, poolHeld, rfl⟩
  rcases Pool.release_of_held (wellFormed kind) poolHeld completed with
    ⟨released, releases, releasedWellFormed, releasedHeld⟩
  refine ⟨released, releases, wellFormed.set releasedWellFormed, ?_⟩
  rw [held_set, gripsOf, releasedHeld]

end Held

end Pools

end CompletionEngine
