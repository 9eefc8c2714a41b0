import CompletionEngine.Slots.Pool
import CompletionEngine.Proofs.Slots.Entry
import CompletionEngine.Proofs.Slots.Occupants

/-!
# Slot pools as multisets of entries in use

What a pool has handed out, whatever the order of the slots, is the multiset of its entries in use,
each with its slot. On well-formed pools, where the free slots are distinct and hold idle entries,
an allocation adds one idle entry to it, an action on a slot in use replaces one, and giving a slot
back takes one away.
-/

namespace CompletionEngine

variable {kind : Kind} {γ : Type}

namespace Pool

/-- What a place of the pool holds when its slot is in use. -/
def inUse? (pool : Pool kind γ) (place : ℕ) : Option (UInt32 × Entry kind γ) :=
  if UInt32.ofNat place ∈ pool.free then none
  else (pool.entries[place]?).map fun entry => (UInt32.ofNat place, entry)

/-- The entries in use, each with its slot. -/
def held (pool : Pool kind γ) : Multiset (UInt32 × Entry kind γ) :=
  occupants pool.entries.size pool.inUse?

/-- Free slots are distinct and hold idle entries, and every place is a slot. -/
structure WellFormed (pool : Pool kind γ) : Prop where
  nodup : pool.free.Nodup
  idle : ∀ slot ∈ pool.free, ∃ entry, pool.entries[slot.toNat]? = some entry ∧ entry.Idle
  size_le : pool.entries.size ≤ UInt32.size

variable {pool : Pool kind γ}

theorem WellFormed.toNat_ofNat (wellFormed : pool.WellFormed) {place : ℕ}
    (inside : place < pool.entries.size) : (UInt32.ofNat place).toNat = place :=
  UInt32.toNat_ofNat_of_lt' (inside.trans_le wellFormed.size_le)

theorem mem_held (wellFormed : pool.WellFormed) {slot : UInt32} {entry : Entry kind γ} :
    (slot, entry) ∈ pool.held ↔
      slot ∉ pool.free ∧ pool.entries[slot.toNat]? = some entry := by
  simp only [held, mem_occupants, inUse?]
  constructor
  · rintro ⟨place, inside, found⟩
    split at found
    · simp at found
    · rename_i notFree
      simp only [Option.map_eq_some_iff, Prod.mk.injEq] at found
      rcases found with ⟨_, here, rfl, rfl⟩
      exact ⟨notFree, by rw [wellFormed.toNat_ofNat inside, here]⟩
  · rintro ⟨notFree, here⟩
    rcases Array.getElem?_eq_some_iff.mp here with ⟨inside, _⟩
    exact ⟨slot.toNat, inside, by simp [notFree, here]⟩

theorem nodup_held (wellFormed : pool.WellFormed) : (pool.held.map Prod.fst).Nodup := by
  refine nodup_map_occupants UInt32.ofNat ?_ ?_
  · intro place _ value found
    simp only [inUse?] at found
    split at found
    · simp at found
    · simp only [Option.map_eq_some_iff] at found
      rcases found with ⟨_, _, rfl⟩
      rfl
  · intro left leftInside right rightInside same
    rw [← wellFormed.toNat_ofNat leftInside, ← wellFormed.toNat_ofNat rightInside, same]

theorem wellFormed_new (ceiling : Option ℕ) : (new ceiling : Pool kind γ).WellFormed where
  nodup := List.nodup_nil
  idle := by simp [new]
  size_le := by simp [new]

@[simp]
theorem held_new (ceiling : Option ℕ) : (new ceiling : Pool kind γ).held = 0 := rfl

theorem wellFormed_clear : pool.clear.WellFormed where
  nodup := List.nodup_nil
  idle := by simp [clear]
  size_le := by simp [clear]

@[simp]
theorem held_clear : pool.clear.held = 0 := rfl

theorem get_of_mem_held (wellFormed : pool.WellFormed) {slot : UInt32} {entry : Entry kind γ}
    (inUse : (slot, entry) ∈ pool.held) : pool.get slot = .ok entry := by
  simp [get, ((mem_held wellFormed).mp inUse).2]

theorem ofNat_ne_of_ne (wellFormed : pool.WellFormed) {place : ℕ} {slot : UInt32}
    (inside : place < pool.entries.size) (ne : place ≠ slot.toNat) : UInt32.ofNat place ≠ slot := by
  intro same
  exact ne (by rw [← same, wellFormed.toNat_ofNat inside])

/-- The slots in use and the free slots are all there are. -/
theorem map_held_add_free (wellFormed : pool.WellFormed) :
    pool.held.map Prod.fst + pool.free = (Multiset.range pool.entries.size).map UInt32.ofNat := by
  have slots : ((Multiset.range pool.entries.size).map UInt32.ofNat).Nodup := by
    refine Multiset.Nodup.map_on ?_ (Multiset.nodup_range _)
    intro left leftMem right rightMem same
    rw [← wellFormed.toNat_ofNat (Multiset.mem_range.mp leftMem),
      ← wellFormed.toNat_ofNat (Multiset.mem_range.mp rightMem), same]
  have parts : (pool.held.map Prod.fst + (pool.free : Multiset UInt32)).Nodup := by
    refine Multiset.nodup_add.mpr ⟨nodup_held wellFormed, wellFormed.nodup, ?_⟩
    rw [Multiset.disjoint_left]
    intro slot slotHeld slotFree
    rcases Multiset.mem_map.mp slotHeld with ⟨⟨_, entry⟩, inUse, rfl⟩
    exact ((mem_held wellFormed).mp inUse).1 slotFree
  -- Neither side lists a slot twice, so it is enough that they list the same slots.
  rw [parts.ext slots]
  intro slot
  simp only [Multiset.mem_add, Multiset.mem_map, Multiset.mem_coe, Multiset.mem_range]
  constructor
  · rintro (⟨⟨_, entry⟩, inUse, rfl⟩ | free)
    · rcases Array.getElem?_eq_some_iff.mp ((mem_held wellFormed).mp inUse).2 with ⟨inside, _⟩
      exact ⟨_, inside, UInt32.ofNat_toNat⟩
    · rcases wellFormed.idle slot free with ⟨_, here, _⟩
      rcases Array.getElem?_eq_some_iff.mp here with ⟨inside, _⟩
      exact ⟨_, inside, UInt32.ofNat_toNat⟩
  · rintro ⟨place, inside, rfl⟩
    by_cases free : UInt32.ofNat place ∈ pool.free
    · exact Or.inr free
    · refine Or.inl ⟨(UInt32.ofNat place, pool.entries[place]), ?_, rfl⟩
      exact (mem_held wellFormed).mpr ⟨free, by simp [wellFormed.toNat_ofNat inside, inside]⟩

theorem card_held_add_length_free (wellFormed : pool.WellFormed) :
    Multiset.card pool.held + pool.free.length = pool.entries.size := by
  simpa using congrArg Multiset.card (map_held_add_free wellFormed)

/-- The count of slots handed out is the number of entries in use. -/
theorem inUse_statistics (wellFormed : pool.WellFormed) :
    pool.statistics.inUse = Multiset.card pool.held := by
  have counted := card_held_add_length_free wellFormed
  simp only [statistics, PoolStatistics.inUse]
  omega

section Alloc

/-- Handing out the slot on top of the free stack puts its idle entry to use. -/
theorem held_of_free_cons (wellFormed : pool.WellFormed) {slot : UInt32} {rest : List UInt32}
    (free : pool.free = slot :: rest) :
    ∃ entry : Entry kind γ, entry.Idle ∧
      ({ pool with free := rest } : Pool kind γ).held = (slot, entry) ::ₘ pool.held := by
  rcases wellFormed.idle slot (by simp [free]) with ⟨entry, here, idle⟩
  rcases Array.getElem?_eq_some_iff.mp here with ⟨inside, _⟩
  have notAgain : slot ∉ rest := by
    have := wellFormed.nodup
    rw [free] at this
    exact (List.nodup_cons.mp this).1
  refine ⟨entry, idle, occupants_fill inside ?_ ?_ ?_⟩
  · simp [inUse?, free]
  · simp [inUse?, notAgain, here]
  · intro place placeInside ne
    simp [inUse?, free, ofNat_ne_of_ne wellFormed placeInside ne]

/-- Growing a pool without free slots puts a fresh entry to use. -/
theorem held_push_fresh (free : pool.free = []) :
    ({ pool with entries := pool.entries.push .fresh } : Pool kind γ).held =
      (UInt32.ofNat pool.entries.size, .fresh) ::ₘ pool.held := by
  have last : inUse? { pool with entries := pool.entries.push .fresh } pool.entries.size =
      some (UInt32.ofNat pool.entries.size, .fresh) := by
    simp [inUse?, free]
  rw [held, Array.size_push, occupants_succ_of_some last]
  congr 1
  apply occupants_congr
  intro place inside
  simp [inUse?, free, Array.getElem?_push, inside.ne]

/-- An allocation that succeeds puts one idle entry to use. -/
theorem alloc_of_ok (wellFormed : pool.WellFormed)
    (room : Multiset.card pool.held < UInt32.size) {slot : UInt32} {allocated : Pool kind γ}
    (succeeds : pool.alloc = (.ok slot, allocated)) :
    allocated.WellFormed ∧
      ∃ entry : Entry kind γ, entry.Idle ∧ allocated.held = (slot, entry) ::ₘ pool.held := by
  unfold alloc at succeeds
  split at succeeds
  · rename_i top rest free
    simp only [Prod.mk.injEq, Except.ok.injEq] at succeeds
    rcases succeeds with ⟨rfl, rfl⟩
    refine ⟨⟨?_, ?_, wellFormed.size_le⟩, held_of_free_cons wellFormed free⟩
    · have := wellFormed.nodup
      rw [free] at this
      exact (List.nodup_cons.mp this).2
    · intro slot slotFree
      exact wellFormed.idle slot (by simp [free, slotFree])
  · rename_i free
    split at succeeds
    · simp at succeeds
    · simp only [Prod.mk.injEq, Except.ok.injEq] at succeeds
      rcases succeeds with ⟨rfl, rfl⟩
      have counted := card_held_add_length_free wellFormed
      refine ⟨⟨?_, ?_, ?_⟩, .fresh, Entry.idle_fresh, held_push_fresh free⟩
      · simp [free]
      · simp [free]
      · simp only [free, List.length_nil, Nat.add_zero] at counted
        rw [Array.size_push]
        omega

end Alloc

/-- A slot that is free cannot be given back once more. -/
theorem release_of_free (wellFormed : pool.WellFormed) {slot : UInt32} (free : slot ∈ pool.free) :
    pool.release slot = .error (.releasedTwice kind slot) := by
  rcases wellFormed.idle slot free with ⟨entry, here, idle⟩
  have got : pool.get slot = .ok entry := by simp [get, here]
  have turn : entry.state ∈ [EntryState.free, .completed] := by simp [idle.state_eq]
  simp [release, got, Entry.close, Entry.expect_of_mem turn, bind, Except.bind, set, free]

/-- A slot that is given back has its entry recycled, and lies on top of the free ones. -/
theorem exists_of_release {released : Pool kind γ} {slot : UInt32}
    (gives : pool.release slot = .ok released) :
    ∃ entry recycled, pool.get slot = .ok entry ∧ entry.close = .ok recycled ∧
      released = { pool.set slot recycled with free := slot :: pool.free } := by
  rcases exists_of_bind gives with ⟨entry, got, recycles⟩
  rcases exists_of_bind recycles with ⟨recycled, closed, given⟩
  refine ⟨entry, recycled, got, closed, ?_⟩
  dsimp only at given
  split at given
  · cases given
  · cases given
    rfl

section Held

variable {slot : UInt32} {entry : Entry kind γ} {rest : Multiset (UInt32 × Entry kind γ)}

theorem entry_of_held_cons (wellFormed : pool.WellFormed)
    (inUse : pool.held = (slot, entry) ::ₘ rest) :
    slot ∉ pool.free ∧ pool.entries[slot.toNat]? = some entry :=
  (mem_held wellFormed).mp (inUse ▸ Multiset.mem_cons_self _ _)

theorem wellFormed_set (wellFormed : pool.WellFormed) (inUse : pool.held = (slot, entry) ::ₘ rest)
    (replacement : Entry kind γ) : (pool.set slot replacement).WellFormed where
  nodup := wellFormed.nodup
  idle := by
    intro free freeMem
    rcases wellFormed.idle free freeMem with ⟨idleEntry, here, idle⟩
    refine ⟨idleEntry, ?_, idle⟩
    have ne : slot.toNat ≠ free.toNat := by
      intro same
      exact (entry_of_held_cons wellFormed inUse).1 (UInt32.toNat_inj.mp same ▸ freeMem)
    simpa [set, Array.getElem?_setIfInBounds, ne] using here
  size_le := by simpa [set] using wellFormed.size_le

theorem held_set (wellFormed : pool.WellFormed) (inUse : pool.held = (slot, entry) ::ₘ rest)
    (replacement : Entry kind γ) :
    (pool.set slot replacement).held = (slot, replacement) ::ₘ rest := by
  rcases entry_of_held_cons wellFormed inUse with ⟨notFree, here⟩
  rcases Array.getElem?_eq_some_iff.mp here with ⟨inside, _⟩
  have size : (pool.set slot replacement).entries.size = pool.entries.size := by simp [set]
  rw [held, size]
  refine occupants_refill inside (slot, entry) ?_ ?_ ?_ inUse
  · simp [inUse?, notFree, here]
  · simp [inUse?, set, notFree, inside]
  · intro other _ ne
    simp [inUse?, set, Ne.symm ne]

/-- Giving back a slot takes just its entry out of use, when this can be closed. -/
theorem release_of_closed (wellFormed : pool.WellFormed)
    (inUse : pool.held = (slot, entry) ::ₘ rest) {closed : Entry kind γ}
    (closes : entry.close = .ok closed) (idle : closed.Idle) :
    let released : Pool kind γ := { pool.set slot closed with free := slot :: pool.free }
    pool.release slot = .ok released ∧ released.WellFormed ∧ released.held = rest := by
  intro released
  rcases entry_of_held_cons wellFormed inUse with ⟨notFree, here⟩
  rcases Array.getElem?_eq_some_iff.mp here with ⟨inside, _⟩
  have got := get_of_mem_held wellFormed (inUse ▸ Multiset.mem_cons_self (slot, entry) rest)
  have setWellFormed := wellFormed_set wellFormed inUse closed
  refine ⟨?_, ⟨?_, ?_, ?_⟩, ?_⟩
  · simp [released, release, got, closes, bind, Except.bind, set, notFree]
  · exact List.nodup_cons.mpr ⟨notFree, wellFormed.nodup⟩
  · intro free freeMem
    rcases List.mem_cons.mp freeMem with rfl | freeMem
    · exact ⟨closed, by simp [released, set, inside], idle⟩
    · exact setWellFormed.idle free freeMem
  · exact setWellFormed.size_le
  · have fills : (pool.set slot closed).held = (slot, closed) ::ₘ released.held := by
      have place : slot.toNat < (pool.set slot closed).entries.size := by simpa [set] using inside
      refine occupants_fill place ?_ ?_ ?_
      · simp [inUse?, released]
      · simp [inUse?, set, notFree, inside]
      · intro other otherInside ne
        have otherSlot := ofNat_ne_of_ne setWellFormed otherInside ne
        by_cases free : UInt32.ofNat other ∈ pool.free <;>
          simp [inUse?, released, set, otherSlot, free]
    rw [held_set wellFormed inUse, Multiset.cons_inj_right] at fills
    exact fills.symm

/-- Giving back a slot whose entry has completed takes just this entry out of use. -/
theorem release_of_held (wellFormed : pool.WellFormed) (inUse : pool.held = (slot, entry) ::ₘ rest)
    (completed : entry.state = .completed) :
    ∃ released, pool.release slot = .ok released ∧ released.WellFormed ∧
      released.held = rest := by
  rcases Entry.close_of_completed completed with ⟨closed, closes, idle⟩
  exact ⟨_, release_of_closed wellFormed inUse closes idle⟩

end Held

end Pool

end CompletionEngine
