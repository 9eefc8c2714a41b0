import CompletionEngine.Slots.Tags
import CompletionEngine.Proofs.Slots.Occupants

/-!
# Tag tables as finite maps

A tag table keeps two representations of the same thing, the entries and the occupancy bitmap, and a
count. `TagTable.WellFormed` says that they agree; every operation keeps it. On well-formed tables
the bindings tell everything: registering adds a binding under a tag that was free, resolving takes
one away, and draining takes all of them.
-/

namespace CompletionEngine.TagTable

variable {ρ : Type}

/-- What is bound at a position. -/
def binding? (table : TagTable ρ) (position : ℕ) : Option ρ := (table.entries[position]?).join

/-- The bitmap and the count say what the entries say, and every position is a tag. -/
structure WellFormed (table : TagTable ρ) : Prop where
  size_entries : table.entries.size = table.occupied.size * 64
  size_le : table.entries.size ≤ UInt32.size
  occupied_eq : ∀ index bit, bit < 64 →
    (table.occupied[index]?.any fun block => block.getLsbD bit) =
      (table.binding? (index * 64 + bit)).isSome
  live_eq : table.live = table.bindings.length

theorem binding?_eq_none_of_size_le {table : TagTable ρ} {position : ℕ}
    (outside : table.entries.size ≤ position) : table.binding? position = none := by
  simp [binding?, outside]

theorem lt_size_of_binding? {table : TagTable ρ} {position : ℕ} {reference : ρ}
    (bound : table.binding? position = some reference) : position < table.entries.size := by
  by_contra outside
  simp [binding?_eq_none_of_size_le (Nat.not_lt.mp outside)] at bound

/-- The bindings are the occupants of the positions. -/
theorem coe_bindings (table : TagTable ρ) :
    (table.bindings : Multiset (UInt32 × ρ)) =
      occupants table.entries.size fun position =>
        (table.binding? position).map fun reference => (UInt32.ofNat position, reference) := by
  rw [bindings, coe_filterMap_zipIdx, Array.length_toList]
  apply occupants_congr
  intro position inside
  simp only [binding?, Array.getElem?_toList]
  cases table.entries[position]? with
  | none => rfl
  | some entry => rfl

theorem WellFormed.toNat_ofNat {table : TagTable ρ} (wellFormed : table.WellFormed) {position : ℕ}
    (inside : position < table.entries.size) : (UInt32.ofNat position).toNat = position :=
  UInt32.toNat_ofNat_of_lt' (inside.trans_le wellFormed.size_le)

/-- A tag stands for what it is bound to. -/
theorem mem_bindings {table : TagTable ρ} (wellFormed : table.WellFormed) {tag : UInt32}
    {reference : ρ} :
    (tag, reference) ∈ (table.bindings : Multiset (UInt32 × ρ)) ↔
      table.lookup? tag = some reference := by
  rw [coe_bindings, mem_occupants]
  constructor
  · rintro ⟨position, inside, found⟩
    simp only [Option.map_eq_some_iff, Prod.mk.injEq] at found
    rcases found with ⟨_, bound, rfl, rfl⟩
    rw [← bound, ← wellFormed.toNat_ofNat inside]
    simp [lookup?, binding?]
  · intro bound
    have bound : table.binding? tag.toNat = some reference := bound
    exact ⟨tag.toNat, lt_size_of_binding? bound, by simp [bound]⟩

theorem nodup_bindings {table : TagTable ρ} (wellFormed : table.WellFormed) :
    ((table.bindings : Multiset (UInt32 × ρ)).map Prod.fst).Nodup := by
  rw [coe_bindings]
  refine nodup_map_occupants UInt32.ofNat ?_ ?_
  · intro position _ value found
    simp only [Option.map_eq_some_iff] at found
    rcases found with ⟨_, _, rfl⟩
    rfl
  · intro left leftInside right rightInside same
    rw [← wellFormed.toNat_ofNat leftInside, ← wellFormed.toNat_ofNat rightInside, same]

theorem isEmpty_iff {table : TagTable ρ} (wellFormed : table.WellFormed) :
    table.isEmpty ↔ (table.bindings : Multiset (UInt32 × ρ)) = 0 := by
  simp [isEmpty, wellFormed.live_eq, List.length_eq_zero_iff]

@[simp]
theorem bindings_new : (new : TagTable ρ).bindings = [] := rfl

theorem wellFormed_new : (new : TagTable ρ).WellFormed where
  size_entries := rfl
  size_le := by simp [new]
  occupied_eq := by simp [new, binding?]
  live_eq := rfl

section Occupy

variable {table : TagTable ρ} {index bit : ℕ} {reference : ρ}

theorem binding?_occupy (inside : index * 64 + bit < table.entries.size) (position : ℕ) :
    (table.occupy index bit reference).binding? position =
      if position = index * 64 + bit then some reference else table.binding? position := by
  simp only [binding?, occupy, Array.getElem?_setIfInBounds]
  by_cases same : index * 64 + bit = position
  · simp [same, same ▸ inside]
  · simp [same, Ne.symm same]

theorem bindings_occupy (reference : ρ) (inside : index * 64 + bit < table.entries.size)
    (free : table.binding? (index * 64 + bit) = none) :
    ((table.occupy index bit reference).bindings : Multiset (UInt32 × ρ)) =
      (UInt32.ofNat (index * 64 + bit), reference) ::ₘ table.bindings := by
  have sameSize : (table.occupy index bit reference).entries.size = table.entries.size := by
    simp [occupy]
  rw [coe_bindings, coe_bindings, sameSize]
  apply occupants_fill inside
  · simp [free]
  · simp [binding?_occupy inside]
  · intro other _ ne
    simp [binding?_occupy inside, ne]

theorem wellFormed_occupy (wellFormed : table.WellFormed) (bit_lt : bit < 64)
    (inside : index * 64 + bit < table.entries.size)
    (free : table.binding? (index * 64 + bit) = none) :
    (table.occupy index bit reference).WellFormed where
  size_entries := by simpa [occupy] using wellFormed.size_entries
  size_le := by simpa [occupy] using wellFormed.size_le
  occupied_eq := by
    intro otherIndex otherBit otherBit_lt
    rw [binding?_occupy inside]
    have before := wellFormed.occupied_eq otherIndex otherBit otherBit_lt
    have index_lt : index < table.occupied.size := by
      have := wellFormed.size_entries
      omega
    simp only [occupy, Array.getElem?_modify]
    by_cases sameIndex : index = otherIndex
    · subst sameIndex
      have block : table.occupied[index]? = some table.occupied[index] := by simp [index_lt]
      simp only [block, Option.any_some] at before
      by_cases sameBit : bit = otherBit
      · subst sameBit
        simp [block, bit_lt]
      · simp [block, BitVec.getLsbD_twoPow, sameBit, Ne.symm sameBit, before]
    · have ne : otherIndex * 64 + otherBit ≠ index * 64 + bit := by omega
      simp [sameIndex, ne, before]
  live_eq := by
    have added := congrArg Multiset.card (bindings_occupy reference inside free)
    simp only [Multiset.coe_card, Multiset.card_cons] at added
    rw [added, ← wellFormed.live_eq]
    rfl

end Occupy

section Grow

variable {table : TagTable ρ}

theorem binding?_grow (position : ℕ) : table.grow.binding? position = table.binding? position := by
  simp only [binding?, grow, Array.getElem?_append, Array.getElem?_replicate]
  split
  · rfl
  · rename_i outside
    rw [Array.getElem?_eq_none (by omega)]
    split <;> rfl

theorem bindings_grow (table : TagTable ρ) :
    (table.grow.bindings : Multiset (UInt32 × ρ)) = table.bindings := by
  have size : table.grow.entries.size = table.entries.size + 64 := by simp [grow]
  rw [coe_bindings, coe_bindings, size]
  simp only [binding?_grow]
  apply occupants_add_of_none
  intro position outside
  simp [binding?_eq_none_of_size_le outside]

theorem wellFormed_grow (wellFormed : table.WellFormed)
    (room : table.entries.size + 64 ≤ UInt32.size) : table.grow.WellFormed where
  size_entries := by
    have := wellFormed.size_entries
    simp only [grow, Array.size_append, Array.size_replicate, Array.size_push]
    omega
  size_le := by
    rw [grow, Array.size_append, Array.size_replicate]
    exact room
  occupied_eq := by
    intro index bit bit_lt
    rw [binding?_grow, ← wellFormed.occupied_eq index bit bit_lt]
    simp only [grow, Array.getElem?_push]
    by_cases last : index = table.occupied.size
    · simp [last]
    · simp [last]
  live_eq := by
    have same := congrArg Multiset.card (bindings_grow table)
    have live : table.grow.live = table.live := by rw [grow]
    simp only [Multiset.coe_card] at same
    rw [live, same, wellFormed.live_eq]

end Grow

section Register

variable {table : TagTable ρ}

theorem exists_lowestClear? {block : BitVec 64} (notFull : block ≠ BitVec.allOnes 64) :
    ∃ bit, lowestClear? block = some bit ∧ bit < 64 ∧ block.getLsbD bit = false := by
  cases found : lowestClear? block with
  | some bit =>
      have clear := List.find?_some found
      have inside := List.mem_of_find?_eq_some found
      exact ⟨bit, rfl, by simpa using inside, by simpa using clear⟩
  | none =>
      exfalso
      apply notFull
      apply BitVec.eq_of_getLsbD_eq
      intro bit bit_lt
      have set := List.find?_eq_none.mp found bit (by simpa using bit_lt)
      rw [BitVec.getLsbD_allOnes]
      simpa only [bit_lt, decide_true, Bool.not_eq_true', Bool.not_eq_false] using set

/-- When no block has a free bit, every position is taken. -/
theorem live_eq_size_of_full (wellFormed : table.WellFormed)
    (full : table.occupied.findIdx? (fun block => block ≠ BitVec.allOnes 64) = none) :
    table.live = table.entries.size := by
  have taken : ∀ position < table.entries.size, (table.binding? position).isSome := by
    intro position inside
    have index_lt : position / 64 < table.occupied.size := by
      have := wellFormed.size_entries
      omega
    have allOnes : table.occupied[position / 64] = BitVec.allOnes 64 := by
      simpa using Array.findIdx?_eq_none_iff.mp full _ (Array.getElem_mem index_lt)
    have bit_lt : position % 64 < 64 := by omega
    have agree := wellFormed.occupied_eq (position / 64) (position % 64) bit_lt
    rw [show position / 64 * 64 + position % 64 = position by omega] at agree
    rw [Array.getElem?_eq_getElem index_lt, allOnes, Option.any_some, BitVec.getLsbD_allOnes] at agree
    simpa [bit_lt] using agree.symm
  have counted := congrArg Multiset.card (coe_bindings table)
  rw [card_occupants_of_full (by simpa using taken)] at counted
  rw [wellFormed.live_eq, ← counted]
  rfl

/-- Registering occupies a free position, after growing the table when there is none. -/
theorem register_eq_occupy (wellFormed : table.WellFormed) (room : table.live < UInt32.size)
    (reference : ρ) :
    ∃ (roomy : TagTable ρ) (index bit : ℕ), roomy.WellFormed ∧
      (roomy.bindings : Multiset (UInt32 × ρ)) = table.bindings ∧ bit < 64 ∧
      index * 64 + bit < roomy.entries.size ∧ roomy.binding? (index * 64 + bit) = none ∧
      table.register reference =
        (UInt32.ofNat (index * 64 + bit), roomy.occupy index bit reference) := by
  unfold register
  split
  · rename_i index found
    rcases Array.findIdx?_eq_some_iff_getElem.mp found with ⟨index_lt, notFull, _⟩
    have notFull : table.occupied[index] ≠ BitVec.allOnes 64 := by simpa using notFull
    rcases exists_lowestClear? notFull with ⟨bit, lowest, bit_lt, clear⟩
    have agree := wellFormed.occupied_eq index bit bit_lt
    have size := wellFormed.size_entries
    have block : table.occupied.getD index 0 = table.occupied[index] := by
      simp [Array.getD, index_lt]
    refine ⟨table, index, bit, wellFormed, rfl, bit_lt, by omega, ?_, ?_⟩
    · simpa [index_lt, clear] using agree.symm
    · simp only [block, lowest, Option.getD_some]
  · rename_i full
    have size := wellFormed.size_entries
    have fits : table.entries.size + 64 ≤ UInt32.size := by
      have taken := live_eq_size_of_full wellFormed full
      have : UInt32.size = 4294967296 := rfl
      omega
    refine ⟨table.grow, table.occupied.size, 0, wellFormed_grow wellFormed fits, bindings_grow table,
      by omega, by simp [grow, size], ?_, rfl⟩
    rw [binding?_grow]
    exact binding?_eq_none_of_size_le (by omega)

theorem wellFormed_register (wellFormed : table.WellFormed) (room : table.live < UInt32.size)
    (reference : ρ) : (table.register reference).2.WellFormed := by
  rcases register_eq_occupy wellFormed room reference with
    ⟨roomy, index, bit, roomyWellFormed, _, bit_lt, inside, free, registered⟩
  rw [registered]
  exact wellFormed_occupy roomyWellFormed bit_lt inside free

theorem bindings_register (wellFormed : table.WellFormed) (room : table.live < UInt32.size)
    (reference : ρ) :
    ((table.register reference).2.bindings : Multiset (UInt32 × ρ)) =
      ((table.register reference).1, reference) ::ₘ table.bindings := by
  rcases register_eq_occupy wellFormed room reference with
    ⟨roomy, index, bit, _, sameBindings, _, inside, free, registered⟩
  rw [registered, bindings_occupy reference inside free, sameBindings]

end Register

section Resolve

variable {table : TagTable ρ} {tag : UInt32} {reference : ρ}

/-- Resolving a bound tag tells what it stood for and takes away just its binding. -/
theorem resolve_of_bindings (wellFormed : table.WellFormed) {rest : Multiset (UInt32 × ρ)}
    (bound : (table.bindings : Multiset (UInt32 × ρ)) = (tag, reference) ::ₘ rest) :
    ∃ resolved, table.resolve tag = .ok (reference, resolved) ∧ resolved.WellFormed ∧
      (resolved.bindings : Multiset (UInt32 × ρ)) = rest := by
  have found : table.lookup? tag = some reference := by
    rw [← mem_bindings wellFormed, bound]
    exact Multiset.mem_cons_self _ _
  have boundHere : table.binding? tag.toNat = some reference := found
  have inside := lt_size_of_binding? boundHere
  refine ⟨_, by rw [resolve, found], ?_⟩
  -- The table that is left gets a name, so that its parts are unfolded only where they matter.
  generalize vacated : TagTable.mk _ _ _ = resolved
  have entries : resolved.entries = table.entries.setIfInBounds tag.toNat none := by
    rw [← vacated]
  have binding : ∀ position, resolved.binding? position =
      if position = tag.toNat then none else table.binding? position := by
    intro position
    simp only [binding?, entries, Array.getElem?_setIfInBounds]
    by_cases same : tag.toNat = position
    · simp [same, same ▸ inside]
    · simp [same, Ne.symm same]
  have removed : (resolved.bindings : Multiset (UInt32 × ρ)) = rest := by
    have refilled : (table.bindings : Multiset (UInt32 × ρ)) =
        (tag, reference) ::ₘ resolved.bindings := by
      rw [coe_bindings, coe_bindings, entries, Array.size_setIfInBounds]
      apply occupants_fill inside
      · simp [binding]
      · simp [boundHere]
      · intro other _ ne
        simp [binding, ne]
    rw [bound, Multiset.cons_inj_right] at refilled
    exact refilled.symm
  refine ⟨⟨?_, ?_, ?_, ?_⟩, removed⟩
  · simpa [← vacated] using wellFormed.size_entries
  · simpa [← vacated] using wellFormed.size_le
  · intro index bit bit_lt
    rw [binding]
    have before := wellFormed.occupied_eq index bit bit_lt
    simp only [← vacated, Array.getElem?_modify]
    by_cases sameIndex : tag.toNat / 64 = index
    · have index_lt : index < table.occupied.size := by
        have := wellFormed.size_entries
        omega
      by_cases sameBit : tag.toNat % 64 = bit
      · have same : index * 64 + bit = tag.toNat := by omega
        simp [sameIndex, index_lt, same, sameBit, bit_lt]
      · have ne : index * 64 + bit ≠ tag.toNat := by omega
        simpa [sameIndex, index_lt, ne, sameBit, Ne.symm sameBit, bit_lt,
          BitVec.getLsbD_twoPow] using before
    · have ne : index * 64 + bit ≠ tag.toNat := by omega
      simp [sameIndex, ne, before]
  · have counted := congrArg Multiset.card bound
    have left := congrArg Multiset.card removed
    have live : resolved.live = table.live - 1 := by rw [← vacated]
    simp only [Multiset.coe_card, Multiset.card_cons] at counted left
    rw [live, wellFormed.live_eq]
    omega

end Resolve

section Drain

variable {table : TagTable ρ}

theorem binding?_drain (position : ℕ) : table.drain.2.binding? position = none := by
  simp only [binding?, drain, Array.getElem?_map]
  cases table.entries[position]? <;> rfl

theorem bindings_drain (table : TagTable ρ) :
    (table.drain.2.bindings : Multiset (UInt32 × ρ)) = 0 := by
  rw [coe_bindings]
  apply occupants_eq_zero
  intro position _
  rw [binding?_drain]
  rfl

theorem wellFormed_drain (wellFormed : table.WellFormed) : table.drain.2.WellFormed where
  size_entries := by simpa [drain] using wellFormed.size_entries
  size_le := by simpa [drain] using wellFormed.size_le
  occupied_eq := by
    intro index bit _
    rw [binding?_drain]
    simp only [drain, Array.getElem?_map]
    cases table.occupied[index]? <;> simp
  live_eq := by
    have none := congrArg Multiset.card (bindings_drain table)
    simp only [Multiset.coe_card, Multiset.card_zero] at none
    rw [none]
    rfl

end Drain

end CompletionEngine.TagTable
