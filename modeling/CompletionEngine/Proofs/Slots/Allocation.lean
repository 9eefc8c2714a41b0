import CompletionEngine.Proofs.Slots.Tags

/-!
# Tag tables hand out the least free tag

What a tag table stands for is a map from tags to references. This file says what each demand on such
a map may reply and leave behind (`Serves`), without blocks and bitmaps, and shows that a table which
started without tags answers every sequence of demands as its map does.

The table itself grows by whole blocks, and only when every tag it holds is in use. So it is as large
as the most tags that were ever in use at once make it, rounded up to a block.
-/

namespace CompletionEngine.TagTable

variable {ρ : Type}

/-- What can be asked of a tag table. -/
inductive Demand (ρ : Type) where
  | register (reference : ρ)
  | resolve (tag : UInt32)
  | lookup (tag : UInt32)
  | drain

/-- What a tag table replies. -/
inductive Reply (ρ : Type) where
  | issued (tag : UInt32)
  | resolved (reference : ρ)
  | faulted (fault : Fault)
  | found (reference : Option ρ)
  | drained (bindings : List (UInt32 × ρ))
  deriving DecidableEq

/-- The reply to a demand, and the table afterwards. A demand at fault leaves the table alone. -/
def serve (demand : Demand ρ) (table : TagTable ρ) : Reply ρ × TagTable ρ :=
  match demand with
  | .register reference => ((.issued (table.register reference).1), (table.register reference).2)
  | .resolve tag =>
    match table.resolve tag with
    | .ok (reference, resolved) => (.resolved reference, resolved)
    | .error fault => (.faulted fault, table)
  | .lookup tag => (.found (table.lookup? tag), table)
  | .drain => (.drained table.drain.1, table.drain.2)

/-- What a map from tags to references may reply to a demand, and the map afterwards. -/
inductive Serves (map : UInt32 → Option ρ) : Demand ρ → Reply ρ → (UInt32 → Option ρ) → Prop
  | register {tag : UInt32} (reference : ρ) (least : IsLeast {free | map free = none} tag) :
    Serves map (.register reference) (.issued tag) (Function.update map tag (some reference))
  | resolve {tag : UInt32} {reference : ρ} (bound : map tag = some reference) :
    Serves map (.resolve tag) (.resolved reference) (Function.update map tag none)
  | unknown {tag : UInt32} (free : map tag = none) :
    Serves map (.resolve tag) (.faulted (.unknownTag tag)) map
  | lookup (tag : UInt32) : Serves map (.lookup tag) (.found (map tag)) map
  | drain {bindings : List (UInt32 × ρ)}
    (ascending : bindings.Pairwise fun left right => left.1 < right.1)
    (complete : ∀ tag reference, (tag, reference) ∈ bindings ↔ map tag = some reference) :
    Serves map .drain (.drained bindings) fun _ => none

/-- What a map from tags to references may reply to demands one after the other, and the map
afterwards. -/
inductive ServesAll : (UInt32 → Option ρ) → List (Demand ρ) → List (Reply ρ) →
    (UInt32 → Option ρ) → Prop
  | nil (map : UInt32 → Option ρ) : ServesAll map [] [] map
  | concat {start map after : UInt32 → Option ρ} {demands : List (Demand ρ)}
    {replies : List (Reply ρ)} {demand : Demand ρ} {reply : Reply ρ}
    (earlier : ServesAll start demands replies map) (last : Serves map demand reply after) :
    ServesAll start (demands ++ [demand]) (replies ++ [reply]) after

section History

/-- The replies of a table that started without tags, and the table after them. -/
def history (demands : List (Demand ρ)) : List (Reply ρ) × TagTable ρ :=
  demands.foldl (fun (replies, table) demand =>
    (replies ++ [(table.serve demand).1], (table.serve demand).2)) ([], new)

/-- What a table that started without tags has replied. -/
def replies (demands : List (Demand ρ)) : List (Reply ρ) := (history demands).1

/-- A table that started without tags, after some demands. -/
def after (demands : List (Demand ρ)) : TagTable ρ := (history demands).2

/-- The most tags that were in use at once. -/
def peak (demands : List (Demand ρ)) : ℕ :=
  (demands.inits.map fun earlier => (after earlier).live).foldr max 0

/-- Tags do not run out: whenever one is asked for, fewer than all are in use. -/
def Spares (demands : List (Demand ρ)) : Prop :=
  ∀ earlier reference, earlier ++ [.register reference] <+: demands →
    (after earlier).live < UInt32.size

theorem after_concat (demands : List (Demand ρ)) (demand : Demand ρ) :
    after (demands ++ [demand]) = ((after demands).serve demand).2 := by
  rw [after, history, List.foldl_append]
  rfl

theorem replies_concat (demands : List (Demand ρ)) (demand : Demand ρ) :
    replies (demands ++ [demand]) = replies demands ++ [((after demands).serve demand).1] := by
  rw [replies, history, List.foldl_append]
  rfl

theorem peak_concat (demands : List (Demand ρ)) (demand : Demand ρ) :
    peak (demands ++ [demand]) = max (peak demands) (after (demands ++ [demand])).live := by
  have absorb : ∀ (lives : List ℕ) (last : ℕ),
      (lives ++ [last]).foldr max 0 = max (lives.foldr max 0) last := by
    intro lives last
    induction lives with
    | nil => simp
    | cons live lives ih => rw [List.cons_append, List.foldr_cons, ih, List.foldr_cons, max_assoc]
  rw [peak, List.inits_append, List.map_append]
  simpa [peak] using absorb _ _

theorem Spares.of_concat {demands : List (Demand ρ)} {demand : Demand ρ}
    (spares : Spares (demands ++ [demand])) : Spares demands := by
  intro earlier reference before
  exact spares earlier reference (before.trans (List.prefix_append _ _))

theorem Spares.room {demands : List (Demand ρ)} {reference : ρ}
    (spares : Spares (demands ++ [.register reference])) : (after demands).live < UInt32.size :=
  spares demands reference (List.prefix_refl _)

end History

section Maps

variable {table : TagTable ρ}

/-- A map is what a table stands for when it has the same bindings. -/
theorem lookup?_eq_of_mem_bindings (wellFormed : table.WellFormed) {map : UInt32 → Option ρ}
    (same : ∀ tag reference, (tag, reference) ∈ (table.bindings : Multiset (UInt32 × ρ)) ↔
      map tag = some reference) : table.lookup? = map := by
  funext tag
  apply Option.ext
  intro reference
  rw [← same, mem_bindings wellFormed]

theorem lookup?_register_eq_none (wellFormed : table.WellFormed)
    (room : table.live < UInt32.size) (reference : ρ) :
    table.lookup? (table.register reference).1 = none := by
  have fresh := nodup_bindings (wellFormed_register wellFormed room reference)
  rw [bindings_register wellFormed room reference, Multiset.map_cons, Multiset.nodup_cons] at fresh
  rw [Option.eq_none_iff_forall_ne_some]
  intro bound before
  exact fresh.1 (Multiset.mem_map.mpr ⟨_, (mem_bindings wellFormed).mpr before, rfl⟩)

/-- Registering binds one tag, and no other. -/
theorem lookup?_register (wellFormed : table.WellFormed) (room : table.live < UInt32.size)
    (reference : ρ) : (table.register reference).2.lookup? =
      Function.update table.lookup? (table.register reference).1 (some reference) := by
  apply lookup?_eq_of_mem_bindings (wellFormed_register wellFormed room reference)
  intro tag bound
  rw [bindings_register wellFormed room reference, Multiset.mem_cons, Prod.mk.injEq,
    mem_bindings wellFormed]
  by_cases issued : tag = (table.register reference).1
  · subst issued
    simp [lookup?_register_eq_none wellFormed room reference, eq_comm]
  · simp [issued]

theorem isSome_of_set (wellFormed : table.WellFormed) {tag : UInt32} {block : BitVec 64}
    (found : table.occupied[tag.toNat / 64]? = some block) (set : block.getLsbD (tag.toNat % 64)) :
    (table.lookup? tag).isSome := by
  have agree := wellFormed.occupied_eq (tag.toNat / 64) (tag.toNat % 64) (by omega)
  rw [Nat.div_add_mod' tag.toNat 64, found, Option.any_some, set] at agree
  exact agree.symm

theorem getLsbD_of_full {block : BitVec 64} (full : block = BitVec.allOnes 64) (place : ℕ) :
    block.getLsbD (place % 64) := by
  rw [full, BitVec.getLsbD_allOnes, decide_eq_true_eq]
  omega

/-- Every tag below the one that registering takes is in use. -/
theorem isSome_of_lt_register (wellFormed : table.WellFormed) (reference : ρ) {tag : UInt32}
    (below : tag < (table.register reference).1) : (table.lookup? tag).isSome := by
  have below : tag.toNat < (table.register reference).1.toNat := below
  unfold register at below
  split at below
  · rename_i index found
    rcases Array.findIdx?_eq_some_iff_getElem.mp found with ⟨index_lt, notFull, earlierFull⟩
    have notFull : table.occupied[index] ≠ BitVec.allOnes 64 := by simpa using notFull
    have block : table.occupied.getD index 0 = table.occupied[index] := by
      simp [Array.getD, index_lt]
    rcases exists_lowestClear? notFull with ⟨bit, lowest, bit_lt, -⟩
    rw [block, lowest, Option.getD_some, UInt32.toNat_ofNat'] at below
    have below : tag.toNat < index * 64 + bit := below.trans_le (Nat.mod_le _ _)
    by_cases sameBlock : tag.toNat / 64 = index
    · -- In the block itself, the bits below the lowest clear one are set.
      rw [lowestClear?, List.find?_range_eq_some] at lowest
      have set := lowest.2.2 (tag.toNat % 64) (by omega)
      subst sameBlock
      rw [Bool.not_not] at set
      exact isSome_of_set wellFormed (Array.getElem?_eq_getElem index_lt) set
    · -- The blocks before it are full.
      have earlier : tag.toNat / 64 < index := by omega
      have full : table.occupied[tag.toNat / 64] = BitVec.allOnes 64 := by
        simpa using earlierFull _ earlier
      exact isSome_of_set wellFormed (Array.getElem?_eq_getElem (earlier.trans index_lt))
        (getLsbD_of_full full _)
  · rename_i allFull
    rw [UInt32.toNat_ofNat'] at below
    have below : tag.toNat < table.occupied.size * 64 := below.trans_le (Nat.mod_le _ _)
    have inside : tag.toNat / 64 < table.occupied.size := by omega
    have full : table.occupied[tag.toNat / 64] = BitVec.allOnes 64 := by
      simpa using Array.findIdx?_eq_none_iff.mp allFull _ (Array.getElem_mem inside)
    exact isSome_of_set wellFormed (Array.getElem?_eq_getElem inside) (getLsbD_of_full full _)

/-- Registering takes the least tag that is free. -/
theorem isLeast_register (wellFormed : table.WellFormed) (room : table.live < UInt32.size)
    (reference : ρ) : IsLeast {free | table.lookup? free = none} (table.register reference).1 := by
  refine ⟨lookup?_register_eq_none wellFormed room reference, ?_⟩
  intro free isFree
  by_contra above
  have taken := isSome_of_lt_register wellFormed reference (UInt32.not_le.mp above)
  rw [isFree] at taken
  cases taken

/-- Resolving a tag in use tells what it stands for, and frees this tag and no other. -/
theorem resolve_of_lookup? (wellFormed : table.WellFormed) {tag : UInt32} {reference : ρ}
    (bound : table.lookup? tag = some reference) :
    ∃ resolved, table.resolve tag = .ok (reference, resolved) ∧ resolved.WellFormed ∧
      resolved.lookup? = Function.update table.lookup? tag none := by
  rcases Multiset.exists_cons_of_mem ((mem_bindings wellFormed).mpr bound) with ⟨rest, bindings⟩
  rcases resolve_of_bindings wellFormed bindings with ⟨resolved, replied, kept, left⟩
  refine ⟨resolved, replied, kept, lookup?_eq_of_mem_bindings kept ?_⟩
  intro other held
  have once := nodup_bindings wellFormed
  rw [bindings, Multiset.map_cons, Multiset.nodup_cons] at once
  rw [left]
  by_cases same : other = tag
  · subst same
    have gone : (other, held) ∉ rest := fun kept =>
      once.1 (Multiset.mem_map.mpr ⟨_, kept, rfl⟩)
    simp [gone]
  · rw [Function.update_of_ne same, ← mem_bindings wellFormed, bindings]
    simp [same]

theorem lookup?_drain (wellFormed : table.WellFormed) :
    table.drain.2.lookup? = fun _ => none := by
  apply lookup?_eq_of_mem_bindings (wellFormed_drain wellFormed)
  simp [bindings_drain]

theorem pairwise_bindings (wellFormed : table.WellFormed) :
    table.bindings.Pairwise fun left right => left.1 < right.1 := by
  rw [bindings, List.pairwise_filterMap, List.pairwise_iff_getElem]
  intro left right leftInside rightInside before bound boundMem other otherMem
  simp only [List.getElem_zipIdx, Option.map_eq_some_iff, Nat.zero_add] at boundMem otherMem
  rcases boundMem with ⟨_, -, rfl⟩
  rcases otherMem with ⟨_, -, rfl⟩
  have inside : right < table.entries.size := by simpa using rightInside
  rw [UInt32.lt_iff_toNat_lt, wellFormed.toNat_ofNat inside,
    wellFormed.toNat_ofNat (before.trans inside)]
  exact before

/-- The tags in use. -/
def inUse (table : TagTable ρ) : Finset UInt32 := (table.bindings.map Prod.fst).toFinset

theorem mem_inUse (wellFormed : table.WellFormed) {tag : UInt32} :
    tag ∈ table.inUse ↔ (table.lookup? tag).isSome := by
  simp [inUse, Option.isSome_iff_exists, ← mem_bindings wellFormed]

theorem card_inUse (wellFormed : table.WellFormed) : table.inUse.card = table.live := by
  have nodup : (table.bindings.map Prod.fst).Nodup := nodup_bindings wellFormed
  rw [inUse, List.toFinset_card_of_nodup nodup, List.length_map, wellFormed.live_eq]

/-- When every tag below another is in use, at least as many tags are. -/
theorem toNat_le_live (wellFormed : table.WellFormed) {tag : UInt32}
    (taken : ∀ below < tag, (table.lookup? below).isSome) : tag.toNat ≤ table.live := by
  have small : ∀ place < tag.toNat, (UInt32.ofNat place).toNat = place := fun place place_lt =>
    UInt32.toNat_ofNat_of_lt' (place_lt.trans tag.toNat_lt)
  have injective : Set.InjOn UInt32.ofNat (Finset.range tag.toNat) := by
    intro left leftMem right rightMem same
    rw [Finset.coe_range, Set.mem_Iio] at leftMem rightMem
    rw [← small left leftMem, ← small right rightMem, same]
  have covered : (Finset.range tag.toNat).image UInt32.ofNat ⊆ table.inUse := by
    intro below belowMem
    rcases Finset.mem_image.mp belowMem with ⟨place, placeMem, rfl⟩
    rw [Finset.mem_range] at placeMem
    apply (mem_inUse wellFormed).mpr
    apply taken
    rw [UInt32.lt_iff_toNat_lt, small place placeMem]
    exact placeMem
  calc
    tag.toNat = ((Finset.range tag.toNat).image UInt32.ofNat).card := by
      rw [Finset.card_image_of_injOn injective, Finset.card_range]
    _ ≤ table.inUse.card := Finset.card_le_card covered
    _ = table.live := card_inUse wellFormed

end Maps

section Capacity

variable {table : TagTable ρ}

theorem live_le_capacity (wellFormed : table.WellFormed) : table.live ≤ table.capacity := by
  rw [wellFormed.live_eq, bindings]
  exact (List.length_filterMap_le _ _).trans (by simp [capacity])

theorem live_register (table : TagTable ρ) (reference : ρ) :
    (table.register reference).2.live = table.live + 1 := by
  unfold register
  split
  · simp only [occupy]
  · simp only [occupy, grow]

/-- A table grows by a block, and only when every tag it holds is in use. -/
theorem capacity_register (wellFormed : table.WellFormed) (reference : ρ) :
    (table.register reference).2.capacity = table.capacity ∨
      table.live = table.capacity ∧
        (table.register reference).2.capacity = table.capacity + 64 := by
  unfold register
  split
  · exact .inl (by simp [capacity, occupy])
  · rename_i full
    exact .inr ⟨live_eq_size_of_full wellFormed full, by simp [capacity, occupy, grow]⟩

theorem live_resolve_le {tag : UInt32} {reference : ρ} {resolved : TagTable ρ}
    (replied : table.resolve tag = .ok (reference, resolved)) : resolved.live ≤ table.live := by
  unfold resolve at replied
  split at replied
  · cases replied
  · cases replied
    exact Nat.sub_le _ _

theorem capacity_resolve {tag : UInt32} {reference : ρ} {resolved : TagTable ρ}
    (replied : table.resolve tag = .ok (reference, resolved)) :
    resolved.capacity = table.capacity := by
  unfold resolve at replied
  split at replied
  · cases replied
  · cases replied
    simp [capacity]

/-- Whether a table is just as large as so many tags make it that were in use at once. -/
def FitsPeak (most : ℕ) (table : TagTable ρ) : Prop :=
  table.live ≤ most ∧ table.capacity = 64 * ((most + 63) / 64)

theorem FitsPeak.register {most : ℕ} (fits : table.FitsPeak most) (wellFormed : table.WellFormed)
    (room : table.live < UInt32.size) (reference : ρ) :
    (table.register reference).2.FitsPeak (max most (table.register reference).2.live) := by
  have live := live_register table reference
  have held := live_le_capacity (wellFormed_register wellFormed room reference)
  rcases fits with ⟨live_le, capacity⟩
  refine ⟨le_max_right _ _, ?_⟩
  rcases capacity_register wellFormed reference with same | ⟨full, grown⟩
  · omega
  · omega

/-- A table that gets no new tag stays as large as it is. -/
theorem FitsPeak.of_live_le {most : ℕ} {other : TagTable ρ} (fits : table.FitsPeak most)
    (fewer : other.live ≤ table.live) (same : other.capacity = table.capacity) :
    other.FitsPeak (max most other.live) := by
  rcases fits with ⟨live_le, capacity⟩
  refine ⟨le_max_right _ _, ?_⟩
  rw [max_eq_left (fewer.trans live_le), same, capacity]

end Capacity

section Runs

/-- What holds of a table after some demands. -/
structure Kept (demands : List (Demand ρ)) : Prop where
  wellFormed : (after demands).WellFormed
  fits : (after demands).FitsPeak (peak demands)
  served : ServesAll (fun _ => none) demands (replies demands) (after demands).lookup?
  issued_lt : ∀ tag, .issued tag ∈ replies demands → tag.toNat < peak demands

theorem kept_nil : Kept ([] : List (Demand ρ)) where
  wellFormed := wellFormed_new
  fits := ⟨Nat.zero_le _, by simp [peak, after, history, new, capacity]⟩
  served := .nil _
  issued_lt := by simp [replies, history]

/-- One more demand keeps what holds, when the table that it leaves is right and it issues no tag
beyond the peak. -/
theorem Kept.concat {demands : List (Demand ρ)} {demand : Demand ρ} (kept : Kept demands)
    (wellFormed : ((after demands).serve demand).2.WellFormed)
    (fits : ((after demands).serve demand).2.FitsPeak
      (max (peak demands) ((after demands).serve demand).2.live))
    (served : Serves (after demands).lookup? demand ((after demands).serve demand).1
      ((after demands).serve demand).2.lookup?)
    (issued_lt : ∀ tag, ((after demands).serve demand).1 = .issued tag →
      tag.toNat < ((after demands).serve demand).2.live) : Kept (demands ++ [demand]) where
  wellFormed := by rwa [after_concat]
  fits := by rwa [peak_concat, after_concat]
  served := by
    rw [replies_concat, after_concat]
    exact .concat kept.served served
  issued_lt := by
    intro tag issued
    rw [peak_concat, after_concat, lt_max_iff]
    rw [replies_concat, List.mem_append, List.mem_singleton] at issued
    rcases issued with before | now
    · exact .inl (kept.issued_lt tag before)
    · exact .inr (issued_lt tag now.symm)

theorem kept_concat {demands : List (Demand ρ)} (kept : Kept demands) (demand : Demand ρ)
    (spares : Spares (demands ++ [demand])) : Kept (demands ++ [demand]) := by
  have wellFormed := kept.wellFormed
  cases demand with
  | register reference =>
      have room := spares.room
      refine kept.concat (wellFormed_register wellFormed room reference)
        (kept.fits.register wellFormed room reference) ?_ ?_
      · simp only [serve, lookup?_register wellFormed room reference]
        exact .register reference (isLeast_register wellFormed room reference)
      · rintro tag ⟨⟩
        have issued := toNat_le_live wellFormed fun _ => isSome_of_lt_register wellFormed reference
        simp only [serve]
        rw [live_register]
        exact Nat.lt_succ_of_le issued
  | resolve tag =>
      cases bound : (after demands).lookup? tag with
      | none =>
          have replied : (after demands).serve (.resolve tag) =
              (.faulted (.unknownTag tag), after demands) := by simp [serve, resolve, bound]
          apply kept.concat <;> rw [replied]
          · exact wellFormed
          · exact kept.fits.of_live_le le_rfl rfl
          · exact .unknown bound
          · rintro _ ⟨⟩
      | some reference =>
          rcases resolve_of_lookup? wellFormed bound with ⟨resolved, resolves, keptResolved, left⟩
          have replied : (after demands).serve (.resolve tag) = (.resolved reference, resolved) := by
            simp [serve, resolves]
          apply kept.concat <;> rw [replied]
          · exact keptResolved
          · exact kept.fits.of_live_le (live_resolve_le resolves) (capacity_resolve resolves)
          · rw [left]
            exact .resolve bound
          · rintro _ ⟨⟩
  | lookup tag =>
      refine kept.concat wellFormed (kept.fits.of_live_le le_rfl rfl) (.lookup tag) ?_
      rintro _ ⟨⟩
  | drain =>
      refine kept.concat (wellFormed_drain wellFormed)
        (kept.fits.of_live_le (Nat.zero_le _) (by simp [serve, drain, capacity])) ?_ ?_
      · simp only [serve, lookup?_drain wellFormed]
        exact .drain (pairwise_bindings wellFormed) fun tag reference => mem_bindings wellFormed
      · rintro _ ⟨⟩

theorem kept_of_spares {demands : List (Demand ρ)} (spares : Spares demands) : Kept demands := by
  induction demands using List.reverseRecOn with
  | nil => exact kept_nil
  | append_singleton demands demand ih => exact kept_concat (ih spares.of_concat) demand spares

/-- A table that started without tags replies to every sequence of demands as its map does: it issues
the least free tag, tells and frees what is bound, and drains in ascending order. A demand for a tag
that stands for nothing is at fault and leaves the table as it is. The count, the bitmap and the size
of the table say what they should, and no tag reaches the peak. -/
theorem refines_map {demands : List (Demand ρ)} (spares : Spares demands) :
    ServesAll (fun _ => none) demands (replies demands) (after demands).lookup? ∧
      (∀ tag, (after demands).lookup? tag = none →
        (after demands).serve (.resolve tag) = (.faulted (.unknownTag tag), after demands)) ∧
      (after demands).live = {tag | (after demands).lookup? tag ≠ none}.ncard ∧
      (∀ block bit, bit < 64 →
        ((after demands).occupied[block]?.any fun bits => bits.getLsbD bit) =
          ((after demands).entries[64 * block + bit]?).join.isSome) ∧
      (after demands).capacity = 64 * (peak demands ⌈/⌉ 64) ∧
      ∀ tag, .issued tag ∈ replies demands → tag.toNat < peak demands := by
  have kept := kept_of_spares spares
  refine ⟨kept.served, ?_, ?_, ?_, ?_, kept.issued_lt⟩
  · intro tag free
    simp [serve, resolve, free]
  · have inUse :
        {tag | (after demands).lookup? tag ≠ none} = ((after demands).inUse : Set UInt32) := by
      ext tag
      rw [Finset.mem_coe, mem_inUse kept.wellFormed, Option.isSome_iff_ne_none]
      rfl
    rw [inUse, Set.ncard_coe_finset, card_inUse kept.wellFormed]
  · intro block bit bit_lt
    rw [Nat.mul_comm]
    exact kept.wellFormed.occupied_eq block bit bit_lt
  · rw [Nat.ceilDiv_eq_add_pred_div]
    exact kept.fits.2

theorem live_serve_le (table : TagTable ρ) (demand : Demand ρ) :
    (table.serve demand).2.live ≤ table.live + 1 := by
  cases demand with
  | register reference => exact (live_register table reference).le
  | resolve tag =>
      simp only [serve]
      split
      · rename_i resolves
        exact (live_resolve_le resolves).trans (Nat.le_succ _)
      · exact Nat.le_succ _
  | lookup tag => exact Nat.le_succ _
  | drain => exact Nat.zero_le _

theorem live_le_length (demands : List (Demand ρ)) : (after demands).live ≤ demands.length := by
  induction demands using List.reverseRecOn with
  | nil => exact le_rfl
  | append_singleton demands demand ih =>
      rw [after_concat, List.length_append, List.length_singleton]
      exact (live_serve_le _ demand).trans (Nat.succ_le_succ ih)

/-- Tags do not run out within as many demands as there are tags. -/
theorem spares_of_length_le {demands : List (Demand ρ)} (short : demands.length ≤ UInt32.size) :
    Spares demands := by
  intro earlier reference before
  have length := before.length_le
  have live := live_le_length earlier
  rw [List.length_append, List.length_singleton] at length
  omega

/-- A freed tag is issued again before a new one, and one that was never issued is at fault. -/
theorem refines_map_reused_tag :
    let demands : List (Demand ℕ) :=
      [.register 10, .register 11, .resolve 0, .register 12, .resolve 7, .lookup 1, .drain]
    Spares demands ∧
      ServesAll (fun _ => none) demands (replies demands) (after demands).lookup? ∧
      replies demands = [.issued 0, .issued 1, .resolved 10, .issued 0, .faulted (.unknownTag 7),
        .found (some 11), .drained [(0, 12), (1, 11)]] ∧
      peak demands = 2 ∧ (after demands).capacity = 64 := by
  intro demands
  have spares : Spares demands := spares_of_length_le (by decide)
  have refined := refines_map spares
  have highest : peak demands = 2 := by decide +kernel
  refine ⟨spares, refined.1, by decide +kernel, highest, ?_⟩
  rw [refined.2.2.2.2.1, highest]
  rfl

end Runs

end CompletionEngine.TagTable
