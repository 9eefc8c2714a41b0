import Mathlib

/-!
# Occupants of numbered places

Tag tables and slot pools both keep things at numbered places, some of which are empty. What such a
structure holds, whatever the order of the places, is the multiset of its occupants. This file says
how that multiset changes when one place is filled, emptied or filled anew, and when places are
added at the end.
-/

namespace CompletionEngine

variable {β : Type}

/-- What stands at the first `size` places. -/
def occupants (size : ℕ) (at? : ℕ → Option β) : Multiset β := (Multiset.range size).filterMap at?

@[simp]
theorem mem_occupants {size : ℕ} {at? : ℕ → Option β} {value : β} :
    value ∈ occupants size at? ↔ ∃ place < size, at? place = some value := by
  simp [occupants, Multiset.mem_filterMap]

theorem occupants_eq_zero {size : ℕ} {at? : ℕ → Option β}
    (empty : ∀ place < size, at? place = none) : occupants size at? = 0 := by
  apply Multiset.eq_zero_of_forall_notMem
  intro value valueMem
  rcases mem_occupants.mp valueMem with ⟨place, inside, found⟩
  simp [empty place inside] at found

theorem filterMap_congr_of_mem {places : Multiset ℕ} {left right : ℕ → Option β}
    (agree : ∀ place ∈ places, left place = right place) :
    places.filterMap left = places.filterMap right := by
  induction places using Quotient.inductionOn with
  | h places => exact congrArg _ (List.filterMap_congr (by simpa using agree))

theorem occupants_congr {size : ℕ} {left right : ℕ → Option β}
    (agree : ∀ place < size, left place = right place) :
    occupants size left = occupants size right :=
  filterMap_congr_of_mem (by simpa using agree)

theorem occupants_succ_of_some {size : ℕ} {at? : ℕ → Option β} {value : β}
    (found : at? size = some value) :
    occupants (size + 1) at? = value ::ₘ occupants size at? := by
  simp [occupants, Multiset.range_succ, Multiset.filterMap_cons_some _ _ _ found]

theorem occupants_add_of_none {size extra : ℕ} {at? : ℕ → Option β}
    (empty : ∀ place, size ≤ place → at? place = none) :
    occupants (size + extra) at? = occupants size at? := by
  induction extra with
  | zero => rfl
  | succ extra ih =>
      have last := empty (size + extra) (by omega)
      rw [← Nat.add_assoc]
      simpa [occupants, Multiset.range_succ, Multiset.filterMap_cons_none _ _ last] using ih

theorem card_occupants_of_full {size : ℕ} {at? : ℕ → Option β}
    (full : ∀ place < size, (at? place).isSome) : Multiset.card (occupants size at?) = size := by
  induction size with
  | zero => rfl
  | succ size ih =>
      rcases Option.isSome_iff_exists.mp (full size (by omega)) with ⟨value, found⟩
      rw [occupants_succ_of_some found, Multiset.card_cons, ih fun place inside => full place (by omega)]

/-- What a list holds, each element seen together with its place. -/
theorem coe_filterMap_zipIdx {α : Type} (list : List α) (see : α × ℕ → Option β) :
    (list.zipIdx.filterMap see : Multiset β) =
      occupants list.length fun place => list[place]?.bind fun element => see (element, place) := by
  induction list using List.reverseRecOn with
  | nil => rfl
  | append_singleton list last ih =>
      have front : occupants list.length (fun place =>
            (list ++ [last])[place]?.bind fun element => see (element, place)) =
          occupants list.length fun place =>
            list[place]?.bind fun element => see (element, place) := by
        apply occupants_congr
        intro place inside
        simp [List.getElem?_append_left inside]
      rw [List.zipIdx_append, List.filterMap_append, ← Multiset.coe_add, ih, List.length_append,
        ← front]
      cases seen : see (last, list.length) with
      | none => simp [occupants, Multiset.range_succ, seen]
      | some value => simp [occupants, Multiset.range_succ, seen, add_comm]

theorem occupants_fill {size place : ℕ} {before after : ℕ → Option β} {value : β}
    (inside : place < size) (empty : before place = none) (filled : after place = some value)
    (agree : ∀ other < size, other ≠ place → after other = before other) :
    occupants size after = value ::ₘ occupants size before := by
  have split : Multiset.range size = place ::ₘ (Multiset.range size).erase place :=
    (Multiset.cons_erase (by simpa using inside)).symm
  have elsewhere : ∀ other ∈ (Multiset.range size).erase place, after other = before other := by
    intro other otherMem
    apply agree other (by simpa using Multiset.mem_of_mem_erase otherMem)
    rintro rfl
    exact (Multiset.nodup_range size).notMem_erase otherMem
  unfold occupants
  rw [split, Multiset.filterMap_cons_some _ _ _ filled, Multiset.filterMap_cons_none _ _ empty,
    filterMap_congr_of_mem elsewhere]

theorem occupants_refill {size place : ℕ} {before after : ℕ → Option β} {new : β}
    {rest : Multiset β} (inside : place < size) (old : β) (occupied : before place = some old)
    (filled : after place = some new)
    (agree : ∀ other < size, other ≠ place → after other = before other)
    (held : occupants size before = old ::ₘ rest) :
    occupants size after = new ::ₘ rest := by
  -- Both states fill the place in the same state without it, so what else they hold is the same.
  let vacated : ℕ → Option β := Function.update before place none
  have vacant : vacated place = none := by simp [vacated]
  have beforeFills : occupants size before = old ::ₘ occupants size vacated :=
    occupants_fill inside vacant occupied fun other _ ne => by simp [vacated, ne]
  have afterFills : occupants size after = new ::ₘ occupants size vacated :=
    occupants_fill inside vacant filled fun other otherInside ne => by
      simp [vacated, ne, agree other otherInside ne]
  rw [held, Multiset.cons_inj_right] at beforeFills
  rw [afterFills, beforeFills]

/-- Occupants that bear the number of their place are all different. -/
theorem nodup_map_occupants {ν : Type} {size : ℕ} {at? : ℕ → Option β} {number : β → ν}
    (name : ℕ → ν) (numbered : ∀ place < size, ∀ value, at? place = some value →
      number value = name place)
    (injective : ∀ left < size, ∀ right < size, name left = name right → left = right) :
    ((occupants size at?).map number).Nodup := by
  have places : (occupants size at?).map number =
      ((Multiset.range size).filter fun place => (at? place).isSome).map name := by
    unfold occupants
    rw [Multiset.map_filterMap, ← Multiset.filterMap_eq_map, Multiset.filterMap_filter]
    apply filterMap_congr_of_mem
    intro place inside
    cases found : at? place with
    | none => simp
    | some value => simp [numbered place (by simpa using inside) value found]
  rw [places]
  refine Multiset.Nodup.map_on ?_ ((Multiset.nodup_range size).filter _)
  intro left leftMem right rightMem
  simp only [Multiset.mem_filter, Multiset.mem_range] at leftMem rightMem
  exact injective left leftMem.1 right rightMem.1

end CompletionEngine
