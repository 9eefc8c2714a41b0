import CompletionEngine.Flags.Basic

/-!
# Flag sets bit by bit

A flag set is its word, so what an operation does to sets is what it does to each bit of the words.
A set contains another if it has all of its bits, and is apart from another if they share none.
-/

namespace CompletionEngine.Flags

variable {family : FlagFamily}

theorem eq_iff_getLsbD_eq {left right : Flags family} :
    left = right ↔ ∀ index, left.bits.getLsbD index = right.bits.getLsbD index := by
  constructor
  · rintro rfl index
    rfl
  · intro same
    cases left
    cases right
    exact congrArg Flags.mk (BitVec.eq_of_getLsbD_eq fun index _ => same index)

theorem eq_of_getLsbD_eq {left right : Flags family}
    (same : ∀ index, left.bits.getLsbD index = right.bits.getLsbD index) : left = right :=
  eq_iff_getLsbD_eq.mpr same

section Operations

variable (left right : Flags family) (index : Nat)

theorem getLsbD_empty : (empty : Flags family).bits.getLsbD index = false :=
  BitVec.getLsbD_zero

theorem getLsbD_union :
    (left.union right).bits.getLsbD index =
      (left.bits.getLsbD index || right.bits.getLsbD index) :=
  BitVec.getLsbD_or

theorem getLsbD_intersection :
    (left.intersection right).bits.getLsbD index =
      (left.bits.getLsbD index && right.bits.getLsbD index) :=
  BitVec.getLsbD_and

theorem getLsbD_symmetricDifference :
    (left.symmetricDifference right).bits.getLsbD index =
      (left.bits.getLsbD index ^^ right.bits.getLsbD index) :=
  BitVec.getLsbD_xor

theorem getLsbD_difference :
    (left.difference right).bits.getLsbD index =
      (left.bits.getLsbD index && !right.bits.getLsbD index) := by
  -- Beyond the width a complemented word has no bits either.
  by_cases inside : index < family.width
  · simp [difference, inside]
  · simp [BitVec.getLsbD_of_ge _ _ (Nat.le_of_not_lt inside)]

theorem getLsbD_complement :
    left.complement.bits.getLsbD index =
      (!left.bits.getLsbD index && (all : Flags family).bits.getLsbD index) := by
  by_cases inside : index < family.width
  · simp [complement, truncate, intersection, inside]
  · simp [BitVec.getLsbD_of_ge _ _ (Nat.le_of_not_lt inside)]

theorem intersection_comm : left.intersection right = right.intersection left :=
  congrArg Flags.mk (BitVec.and_comm _ _)

theorem intersects_comm : left.intersects right = right.intersects left := by
  rw [intersects, intersects, intersection_comm]

theorem difference_union (other : Flags family) :
    left.difference (right.union other) = (left.difference right).difference other := by
  apply eq_of_getLsbD_eq
  intro index
  simp only [getLsbD_difference, getLsbD_union, Bool.not_or, Bool.and_assoc]

end Operations

section Comparisons

variable {left right : Flags family}

theorem contains_iff :
    left.contains right = true ↔
      ∀ index, right.bits.getLsbD index = true → left.bits.getLsbD index = true := by
  rw [contains, decide_eq_true_iff, eq_iff_getLsbD_eq]
  apply forall_congr'
  intro index
  rw [getLsbD_intersection, Bool.and_eq_right_iff_imp]

theorem intersects_eq_false_iff :
    left.intersects right = false ↔
      ∀ index, left.bits.getLsbD index = true → right.bits.getLsbD index = false := by
  rw [intersects, decide_eq_false_iff_not, Decidable.not_not, eq_iff_getLsbD_eq]
  apply forall_congr'
  intro index
  rw [getLsbD_intersection, getLsbD_empty]
  cases left.bits.getLsbD index <;> simp

/-- Nothing is left of a set once all of its bits are taken away. -/
theorem difference_eq_empty_iff :
    left.difference right = empty ↔ right.contains left = true := by
  rw [contains_iff, eq_iff_getLsbD_eq]
  apply forall_congr'
  intro index
  rw [getLsbD_difference, getLsbD_empty]
  cases left.bits.getLsbD index <;> simp

end Comparisons

/-- A set contains a single bit if the bit is in it. -/
theorem contains_twoPow (set : Flags family) {index : Nat} (inside : index < family.width) :
    set.contains ⟨BitVec.twoPow family.width index⟩ = set.bits.getLsbD index := by
  rw [Bool.eq_iff_iff, contains_iff]
  simp [inside]

end CompletionEngine.Flags
