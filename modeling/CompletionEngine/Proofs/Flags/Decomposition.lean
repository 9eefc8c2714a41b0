import CompletionEngine.Flags.Catalogue
import CompletionEngine.Proofs.Flags.Bits
import Mathlib

/-!
# Flag sets lose nothing

Decomposing a set walks through the flags of its family and keeps what no flag has covered yet. For
any family whatsoever, the flags found and what is left make up the set again (`gather_parts`). What
they tell of it is exact if every flag is a single bit, and no two flags are the same one: then the
walk finds just the flags that the set contains (`named_eq`), and what is left has no named bit
(`remainder_eq`). So the words of such a family and the selections of its flags are translated into
each other without loss, whatever unnamed bits a word has besides, and this is what the families of
the kernel interface are like.
-/

namespace CompletionEngine

/-- The index of a flag's highest bit. -/
def Flag.index (flag : Flag) : ℕ := flag.bits.log2

namespace FlagFamily

/-- Every flag of a family is a single bit of its word, and no two of them overlap. -/
structure NamesBits (family : FlagFamily) : Prop where
  single : ∀ flag ∈ family.flags, flag.bits = 2 ^ flag.index
  inside : ∀ flag ∈ family.flags, flag.index < family.width
  apart : family.flags.Pairwise fun left right => left.bits &&& right.bits = 0

/-- The integers that the native word of a family can hold. -/
def Holds (family : FlagFamily) (number : ℤ) : Prop :=
  if family.isSigned then -2 ^ (family.width - 1) ≤ number ∧ number < 2 ^ (family.width - 1)
  else 0 ≤ number ∧ number < 2 ^ family.width

theorem NamesBits.index_ne {left right : Flag} {family : FlagFamily} (names : family.NamesBits)
    (declared : left ∈ family.flags) (declared' : right ∈ family.flags)
    (overlap : left.bits &&& right.bits = 0) : left.index ≠ right.index := by
  intro same
  have alike : left.bits = right.bits := by
    rw [names.single left declared, names.single right declared', same]
  rw [alike, Nat.and_self, names.single right declared'] at overlap
  exact absurd overlap (Nat.two_pow_pos _).ne'

theorem NamesBits.index_inj {left right : Flag} {family : FlagFamily} (names : family.NamesBits)
    (declared : left ∈ family.flags) (declared' : right ∈ family.flags) :
    left.index = right.index ↔ left = right := by
  refine ⟨fun same => ?_, congrArg _⟩
  by_contra differ
  have symmetric : Std.Symm fun left right : Flag => left.bits &&& right.bits = 0 :=
    ⟨fun left right overlap => Nat.and_comm right.bits left.bits ▸ overlap⟩
  exact names.index_ne declared declared'
    (names.apart.forall declared declared' differ) same

end FlagFamily

namespace Flags

variable {family : FlagFamily}

/-- The union of sets. -/
def gather (parts : List (Flags family)) : Flags family := parts.foldl union empty

/-- The set of some flags. -/
def ofFlags (flags : List Flag) : Flags family := gather (flags.map ofFlag)

/-- The flags found in a set, in the order of declaration. -/
def named (set : Flags family) : List Flag := set.decompose.1

/-- The flags found in a set, in no order. -/
def decoded (set : Flags family) : Finset Flag := set.named.toFinset

/-- What no flag that is found in a set covers. -/
def remainder (set : Flags family) : Flags family := set.decompose.2

section Gathering

theorem getLsbD_gather (parts : List (Flags family)) (index : ℕ) :
    (gather parts).bits.getLsbD index = parts.any fun part => part.bits.getLsbD index := by
  have accumulated (start : Flags family) :
      (parts.foldl union start).bits.getLsbD index =
        (start.bits.getLsbD index || parts.any fun part => part.bits.getLsbD index) := by
    induction parts generalizing start with
    | nil => simp
    | cons part rest ih => rw [List.foldl_cons, ih, getLsbD_union, Bool.or_assoc, List.any_cons]
  rw [gather, accumulated, getLsbD_empty, Bool.false_or]

theorem getLsbD_ofFlags (flags : List Flag) (index : ℕ) :
    (ofFlags flags : Flags family).bits.getLsbD index =
      flags.any fun flag => (ofFlag flag : Flags family).bits.getLsbD index := by
  rw [ofFlags, getLsbD_gather, List.any_map]
  rfl

theorem ofFlags_cons (flag : Flag) (flags : List Flag) :
    (ofFlags (flag :: flags) : Flags family) = (ofFlag flag).union (ofFlags flags) := by
  apply eq_of_getLsbD_eq
  intro index
  rw [getLsbD_union, getLsbD_ofFlags, getLsbD_ofFlags, List.any_cons]

theorem all_eq_ofFlags : (all : Flags family) = ofFlags family.flags := by
  rw [all, ofFlags, gather, List.foldl_map]

end Gathering

section AnyFamily

variable (source : Flags family)

/-- What is left is what the flags found do not cover. -/
theorem decomposeFrom_snd (flags : List Flag) (uncovered : Flags family) :
    (decomposeFrom source flags uncovered).2 =
      uncovered.difference (ofFlags (decomposeFrom source flags uncovered).1) := by
  induction flags generalizing uncovered with
  | nil =>
      apply eq_of_getLsbD_eq
      intro index
      simp [decomposeFrom, getLsbD_difference, getLsbD_ofFlags]
  | cons flag rest ih =>
      rw [decomposeFrom]
      split
      · -- The flag is taken away first, and what the later ones cover after it.
        rw [ih, ofFlags_cons, difference_union]
      · exact ih uncovered

theorem contains_of_mem_decomposeFrom {flags : List Flag} {uncovered : Flags family} {flag : Flag}
    (found : flag ∈ (decomposeFrom source flags uncovered).1) :
    source.contains (ofFlag flag) = true := by
  induction flags generalizing uncovered with
  | nil => cases found
  | cons next rest ih =>
      rw [decomposeFrom] at found
      split at found
      next taken =>
        rcases List.mem_cons.mp found with rfl | later
        · exact (Bool.and_eq_true_iff.mp taken).1
        · exact ih later
      next => exact ih found

variable (set : Flags family)

theorem remainder_eq_difference_ofFlags : set.remainder = set.difference (ofFlags set.named) :=
  decomposeFrom_snd set family.flags set

theorem contains_of_mem_named {flag : Flag} (found : flag ∈ set.named) :
    set.contains (ofFlag flag) = true :=
  contains_of_mem_decomposeFrom set found

theorem parts_eq :
    set.parts = set.named.map ofFlag ++ if set.remainder.isEmpty then [] else [set.remainder] :=
  rfl

theorem contains_ofFlags_named : set.contains (ofFlags set.named) = true := by
  rw [contains_iff]
  intro index covered
  rw [getLsbD_ofFlags, List.any_eq_true] at covered
  obtain ⟨flag, found, present⟩ := covered
  exact contains_iff.mp (contains_of_mem_named set found) index present

/-- Whatever the flags of the family are, a set is the union of its parts. -/
theorem gather_parts : gather set.parts = set := by
  apply eq_of_getLsbD_eq
  intro index
  have left_over : (if set.remainder.isEmpty then [] else [set.remainder]).any
      (fun part => part.bits.getLsbD index) = set.remainder.bits.getLsbD index := by
    split
    next nothing =>
      rw [isEmpty, decide_eq_true_iff] at nothing
      rw [nothing, getLsbD_empty, List.any_nil]
    next => simp
  rw [getLsbD_gather, parts_eq, List.any_append, left_over, ← getLsbD_gather, ← ofFlags,
    remainder_eq_difference_ofFlags, getLsbD_difference]
  -- A bit that no flag found covers is left over, and one that is covered was there before.
  cases covered : (ofFlags set.named : Flags family).bits.getLsbD index with
  | false => simp
  | true => simp [contains_iff.mp (contains_ofFlags_named set) index covered]

-- A flag of two bits is not found in a set that has one of them. The bit is named, and left over.
example : (ofNat 0x2 : Flags ⟨"Wide", 8, false, [⟨"BOTH", 0x3⟩]⟩).parts = [ofNat 0x2] := by decide

end AnyFamily

section NamedBits

variable (names : family.NamesBits)

include names

theorem ofFlag_eq_twoPow {flag : Flag} (declared : flag ∈ family.flags) :
    (ofFlag flag : Flags family) = ⟨BitVec.twoPow family.width flag.index⟩ := by
  apply congrArg Flags.mk
  apply BitVec.eq_of_toNat_eq
  rw [BitVec.toNat_ofNat, BitVec.toNat_twoPow, names.single flag declared]

theorem getLsbD_ofFlag {flag : Flag} (declared : flag ∈ family.flags) (index : ℕ) :
    (ofFlag flag : Flags family).bits.getLsbD index = decide (flag.index = index) := by
  rw [ofFlag_eq_twoPow names declared, BitVec.getLsbD_twoPow]
  simp [names.inside flag declared]

theorem contains_ofFlag (set : Flags family) {flag : Flag} (declared : flag ∈ family.flags) :
    set.contains (ofFlag flag) = set.bits.getLsbD flag.index := by
  rw [ofFlag_eq_twoPow names declared]
  exact contains_twoPow set (names.inside flag declared)

theorem intersects_ofFlag (set : Flags family) {flag : Flag} (declared : flag ∈ family.flags) :
    set.intersects (ofFlag flag) = set.bits.getLsbD flag.index := by
  cases present : set.bits.getLsbD flag.index with
  | false =>
      rw [intersects_eq_false_iff]
      intro index bit
      rw [getLsbD_ofFlag names declared, decide_eq_false_iff_not]
      rintro rfl
      exact Bool.false_ne_true (present.symm.trans bit)
  | true =>
      rw [← Bool.not_eq_false, intersects_eq_false_iff]
      intro apart
      have absent := apart flag.index present
      rw [getLsbD_ofFlag names declared, decide_eq_false_iff_not] at absent
      exact absent rfl

/-- The flags found are those contained, provided that none has been covered before its turn. -/
theorem decomposeFrom_fst (source : Flags family) {flags : List Flag} {uncovered : Flags family}
    (declared : flags ⊆ family.flags)
    (apart : flags.Pairwise fun left right => left.bits &&& right.bits = 0)
    (pending : ∀ flag ∈ flags,
      uncovered.bits.getLsbD flag.index = source.bits.getLsbD flag.index) :
    (decomposeFrom source flags uncovered).1 =
      flags.filter fun flag => source.contains (ofFlag flag) := by
  induction flags generalizing uncovered with
  | nil => rfl
  | cons flag rest ih =>
      obtain ⟨here, later⟩ := List.cons_subset.mp declared
      obtain ⟨overlaps, apart⟩ := List.pairwise_cons.mp apart
      have touched : uncovered.intersects (ofFlag flag) = source.contains (ofFlag flag) := by
        rw [intersects_ofFlag names uncovered here, contains_ofFlag names source here]
        exact pending flag List.mem_cons_self
      rw [decomposeFrom, touched, Bool.and_self, List.filter_cons]
      split
      · -- Taking the flag away leaves the bits of all later ones as they are.
        refine congrArg (flag :: ·) (ih later apart ?_)
        intro other member
        have differ := names.index_ne here (later member) (overlaps other member)
        rw [getLsbD_difference, getLsbD_ofFlag names here, decide_eq_false differ, Bool.not_false,
          Bool.and_true]
        exact pending other (List.mem_cons_of_mem _ member)
      · exact ih later apart fun other member => pending other (List.mem_cons_of_mem _ member)

variable (set : Flags family)

theorem named_eq : set.named = family.flags.filter fun flag => set.contains (ofFlag flag) :=
  decomposeFrom_fst names set (List.Subset.refl _) names.apart fun _ _ => rfl

theorem mem_named {flag : Flag} :
    flag ∈ set.named ↔ flag ∈ family.flags ∧ set.bits.getLsbD flag.index = true := by
  rw [named_eq names, List.mem_filter]
  exact and_congr_right fun declared => by rw [contains_ofFlag names set declared]

theorem getLsbD_ofFlags_iff {flags : List Flag} (declared : flags ⊆ family.flags) {index : ℕ} :
    (ofFlags flags : Flags family).bits.getLsbD index = true ↔
      ∃ flag ∈ flags, flag.index = index := by
  rw [getLsbD_ofFlags, List.any_eq_true]
  apply exists_congr
  intro flag
  apply and_congr_right
  intro member
  rw [getLsbD_ofFlag names (declared member), decide_eq_true_iff]

theorem getLsbD_all_iff {index : ℕ} :
    (all : Flags family).bits.getLsbD index = true ↔ ∃ flag ∈ family.flags, flag.index = index := by
  rw [all_eq_ofFlags, getLsbD_ofFlags_iff names (List.Subset.refl _)]

theorem getLsbD_all_index {flag : Flag} (declared : flag ∈ family.flags) :
    (all : Flags family).bits.getLsbD flag.index = true :=
  (getLsbD_all_iff names).mpr ⟨flag, declared, rfl⟩

theorem remainder_eq : set.remainder = set.difference all := by
  rw [remainder_eq_difference_ofFlags]
  apply eq_of_getLsbD_eq
  intro index
  have found : set.named ⊆ family.flags := fun flag member => ((mem_named names set).mp member).1
  rw [getLsbD_difference, getLsbD_difference]
  cases present : set.bits.getLsbD index with
  | false => rfl
  | true =>
      -- A flag of a bit that is present has been found.
      have covered : (ofFlags set.named : Flags family).bits.getLsbD index =
          (all : Flags family).bits.getLsbD index := by
        rw [Bool.eq_iff_iff, getLsbD_ofFlags_iff names found, getLsbD_all_iff names]
        constructor
        · rintro ⟨flag, member, rfl⟩
          exact ⟨flag, found member, rfl⟩
        · rintro ⟨flag, declared, rfl⟩
          exact ⟨flag, (mem_named names set).mpr ⟨declared, present⟩, rfl⟩
      rw [covered]

theorem intersects_remainder {flag : Flag} (declared : flag ∈ family.flags) :
    set.remainder.intersects (ofFlag flag) = false := by
  rw [intersects_ofFlag names _ declared, remainder_eq names, getLsbD_difference,
    getLsbD_all_index names declared, Bool.not_true, Bool.and_false]

theorem named_sublist : set.named.Sublist family.flags := by
  rw [named_eq names]
  exact List.filter_sublist

theorem pairwise_parts :
    set.parts.Pairwise fun left right => left.intersects right = false := by
  have found : set.named ⊆ family.flags := (named_sublist names set).subset
  rw [parts_eq, List.pairwise_append]
  refine ⟨?_, ?_, ?_⟩
  · rw [List.pairwise_map]
    have apart := names.apart.sublist (named_sublist names set)
    refine apart.imp_of_mem ?_
    intro left right member member' overlap
    have differ := names.index_ne (found member) (found member') overlap
    rw [intersects_ofFlag names _ (found member'), getLsbD_ofFlag names (found member)]
    exact decide_eq_false differ
  · split
    · exact List.Pairwise.nil
    · exact List.pairwise_singleton _ _
  · intro part member left_over remaining
    obtain ⟨flag, listed, rfl⟩ := List.mem_map.mp member
    have same : left_over = set.remainder := by
      split at remaining
      · cases remaining
      · exact List.mem_singleton.mp remaining
    rw [same, intersects_comm]
    exact intersects_remainder names set (found listed)

theorem truncate_eq : set.truncate = set.difference set.remainder := by
  apply eq_of_getLsbD_eq
  intro index
  rw [truncate, getLsbD_intersection, getLsbD_difference, remainder_eq names, getLsbD_difference]
  cases set.bits.getLsbD index <;> cases (all : Flags family).bits.getLsbD index <;> rfl

theorem truncate_eq_self_iff : set.truncate = set ↔ set.remainder = empty := by
  rw [remainder_eq names, difference_eq_empty_iff, contains, decide_eq_true_iff, truncate,
    intersection_comm]

theorem ofKnownBits?_eq :
    set.ofKnownBits? = if set.remainder = empty then some set else none := by
  simp only [ofKnownBits?, truncate_eq_self_iff names]

section Decoding

theorem mem_decoded {flag : Flag} :
    flag ∈ set.decoded ↔ flag ∈ family.flags ∧ set.bits.getLsbD flag.index = true := by
  rw [decoded, List.mem_toFinset, mem_named names]

theorem decoded_ofFlags {chosen : List Flag} (declared : chosen ⊆ family.flags) :
    (ofFlags chosen : Flags family).decoded = chosen.toFinset := by
  ext flag
  rw [mem_decoded names, getLsbD_ofFlags_iff names declared, List.mem_toFinset]
  constructor
  · rintro ⟨known, other, member, same⟩
    exact (names.index_inj (declared member) known).mp same ▸ member
  · intro member
    exact ⟨declared member, flag, member, rfl⟩

theorem remainder_ofFlags {chosen : List Flag} (declared : chosen ⊆ family.flags) :
    (ofFlags chosen : Flags family).remainder = empty := by
  rw [remainder_eq names, difference_eq_empty_iff, contains_iff]
  intro index present
  obtain ⟨flag, member, same⟩ := (getLsbD_ofFlags_iff names declared).mp present
  exact (getLsbD_all_iff names).mpr ⟨flag, declared member, same⟩

/-- Selections of flags in any order have the same encoding only if they are the same selection. -/
theorem ofFlags_inj {chosen other : List Flag} (declared : chosen ⊆ family.flags)
    (declared' : other ⊆ family.flags) :
    (ofFlags chosen : Flags family) = ofFlags other ↔ chosen.toFinset = other.toFinset := by
  constructor
  · intro same
    rw [← decoded_ofFlags names declared, ← decoded_ofFlags names declared', same]
  · intro same
    apply eq_of_getLsbD_eq
    intro index
    rw [Bool.eq_iff_iff, getLsbD_ofFlags_iff names declared, getLsbD_ofFlags_iff names declared']
    simp only [← List.mem_toFinset, same]

variable (left right : Flags family)

theorem decoded_union : (left.union right).decoded = left.decoded ∪ right.decoded := by
  ext flag
  simp only [Finset.mem_union, mem_decoded names, getLsbD_union, Bool.or_eq_true, and_or_left]

theorem decoded_intersection :
    (left.intersection right).decoded = left.decoded ∩ right.decoded := by
  ext flag
  simp only [Finset.mem_inter, mem_decoded names, getLsbD_intersection, Bool.and_eq_true]
  exact and_and_left

theorem decoded_difference : (left.difference right).decoded = left.decoded \ right.decoded := by
  ext flag
  simp only [Finset.mem_sdiff, mem_decoded names, getLsbD_difference, Bool.and_eq_true,
    Bool.not_eq_true']
  grind

theorem decoded_symmetricDifference :
    (left.symmetricDifference right).decoded = symmDiff left.decoded right.decoded := by
  ext flag
  simp only [Finset.mem_symmDiff, mem_decoded names, getLsbD_symmetricDifference]
  grind

theorem decoded_complement : set.complement.decoded = family.flags.toFinset \ set.decoded := by
  ext flag
  rw [Finset.mem_sdiff, List.mem_toFinset, mem_decoded names, mem_decoded names,
    getLsbD_complement]
  by_cases declared : flag ∈ family.flags
  · simp [declared, getLsbD_all_index names declared]
  · simp [declared]

theorem remainder_complement : set.complement.remainder = empty := by
  rw [remainder_eq names, difference_eq_empty_iff, contains_iff]
  intro index present
  rw [getLsbD_complement, Bool.and_eq_true] at present
  exact present.2

end Decoding

end NamedBits

section NativeWords

variable (set : Flags family)

theorem holds_value : family.Holds set.value := by
  rw [FlagFamily.Holds, value]
  split
  · exact ⟨BitVec.le_toInt _, BitVec.toInt_lt⟩
  · exact ⟨Int.natCast_nonneg _, mod_cast set.bits.isLt⟩

theorem ofInt_value : ofInt set.value = set := by
  apply congrArg Flags.mk
  rw [value]
  split
  · exact BitVec.ofInt_toInt
  · rw [BitVec.ofInt_natCast, BitVec.ofNat_toNat, BitVec.setWidth_eq]

theorem value_ofInt (wide : 0 < family.width) {number : ℤ} (holds : family.Holds number) :
    (ofInt number : Flags family).value = number := by
  rw [FlagFamily.Holds] at holds
  rw [value]
  split at holds
  next signed =>
    rw [if_pos signed]
    exact BitVec.toInt_ofInt_eq_self wide holds.1 holds.2
  next unsigned =>
    have small : number % ((2 ^ family.width : ℕ) : ℤ) = number :=
      Int.emod_eq_of_lt holds.1 (mod_cast holds.2)
    rw [if_neg unsigned, ofInt, BitVec.toNat_ofInt, small, Int.toNat_of_nonneg holds.1]

end NativeWords

/-- What iterating over a set yields. -/
structure Itemized (set : Flags family) : Prop where
  /-- The flags found are those that the set contains, in the order of declaration. -/
  found : set.named = family.flags.filter fun flag => set.contains (ofFlag flag)
  /-- They come first, and then what is left if there is anything. -/
  yielded :
    set.parts = set.named.map ofFlag ++ if set.remainder.isEmpty then [] else [set.remainder]
  /-- No two parts share a bit. -/
  apart : set.parts.Pairwise fun left right => left.intersects right = false
  /-- The parts are all of the set, and nothing else. -/
  gathered : gather set.parts = set
  /-- No bit that is left belongs to any declared flag. -/
  unnamed : ∀ flag ∈ family.flags, set.remainder.intersects (ofFlag flag) = false

end Flags

namespace FlagFamily

variable {family : FlagFamily}

section Lossless

open Flags

/--
Native words, sets and selections of declared flags are translated into each other without loss, and
operations on sets are operations on the selections found in them.
-/
structure IsLossless (family : FlagFamily) : Prop where
  /-- Every native integer is the value of the set that holds its bits. -/
  encoded : ∀ number, family.Holds number → (ofInt number : Flags family).value = number
  /-- Every set has such a value, which determines it. -/
  retained : ∀ set : Flags family, family.Holds set.value ∧ ofInt set.value = set
  itemized : ∀ set : Flags family, set.Itemized
  /-- The bits of a set are all known exactly if flags are all there is. -/
  known : ∀ set : Flags family, set.ofKnownBits?.isSome = true ↔ set.remainder = empty
  /-- Known bits are read as they are. -/
  unchanged : ∀ set read : Flags family, set.ofKnownBits? = some read → read = set
  truncated : ∀ set : Flags family, set.truncate = set.difference set.remainder
  /-- The encoding of a selection is known, and the selection is found in it again. -/
  decoded : ∀ chosen : List Flag, chosen ⊆ family.flags →
    (ofFlags chosen : Flags family).ofKnownBits? = some (ofFlags chosen) ∧
      (ofFlags chosen : Flags family).decoded = chosen.toFinset
  /-- Different selections have different encodings, in whatever order they are made. -/
  distinct : ∀ chosen other : List Flag, chosen ⊆ family.flags → other ⊆ family.flags →
    ((ofFlags chosen : Flags family) = ofFlags other ↔ chosen.toFinset = other.toFinset)
  union : ∀ left right : Flags family, (left.union right).decoded = left.decoded ∪ right.decoded
  intersection : ∀ left right : Flags family,
    (left.intersection right).decoded = left.decoded ∩ right.decoded
  difference : ∀ left right : Flags family,
    (left.difference right).decoded = left.decoded \ right.decoded
  symmetricDifference : ∀ left right : Flags family,
    (left.symmetricDifference right).decoded = symmDiff left.decoded right.decoded
  complement : ∀ set : Flags family,
    set.complement.decoded = family.flags.toFinset \ set.decoded ∧
      set.complement.remainder = empty

/-- A family of single bits, no two of them the same, loses nothing. -/
theorem NamesBits.isLossless (names : family.NamesBits) (wide : 0 < family.width) :
    family.IsLossless where
  encoded number holds := value_ofInt wide holds
  retained set := ⟨holds_value set, ofInt_value set⟩
  itemized set :=
    { found := named_eq names set
      yielded := parts_eq set
      apart := pairwise_parts names set
      gathered := gather_parts set
      unnamed := fun _ declared => intersects_remainder names set declared }
  known set := by
    rw [ofKnownBits?_eq names]
    split
    next nothing => exact iff_of_true rfl nothing
    next something => exact iff_of_false Bool.false_ne_true something
  unchanged set read known := by
    rw [ofKnownBits?_eq names] at known
    split at known
    next => exact (Option.some.inj known).symm
    next => cases known
  truncated set := truncate_eq names set
  decoded chosen declared := by
    refine ⟨?_, decoded_ofFlags names declared⟩
    rw [ofKnownBits?_eq names, if_pos (remainder_ofFlags names declared)]
  distinct _ _ declared declared' := ofFlags_inj names declared declared'
  union := decoded_union names
  intersection := decoded_intersection names
  difference := decoded_difference names
  symmetricDifference := decoded_symmetricDifference names
  complement set := ⟨decoded_complement names set, remainder_complement names set⟩

end Lossless

section Catalogue

theorem width_pos_of_mem_catalogue (listed : family ∈ catalogue) : 0 < family.width := by
  have wide : ∀ family ∈ catalogue, 0 < family.width := by decide
  exact wide family listed

/-- The native constants are single bits of their words, and none is declared twice. -/
theorem namesBits_of_mem_catalogue (listed : family ∈ catalogue) : family.NamesBits := by
  have single : ∀ family ∈ catalogue, ∀ flag ∈ family.flags, flag.bits = 2 ^ flag.index := by
    decide
  have inside : ∀ family ∈ catalogue, ∀ flag ∈ family.flags, flag.index < family.width := by
    decide
  have apart : ∀ family ∈ catalogue,
      family.flags.Pairwise fun left right => left.bits &&& right.bits = 0 := by
    decide
  exact ⟨single family listed, inside family listed, apart family listed⟩

/--
Each family of the kernel interface loses nothing: for every word of its width, named bits or not,
iterating, reading, truncating and combining sets are exact.
-/
theorem isLossless_of_mem_catalogue (listed : family ∈ catalogue) : family.IsLossless :=
  (namesBits_of_mem_catalogue listed).isLossless (width_pos_of_mem_catalogue listed)

/-- The sign bit, which no flag for opening a file names, is left beside a flag. -/
theorem isLossless_sign_bit :
    let set : OpenFlags := .ofInt (-2147483647)
    opening ∈ catalogue ∧ set.value = -2147483647 ∧
      set.parts = [.ofNat 0x1, .ofNat 0x80000000] ∧ Flags.gather set.parts = set ∧
      set.ofKnownBits?.isSome = false ∧ set.truncate = set.difference set.remainder ∧
      set.complement.decoded = opening.flags.toFinset \ set.decoded := by
  intro set
  have listed : opening ∈ catalogue := by simp [catalogue]
  have lossless := isLossless_of_mem_catalogue listed
  have parts : set.parts = [.ofNat 0x1, .ofNat 0x80000000] := by decide
  refine ⟨listed, lossless.encoded _ ?_, parts, (lossless.itemized set).gathered, ?_,
    lossless.truncated set, (lossless.complement set).1⟩
  · norm_num [Holds, opening]
  · rw [← Bool.not_eq_true, lossless.known]
    decide

end Catalogue

end FlagFamily

end CompletionEngine
