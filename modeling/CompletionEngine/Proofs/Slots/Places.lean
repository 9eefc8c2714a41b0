import CompletionEngine.Proofs.Operation.Places
import CompletionEngine.Proofs.Slots.Pools

/-!
# Where the memory of entries lies

The blocks that entries own lie apart: no place belongs to two entries, in use or free, nor twice to
one. Only preparing an entry makes blocks, at places that have not been given out before. Whatever
else is done to an entry drops blocks or leaves them where they lie, and so do a pool that grows, by
an entry that owns nothing yet, and one that hands out a slot again.
-/

namespace CompletionEngine

variable {kind : Kind} {γ : Type}

namespace Entry

variable {entry after : Entry kind γ}

theorem payload_abort {failure : Failure} {completion : Completion kind γ}
    (aborts : entry.abort failure = .ok (completion, after)) : after.payload = entry.payload := by
  rcases exists_of_bind aborts with ⟨-, -, finished⟩
  cases finished
  rfl

theorem payload_markSubmitted (marks : entry.markSubmitted = .ok after) :
    after.payload = entry.payload := by
  rcases exists_of_bind marks with ⟨-, -, marked⟩
  cases marked
  rfl

theorem places_complete {σ : Type} {calls : SocketCalls σ} {now : Instant} {result : Int32}
    {system left : σ} {completion : Completion kind γ}
    (completes : entry.complete calls now result system = .ok (completion, after, left)) :
    kind.places after.payload = kind.places entry.payload := by
  rcases exists_of_bind completes with ⟨-, -, finished⟩
  cases finished
  exact Kind.places_translate entry.payload calls now result system

theorem places_close (closes : entry.close = .ok after) :
    (kind.places after.payload).Sublist (kind.places entry.payload) := by
  rcases exists_of_bind closes with ⟨-, -, closed⟩
  cases closed
  exact Kind.places_recycle entry.payload

/-- Preparing an entry leaves its blocks as they are, drops them, or makes new ones elsewhere. -/
theorem supplies_prepare {now : Moment} {params : kind.Params} {continuation : γ}
    {outcome : Except Failure Unit}
    (prepares : entry.prepare now params continuation = .ok (outcome, after))
    (nodup : (kind.places entry.payload).Nodup)
    (given : ∀ place ∈ kind.places entry.payload, place.number < now.heap.used) :
    now.heap.Supplies (kind.places entry.payload) (kind.places after.payload) := by
  rcases exists_of_bind prepares with ⟨-, -, prepared⟩
  dsimp only at prepared
  split at prepared
  · rename_i payload accepts
    cases prepared
    exact Kind.supplies_prepare accepts given
  · cases prepared
    exact .of_sublist nodup (List.Sublist.refl _)

/-- The record of an entry points only at memory that the entry owns. -/
theorem places_render (entry : Entry kind γ) :
    (entry.render .blank).places ⊆ kind.places entry.payload :=
  Kind.places_fill entry.payload

end Entry

namespace Pool

variable {pool : Pool kind γ} {slot : UInt32} {entry : Entry kind γ}

/-- The places of the memory that the entry in a slot owns. -/
def placesAt (pool : Pool kind γ) (slot : UInt32) : List Place :=
  match pool.entries[slot.toNat]? with
  | some entry => kind.places entry.payload
  | none => []

theorem getElem?_of_get (got : pool.get slot = .ok entry) :
    pool.entries[slot.toNat]? = some entry := by
  unfold get at got
  split at got
  · rename_i here
    cases got
    exact here
  · cases got

theorem placesAt_of_get (got : pool.get slot = .ok entry) :
    pool.placesAt slot = kind.places entry.payload := by
  simp only [placesAt, getElem?_of_get got]

theorem placesAt_set_self (got : pool.get slot = .ok entry) (replacement : Entry kind γ) :
    (pool.set slot replacement).placesAt slot = kind.places replacement.payload := by
  rcases Array.getElem?_eq_some_iff.mp (getElem?_of_get got) with ⟨inside, -⟩
  simp only [placesAt, set, Array.getElem?_setIfInBounds_self_of_lt inside]

theorem placesAt_set_of_ne {other : UInt32} (ne : other ≠ slot) (replacement : Entry kind γ) :
    (pool.set slot replacement).placesAt other = pool.placesAt other := by
  have index_ne : slot.toNat ≠ other.toNat := fun same => ne (UInt32.toNat_inj.mp same.symm)
  simp only [placesAt, set, Array.getElem?_setIfInBounds_ne index_ne]

/-- A pool leaves the blocks of its entries where they lie, or drops them. -/
def Shrinks (before after : Pool kind γ) : Prop :=
  ∀ slot, (after.placesAt slot).Sublist (before.placesAt slot)

theorem shrinks_set (got : pool.get slot = .ok entry) {replacement : Entry kind γ}
    (part : (kind.places replacement.payload).Sublist (kind.places entry.payload)) :
    pool.Shrinks (pool.set slot replacement) := by
  intro other
  by_cases same : other = slot
  · subst same
    rw [placesAt_set_self got, placesAt_of_get got]
    exact part
  · rw [placesAt_set_of_ne same]

theorem shrinks_release {released : Pool kind γ} (gives : pool.release slot = .ok released) :
    pool.Shrinks released := by
  rcases exists_of_release gives with ⟨entry, recycled, got, closes, rfl⟩
  exact shrinks_set got (Entry.places_close closes)

/-- A pool that grows gets an entry that owns nothing yet. -/
theorem shrinks_alloc (pool : Pool kind γ) : pool.Shrinks pool.alloc.2 := by
  intro slot
  unfold alloc
  split
  · exact List.Sublist.refl _
  · split
    · exact List.Sublist.refl _
    · simp only [placesAt, Array.getElem?_push]
      by_cases new : slot.toNat = pool.entries.size
      · rw [if_pos new]
        exact (kind.places_fresh).symm ▸ List.nil_sublist _
      · rw [if_neg new]

end Pool

namespace Pools

/-- The places of the memory that the entry in a slot owns. -/
def placesAt (pools : Pools γ) (reference : SlotRef) : List Place :=
  (pools.get reference.kind).placesAt reference.slot

/-- The blocks of all entries lie apart, at places that have been given out. -/
structure Apart (pools : Pools γ) : Prop where
  nodup : ∀ reference, (pools.placesAt reference).Nodup
  given : ∀ reference, ∀ place ∈ pools.placesAt reference, place.number < pools.heap.used
  disjoint : ∀ reference other, reference ≠ other →
    (pools.placesAt reference).Disjoint (pools.placesAt other)

/-- A place belongs to the entry in one slot, and to no other entry. -/
def OwnsAlone (pools : Pools γ) (reference : SlotRef) (place : Place) : Prop :=
  place ∈ pools.placesAt reference ∧ ∀ other, other ≠ reference → place ∉ pools.placesAt other

theorem apart_of_placesAt_eq_nil {pools : Pools γ}
    (nowhere : ∀ reference, pools.placesAt reference = []) : pools.Apart := by
  constructor <;> simp [nowhere]

theorem apart_new (ceiling : Option ℕ) : (new ceiling : Pools γ).Apart := by
  refine apart_of_placesAt_eq_nil fun reference => ?_
  rw [placesAt, get_new]
  rfl

theorem apart_clear (pools : Pools γ) : pools.clear.Apart := by
  refine apart_of_placesAt_eq_nil fun reference => ?_
  rw [placesAt, get_clear]
  rfl

namespace Apart

variable {before after : Pools γ}

/-- Blocks that are dropped or left where they lie, lie apart. -/
theorem set (apart : before.Apart) {pool : Pool kind γ} (shrinks : (before.get kind).Shrinks pool) :
    (before.set kind pool).Apart := by
  have parts (reference : SlotRef) :
      ((before.set kind pool).placesAt reference).Sublist (before.placesAt reference) := by
    rcases reference with ⟨other, slot⟩
    by_cases same : other = kind
    · subst same
      simpa only [placesAt, get_set_self] using shrinks slot
    · simp only [placesAt, get_set_of_ne before pool same, List.Sublist.refl]
  constructor
  · exact fun reference => (apart.nodup reference).sublist (parts reference)
  · intro reference place placeMem
    rw [heap_set]
    exact apart.given reference place ((parts reference).subset placeMem)
  · intro reference other ne place placeMem otherMem
    exact apart.disjoint reference other ne ((parts reference).subset placeMem)
      ((parts other).subset otherMem)

/-- The blocks that an entry gets from the heap lie apart from all that there are. -/
theorem supply (apart : before.Apart) (heap_eq : after.heap = before.heap.grow.grow)
    (reference : SlotRef)
    (supplies : before.heap.Supplies (before.placesAt reference) (after.placesAt reference))
    (elsewhere : ∀ other, other ≠ reference → after.placesAt other = before.placesAt other) :
    after.Apart := by
  have origin (other : SlotRef) (place : Place) (placeMem : place ∈ after.placesAt other) :
      place ∈ before.placesAt other ∨ other = reference ∧ before.heap.Gives place := by
    by_cases same : other = reference
    · subst same
      exact (supplies.origin place placeMem).imp_right fun gives => ⟨rfl, gives⟩
    · exact .inl (elsewhere other same ▸ placeMem)
  -- What is given out now has not been given out before.
  have unused {other : SlotRef} {place : Place} (old : place ∈ before.placesAt other)
      (gives : before.heap.Gives place) : False :=
    absurd gives.1 (Nat.not_le_of_lt (apart.given other place old))
  constructor
  · intro other
    by_cases same : other = reference
    · exact same ▸ supplies.nodup
    · exact elsewhere other same ▸ apart.nodup other
  · intro other place placeMem
    rw [heap_eq]
    rcases origin other place placeMem with old | ⟨-, gives⟩
    · exact (apart.given other place old).trans (Nat.lt_add_of_pos_right Nat.two_pos)
    · exact gives.2
  · intro left right ne place leftMem rightMem
    rcases origin left place leftMem with leftOld | ⟨rfl, leftGives⟩
    · rcases origin right place rightMem with rightOld | ⟨-, rightGives⟩
      · exact apart.disjoint left right ne leftOld rightOld
      · exact unused leftOld rightGives
    · rcases origin right place rightMem with rightOld | ⟨rfl, -⟩
      · exact unused rightOld leftGives
      · exact ne rfl

/-- Preparing an entry leaves all blocks apart, when the heap has what it is given. -/
theorem prepare (apart : before.Apart) {slot : UInt32} {entry prepared : Entry kind γ}
    (got : (before.get kind).get slot = .ok entry) {now : Moment} (heap_eq : now.heap = before.heap)
    {params : kind.Params} {continuation : γ} {outcome : Except Failure Unit}
    (prepares : entry.prepare now params continuation = .ok (outcome, prepared)) :
    (before.growHeap.set kind ((before.get kind).set slot prepared)).Apart := by
  have owned : before.placesAt ⟨kind, slot⟩ = kind.places entry.payload :=
    Pool.placesAt_of_get got
  have given := apart.given ⟨kind, slot⟩
  have nodup := apart.nodup ⟨kind, slot⟩
  rw [owned] at given nodup
  have supplies := Entry.supplies_prepare prepares nodup (heap_eq ▸ given)
  refine apart.supply (heap_set _ kind _) ⟨kind, slot⟩ ?_ ?_
  · rw [owned, placesAt, get_set_self, Pool.placesAt_set_self got, ← heap_eq]
    exact supplies
  · rintro ⟨other, otherSlot⟩ ne
    by_cases same : other = kind
    · subst same
      have slot_ne : otherSlot ≠ slot := fun same => ne (by rw [same])
      rw [placesAt, get_set_self, Pool.placesAt_set_of_ne slot_ne, placesAt]
    · rw [placesAt, get_set_of_ne _ _ same, get_growHeap, placesAt]

/-- A record that an entry renders points only at memory that is this entry's alone. -/
theorem ownsAlone_render (apart : before.Apart) {slot : UInt32} {entry : Entry kind γ}
    (here : (before.get kind).entries[slot.toNat]? = some entry) {place : Place}
    (pointsAt : place ∈ (entry.render .blank).places) : before.OwnsAlone ⟨kind, slot⟩ place := by
  have own : place ∈ before.placesAt ⟨kind, slot⟩ := by
    simpa only [placesAt, Pool.placesAt, here] using entry.places_render pointsAt
  exact ⟨own, fun other ne otherMem => apart.disjoint other ⟨kind, slot⟩ ne otherMem own⟩

end Apart

end Pools

end CompletionEngine
