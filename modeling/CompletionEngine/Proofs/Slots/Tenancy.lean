import Mathlib
import CompletionEngine.Proofs.Slots.InPlace
import CompletionEngine.Proofs.Slots.Pool
import CompletionEngine.Simulation.Descriptors

/-!
# Who holds which slot

A tenancy is a pool with what its user knows of it: the slots that it holds, and those that it has
given back since the pool was cleared. The user acts on the entries of slots that it holds, and gives
only these back; a call on the pool may be a fault, and then the user goes on with what the call
leaves behind.

Which slot is handed out next, and whether one is, follows from what the user knows: it is the slot
given back last of those not held again, and without such a slot the pool grows as far as its ceiling.
A pool has as many entries as were held at once at most.
-/

namespace CompletionEngine

/-- Of some slots given back, the latest in front, those that are not held again, each where it was
given back last. -/
def unclaimed (held : Finset UInt32) : List UInt32 → List UInt32
  | [] => []
  | slot :: earlier =>
    if slot ∈ held then unclaimed held earlier
    else slot :: (unclaimed held earlier).filter (· ≠ slot)

theorem unclaimed_insert (slot : UInt32) (held : Finset UInt32) (returned : List UInt32) :
    unclaimed (insert slot held) returned = (unclaimed held returned).filter (· ≠ slot) := by
  induction returned with
  | nil => rfl
  | cons last earlier ih =>
      simp only [unclaimed, Finset.mem_insert]
      by_cases again : last ∈ held
      · simp only [again, or_true, if_true, ih]
      · by_cases same : last = slot
        · subst same
          simp [again, ih]
        · simp only [again, same, or_self, if_false, ih, List.filter_filter, List.filter_cons,
            ne_eq, not_false_eq_true, decide_true, if_true]
          simp only [Bool.and_comm]

theorem unclaimed_erase {slot : UInt32} {held : Finset UInt32} (holds : slot ∈ held)
    (returned : List UInt32) :
    unclaimed (held.erase slot) (slot :: returned) = slot :: unclaimed held returned := by
  rw [unclaimed, if_neg (Finset.notMem_erase slot held), ← unclaimed_insert,
    Finset.insert_erase holds]

theorem head?_unclaimed (held : Finset UInt32) (returned : List UInt32) :
    (unclaimed held returned).head? = returned.find? (· ∉ held) := by
  induction returned with
  | nil => rfl
  | cons last earlier ih =>
      by_cases again : last ∈ held
      · simp [unclaimed, again, ih]
      · simp [unclaimed, again]

variable {kind : Kind} {γ σ : Type}

/-- A pool with what its user knows of it. -/
structure Tenancy (kind : Kind) (γ : Type) where
  pool : Pool kind γ
  /-- The slots handed out and not given back. -/
  held : Finset UInt32
  /-- The slots given back since the pool was cleared, the latest in front. -/
  returned : List UInt32

namespace Tenancy

/-- What the user of a pool may do. -/
inductive Move (kind : Kind) (γ σ : Type) where
  | alloc
  | use (slot : UInt32) (now : Moment) (act : Entry.Act kind γ σ)
  | release (slot : UInt32)
  | clear

def vacant (ceiling : Option ℕ) : Tenancy kind γ := ⟨.new ceiling, ∅, []⟩

/-- The user acts on slots that it holds, and does not run out of slot numbers. -/
def allows (tenancy : Tenancy kind γ) : Move kind γ σ → Bool
  | .alloc => tenancy.held.card < UInt32.size
  | .use slot _ _ | .release slot => slot ∈ tenancy.held
  | .clear => true

/-- The tenancy after a move. -/
def perform (calls : SocketCalls σ) (move : Move kind γ σ) (tenancy : Tenancy kind γ) :
    Tenancy kind γ :=
  match move with
  | .alloc =>
    match tenancy.pool.alloc with
    | (.ok slot, pool) => { tenancy with pool := pool, held := insert slot tenancy.held }
    | (.error _, pool) => { tenancy with pool := pool }
  | .use slot now act =>
    let call := Pool.entryInPlace slot (Entry.performInPlace calls now act)
    { tenancy with pool := (call.on tenancy.pool).2 }
  | .release slot =>
    match (Pool.releaseInPlace slot).on tenancy.pool with
    | (.ok (), pool) => ⟨pool, tenancy.held.erase slot, slot :: tenancy.returned⟩
    | (.error _, pool) => { tenancy with pool := pool }
  | .clear => ⟨tenancy.pool.clear, ∅, []⟩

/-- The tenancy after a move that is allowed. -/
def move? (calls : SocketCalls σ) (move : Move kind γ σ) (tenancy : Tenancy kind γ) :
    Option (Tenancy kind γ) :=
  if tenancy.allows move then some (tenancy.perform calls move) else none

/-- The tenancy after some moves. -/
def play? (calls : SocketCalls σ) (moves : List (Move kind γ σ)) (tenancy : Tenancy kind γ) :
    Option (Tenancy kind γ) :=
  moves.foldlM (fun tenancy move => tenancy.move? calls move) tenancy

/-- How many slots were held at once, at each time since the pool was cleared. -/
def loads (calls : SocketCalls σ) (ceiling : Option ℕ) (moves : List (Move kind γ σ)) : Set ℕ :=
  {load | ∃ earlier later between, moves = earlier ++ later ∧ .clear ∉ later ∧
    (vacant ceiling).play? calls earlier = some between ∧ load = between.held.card}

/-- What the pool has to do with what its user knows. -/
structure Sound (ceiling : Option ℕ) (tenancy : Tenancy kind γ) : Prop where
  wellFormed : tenancy.pool.WellFormed
  held_eq : tenancy.pool.held.map Prod.fst = tenancy.held.val
  free_eq : tenancy.pool.free = unclaimed tenancy.held tenancy.returned
  ceiling_eq : tenancy.pool.ceiling = ceiling
  size_le : ∀ limit, ceiling = some limit → tenancy.pool.entries.size ≤ limit

section Sound

variable {ceiling : Option ℕ} {tenancy : Tenancy kind γ}

theorem sound_vacant (ceiling : Option ℕ) : (vacant ceiling : Tenancy kind γ).Sound ceiling :=
  ⟨Pool.wellFormed_new ceiling, rfl, rfl, rfl, fun _ _ => Nat.zero_le _⟩

namespace Sound

/-- A slot is held when there is such a slot and it is not free. -/
theorem mem_held (sound : tenancy.Sound ceiling) {slot : UInt32} :
    slot ∈ tenancy.held ↔ slot.toNat < tenancy.pool.entries.size ∧ slot ∉ tenancy.pool.free := by
  rw [← Finset.mem_val, ← sound.held_eq, Multiset.mem_map]
  constructor
  · rintro ⟨⟨_, entry⟩, inUse, rfl⟩
    rcases (Pool.mem_held sound.wellFormed).mp inUse with ⟨notFree, here⟩
    exact ⟨(Array.getElem?_eq_some_iff.mp here).1, notFree⟩
  · rintro ⟨inside, notFree⟩
    refine ⟨(slot, tenancy.pool.entries[slot.toNat]), ?_, rfl⟩
    exact (Pool.mem_held sound.wellFormed).mpr ⟨notFree, Array.getElem?_eq_getElem inside⟩

/-- What is not free is held. -/
theorem size_eq (sound : tenancy.Sound ceiling) :
    tenancy.pool.entries.size = tenancy.held.card + tenancy.pool.free.length := by
  rw [← Pool.card_held_add_length_free sound.wellFormed, Finset.card, ← sound.held_eq,
    Multiset.card_map]

theorem inUse_eq (sound : tenancy.Sound ceiling) :
    tenancy.pool.statistics.inUse = tenancy.held.card := by
  simp only [Pool.statistics, PoolStatistics.inUse, sound.size_eq, Nat.add_sub_cancel]

theorem lt_of_free (sound : tenancy.Sound ceiling) {slot : UInt32}
    (free : slot ∈ tenancy.pool.free) : slot.toNat < tenancy.pool.entries.size := by
  rcases sound.wellFormed.idle slot free with ⟨_, here, _⟩
  exact (Array.getElem?_eq_some_iff.mp here).1

/-- The entry of a slot that is held, and the others. -/
theorem held_cons (sound : tenancy.Sound ceiling) {slot : UInt32} (holds : slot ∈ tenancy.held) :
    ∃ entry rest, tenancy.pool.entries[slot.toNat]? = some entry ∧
      tenancy.pool.held = (slot, entry) ::ₘ rest ∧ rest.map Prod.fst = (tenancy.held.erase slot).val := by
  have inPool := holds
  rw [← Finset.mem_val, ← sound.held_eq] at inPool
  rcases Multiset.mem_map.mp inPool with ⟨⟨_, entry⟩, inUse, rfl⟩
  rcases Multiset.exists_cons_of_mem inUse with ⟨rest, split⟩
  refine ⟨entry, rest, ((Pool.mem_held sound.wellFormed).mp inUse).2, split, ?_⟩
  rw [Finset.erase_val, ← sound.held_eq, split, Multiset.map_cons, Multiset.erase_cons_head]

/-- A pool is full when it has grown as far as its ceiling. -/
theorem isFull_iff (sound : tenancy.Sound ceiling) :
    tenancy.pool.isFull ↔ ceiling = some tenancy.pool.entries.size := by
  simp only [Pool.isFull, sound.ceiling_eq]
  cases limited : ceiling with
  | none => simp
  | some limit =>
      have below := sound.size_le limit limited
      simp only [decide_eq_true_eq, Option.some.injEq]
      omega

end Sound

end Sound

section Steps

variable {ceiling : Option ℕ} {tenancy : Tenancy kind γ} {slot : UInt32}

theorem alloc_cases (pool : Pool kind γ) :
    (∃ slot rest, pool.free = slot :: rest ∧ pool.alloc = (.ok slot, { pool with free := rest })) ∨
      pool.free = [] ∧ pool.isFull ∧
        pool.alloc = (.error (.exhausted (.pool kind.name)), pool) ∨
      pool.free = [] ∧ ¬pool.isFull ∧ pool.alloc =
        (.ok (UInt32.ofNat pool.entries.size), { pool with entries := pool.entries.push .fresh }) := by
  cases free : pool.free with
  | cons slot rest => exact .inl ⟨slot, rest, rfl, by simp only [Pool.alloc, free]⟩
  | nil =>
      by_cases full : pool.isFull
      · exact .inr (.inl ⟨rfl, full, by simp only [Pool.alloc, free, full, if_true]⟩)
      · exact .inr (.inr ⟨rfl, full, by simp [Pool.alloc, free, full]⟩)

/-- A slot that is handed out was not held, and comes with an idle entry. -/
theorem Sound.of_alloc (sound : tenancy.Sound ceiling) (room : tenancy.held.card < UInt32.size)
    {allocated : Pool kind γ} (succeeds : tenancy.pool.alloc = (.ok slot, allocated)) :
    slot ∉ tenancy.held ∧
      (∃ entry, allocated.entries[slot.toNat]? = some entry ∧ entry.Idle) ∧
      allocated.WellFormed ∧ allocated.held.map Prod.fst = (insert slot tenancy.held).val := by
  have inPool : Multiset.card tenancy.pool.held < UInt32.size := by
    rwa [← Multiset.card_map Prod.fst, sound.held_eq]
  rcases Pool.alloc_of_ok sound.wellFormed inPool succeeds with ⟨wellFormed, entry, idle, grown⟩
  have slots : allocated.held.map Prod.fst = slot ::ₘ tenancy.held.val := by
    rw [grown, Multiset.map_cons, sound.held_eq]
  have fresh : slot ∉ tenancy.held := by
    have distinct := Pool.nodup_held wellFormed
    rw [slots] at distinct
    exact (Multiset.nodup_cons.mp distinct).1
  have here := (Pool.mem_held wellFormed).mp (grown ▸ Multiset.mem_cons_self (slot, entry) _)
  exact ⟨fresh, ⟨entry, here.2, idle⟩, wellFormed,
    slots.trans (Finset.insert_val_of_notMem fresh).symm⟩

/-- How a move changes the size of a pool that is not cleared: it grows with the most that is held. -/
def Grows (before after : Tenancy kind γ) : Prop :=
  after.pool.entries.size = max before.pool.entries.size after.held.card

theorem Sound.alloc (sound : tenancy.Sound ceiling) (room : tenancy.held.card < UInt32.size)
    (calls : SocketCalls σ) :
    (tenancy.perform calls .alloc).Sound ceiling ∧
      tenancy.Grows (tenancy.perform calls .alloc) := by
  have size := sound.size_eq
  rcases alloc_cases tenancy.pool with
    ⟨slot, rest, free, succeeds⟩ | ⟨free, full, fails⟩ | ⟨free, notFull, succeeds⟩
  · rcases sound.of_alloc room succeeds with ⟨fresh, -, wellFormed, slots⟩
    simp only [perform, succeeds, Grows, Finset.card_insert_of_notMem fresh]
    rw [free, List.length_cons] at size
    refine ⟨⟨wellFormed, slots, ?_, sound.ceiling_eq, sound.size_le⟩, by omega⟩
    -- The slot on top leaves the stack; it lies there once.
    have distinct := sound.wellFormed.nodup
    rw [free, List.nodup_cons] at distinct
    have others : rest.filter (· ≠ slot) = rest := by
      rw [List.filter_eq_self]
      intro other otherMem
      exact decide_eq_true fun same => distinct.1 (same ▸ otherMem)
    rw [unclaimed_insert, ← sound.free_eq, free, List.filter_cons_of_neg (by simp), others]
  · simp only [perform, fails, Grows]
    exact ⟨sound, by omega⟩
  · rcases sound.of_alloc room succeeds with ⟨fresh, -, wellFormed, slots⟩
    simp only [perform, succeeds, Grows, Finset.card_insert_of_notMem fresh, Array.size_push]
    rw [free, List.length_nil] at size
    refine ⟨⟨wellFormed, slots, ?_, sound.ceiling_eq, fun limit limited => ?_⟩, by omega⟩
    · rw [unclaimed_insert, ← sound.free_eq, free]
      rfl
    · have below := sound.size_le limit limited
      rw [sound.isFull_iff, limited, Option.some.injEq] at notFull
      rw [Array.size_push]
      omega

theorem Sound.use (sound : tenancy.Sound ceiling) (holds : slot ∈ tenancy.held)
    (calls : SocketCalls σ) (now : Moment) (act : Entry.Act kind γ σ) :
    (tenancy.perform calls (.use slot now act)).Sound ceiling ∧
      tenancy.Grows (tenancy.perform calls (.use slot now act)) := by
  rcases sound.held_cons holds with ⟨entry, rest, here, split, others⟩
  have size := sound.size_eq
  simp only [perform, Pool.on_entryInPlace here, Grows]
  generalize ((Entry.performInPlace calls now act).on entry).2 = next
  have same_size : (tenancy.pool.set slot next).entries.size = tenancy.pool.entries.size := by
    simp only [Pool.set, Array.size_setIfInBounds]
  refine ⟨⟨Pool.wellFormed_set sound.wellFormed split next, ?_, sound.free_eq, sound.ceiling_eq,
    fun limit limited => ?_⟩, by omega⟩
  · rw [Pool.held_set sound.wellFormed split, ← sound.held_eq, split]
    simp only [Multiset.map_cons]
  · rw [same_size]
    exact sound.size_le limit limited

theorem Sound.release (sound : tenancy.Sound ceiling) (holds : slot ∈ tenancy.held)
    (calls : SocketCalls σ) :
    (tenancy.perform calls (.release slot)).Sound ceiling ∧
      tenancy.Grows (tenancy.perform calls (.release slot)) := by
  rcases sound.held_cons holds with ⟨entry, rest, here, split, others⟩
  have size := sound.size_eq
  cases closes : entry.close with
  | error fault =>
      simp only [perform, Pool.on_releaseInPlace_of_unclosed here closes, Grows]
      exact ⟨sound, by omega⟩
  | ok closed =>
      rcases Pool.release_of_closed sound.wellFormed split closes (Entry.idle_of_close closes) with
        ⟨releases, wellFormed, left⟩
      simp only [perform, (Pool.on_releaseInPlace tenancy.pool slot).2 _ releases, Grows,
        Finset.card_erase_of_mem holds]
      have same_size : (tenancy.pool.set slot closed).entries.size = tenancy.pool.entries.size := by
        simp only [Pool.set, Array.size_setIfInBounds]
      refine ⟨⟨wellFormed, ?_, ?_, sound.ceiling_eq, fun limit limited => ?_⟩, by omega⟩
      · rw [left, others]
      · rw [unclaimed_erase holds, ← sound.free_eq]
      · rw [same_size]
        exact sound.size_le limit limited

theorem sound_clear (sound : tenancy.Sound ceiling) (calls : SocketCalls σ) :
    (tenancy.perform calls .clear).Sound ceiling :=
  ⟨Pool.wellFormed_clear, rfl, rfl, sound.ceiling_eq, fun _ _ => Nat.zero_le _⟩

theorem Sound.step (sound : tenancy.Sound ceiling) (calls : SocketCalls σ) {move : Move kind γ σ}
    (allowed : tenancy.allows move) :
    (tenancy.perform calls move).Sound ceiling ∧
      (move ≠ .clear → tenancy.Grows (tenancy.perform calls move)) := by
  cases move with
  | alloc =>
      have allocated := sound.alloc (by simpa [allows] using allowed) calls
      exact ⟨allocated.1, fun _ => allocated.2⟩
  | use slot now act =>
      have used := sound.use (by simpa [allows] using allowed) calls now act
      exact ⟨used.1, fun _ => used.2⟩
  | release slot =>
      have released := sound.release (by simpa [allows] using allowed) calls
      exact ⟨released.1, fun _ => released.2⟩
  | clear => exact ⟨sound_clear sound calls, fun kept => absurd rfl kept⟩

end Steps

section Runs

variable {calls : SocketCalls σ} {ceiling : Option ℕ} {moves : List (Move kind γ σ)}

theorem play?_concat {move : Move kind γ σ} {start after : Tenancy kind γ} :
    start.play? calls (moves ++ [move]) = some after ↔
      ∃ between, start.play? calls moves = some between ∧
        between.allows move ∧ between.perform calls move = after := by
  simp [play?, Option.bind_eq_some_iff, move?]

/-- Clearing the pool leaves no load. -/
theorem loads_clear {after : Tenancy kind γ}
    (played : (vacant ceiling).play? calls (moves ++ [.clear]) = some after) :
    loads calls ceiling (moves ++ [.clear]) = {0} := by
  have empty : after.held.card = 0 := by
    rcases play?_concat.mp played with ⟨between, -, -, rfl⟩
    rfl
  ext load
  rw [Set.mem_singleton_iff]
  constructor
  · rintro ⟨earlier, later, between, split, kept, reached, rfl⟩
    rcases List.eq_nil_or_concat later with rfl | ⟨front, last, rfl⟩
    · rw [List.append_nil] at split
      rw [← split, played, Option.some.injEq] at reached
      rw [← reached, empty]
    · rw [List.concat_eq_append, ← List.append_assoc] at split
      have same := (List.append_inj' split rfl).2
      simp [List.singleton_inj.mp same] at kept
  · rintro rfl
    exact ⟨_, [], after, (List.append_nil _).symm, List.not_mem_nil, played, empty.symm⟩

/-- Any other move adds the load that it leaves. -/
theorem loads_concat {move : Move kind γ σ} (kept : move ≠ .clear) {after : Tenancy kind γ}
    (played : (vacant ceiling).play? calls (moves ++ [move]) = some after) :
    loads calls ceiling (moves ++ [move]) = insert after.held.card (loads calls ceiling moves) := by
  ext load
  rw [Set.mem_insert_iff]
  constructor
  · rintro ⟨earlier, later, between, split, unclear, reached, rfl⟩
    rcases List.eq_nil_or_concat later with rfl | ⟨front, last, rfl⟩
    · rw [List.append_nil] at split
      rw [← split, played, Option.some.injEq] at reached
      exact .inl (by rw [reached])
    · rw [List.concat_eq_append, ← List.append_assoc] at split
      rcases List.append_inj' split rfl with ⟨same, -⟩
      refine .inr ⟨earlier, front, between, same, ?_, reached, rfl⟩
      rw [List.concat_eq_append, List.mem_append, not_or] at unclear
      exact unclear.1
  · rintro (rfl | ⟨earlier, later, between, rfl, unclear, reached, rfl⟩)
    · exact ⟨_, [], after, (List.append_nil _).symm, List.not_mem_nil, played, rfl⟩
    · refine ⟨earlier, later ++ [move], between, List.append_assoc _ _ _, ?_, reached, rfl⟩
      simpa [unclear] using kept.symm

/-- Along any moves the pool fits what its user knows, and is as large as its greatest load. -/
theorem sound_of_play {after : Tenancy kind γ}
    (played : (vacant ceiling).play? calls moves = some after) :
    after.Sound ceiling ∧ IsGreatest (loads calls ceiling moves) after.pool.entries.size := by
  -- The load that the last move leaves is the only one that may be new.
  induction moves using List.reverseRecOn generalizing after with
  | nil =>
      cases played
      refine ⟨sound_vacant ceiling, ⟨[], [], _, rfl, List.not_mem_nil, rfl, rfl⟩, ?_⟩
      rintro load ⟨earlier, later, between, split, -, reached, rfl⟩
      rw [(List.append_eq_nil_iff.mp split.symm).1] at reached
      cases reached
      exact le_rfl
  | append_singleton moves move ih =>
      rcases play?_concat.mp played with ⟨between, reached, allowed, rfl⟩
      rcases ih reached with ⟨sound, greatest⟩
      rcases sound.step calls allowed with ⟨stays, grows⟩
      refine ⟨stays, ?_⟩
      by_cases clears : move = .clear
      · subst clears
        rw [loads_clear played]
        exact isGreatest_singleton
      · rw [loads_concat clears played, grows clears, max_comm]
        exact greatest.insert _

/-- What a pool and its user may rely on, whatever the user has done with the slots it held. -/
structure Allocates (calls : SocketCalls σ) (ceiling : Option ℕ) (moves : List (Move kind γ σ))
    (tenancy : Tenancy kind γ) : Prop where
  /-- A slot that is handed out is not held by anybody, and its entry is free. -/
  alloc_unheld : tenancy.held.card < UInt32.size → ∀ slot allocated,
    tenancy.pool.alloc = (.ok slot, allocated) → slot ∉ tenancy.held ∧
      ∃ entry, allocated.entries[slot.toNat]? = some entry ∧ entry.state = .free
  /-- While there are free slots, the one given back last is handed out. -/
  alloc_latest : tenancy.pool.free ≠ [] → ∃ slot allocated,
    tenancy.returned.find? (· ∉ tenancy.held) = some slot ∧
      tenancy.pool.alloc = (.ok slot, allocated)
  /-- No slot is handed out when none is free and the pool may not grow; nothing changes then. -/
  alloc_exhausted : ∀ failure refused, tenancy.pool.alloc = (.error failure, refused) ↔
    tenancy.pool.free = [] ∧ ceiling = some tenancy.pool.entries.size ∧
      failure = .exhausted (.pool kind.name) ∧ refused = tenancy.pool
  free_nodup : tenancy.pool.free.Nodup
  free_lt : ∀ slot ∈ tenancy.pool.free, slot.toNat < tenancy.pool.entries.size
  /-- Every slot is either held or free. -/
  held_iff : ∀ slot, slot ∈ tenancy.held ↔
    slot.toNat < tenancy.pool.entries.size ∧ slot ∉ tenancy.pool.free
  inUse_eq : tenancy.pool.statistics.inUse = tenancy.held.card
  /-- There are as many slots as were held at once at most, since the pool was cleared. -/
  capacity_greatest : IsGreatest (loads calls ceiling moves) tenancy.pool.statistics.capacity
  capacity_le : ∀ limit, ceiling = some limit → tenancy.pool.statistics.capacity ≤ limit
  /-- A slot is not given back while its entry is prepared or submitted, and nothing is written. -/
  release_pending : ∀ (slot : UInt32) entry, tenancy.pool.entries[slot.toNat]? = some entry →
    entry.state = .prepared ∨ entry.state = .submitted →
      (Pool.releaseInPlace slot).on tenancy.pool =
        (.error (.outOfTurn kind .close entry.state), tenancy.pool)
  /-- A slot that does not exist is not given back, and nothing is written. -/
  release_outside : ∀ slot : UInt32, tenancy.pool.entries.size ≤ slot.toNat →
    (Pool.releaseInPlace slot).on tenancy.pool =
      (.error (.slotOutOfRange tenancy.pool.entries.size slot.toNat), tenancy.pool)
  /-- Any other slot that is held can be given back. -/
  release_held : ∀ (slot : UInt32) entry, slot ∈ tenancy.held →
    tenancy.pool.entries[slot.toNat]? = some entry → entry.state = .free ∨ entry.state = .completed →
      ∃ released, (Pool.releaseInPlace slot).on tenancy.pool = (.ok (), released) ∧
        released.free = slot :: tenancy.pool.free
  /-- A cleared pool is empty, and clearing it again changes nothing. -/
  clear_empties : tenancy.pool.clear.statistics = ⟨0, 0⟩ ∧
    tenancy.pool.clear.statistics.inUse = 0 ∧ tenancy.pool.clear.clear = tenancy.pool.clear

/-- A pool hands slots out and takes them back as it should, whatever its user does with them. -/
theorem allocates_of_play {after : Tenancy kind γ}
    (played : (vacant ceiling).play? calls moves = some after) :
    after.Allocates calls ceiling moves := by
  rcases sound_of_play played with ⟨sound, greatest⟩
  constructor
  · intro room slot allocated succeeds
    rcases sound.of_alloc room succeeds with ⟨fresh, ⟨entry, here, idle⟩, -, -⟩
    exact ⟨fresh, entry, here, idle.state_eq⟩
  · intro some_free
    rcases List.exists_cons_of_ne_nil some_free with ⟨slot, rest, free⟩
    refine ⟨slot, { after.pool with free := rest }, ?_, by simp only [Pool.alloc, free]⟩
    rw [← head?_unclaimed, ← sound.free_eq, free]
    rfl
  · intro failure refused
    rw [← sound.isFull_iff]
    rcases alloc_cases after.pool with
      ⟨slot, rest, free, succeeds⟩ | ⟨free, full, fails⟩ | ⟨free, notFull, succeeds⟩
    · simp [succeeds, free]
    · simp [fails, free, full, eq_comm]
    · simp [succeeds, notFull]
  · exact sound.wellFormed.nodup
  · exact fun slot free => sound.lt_of_free free
  · exact fun slot => sound.mem_held
  · exact sound.inUse_eq
  · exact greatest
  · exact sound.size_le
  · intro slot entry here pending
    refine Pool.on_releaseInPlace_of_unclosed here ?_
    have outOfTurn : entry.state ∉ [EntryState.free, .completed] := by
      rcases pending with prepared | submitted
      · simp [prepared]
      · simp [submitted]
    simp only [Entry.close, Entry.expect_of_notMem outOfTurn, bind, Except.bind]
  · intro slot outside
    exact Pool.on_releaseInPlace_of_none (Array.getElem?_eq_none outside)
  · intro slot entry holds here ended
    rcases sound.held_cons holds with ⟨entry', rest, here', split, -⟩
    cases here.symm.trans here'
    have turn : entry.state ∈ [EntryState.free, .completed] := by simpa using ended
    have closes : entry.close =
        .ok { entry with payload := kind.operation.recycle entry.payload }.reset := by
      simp only [Entry.close, Entry.expect_of_mem turn, bind, Except.bind]
    have releases := Pool.release_of_closed sound.wellFormed split closes (Entry.idle_reset _)
    exact ⟨_, (Pool.on_releaseInPlace after.pool slot).2 _ releases.1, rfl⟩
  · exact ⟨rfl, rfl, rfl⟩

open Simulation in
/-- A slot whose operation is pending is not given back; the slot given back last is the next. -/
theorem allocates_latest_slot :
    ∃ (moves : List (Move .nop String DescriptorTable)) (tenancy : Tenancy .nop String),
      (vacant (some 2)).play? DescriptorTable.socketCalls moves = some tenancy ∧
        tenancy.Allocates DescriptorTable.socketCalls (some 2) moves ∧
        tenancy.held = {1} ∧ tenancy.returned = [1, 0] ∧ tenancy.pool.free = [0] ∧
        tenancy.pool.statistics = ⟨2, 1⟩ := by
  let moves : List (Move .nop String DescriptorTable) :=
    [.alloc, .alloc, .alloc, .use 0 ⟨0, .untouched⟩ (.prepare () "first"), .release 0,
      .use 0 ⟨1, .untouched⟩ (.abort .closed), .release 0, .release 1, .alloc]
  have plays : ((vacant (some 2)).play? DescriptorTable.socketCalls moves).any fun tenancy =>
      tenancy.held = {1} ∧ tenancy.returned = [1, 0] ∧ tenancy.pool.free = [0] ∧
        tenancy.pool.statistics = ⟨2, 1⟩ := by
    decide +kernel
  rcases (Option.any_eq_true _ _).mp plays with ⟨tenancy, played, seen⟩
  exact ⟨moves, tenancy, played, allocates_of_play played, of_decide_eq_true seen⟩

end Runs

end Tenancy

end CompletionEngine
