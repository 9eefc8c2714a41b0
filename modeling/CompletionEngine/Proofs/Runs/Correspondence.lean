import CompletionEngine.Proofs.Runs.Scene
import CompletionEngine.Simulation.Script

/-!
# Tags and slots

Between two steps of any run, the tags in use and the slots in use are in one-to-one correspondence,
apart from the time in which a shutdown fails what was in flight when it gave the ring up: then the
slots wait for their turn without tags.
-/

namespace CompletionEngine

variable {κ τ : Type}

/-- Tags in use and slots in use are in one-to-one correspondence. -/
structure Corresponds (engine : Engine κ τ) : Prop where
  /-- A tag stands for a slot in use, and the entry there waits for the kernel under this tag. -/
  registered : ∀ tag reference, engine.tags.lookup? tag = some reference →
    reference.slot ∉ (engine.pools.get reference.kind).free ∧
      ∃ entry, (engine.pools.get reference.kind).entries[reference.slot.toNat]? = some entry ∧
        entry.state = .submitted ∧ entry.tag = some tag ∧ entry.continuation.isSome
  /-- A slot in use is registered under exactly one tag. -/
  inUse : ∀ kind slot, slot.toNat < (engine.pools.get kind).entries.size →
    slot ∉ (engine.pools.get kind).free → ∃! tag, engine.tags.lookup? tag = some ⟨kind, slot⟩
  /-- A free slot lies in its pool, and its entry knows nothing of any operation. -/
  free : ∀ kind, ∀ slot ∈ (engine.pools.get kind).free,
    ∃ entry, (engine.pools.get kind).entries[slot.toNat]? = some entry ∧ entry.Idle
  /-- No slot is free twice. -/
  nodup : ∀ kind, (engine.pools.get kind).free.Nodup
  /-- Every place of a pool has a slot number. -/
  size_le : ∀ kind, (engine.pools.get kind).entries.size ≤ UInt32.size
  /-- As many slots are in use as operations are in flight. -/
  inUse_eq : engine.pools.inUse = engine.inFlight

namespace Books

variable {pools : Pools (Continuation τ)} {tags : TagTable SlotRef}
  {flights : Multiset (Flight τ)} {hand : Multiset (Grip (Continuation τ))}

/-- With nothing in hand, the slots in use are those of operations in flight. -/
theorem mem_held (books : Books pools tags flights 0) {grip : Grip (Continuation τ)} :
    grip ∈ pools.held ↔ ∃ flight ∈ flights, flight.grip = grip := by
  rw [books.held_eq, zero_add, Multiset.mem_map]

end Books

/-- When nothing is in hand, the books are a correspondence. -/
theorem Books.corresponds {engine : Engine κ τ} {flights : Multiset (Flight τ)}
    (books : Books engine.pools engine.tags flights 0) (ready : ∀ flight ∈ flights, flight.Ready) :
    Corresponds engine where
  registered := by
    intro tag reference found
    rcases books.lookup?_eq_some.mp found with ⟨flight, flightMem, rfl, rfl⟩
    have held := Pools.mem_held.mp (books.mem_held.mpr ⟨flight, flightMem, rfl⟩)
    rcases (Pool.mem_held (books.pools_wellFormed _)).mp held with ⟨notFree, here⟩
    have ready := ready flight flightMem
    exact ⟨notFree, flight.grip.entry, here, ready.state_eq, ready.tag_eq, ready.awaited⟩
  inUse := by
    intro kind slot inside notFree
    have here : (engine.pools.get kind).entries[slot.toNat]? =
        some (engine.pools.get kind).entries[slot.toNat] := by simp [inside]
    have held : (⟨⟨kind, slot⟩, (engine.pools.get kind).entries[slot.toNat]⟩ :
        Grip (Continuation τ)) ∈ engine.pools.held :=
      Pools.mem_held.mpr ((Pool.mem_held (books.pools_wellFormed kind)).mpr ⟨notFree, here⟩)
    rcases books.mem_held.mp held with ⟨flight, flightMem, same⟩
    refine ⟨flight.tag, books.lookup?_eq_some.mpr ⟨flight, flightMem, rfl, by rw [same]⟩, ?_⟩
    intro tag found
    rcases books.lookup?_eq_some.mp found with ⟨other, otherMem, rfl, otherSlot⟩
    have distinct := Multiset.inj_on_of_nodup_map books.nodup_references
    rw [distinct other otherMem flight flightMem (by rw [otherSlot, same])]
  free := fun kind slot slotMem => (books.pools_wellFormed kind).idle slot slotMem
  nodup := fun kind => (books.pools_wellFormed kind).nodup
  size_le := fun kind => (books.pools_wellFormed kind).size_le
  inUse_eq := by
    rw [← Pools.card_held books.pools_wellFormed, books.held_eq, zero_add, Multiset.card_map,
      books.card_flights]
    rfl

/-- In every scene of every run, unless a shutdown is failing what was left in flight, tags in use
and slots in use are in one-to-one correspondence. -/
theorem corresponds_of_play {platform : Platform κ} {configuration : Configuration} {world : κ}
    {moves : List (Move κ τ)} {scene : Scene κ τ}
    (played : (Scene.opening configuration world).play? platform moves = some scene)
    (calm : ∀ frame ∈ scene.engine.frames, frame.isFail = false) : Corresponds scene.engine := by
  rcases Scene.sound_of_play played with ⟨flights, hand, sound⟩
  have books := sound.accounts.books
  rw [sound.accounts.hand_eq_zero calm] at books
  exact books.corresponds sound.accounts.ready

open Simulation in
/-- A read and its guard are in flight, and the two slots in use are theirs. -/
theorem corresponds_guarded_read :
    ∃ (moves : List (Move Script String)) (scene : Scene Script String),
      (Scene.opening .default (.new 8 .wait none [])).play? (Script.platform (.silent _)) moves =
          some scene ∧
        scene.engine.inFlight = 2 ∧ Corresponds scene.engine := by
  let moves : List (Move Script String) :=
    [Move.request ⟨.read, ⟨⟨3⟩, ⟨4096, 16⟩, .current⟩, some (.ofMillis 5)⟩ "read", Move.step,
        Move.cycle none] ++
      List.replicate 5 Move.step
  have plays : ((Scene.opening .default (Script.new 8 .wait none [])).play?
      (Script.platform (.silent _)) moves).any fun scene =>
        scene.engine.inFlight == 2 && scene.engine.frames.all fun frame => !frame.isFail := by
    decide +kernel
  rcases (Option.any_eq_true _ _).mp plays with ⟨scene, played, shows⟩
  simp only [Bool.and_eq_true, beq_iff_eq, List.all_eq_true, Bool.not_eq_true'] at shows
  exact ⟨moves, scene, played, shows.1, corresponds_of_play played shows.2⟩

end CompletionEngine
