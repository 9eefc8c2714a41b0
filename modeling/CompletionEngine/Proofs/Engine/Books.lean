import CompletionEngine.Engine.Staging
import CompletionEngine.Proofs.Slots.Pools
import CompletionEngine.Proofs.Slots.Tags

/-!
# Books

The pools and the tag table of an engine keep books on the same operations. An operation whose entry
is in use is either in flight, that is registered under a tag, or in hand: between its allocation
and its registration, or between the freeing of its tag and the release of its slot. Each primitive
action on entries, slots and tags moves one operation from one of these places to the next and leaves
all others alone, and none of them meets a fault.
-/

namespace CompletionEngine

variable {κ τ : Type}

/-- A registered operation, with its tag and the entry that holds it. -/
structure Flight (τ : Type) where
  tag : UInt32
  grip : Grip (Continuation τ)

/-- An operation that the kernel may complete at any time. -/
structure Flight.Ready (flight : Flight τ) : Prop where
  state_eq : flight.grip.entry.state = .submitted
  tag_eq : flight.grip.entry.tag = some flight.tag
  awaited : flight.grip.entry.continuation.isSome

/-- The entries in use are those in hand and those in flight, and the tags in use are bound to those
in flight. -/
structure Books (pools : Pools (Continuation τ)) (tags : TagTable SlotRef)
    (flights : Multiset (Flight τ)) (hand : Multiset (Grip (Continuation τ))) : Prop where
  pools_wellFormed : pools.WellFormed
  tags_wellFormed : tags.WellFormed
  held_eq : pools.held = hand + flights.map Flight.grip
  bindings_eq : (tags.bindings : Multiset (UInt32 × SlotRef)) =
    flights.map fun flight => (flight.tag, flight.grip.reference)

/-- Acting on an entry in use replaces it and touches no other entry. -/
theorem Engine.modifyEntry_of_held (engine : Engine κ τ) {kind : Kind} {slot : UInt32}
    {entry after : Entry kind (Continuation τ)} {rest : Multiset (Grip (Continuation τ))}
    {α : Type} {value : α} (wellFormed : engine.pools.WellFormed)
    (inUse : engine.pools.held = ⟨⟨kind, slot⟩, entry⟩ ::ₘ rest)
    (action : Entry kind (Continuation τ) → Except Fault (α × Entry kind (Continuation τ)))
    (acts : action entry = .ok (value, after)) :
    ∃ pools, engine.modifyEntry ⟨kind, slot⟩ action = .ok (value, { engine with pools := pools }) ∧
      pools.WellFormed ∧ pools.held = ⟨⟨kind, slot⟩, after⟩ ::ₘ rest := by
  have got := Pools.get_of_held wellFormed inUse
  refine ⟨_, ?_, Pools.set_entry_of_held wellFormed inUse after⟩
  simp only [modifyEntry, got, acts, bind, Except.bind]

namespace Books

variable (engine : Engine κ τ) {flights : Multiset (Flight τ)}
  {hand : Multiset (Grip (Continuation τ))}

theorem card_flights {pools : Pools (Continuation τ)} {tags : TagTable SlotRef}
    (books : Books pools tags flights hand) : Multiset.card flights = tags.live := by
  have counted := congrArg Multiset.card books.bindings_eq
  rw [Multiset.coe_card, Multiset.card_map, ← books.tags_wellFormed.live_eq] at counted
  exact counted.symm

theorem nodup_tags {pools : Pools (Continuation τ)} {tags : TagTable SlotRef}
    (books : Books pools tags flights hand) : (flights.map Flight.tag).Nodup := by
  have nodup := TagTable.nodup_bindings books.tags_wellFormed
  rw [books.bindings_eq, Multiset.map_map] at nodup
  exact nodup

theorem nodup_references {pools : Pools (Continuation τ)} {tags : TagTable SlotRef}
    (books : Books pools tags flights hand) :
    (flights.map fun flight => flight.grip.reference).Nodup := by
  have nodup := Pools.nodup_references books.pools_wellFormed
  rw [books.held_eq, Multiset.map_add, Multiset.nodup_add, Multiset.map_map] at nodup
  exact nodup.2.1

/-- A tag stands for a slot when an operation in flight has both. -/
theorem lookup?_eq_some {pools : Pools (Continuation τ)} {tags : TagTable SlotRef}
    (books : Books pools tags flights hand) {tag : UInt32}
    {reference : SlotRef} :
    tags.lookup? tag = some reference ↔
      ∃ flight ∈ flights, flight.tag = tag ∧ flight.grip.reference = reference := by
  rw [← TagTable.mem_bindings books.tags_wellFormed, books.bindings_eq, Multiset.mem_map]
  simp only [Prod.mk.injEq]

theorem growHeap {pools : Pools (Continuation τ)} {tags : TagTable SlotRef}
    (books : Books pools tags flights hand) : Books pools.growHeap tags flights hand where
  pools_wellFormed := books.pools_wellFormed.growHeap
  tags_wellFormed := books.tags_wellFormed
  held_eq := pools.held_growHeap.trans books.held_eq
  bindings_eq := books.bindings_eq

section Hand

variable {kind : Kind} {slot : UInt32} {entry : Entry kind (Continuation τ)}

theorem alloc (books : Books engine.pools engine.tags flights hand)
    (room : Multiset.card hand + engine.tags.live < UInt32.size) {pool : Pool kind (Continuation τ)}
    (succeeds : (engine.pools.get kind).alloc = (.ok slot, pool)) :
    ∃ entry : Entry kind (Continuation τ), entry.Idle ∧
      Books (engine.pools.set kind pool) engine.tags flights (⟨⟨kind, slot⟩, entry⟩ ::ₘ hand) := by
  have heldRoom : Multiset.card engine.pools.held < UInt32.size := by
    rw [books.held_eq, Multiset.card_add, Multiset.card_map, books.card_flights]
    exact room
  rcases Pools.alloc_of_ok books.pools_wellFormed heldRoom succeeds with
    ⟨wellFormed, entry, idle, added⟩
  refine ⟨entry, idle, wellFormed, books.tags_wellFormed, ?_, books.bindings_eq⟩
  rw [added, books.held_eq, Multiset.cons_add]

theorem modify_hand {α : Type} {value : α} {after : Entry kind (Continuation τ)}
    (books : Books engine.pools engine.tags flights (⟨⟨kind, slot⟩, entry⟩ ::ₘ hand))
    (action : Entry kind (Continuation τ) → Except Fault (α × Entry kind (Continuation τ)))
    (acts : action entry = .ok (value, after)) :
    ∃ pools, engine.modifyEntry ⟨kind, slot⟩ action = .ok (value, { engine with pools := pools }) ∧
      Books pools engine.tags flights (⟨⟨kind, slot⟩, after⟩ ::ₘ hand) := by
  have inUse := books.held_eq
  rw [Multiset.cons_add] at inUse
  rcases engine.modifyEntry_of_held books.pools_wellFormed inUse action acts with
    ⟨pools, modified, wellFormed, replaced⟩
  refine ⟨pools, modified, wellFormed, books.tags_wellFormed, ?_, books.bindings_eq⟩
  rw [replaced, Multiset.cons_add]

theorem release (books : Books engine.pools engine.tags flights (⟨⟨kind, slot⟩, entry⟩ ::ₘ hand))
    (completed : entry.state = .completed) :
    ∃ pools, engine.releaseSlot ⟨kind, slot⟩ = .ok { engine with pools := pools } ∧
      Books pools engine.tags flights hand := by
  have inUse := books.held_eq
  rw [Multiset.cons_add] at inUse
  rcases Pools.release_of_held books.pools_wellFormed inUse completed with
    ⟨released, releases, wellFormed, rest⟩
  refine ⟨_, ?_, wellFormed, books.tags_wellFormed, rest, books.bindings_eq⟩
  simp only [Engine.releaseSlot, releases, bind, Except.bind]

/-- Registering an entry in hand makes it a flight under a new tag. -/
theorem register (books : Books engine.pools engine.tags flights (⟨⟨kind, slot⟩, entry⟩ ::ₘ hand))
    (room : engine.tags.live < UInt32.size) :
    ∃ tag pools tags,
      engine.registerSlot ⟨kind, slot⟩ = .ok (tag, { engine with pools := pools, tags := tags }) ∧
      Books pools tags (⟨tag, ⟨⟨kind, slot⟩, entry.assignTag tag⟩⟩ ::ₘ flights) hand ∧
      tags.live = engine.tags.live + 1 := by
  have wellFormed := TagTable.wellFormed_register books.tags_wellFormed room ⟨kind, slot⟩
  have bindings := TagTable.bindings_register books.tags_wellFormed room ⟨kind, slot⟩
  rcases registered : engine.tags.register ⟨kind, slot⟩ with ⟨tag, tags⟩
  rw [registered] at wellFormed bindings
  have inUse := books.held_eq
  rw [Multiset.cons_add] at inUse
  rcases Engine.modifyEntry_of_held { engine with tags := tags } books.pools_wellFormed inUse
    (fun entry => .ok ((), entry.assignTag tag)) rfl with
    ⟨pools, modified, poolsWellFormed, replaced⟩
  refine ⟨tag, pools, tags, ?_, ⟨poolsWellFormed, wellFormed, ?_, ?_⟩, ?_⟩
  · simp only [Engine.registerSlot, registered, modified, bind, Except.bind]
  · rw [replaced, Multiset.map_cons, Multiset.add_cons]
  · rw [bindings, books.bindings_eq, Multiset.map_cons]
  · have counted := congrArg Multiset.card bindings
    rw [Multiset.card_cons, Multiset.coe_card, Multiset.coe_card, ← wellFormed.live_eq,
      ← books.tags_wellFormed.live_eq] at counted
    exact counted

end Hand

section Flights

variable {tag : UInt32} {kind : Kind} {slot : UInt32} {entry : Entry kind (Continuation τ)}

theorem modify_flight {α : Type} {value : α} {after : Entry kind (Continuation τ)}
    (books : Books engine.pools engine.tags (⟨tag, ⟨⟨kind, slot⟩, entry⟩⟩ ::ₘ flights) hand)
    (action : Entry kind (Continuation τ) → Except Fault (α × Entry kind (Continuation τ)))
    (acts : action entry = .ok (value, after)) :
    ∃ pools, engine.modifyEntry ⟨kind, slot⟩ action = .ok (value, { engine with pools := pools }) ∧
      Books pools engine.tags (⟨tag, ⟨⟨kind, slot⟩, after⟩⟩ ::ₘ flights) hand := by
  have inUse := books.held_eq
  rw [Multiset.map_cons, Multiset.add_cons] at inUse
  rcases engine.modifyEntry_of_held books.pools_wellFormed inUse action acts with
    ⟨pools, modified, wellFormed, replaced⟩
  refine ⟨pools, modified, wellFormed, books.tags_wellFormed, ?_, ?_⟩
  · rw [replaced, Multiset.map_cons, Multiset.add_cons]
  · rw [books.bindings_eq, Multiset.map_cons, Multiset.map_cons]

/-- Freeing the tag of an operation in flight takes it in hand. -/
theorem resolve {flight : Flight τ}
    (books : Books engine.pools engine.tags (flight ::ₘ flights) hand) :
    ∃ tags, engine.resolveTag flight.tag =
        .ok (flight.grip.reference, { engine with tags := tags }) ∧
      Books engine.pools tags flights (flight.grip ::ₘ hand) := by
  have bound := books.bindings_eq
  rw [Multiset.map_cons] at bound
  rcases TagTable.resolve_of_bindings books.tags_wellFormed bound with
    ⟨tags, resolved, wellFormed, rest⟩
  refine ⟨tags, ?_, books.pools_wellFormed, wellFormed, ?_, rest⟩
  · simp only [Engine.resolveTag, resolved, bind, Except.bind]
  · rw [books.held_eq, Multiset.map_cons, Multiset.add_cons, Multiset.cons_add]

theorem drain {pools : Pools (Continuation τ)} {tags : TagTable SlotRef}
    (books : Books pools tags flights hand) :
    Books pools tags.drain.2 0 (flights.map Flight.grip + hand) where
  pools_wellFormed := books.pools_wellFormed
  tags_wellFormed := TagTable.wellFormed_drain books.tags_wellFormed
  held_eq := by rw [books.held_eq, Multiset.map_zero, add_zero, add_comm]
  bindings_eq := by rw [TagTable.bindings_drain, Multiset.map_zero]

end Flights

end Books

end CompletionEngine
