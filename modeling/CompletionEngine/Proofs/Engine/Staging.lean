import CompletionEngine.Proofs.Engine.Delivery
import CompletionEngine.Proofs.Engine.Vacancies
import CompletionEngine.Proofs.Operation.Alike
import CompletionEngine.Proofs.Operation.Exhaustion

/-!
# How operations begin

A request either is admitted, and then it is in flight with its guard, if it has one, and their
records are staged, or it is rejected, and then its continuation is called and the books are as they
were before. Which of the two it is depends on the first thing, if any, that stands in its way.
-/

namespace CompletionEngine

variable {κ τ : Type}

/-- What an operation has been asked to do, when, and for whom. -/
structure Errand (τ : Type) where
  kind : Kind
  params : kind.Params
  started : Instant
  continuation : Continuation τ

/-- An entry holds the continuation of an errand, and the payload that its parameters make. -/
def Errand.HeldBy (errand : Errand τ) (grip : Grip (Continuation τ)) : Prop :=
  ∃ slot entry previous heap, grip = ⟨⟨errand.kind, slot⟩, entry⟩ ∧
    entry.continuation = some errand.continuation ∧
    errand.kind.operation.prepare ⟨errand.started, heap⟩ errand.params previous = .ok entry.payload

/-- The errands of a request: its own, and that of its guard. -/
def Request.errands (request : Request τ) (now : Instant) : List (Errand τ) :=
  ⟨request.command.kind, request.command.params, now, request.continuation⟩ ::
    match request.command.limit with
    | none => []
    | some limit => [⟨.guard, limit, now, .guard⟩]

/-- How the records of a request are linked: its own to that of its guard, if it has one. -/
def Request.links (request : Request τ) : List SubmitFlags :=
  match request.command.limit with
  | none => [.empty]
  | some _ => [.ioLink, .empty]

theorem Request.length_errands (request : Request τ) (now : Instant) :
    (request.errands now).length = request.command.recordCount := by
  unfold Request.errands Command.recordCount
  cases request.command.limit <;> rfl

/-- An operation that has been put in flight, with its record and what it is for. -/
structure Admission (τ : Type) where
  flight : Flight τ
  record : SubmitRecord
  errand : Errand τ

/-- The operation is ready, its record bears its tag and is what its entry renders, and it holds its
errand. -/
structure Admission.Proper (admission : Admission τ) : Prop where
  ready : admission.flight.Ready
  named : admission.record.userData = admission.flight.tag.toUInt64
  rendered : admission.flight.grip.entry.render .blank = admission.record
  holds : admission.errand.HeldBy admission.flight.grip

theorem Admission.Proper.of_prepared {kind : Kind} {params : kind.Params} {now : Moment}
    {previous payload : kind.Payload}
    (prepared : kind.operation.prepare now params previous = .ok payload) (slot tag : UInt32)
    (flags : SubmitFlags) (continuation : Continuation τ) :
    Admission.Proper
      ⟨⟨tag, ⟨⟨kind, slot⟩, ⟨.submitted, some tag, flags, some continuation, payload⟩⟩⟩,
        Entry.render ⟨.prepared, some tag, flags, some continuation, payload⟩ .blank,
        ⟨kind, params, now.time, continuation⟩⟩ :=
  ⟨⟨rfl, rfl, rfl⟩, rfl, rfl, slot, _, previous, now.heap, rfl, rfl, prepared⟩

/-- What a kind refuses parameters with. -/
def Kind.refusal? (kind : Kind) (now : Instant) (params : kind.Params) : Option Failure :=
  match kind.operation.prepare ⟨now, .untouched⟩ params kind.operation.fresh with
  | .ok _ => none
  | .error failure => some failure

/-- A kind refuses paths that hold a NUL byte, and nothing else. -/
theorem Kind.refusal?_eq_some {kind : Kind} {now : Instant} {params : kind.Params}
    {failure : Failure} :
    kind.refusal? now params = some failure ↔ ¬ kind.Accepts params ∧ failure = .pathHoldsNul := by
  unfold refusal?
  by_cases accepts : kind.Accepts params
  · rcases prepare_of_accepts accepts ⟨now, .untouched⟩ ⟨now, .untouched⟩ kind.operation.fresh
      kind.operation.fresh with ⟨payload, -, accepted, -⟩
    simp [accepted, accepts]
  · rw [prepare_of_refuses accepts]
    simp [accepts, eq_comm]

/-- What an entry held before has no say in whether it accepts parameters. -/
theorem Kind.refusal?_of_prepare {kind : Kind} {now : Moment} {params : kind.Params}
    {previous payload : kind.Payload}
    (prepared : kind.operation.prepare now params previous = .ok payload) :
    kind.refusal? now.time params = none := by
  by_contra refused
  rcases Option.ne_none_iff_exists'.mp refused with ⟨failure, refused⟩
  have refuses := prepare_of_refuses (refusal?_eq_some.mp refused).1 now previous
  cases prepared.symm.trans refuses

theorem Kind.refusal?_of_error {kind : Kind} {now : Moment} {params : kind.Params}
    {previous : kind.Payload} {failure : Failure}
    (refused : kind.operation.prepare now params previous = .error failure) :
    kind.refusal? now.time params = some failure := by
  apply refusal?_eq_some.mpr
  by_cases accepts : kind.Accepts params
  · rcases prepare_of_accepts accepts now now previous previous with ⟨payload, -, accepted, -⟩
    cases refused.symm.trans accepted
  · refine ⟨accepts, ?_⟩
    cases refused.symm.trans (prepare_of_refuses accepts now previous)
    rfl

/-- The first thing that stands in the way of a request, in the order in which an engine looks: the
engine is closed, there is no slot of the kind, the kind refuses the parameters, or there is no slot
for the guard, once the request has taken its own. -/
def Engine.obstacle? (platform : Platform κ) (request : Request τ) (engine : Engine κ τ) :
    Option Failure :=
  let ⟨kind, params, limit⟩ := request.command
  let pool := engine.pools.get kind
  if engine.closed then some .closed
  else if pool.isExhausted then some (.exhausted (.pool kind.name))
  else match kind.refusal? (platform.now engine.world) params with
    | some failure => some failure
    | none =>
      if limit.isSome && ((engine.pools.set kind pool.alloc.2).get .guard).isExhausted then
        some (.exhausted (.pool Kind.guard.name))
      else none

/-- What an engine goes on to do for a request once its operation is registered. -/
def Engine.stageRegistered (platform : Platform κ) (reference : SlotRef) (tag : UInt32)
    (limit : Option TimeLimit) (engine : Engine κ τ) : Except Fault (Engine κ τ) := do
  let (guard, engine) ← engine.prepareGuard? platform limit
  match guard with
  | .error failure =>
    let (_, engine) ← engine.resolveTag tag
    engine.abortSlot reference failure
  | .ok guard =>
    let engine ← engine.stagePair reference guard
    let added := if limit.isSome then 2 else 1
    .ok { engine with statistics.submitted := engine.statistics.submitted + added }

namespace Books

variable (engine : Engine κ τ) {flights : Multiset (Flight τ)}
  {hand : Multiset (Grip (Continuation τ))} {kind : Kind} {slot : UInt32}

/-- A new operation in hand, prepared or with its parameters refused. -/
theorem enlist (books : Books engine.pools engine.tags flights hand)
    (room : Multiset.card hand + engine.tags.live < UInt32.size) {pool : Pool kind (Continuation τ)}
    (succeeds : (engine.pools.get kind).alloc = (.ok slot, pool)) (platform : Platform κ)
    (params : kind.Params) (continuation : Continuation τ) :
    ∃ outcome heap payload previous pools,
      { engine with pools := engine.pools.set kind pool }.prepareSlot platform ⟨kind, slot⟩ params
          continuation =
        .ok (outcome, { engine with pools := pools }) ∧
      Books pools engine.tags flights
        (⟨⟨kind, slot⟩, ⟨.prepared, none, .empty, some continuation, payload⟩⟩ ::ₘ hand) ∧
      (outcome = .ok () ∧
          kind.operation.prepare ⟨platform.now engine.world, heap⟩ params previous = .ok payload ∨
        ∃ failure, outcome = .error failure ∧
          kind.operation.prepare ⟨platform.now engine.world, heap⟩ params previous =
            .error failure) := by
  rcases books.alloc engine room succeeds with ⟨entry, idle, inHand⟩
  let pools := engine.pools.set kind pool
  let now : Moment := ⟨platform.now engine.world, pools.heap⟩
  rcases Entry.prepare_of_idle idle now params continuation with
    ⟨outcome, payload, prepares, prepared⟩
  rcases inHand.growHeap.modify_hand { engine with pools := pools.growHeap }
    (Entry.prepare now params continuation) prepares with ⟨after, modified, inHandAfter⟩
  exact ⟨outcome, pools.heap, payload, entry.payload, after, modified, inHandAfter, prepared⟩

theorem stage {tag : UInt32} {entry : Entry kind (Continuation τ)}
    (books : Books engine.pools engine.tags (⟨tag, ⟨⟨kind, slot⟩, entry⟩⟩ ::ₘ flights) hand)
    (prepared : entry.state = .prepared) :
    ∃ pools, engine.stageSlot ⟨kind, slot⟩ = .ok { engine with
        pools := pools
        staged := engine.staged ++ [entry.render .blank] } ∧
      Books pools engine.tags
        (⟨tag, ⟨⟨kind, slot⟩, { entry with state := .submitted }⟩⟩ ::ₘ flights) hand := by
  rcases books.modify_flight engine (fun entry => do
      let record := entry.render .blank
      .ok (record, ← entry.markSubmitted))
      (by simp only [Entry.markSubmitted_of_prepared prepared, bind, Except.bind]; rfl) with
    ⟨pools, modified, after⟩
  refine ⟨pools, ?_, after⟩
  rw [Engine.stageSlot, modified]
  rfl

/-- A guard cannot be had, and then nothing has changed, or it is put in flight, prepared. -/
theorem prepareGuard (books : Books engine.pools engine.tags flights hand)
    (room : Multiset.card hand + engine.tags.live < UInt32.size) (platform : Platform κ)
    (limit : TimeLimit) :
    (engine.pools.get .guard).isExhausted = true ∧
      engine.prepareGuard platform limit =
        .ok (.error (.exhausted (.pool Kind.guard.name)), engine) ∨
    (engine.pools.get .guard).isExhausted = false ∧ ∃ slot tag heap payload previous pools tags,
      engine.prepareGuard platform limit =
        .ok (.ok ⟨.guard, slot⟩, { engine with pools := pools, tags := tags }) ∧
      Books pools tags (⟨tag, ⟨⟨.guard, slot⟩,
        ⟨.prepared, some tag, .empty, some .guard, payload⟩⟩⟩ ::ₘ flights) hand ∧
      Kind.guard.operation.prepare ⟨platform.now engine.world, heap⟩ limit previous =
        .ok payload := by
  cases exhausted : (engine.pools.get .guard).isExhausted with
  | true =>
      refine .inl ⟨rfl, ?_⟩
      simp only [Engine.prepareGuard, Engine.allocSlot, Pool.alloc_of_exhausted exhausted,
        Pools.set_get_self]
      rfl
  | false =>
      rcases Pool.alloc_of_not_exhausted exhausted with ⟨slot, pool, allocated, -⟩
      rcases books.enlist engine room allocated platform limit .guard with
        ⟨outcome, heap, payload, previous, pools, enlisted, inHand, prepared⟩
      rcases prepared with ⟨rfl, prepared⟩ | ⟨failure, -, refused⟩
      · rcases inHand.register { engine with pools := pools } (by simp only; omega) with
          ⟨tag, registeredPools, tags, registered, after, -⟩
        refine .inr ⟨rfl, slot, tag, heap, payload, previous, registeredPools, tags, ?_, after,
          prepared⟩
        simp only [Engine.prepareGuard, Engine.allocSlot, allocated]
        simp only [Except.map, enlisted, registered, bind, Except.bind]
      · cases refused

theorem swap {pools : Pools (Continuation τ)} {tags : TagTable SlotRef} {first second : Flight τ}
    (books : Books pools tags (first ::ₘ second ::ₘ flights) hand) :
    Books pools tags (second ::ₘ first ::ₘ flights) hand :=
  Multiset.cons_swap first second flights ▸ books

theorem stagePair {tag guardTag : UInt32} {guardSlot : UInt32}
    {entry : Entry kind (Continuation τ)} {guard : Entry .guard (Continuation τ)}
    (books : Books engine.pools engine.tags
      (⟨guardTag, ⟨⟨.guard, guardSlot⟩, guard⟩⟩ ::ₘ ⟨tag, ⟨⟨kind, slot⟩, entry⟩⟩ ::ₘ flights) hand)
    (prepared : entry.state = .prepared) (guardPrepared : guard.state = .prepared) :
    ∃ pools, engine.stagePair ⟨kind, slot⟩ (some ⟨.guard, guardSlot⟩) = .ok { engine with
        pools := pools
        staged := engine.staged ++ [entry.link.render .blank, guard.render .blank] } ∧
      Books pools engine.tags
        (⟨tag, ⟨⟨kind, slot⟩, { entry.link with state := .submitted }⟩⟩ ::ₘ
          ⟨guardTag, ⟨⟨.guard, guardSlot⟩, { guard with state := .submitted }⟩⟩ ::ₘ flights)
        hand := by
  rcases books.swap.modify_flight engine (fun entry => .ok ((), entry.link)) rfl with
    ⟨linkedPools, linked, linkedBooks⟩
  rcases linkedBooks.stage { engine with pools := linkedPools } prepared with
    ⟨pairPools, staged, stagedBooks⟩
  rcases stagedBooks.swap.stage { engine with
      pools := pairPools
      staged := engine.staged ++ [entry.link.render .blank] } guardPrepared with
    ⟨pools, guardStaged, after⟩
  refine ⟨pools, ?_, after.swap⟩
  rw [Engine.stagePair, linked]
  simp only [bind, Except.bind, staged, guardStaged, List.append_assoc, List.cons_append,
    List.nil_append]

section Registered

variable {tag : UInt32} {entry : Entry kind (Continuation τ)}
  (books : Books engine.pools engine.tags (⟨tag, ⟨⟨kind, slot⟩, entry⟩⟩ ::ₘ flights) hand)
  (prepared : entry.state = .prepared) (platform : Platform κ)

include books prepared

/-- Without a time limit, the record is staged alone. -/
theorem stageAlone :
    ∃ pools, engine.stageRegistered platform ⟨kind, slot⟩ tag none = .ok { engine with
        pools := pools
        statistics.submitted := engine.statistics.submitted + 1
        staged := engine.staged ++ [entry.render .blank] } ∧
      Books pools engine.tags
        (⟨tag, ⟨⟨kind, slot⟩, { entry with state := .submitted }⟩⟩ ::ₘ flights) hand := by
  rcases books.stage engine prepared with ⟨pools, staged, after⟩
  refine ⟨pools, ?_, after⟩
  simp only [Engine.stageRegistered, Engine.prepareGuard?, Engine.stagePair, staged, bind,
    Except.bind]
  rfl

/-- Without a guard to be had, the slot and the tag are given back, and the request is rejected. -/
theorem giveBack {limit : TimeLimit} {failure : Failure}
    (unguarded : engine.prepareGuard platform limit = .ok (.error failure, engine)) :
    ∃ pools tags, engine.stageRegistered platform ⟨kind, slot⟩ tag (some limit) =
        .ok ({ engine with pools := pools, tags := tags }.deliver entry.continuation
          ⟨kind, .error failure⟩) ∧
      Books pools tags flights hand ∧
      engine.pools.Vacates kind (slot :: (engine.pools.get kind).free) pools := by
  rcases books.resolve engine with ⟨tags, resolved, inHand⟩
  rcases inHand.abort { engine with tags := tags } (.inl prepared) failure with
    ⟨pools, aborted, after⟩
  have given := Engine.vacates_abortSlot aborted
  rw [Engine.pools_deliver] at given
  refine ⟨pools, tags, ?_, after, given⟩
  simp only [Engine.stageRegistered, Engine.prepareGuard?, unguarded, Except.map, resolved, bind,
    Except.bind]
  exact aborted

omit books in
/-- With a guard, the record is staged with that of the guard right behind it. -/
theorem stageGuarded {limit : TimeLimit} {guardSlot guardTag : UInt32}
    {guard : Entry .guard (Continuation τ)} {pools : Pools (Continuation τ)}
    {tags : TagTable SlotRef} (guardPrepared : guard.state = .prepared)
    (guarded : engine.prepareGuard platform limit =
      .ok (.ok ⟨.guard, guardSlot⟩, { engine with pools := pools, tags := tags }))
    (books : Books pools tags (⟨guardTag, ⟨⟨.guard, guardSlot⟩, guard⟩⟩ ::ₘ
      ⟨tag, ⟨⟨kind, slot⟩, entry⟩⟩ ::ₘ flights) hand) :
    ∃ after, engine.stageRegistered platform ⟨kind, slot⟩ tag (some limit) = .ok { engine with
        pools := after
        tags := tags
        statistics.submitted := engine.statistics.submitted + 2
        staged := engine.staged ++ [entry.link.render .blank, guard.render .blank] } ∧
      Books after tags
        (⟨tag, ⟨⟨kind, slot⟩, { entry.link with state := .submitted }⟩⟩ ::ₘ
          ⟨guardTag, ⟨⟨.guard, guardSlot⟩, { guard with state := .submitted }⟩⟩ ::ₘ flights)
        hand := by
  rcases books.stagePair { engine with pools := pools, tags := tags } prepared guardPrepared with
    ⟨after, staged, staying⟩
  refine ⟨after, ?_, staying⟩
  simp only [Engine.stageRegistered, Engine.prepareGuard?, guarded, Except.map, staged, bind,
    Except.bind]
  rfl

end Registered

/-- A registered request is rejected and gives back what it took, if it needs a guard and there is
none to be had. Otherwise it is admitted. -/
theorem stagesRegistered {platform : Platform κ} {tag : UInt32} {heap : Heap} {params : kind.Params}
    {previous payload : kind.Payload} {continuation : Continuation τ}
    (books : Books engine.pools engine.tags (⟨tag, ⟨⟨kind, slot⟩,
      ⟨.prepared, some tag, .empty, some continuation, payload⟩⟩⟩ ::ₘ flights) hand)
    (prepared :
      kind.operation.prepare ⟨platform.now engine.world, heap⟩ params previous = .ok payload)
    (room : Multiset.card hand + engine.tags.live < UInt32.size) (limit : Option TimeLimit) :
    ((limit.isSome && (engine.pools.get .guard).isExhausted) = true ∧ ∃ pools tags,
      engine.stageRegistered platform ⟨kind, slot⟩ tag limit =
        .ok ({ engine with pools := pools, tags := tags }.deliver (some continuation)
          ⟨kind, .error (.exhausted (.pool Kind.guard.name))⟩) ∧
      Books pools tags flights hand ∧
      engine.pools.Vacates kind (slot :: (engine.pools.get kind).free) pools) ∨
    ((limit.isSome && (engine.pools.get .guard).isExhausted) = false ∧
      ∃ pools tags, ∃ admissions : List (Admission τ),
      engine.stageRegistered platform ⟨kind, slot⟩ tag limit = .ok { engine with
        pools := pools
        tags := tags
        statistics.submitted :=
          engine.statistics.submitted + Command.recordCount ⟨kind, params, limit⟩
        staged := engine.staged ++ admissions.map Admission.record } ∧
      Books pools tags (↑(admissions.map Admission.flight) + flights) hand ∧
      admissions.map Admission.errand =
        Request.errands ⟨⟨kind, params, limit⟩, continuation⟩ (platform.now engine.world) ∧
      admissions.map (fun admission => admission.record.flags) =
        Request.links ⟨⟨kind, params, limit⟩, continuation⟩ ∧
      ∀ admission ∈ admissions, admission.Proper) := by
  let entry : Entry kind (Continuation τ) :=
    ⟨.prepared, some tag, .empty, some continuation, payload⟩
  cases limit with
  | none =>
      rcases books.stageAlone engine rfl platform with ⟨pools, staged, after⟩
      refine .inr ⟨rfl, pools, engine.tags, [⟨_, entry.render .blank, _⟩], staged, after, rfl, ?_,
        ?_⟩
      · exact congrArg (fun flags => [flags]) (entry.flags_render .blank)
      · intro admission admissionMem
        rw [List.mem_singleton.mp admissionMem]
        exact .of_prepared prepared slot tag .empty continuation
  | some limit =>
      rcases books.prepareGuard engine room platform limit with
        ⟨noGuard, unguarded⟩ | ⟨spare, guardSlot, guardTag, guardHeap, guardPayload, guardPrevious,
          guardPools, guardTags, guardPrepared, guarded, guardHolds⟩
      · exact .inl ⟨noGuard, books.giveBack engine rfl platform unguarded⟩
      · rcases guarded.stageGuarded engine rfl platform rfl guardPrepared with
          ⟨pools, staged, after⟩
        let guard : Entry .guard (Continuation τ) :=
          ⟨.prepared, some guardTag, .empty, some .guard, guardPayload⟩
        refine .inr ⟨spare, pools, guardTags,
          [⟨⟨tag, ⟨⟨kind, slot⟩, { entry.link with state := .submitted }⟩⟩,
              entry.link.render .blank, _⟩,
            ⟨⟨guardTag, ⟨⟨.guard, guardSlot⟩, { guard with state := .submitted }⟩⟩,
              guard.render .blank, _⟩], staged, ?_, rfl, ?_, ?_⟩
        · simp only [List.map_cons, List.map_nil, ← Multiset.cons_coe, Multiset.cons_add,
            Multiset.coe_nil, zero_add]
          exact after
        · have linked : (entry.link.render .blank).flags = .ioLink :=
            (entry.link.flags_render .blank).trans (Entry.flags_link rfl)
          have unlinked : (guard.render .blank).flags = .empty := guard.flags_render .blank
          simp only [List.map_cons, List.map_nil, linked, unlinked]
          rfl
        · intro admission admissionMem
          rcases List.mem_pair.mp admissionMem with rfl | rfl
          · exact .of_prepared prepared slot tag entry.link.flags continuation
          · exact .of_prepared guardHolds guardSlot guardTag .empty .guard

/-- A request that something stands in the way of is rejected with it, and then the books and the
free slots are as before once its continuation is called. Otherwise it is admitted, and then its
operations are in flight and their records staged. -/
theorem stages (books : Books engine.pools engine.tags flights hand)
    (room : engine.closed = false → Multiset.card hand + engine.tags.live + 2 ≤ UInt32.size)
    (platform : Platform κ) (request : Request τ) :
    (∃ pools tags failure, engine.obstacle? platform request = some failure ∧
      engine.stageRequest platform request =
        .ok ({ engine with pools := pools, tags := tags }.deliver (some request.continuation)
          ⟨request.command.kind, .error failure⟩) ∧
      Books pools tags flights hand ∧ engine.pools.Restores request.command.kind pools ∧
      failure ≠ .exhausted .submissionQueue) ∨
    (engine.obstacle? platform request = none ∧ engine.closed = false ∧
      ∃ pools tags, ∃ admissions : List (Admission τ),
      engine.stageRequest platform request = .ok { engine with
        pools := pools
        tags := tags
        statistics.submitted := engine.statistics.submitted + request.command.recordCount
        staged := engine.staged ++ admissions.map Admission.record } ∧
      Books pools tags (↑(admissions.map Admission.flight) + flights) hand ∧
      admissions.map Admission.errand = request.errands (platform.now engine.world) ∧
      admissions.map (fun admission => admission.record.flags) = request.links ∧
      ∀ admission ∈ admissions, admission.Proper) := by
  rcases request with ⟨⟨kind, params, limit⟩, continuation⟩
  by_cases closed : engine.closed
  · left
    refine ⟨engine.pools, engine.tags, .closed, ?_, ?_, books, .refl kind engine.pools, by simp⟩
    · simp only [Engine.obstacle?, if_pos closed]
    · simp only [Engine.stageRequest, if_pos closed]
      rfl
  have room := room (by simpa using closed)
  by_cases exhausted : (engine.pools.get kind).isExhausted
  · left
    refine ⟨engine.pools, engine.tags, .exhausted (.pool kind.name), ?_, ?_, books,
      .refl kind engine.pools, by simp⟩
    · simp only [Engine.obstacle?, if_neg closed, if_pos exhausted]
    · simp only [Engine.stageRequest, if_neg closed, Pool.alloc_of_exhausted exhausted]
  rcases Pool.alloc_of_not_exhausted (by simpa using exhausted) with ⟨slot, pool, allocated, taken⟩
  rcases books.enlist engine (by omega) allocated platform params continuation with
    ⟨outcome, heap, payload, previous, enlistedPools, enlisted, inHand, decided⟩
  have kept := Engine.vacates_prepareSlot enlisted
  simp only [Pools.get_set_self] at kept
  -- Once the slot is given back, what is free is what was free.
  have restores {pools : Pools (Continuation τ)} {tags : TagTable SlotRef}
      (given : (engine.pools.set kind pool).Vacates kind (slot :: pool.free) pools)
      (after : Books pools tags flights hand) : engine.pools.Restores kind pools :=
    given.restores taken (after.held_eq.trans books.held_eq.symm)
  rcases decided.symm with ⟨failure, rfl, refused⟩ | ⟨rfl, prepared⟩
  -- The payload refuses the parameters before anything is registered.
  · rcases inHand.abort { engine with pools := enlistedPools } (.inl rfl) failure with
      ⟨pools, aborted, after⟩
    have given := Engine.vacates_abortSlot aborted
    rw [Engine.pools_deliver, kept.free_eq] at given
    left
    refine ⟨pools, engine.tags, failure, ?_, ?_, after, restores (kept.trans given) after,
      Kind.prepare_ne_exhausted refused _⟩
    · simp only [Engine.obstacle?, if_neg closed, if_neg exhausted, Kind.refusal?_of_error refused]
    · simp only [Engine.stageRequest, if_neg closed, allocated, enlisted, aborted, bind,
        Except.bind]
  have accepted := Kind.refusal?_of_prepare prepared
  rcases inHand.register { engine with pools := enlistedPools } (by simp only; omega) with
    ⟨tag, registeredPools, tags, registered, inFlight, added⟩
  change tags.live = engine.tags.live + 1 at added
  let started : Engine κ τ := { engine with pools := registeredPools, tags := tags }
  have goesOn : engine.stageRequest platform ⟨⟨kind, params, limit⟩, continuation⟩ =
      started.stageRegistered platform ⟨kind, slot⟩ tag limit := by
    simp only [Engine.stageRequest, if_neg closed, allocated, enlisted, registered, bind,
      Except.bind]
    rfl
  have held : (engine.pools.set kind pool).Vacates kind pool.free registeredPools := by
    have bound := Engine.vacates_registerSlot registered
    rw [kept.free_eq] at bound
    exact kept.trans bound
  have same : (registeredPools.get .guard).isExhausted =
      ((engine.pools.set kind pool).get .guard).isExhausted := by
    have vacates : (engine.pools.set kind pool).Vacates kind
        ((engine.pools.set kind pool).get kind).free registeredPools := by
      rwa [Pools.get_set_self]
    exact vacates.isExhausted_eq .guard
  rcases inFlight.stagesRegistered started prepared (by simp only [started]; omega) limit with
    ⟨noGuard, pools, freedTags, rejected, after, given⟩ |
      ⟨clear, pools, newTags, admissions, admitted, after⟩
  · rw [held.free_eq] at given
    refine .inl ⟨pools, freedTags, .exhausted (.pool Kind.guard.name), ?_, goesOn.trans rejected,
      after, restores (held.trans given) after, by simp⟩
    rw [same] at noGuard
    simp only [Engine.obstacle?, if_neg closed, if_neg exhausted, accepted, allocated,
      if_pos noGuard]
  · refine .inr ⟨?_, by simpa using closed, pools, newTags, admissions, goesOn.trans admitted,
      after⟩
    rw [same] at clear
    simp only [Engine.obstacle?, if_neg closed, if_neg exhausted, accepted, allocated, clear]
    rfl

/-- A request is either rejected, and then the books are as before once its continuation is called,
or admitted, and then its operations are in flight and their records staged. -/
theorem stageRequest (books : Books engine.pools engine.tags flights hand)
    (room : engine.closed = false → Multiset.card hand + engine.tags.live + 2 ≤ UInt32.size)
    (platform : Platform κ) (request : Request τ) :
    (∃ pools tags failure,
      engine.stageRequest platform request =
        .ok ({ engine with pools := pools, tags := tags }.deliver (some request.continuation)
          ⟨request.command.kind, .error failure⟩) ∧
      Books pools tags flights hand ∧ failure ≠ .exhausted .submissionQueue) ∨
    (engine.closed = false ∧ ∃ pools tags, ∃ admissions : List (Admission τ),
      engine.stageRequest platform request = .ok { engine with
        pools := pools
        tags := tags
        statistics.submitted := engine.statistics.submitted + request.command.recordCount
        staged := engine.staged ++ admissions.map Admission.record } ∧
      Books pools tags (↑(admissions.map Admission.flight) + flights) hand ∧
      admissions.map Admission.errand = request.errands (platform.now engine.world) ∧
      admissions.map (fun admission => admission.record.flags) = request.links ∧
      ∀ admission ∈ admissions, admission.Proper) := by
  rcases books.stages engine room platform request with
    ⟨pools, tags, failure, -, rejected, after, -, told⟩ | ⟨-, admitted⟩
  · exact .inl ⟨pools, tags, failure, rejected, after, told⟩
  · exact .inr admitted

end Books

end CompletionEngine
