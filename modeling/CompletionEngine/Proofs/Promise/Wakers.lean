import CompletionEngine.Proofs.Promise.Chronicle

/-!
# Wakers

A waker that is left with a pending promise is to be woken once the promise is resolved. What matters
for that is, for each promise, whether it is resolved and which wakers are left with it, and which
wakers are to be woken and have been woken. A move changes this in one of a few ways, which
`Roll.Turns` lists. That no waker is forgotten and none is woken too often is a matter of these few
ways only.
-/

namespace CompletionEngine.Promise

variable {α ω : Type}

/-- The waker that a frame is about to wake. -/
def Frame.waker? : Frame α ℕ ω → Option ω
  | wake waker => some waker
  | _ => none

/-- The waker that an event has woken. -/
def Event.waker? : Event α ℕ ω → Option ω
  | woken waker => some waker
  | entered .. => none

namespace Store

/-- The wakers that are to be woken, in order. -/
def toWake (store : Store α ℕ ω) : List ω := store.frames.filterMap Frame.waker?

/-- The wakers that have been woken, the last in front. -/
def woken (store : Store α ℕ ω) : List ω := store.journal.filterMap Event.waker?

/-- Whether nothing happens to wakers from one store to another. -/
structure Calm (before after : Store α ℕ ω) : Prop where
  size_le : before.size ≤ after.size
  result?_eq : ∀ id, after.result? id = before.result? id
  wakers_eq : ∀ id, after.wakers id = before.wakers id
  toWake_eq : after.toWake = before.toWake
  woken_eq : after.woken = before.woken

variable {store before between after : Store α ℕ ω}

theorem Calm.refl (store : Store α ℕ ω) : store.Calm store :=
  ⟨le_rfl, fun _ => rfl, fun _ => rfl, rfl, rfl⟩

theorem Calm.trans (earlier : before.Calm between) (later : between.Calm after) :
    before.Calm after where
  size_le := earlier.size_le.trans later.size_le
  result?_eq := fun id => (later.result?_eq id).trans (earlier.result?_eq id)
  wakers_eq := fun id => (later.wakers_eq id).trans (earlier.wakers_eq id)
  toWake_eq := later.toWake_eq.trans earlier.toWake_eq
  woken_eq := later.woken_eq.trans earlier.woken_eq

theorem toWake_next (frame : Frame α ℕ ω) (store : Store α ℕ ω) :
    (store.next frame).toWake = frame.waker?.toList ++ store.toWake := by
  rw [toWake, next, List.filterMap_cons]
  cases frame.waker? <;> rfl

/-- Of what a resolution takes out, the wakers are to be woken. -/
theorem waker?_taken (actions : List (Action α ℕ)) (result : Except Failure α) (wakers : List ω)
    (frames : List (Frame α ℕ ω)) :
    (actions.map (Frame.run · result) ++ wakers.map Frame.wake ++ frames).filterMap Frame.waker? =
      wakers ++ frames.filterMap Frame.waker? := by
  have runs : (actions.map (Frame.run · result)).filterMap
      (Frame.waker? : Frame α ℕ ω → Option ω) = [] := by
    rw [List.filterMap_map, List.filterMap_eq_nil_iff]
    exact fun action _ => rfl
  have wakes : (wakers.map Frame.wake).filterMap
      (Frame.waker? : Frame α ℕ ω → Option ω) = wakers := by
    rw [List.filterMap_map]
    exact List.filterMap_some
  rw [List.filterMap_append, List.filterMap_append, runs, wakes, List.nil_append]

theorem calm_next {frame : Frame α ℕ ω} (plain : frame.waker? = none) (store : Store α ℕ ω) :
    store.Calm (store.next frame) :=
  ⟨le_rfl, fun _ => rfl, fun _ => rfl, by simp [toWake_next, plain], rfl⟩

theorem calm_of_next {frame : Frame α ℕ ω} (plain : frame.waker? = none) (store : Store α ℕ ω) :
    (store.next frame).Calm store :=
  ⟨le_rfl, fun _ => rfl, fun _ => rfl, by simp [toWake_next, plain], rfl⟩

theorem calm_create (store : Store α ℕ ω) : store.Calm (store.create .fresh).2 where
  size_le := by simp
  result?_eq := result?_create_fresh store
  wakers_eq := wakers_create_of_nil rfl store
  toWake_eq := rfl
  woken_eq := rfl

theorem calm_enter? (code : Option ℕ) (result : Except Failure α) (store : Store α ℕ ω) :
    store.Calm (store.enter? code result) := by
  cases code with
  | none => exact .refl store
  | some code => exact ⟨le_rfl, fun _ => rfl, fun _ => rfl, rfl, rfl⟩

/-- Attaching an action leaves the wakers of the promise with it. -/
theorem calm_attach {id : Id} (inside : id < store.size) (action : Action α ℕ) :
    store.Calm (store.attach id action) := by
  cases pending : store.result? id with
  | some result =>
      rw [attach_of_result? pending]
      exact calm_next rfl store
  | none =>
      rw [attach_of_pending inside pending]
      refine ⟨(size_replace _ _ _).ge, fun other => ?_, fun other => ?_, rfl, rfl⟩
      · rw [result?_replace inside]
        split
        · next here => rw [here, pending]; rfl
        · rfl
      · rw [wakers_replace inside]
        split
        · next here => rw [here]; rfl
        · rfl

theorem calm_attachSource {source : Source α} (action : Action α ℕ)
    (there : ∀ id, source = .promise id → id < store.size) :
    store.Calm (store.attachSource source action) := by
  cases source with
  | promise id => exact calm_attach (there id rfl) action
  | settled result => exact calm_next rfl store
  | map source mapper | chain source mapper =>
      exact ((calm_create store).trans (calm_next rfl _)).trans (calm_next rfl _)

/-- Running an action wakes nobody. -/
theorem calm_runAction (action : Action α ℕ) (result : Except Failure α) (store : Store α ℕ ω) :
    store.Calm (store.runAction action result) := by
  cases action with
  | onResult code => exact calm_enter? (some code) result store
  | onSuccess code =>
      cases result with
      | ok value => exact calm_enter? (some code) (.ok value) store
      | error failure => exact .refl store
  | onFailure code =>
      cases result with
      | ok value => exact .refl store
      | error failure => exact calm_enter? (some code) (.error failure) store
  | map code mapper target | chain code mapper target =>
      cases result with
      | ok value => exact (calm_next rfl store).trans (calm_enter? code (.ok value) _)
      | error failure => exact calm_next rfl store
  | forward target => exact calm_next rfl store

end Store

/-- What matters for wakers. -/
@[ext]
structure Roll (ω : Type) where
  size : ℕ
  resolved : Id → Bool
  /-- The wakers left with each promise. -/
  wakers : Id → List ω
  toWake : Multiset ω
  woken : Multiset ω
  /-- The polls of pending promises, the first in front. -/
  asked : List (Id × ω)

namespace Roll

open Function (update)

variable [DecidableEq ω]

/-- The ways in which a move changes a roll. Promises may be made on the way. -/
inductive Turns (before : Roll ω) : Roll ω → Prop
  /-- Nothing happens to wakers. -/
  | rests (size : ℕ) (grows : before.size ≤ size) : Turns before { before with size := size }
  /-- A promise is made with a result. -/
  | born : Turns before { before with
      size := before.size + 1
      resolved := update before.resolved before.size true }
  /-- Somebody polls a pending promise, and leaves a waker unless it is there already. -/
  | asks {id : Id} (inside : id < before.size) (pending : before.resolved id = false) (waker : ω) :
    Turns before { before with
      wakers := update before.wakers id
        (if waker ∈ before.wakers id then before.wakers id else before.wakers id ++ [waker])
      asked := before.asked ++ [(id, waker)] }
  /-- A promise is resolved, and the wakers left with it are to be woken. -/
  | wins {id : Id} (pending : before.resolved id = false) :
    Turns before { before with
      resolved := update before.resolved id true
      wakers := update before.wakers id []
      toWake := before.wakers id + before.toWake }
  /-- A waker is woken. -/
  | wakes {waker : ω} {rest : Multiset ω} (first : before.toWake = waker ::ₘ rest) :
    Turns before { before with
      toWake := rest
      woken := waker ::ₘ before.woken }

/-- The distinct polls of promises that are resolved by now. -/
def answered (roll : Roll ω) : Finset (Id × ω) :=
  roll.asked.toFinset.filter fun (id, _) => roll.resolved id

/-- Making a promise with a result answers no poll, since nobody has polled it yet. -/
theorem answered_of_born {before : Roll ω}
    (asked_lt : ∀ id waker, (id, waker) ∈ before.asked → id < before.size) :
    (before.asked.toFinset.filter fun (id, _) => update before.resolved before.size true id) =
      before.answered := by
  refine Finset.filter_congr fun ⟨id, waker⟩ there => ?_
  have older := (asked_lt id waker (List.mem_toFinset.mp there)).ne
  simp [older]

/-- Polling a pending promise answers no poll. -/
theorem answered_of_asks {before : Roll ω} {id : Id} (pending : before.resolved id = false)
    (waker : ω) :
    ((before.asked ++ [(id, waker)]).toFinset.filter fun (other, _) => before.resolved other) =
      before.answered := by
  ext ⟨other, another⟩
  simp only [answered, Finset.mem_filter, List.mem_toFinset, List.mem_append, List.mem_singleton,
    Prod.mk.injEq]
  refine and_congr_left fun resolved => ⟨fun either => either.resolve_right ?_, .inl⟩
  rintro ⟨rfl, -⟩
  rw [pending] at resolved
  cases resolved

/-- A resolution answers the polls of its promise, beside those answered before. -/
theorem answered_of_wins {before : Roll ω} {id : Id} (pending : before.resolved id = false) :
    (before.asked.toFinset.filter fun (other, _) => update before.resolved id true other).val =
      (before.asked.toFinset.filter fun (other, _) => other = id).val + before.answered.val := by
  have apart : Disjoint (before.asked.toFinset.filter fun (other, _) => other = id)
      before.answered := by
    rw [Finset.disjoint_left]
    rintro ⟨other, waker⟩ own others
    simp only [answered, Finset.mem_filter] at own others
    rw [own.2, pending] at others
    cases others.2
  rw [← Finset.disjUnion_val _ _ apart, Finset.val_inj]
  ext ⟨other, waker⟩
  simp only [Finset.disjUnion_eq_union, Finset.mem_union, Finset.mem_filter, answered,
    Function.update_apply]
  by_cases same : other = id <;> simp [same, pending]

/-- A waker that was left with one promise only is answered once, when this is resolved. -/
theorem count_answered {roll : Roll ω} {id : Id} {waker : ω} (asks : (id, waker) ∈ roll.asked)
    (only : ∀ other, (other, waker) ∈ roll.asked → other = id) :
    (roll.answered.val.map Prod.snd).count waker = if roll.resolved id then 1 else 0 := by
  rw [Multiset.count_map, ← Finset.filter_val, Finset.card_val]
  have own : roll.answered.filter (fun poll => waker = poll.2) =
      if roll.resolved id then {(id, waker)} else ∅ := by
    ext ⟨other, another⟩
    simp only [answered, Finset.mem_filter, List.mem_toFinset]
    constructor
    · rintro ⟨⟨asked, resolved⟩, rfl⟩
      cases only other asked
      simp [resolved]
    · split
      · next resolved =>
          intro same
          cases Finset.mem_singleton.mp same
          exact ⟨⟨asks, resolved⟩, rfl⟩
      · exact fun nothing => absurd nothing (Finset.notMem_empty _)
  rw [own]
  split <;> rfl

/-- Whether every waker that was left with a promise is accounted for. -/
structure Kept (roll : Roll ω) : Prop where
  asked_lt : ∀ id waker, (id, waker) ∈ roll.asked → id < roll.size
  nodup : ∀ id, (roll.wakers id).Nodup
  /-- A waker waits with a pending promise that was polled with it. -/
  mem_wakers : ∀ id waker, waker ∈ roll.wakers id ↔
    roll.resolved id = false ∧ (id, waker) ∈ roll.asked
  /-- For each resolved promise, each waker that was left with it has been woken or is to be, once. -/
  balanced : roll.woken + roll.toWake = roll.answered.val.map Prod.snd

namespace Kept

variable {before after : Roll ω}

/-- The wakers left with a pending promise are those of its polls, each once. -/
theorem coe_wakers (kept : before.Kept) {id : Id} (pending : before.resolved id = false) :
    (before.wakers id : Multiset ω) =
      (before.asked.toFinset.filter fun (other, _) => other = id).val.map Prod.snd := by
  have distinct : ((before.asked.toFinset.filter fun (other, _) => other = id).val.map
      Prod.snd).Nodup := by
    refine Multiset.Nodup.map_on ?_ (Finset.nodup _)
    rintro ⟨first, waker⟩ firstMem ⟨second, other⟩ secondMem same
    simp only [Finset.mem_val, Finset.mem_filter] at firstMem secondMem
    rw [firstMem.2, secondMem.2]
    exact Prod.ext rfl same
  rw [(Multiset.coe_nodup.mpr (kept.nodup id)).ext distinct]
  intro waker
  simp [kept.mem_wakers, pending]

/-- Leaving a waker, unless it is there already, leaves the wakers distinct. -/
theorem nodup_left {wakers : List ω} (nodup : wakers.Nodup) (waker : ω) :
    (if waker ∈ wakers then wakers else wakers ++ [waker]).Nodup := by
  split
  · exact nodup
  · next absent => simpa using nodup.concat absent

theorem mem_left {wakers : List ω} {waker other : ω} :
    other ∈ (if waker ∈ wakers then wakers else wakers ++ [waker]) ↔
      other ∈ wakers ∨ other = waker := by
  split
  · next there => exact ⟨.inl, fun either => either.elim id fun same => same ▸ there⟩
  · simp

theorem turn (kept : before.Kept) (turns : before.Turns after) : after.Kept := by
  have ⟨asked_lt, nodup, mem_wakers, balanced⟩ := kept
  cases turns with
  | rests size grows =>
      exact ⟨fun id waker there => (asked_lt id waker there).trans_le grows, nodup, mem_wakers,
        balanced⟩
  | born =>
      refine ⟨fun id waker there => (asked_lt id waker there).trans (Nat.lt_succ_self _), nodup,
        fun id waker => ?_, ?_⟩
      · by_cases new : id = before.size
        · subst new
          have unasked : (before.size, waker) ∉ before.asked := fun there =>
            (asked_lt _ _ there).false
          simp [mem_wakers, unasked]
        · simp [mem_wakers, new]
      · simp only [answered]
        rw [answered_of_born asked_lt]
        exact balanced
  | @asks id inside pending waker =>
      refine ⟨fun other another there => ?_, fun other => ?_, fun other another => ?_, ?_⟩
      · rcases List.mem_append.mp there with old | new
        · exact asked_lt other another old
        · cases List.mem_singleton.mp new
          exact inside
      · by_cases here : other = id
        · subst here
          simpa only [Function.update_self] using nodup_left (nodup other) waker
        · simpa [here] using nodup other
      · by_cases here : other = id
        · subst here
          simp only [Function.update_self]
          rw [mem_left, mem_wakers]
          simp [pending]
        · simp [here, mem_wakers]
      · simp only [answered]
        rw [answered_of_asks pending waker]
        exact balanced
  | @wins id pending =>
      refine ⟨asked_lt, fun other => ?_, fun other waker => ?_, ?_⟩
      · by_cases here : other = id
        · simp [here]
        · simpa [here] using nodup other
      · by_cases here : other = id
        · simp [here]
        · simp [here, mem_wakers]
      · simp only [answered]
        rw [answered_of_wins pending, Multiset.map_add, ← kept.coe_wakers pending, ← balanced]
        abel
  | wakes first =>
      refine ⟨asked_lt, nodup, mem_wakers, ?_⟩
      rw [first, Multiset.add_cons] at balanced
      rw [Multiset.cons_add]
      exact balanced

end Kept

end Roll

namespace Chronicle

/-- The roll of a chronicle, when others have some wakers to wake besides. -/
def roll (others : Multiset ω) (asked : List (Id × ω)) (chronicle : Chronicle α ω) : Roll ω where
  size := chronicle.store.size
  resolved := fun id => chronicle.store.isResolved id
  wakers := fun id => chronicle.store.wakers id
  toWake := chronicle.store.toWake + others
  woken := chronicle.store.woken
  asked := asked

variable [DecidableEq ω]

/-- The poll that a move makes, if the promise is pending. -/
def asks (move : Move α ω) (chronicle : Chronicle α ω) : List (Id × ω) :=
  match move with
  | .poll id waker => if (chronicle.store.poll id waker).1.isNone then [(id, waker)] else []
  | _ => []

section Turns

variable {chronicle : Chronicle α ω} {move : Move α ω} {others : Multiset ω}
  {asked : List (Id × ω)}

/-- The roll after a move, from the store after it. -/
theorem roll_perform {size : ℕ} {resolved : Id → Bool} {wakers : Id → List ω}
    {toWake woken : Multiset ω} {after : Store α ℕ ω} (acts : chronicle.act move = after)
    (size_eq : after.size = size) (resolved_eq : ∀ id, after.isResolved id = resolved id)
    (wakers_eq : ∀ id, after.wakers id = wakers id)
    (toWake_eq : (after.toWake : Multiset ω) + others = toWake)
    (woken_eq : (after.woken : Multiset ω) = woken) :
    (chronicle.perform move).roll others asked =
      ⟨size, resolved, wakers, toWake, woken, asked⟩ := by
  subst acts
  ext1
  · exact size_eq
  · exact funext resolved_eq
  · exact funext wakers_eq
  · exact toWake_eq
  · exact woken_eq
  · rfl

/-- A move in which nothing happens to wakers. -/
theorem turns_of_calm (calm : chronicle.store.Calm (chronicle.act move))
    (silent : chronicle.asks move = []) :
    (chronicle.roll others asked).Turns
      ((chronicle.perform move).roll others (asked ++ chronicle.asks move)) := by
  rw [silent, List.append_nil, roll_perform rfl rfl
    (fun id => congrArg Option.isSome (calm.result?_eq id)) calm.wakers_eq
    (by rw [calm.toWake_eq]) (by rw [calm.woken_eq])]
  exact .rests _ calm.size_le

/-- A move that attempts to resolve a promise. -/
theorem rouses_of_resolve {id : Id} {result : Except Failure α} {base : Store α ℕ ω}
    (calm : chronicle.store.Calm base) (size_eq : base.size = chronicle.store.size)
    (inside : id < base.size) (acts : chronicle.act move = (base.resolve id result).2)
    (silent : chronicle.asks move = []) :
    (chronicle.roll others asked).Turns
      ((chronicle.perform move).roll others (asked ++ chronicle.asks move)) := by
  cases stored : base.result? id with
  | some first =>
      rw [Store.resolve_of_result? stored] at acts
      exact turns_of_calm (acts ▸ calm) silent
  | none =>
      rw [Store.resolve_of_pending inside stored] at acts
      have resolved_eq : ∀ other, (base.replace id (.resolved result)).isResolved other =
          Function.update (chronicle.roll others asked).resolved id true other := by
        intro other
        rw [Function.update_apply, Store.isResolved, Store.result?_replace inside, calm.result?_eq]
        split <;> rfl
      have wakers_eq : ∀ other, (base.replace id (.resolved result)).wakers other =
          Function.update (chronicle.roll others asked).wakers id [] other := by
        intro other
        rw [Function.update_apply, Store.wakers_replace inside, calm.wakers_eq]
        rfl
      have toWake_eq : (((base.waiting id).map (Frame.run · result) ++
          (base.wakers id).map Frame.wake ++ base.frames).filterMap Frame.waker? : Multiset ω) +
            others = (chronicle.roll others asked).wakers id +
              (chronicle.roll others asked).toWake := by
        have below : base.frames.filterMap Frame.waker? = chronicle.store.toWake := calm.toWake_eq
        rw [Store.waker?_taken, below, calm.wakers_eq, ← Multiset.coe_add, add_assoc]
        rfl
      have sized : (base.replace id (.resolved result)).size = chronicle.store.size :=
        (Store.size_replace id _ base).trans size_eq
      rw [silent, List.append_nil, roll_perform acts sized resolved_eq wakers_eq toWake_eq
        (congrArg _ calm.woken_eq)]
      have pending : chronicle.store.isResolved id = false := by
        rw [Store.isResolved, ← calm.result?_eq, stored]
        rfl
      exact .wins pending

theorem rouses_step (wellFormed : chronicle.store.WellFormed)
    (allowed : chronicle.allows .step) :
    (chronicle.roll others asked).Turns
      ((chronicle.perform .step).roll others (asked ++ chronicle.asks .step)) := by
  have acts : chronicle.act .step = chronicle.store.step := rfl
  rcases chronicle.store.step_cases with ⟨waits, same⟩ | ⟨below, frame, store_eq, stepped⟩
  · exact turns_of_calm (acts.trans same ▸ .refl _) rfl
  · rw [stepped] at acts
    rw [store_eq] at wellFormed
    have fits := wellFormed.of_next.2
    cases frame with
    | resolve target result =>
        refine rouses_of_resolve ?_ (by rw [store_eq]; rfl) fits acts rfl
        rw [store_eq]
        exact Store.calm_of_next rfl below
    | client =>
        refine turns_of_calm ?_ rfl
        rw [acts, store_eq]
        exact .refl _
    | attach source action =>
        refine turns_of_calm ?_ rfl
        rw [acts, store_eq]
        exact (Store.calm_of_next rfl below).trans
          (Store.calm_attachSource action (lt_size_of_allows_step store_eq allowed))
    | run action result =>
        refine turns_of_calm ?_ rfl
        rw [acts, store_eq]
        exact (Store.calm_of_next rfl below).trans (Store.calm_runAction action result below)
    | wake waker =>
        have first : (chronicle.roll others asked).toWake =
            waker ::ₘ ((below.toWake : Multiset ω) + others) := by
          rw [roll, store_eq, Store.toWake_next, ← Multiset.cons_add]
          rfl
        have turned : (chronicle.perform .step).roll others (asked ++ chronicle.asks .step) =
            { chronicle.roll others asked with
              toWake := below.toWake + others
              woken := waker ::ₘ (chronicle.roll others asked).woken } := by
          have silent : chronicle.asks .step = [] := rfl
          rw [silent, List.append_nil, roll_perform acts rfl (fun _ => rfl) (fun _ => rfl) rfl rfl,
            roll, store_eq]
          rfl
        rw [turned]
        exact .wakes first

/-- A promise that is made with a result has no wakers. -/
theorem rouses_resolved (result : Except Failure α) :
    (chronicle.roll others asked).Turns ((chronicle.perform (.resolved result)).roll others
      (asked ++ chronicle.asks (.resolved result))) := by
  have resolved_eq : ∀ id, (chronicle.act (.resolved result)).isResolved id =
      Function.update (chronicle.roll others asked).resolved chronicle.store.size true id := by
    intro id
    rw [Function.update_apply, act, Store.resolved, Store.isResolved, Store.result?_create]
    split <;> rfl
  have sized : (chronicle.act (.resolved result)).size = chronicle.store.size + 1 :=
    Store.size_create _ chronicle.store
  have silent : chronicle.asks (.resolved result) = [] := rfl
  rw [silent, List.append_nil, roll_perform rfl sized resolved_eq
    (Store.wakers_create_of_nil rfl chronicle.store) rfl rfl]
  exact .born

/-- A poll leaves its waker with a pending promise, and changes nothing of a resolved one. -/
theorem rouses_poll {id : Id} (inside : id < chronicle.store.size) (waker : ω) :
    (chronicle.roll others asked).Turns ((chronicle.perform (.poll id waker)).roll others
      (asked ++ chronicle.asks (.poll id waker))) := by
  cases stored : chronicle.store.result? id with
  | some result =>
      refine turns_of_calm ?_ (by simp [asks, Store.poll_of_result? stored])
      rw [act, Store.poll_of_result? stored]
      exact .refl _
  | none =>
      have polled := Store.poll_of_pending inside stored waker
      have asks_eq : chronicle.asks (.poll id waker) = [(id, waker)] := by
        simp [asks, polled]
      have acts : chronicle.act (.poll id waker) = _ := congrArg Prod.snd polled
      have pending : chronicle.store.isResolved id = false := by
        rw [Store.isResolved, stored]
        rfl
      have resolved_eq : ∀ other, (chronicle.act (.poll id waker)).isResolved other =
          (chronicle.roll others asked).resolved other := by
        intro other
        rw [acts, Store.isResolved, Store.result?_replace inside]
        split
        · next here => rw [here]; exact pending.symm
        · rfl
      have wakers_eq : ∀ other, (chronicle.act (.poll id waker)).wakers other =
          Function.update (chronicle.roll others asked).wakers id
            (if waker ∈ chronicle.store.wakers id then chronicle.store.wakers id
              else chronicle.store.wakers id ++ [waker]) other := by
        intro other
        rw [acts, Store.wakers_replace inside, Function.update_apply]
        rfl
      have sized : (chronicle.act (.poll id waker)).size = chronicle.store.size := by
        rw [acts, Store.size_replace]
      rw [asks_eq, roll_perform rfl sized resolved_eq wakers_eq (by rw [acts]) (by rw [acts])]
      exact .asks inside pending waker

/-- Every move turns the roll. -/
theorem rouses_perform (wellFormed : chronicle.WellFormed) (allowed : chronicle.allows move) :
    (chronicle.roll others asked).Turns
      ((chronicle.perform move).roll others (asked ++ chronicle.asks move)) := by
  have inside : ∀ id, (chronicle.store.awaitsCaller && chronicle.holds id) = true →
      id < chronicle.store.size := fun id held => lt_size_of_allows wellFormed held
  cases move with
  | step => exact rouses_step wellFormed.store allowed
  | new => exact turns_of_calm (Store.calm_create _) rfl
  | resolved result => exact rouses_resolved result
  | resolve id result => exact rouses_of_resolve (.refl _) rfl (inside id allowed) rfl rfl
  | attach hook id =>
      refine turns_of_calm ?_ rfl
      cases hook <;> exact Store.calm_attach (inside id allowed) _
  | map id mapper | flatMap id mapper =>
      refine turns_of_calm ?_ rfl
      refine (Store.calm_create _).trans (Store.calm_attach ?_ _)
      exact (inside id allowed).trans_le (Store.calm_create _).size_le
  | poll id waker => exact rouses_poll (inside id allowed) waker
  | finish =>
      refine turns_of_calm ?_ rfl
      rw [act, Store.finish]
      split
      · next rest frames_eq =>
        refine ⟨le_rfl, fun _ => rfl, fun _ => rfl, ?_, rfl⟩
        rw [Store.toWake, Store.toWake, frames_eq]
        rfl
      · exact .refl _

end Turns

end Chronicle

end CompletionEngine.Promise
