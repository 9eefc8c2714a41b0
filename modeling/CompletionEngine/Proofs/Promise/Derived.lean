import CompletionEngine.Proofs.Promise.Duties
import CompletionEngine.Proofs.Promise.Progress

/-!
# Derived promises

Every promise has one origin. For every derived promise there is one action that is to resolve it, from
its making to the one attempt that the store makes; and as long as a mapper has not been called, it is
still ahead.
-/

namespace CompletionEngine.Promise

variable {α ω : Type}

/-- The promise that came to be when this happened. -/
def Happening.created? : Happening α → Option Id
  | .made id _ | .derived _ id _ => some id
  | _ => none

/-- The promise that was derived when this happened. -/
def Happening.derived? : Happening α → Option Id
  | .derived _ id _ => some id
  | _ => none

/-- The promise that the store tried to resolve when this happened. -/
def Happening.answered? : Happening α → Option Id
  | .attempted .store id _ _ => some id
  | _ => none

/-- The derived promise whose mapper was called when this happened. -/
def Happening.mapped? : Happening α → Option Id
  | .mapped id _ => some id
  | _ => none

/-- The promises that something has happened to, as often as it has. -/
def concerned (select : Happening α → Option Id) (past : List (Happening α)) : Multiset Id :=
  past.filterMap select

theorem concerned_append (select : Happening α → Option Id) (past new : List (Happening α)) :
    concerned select (past ++ new) = concerned select past + concerned select new := by
  rw [concerned, List.filterMap_append, ← Multiset.coe_add]
  rfl

theorem mem_concerned {select : Happening α → Option Id} {past : List (Happening α)} {id : Id} :
    id ∈ concerned select past ↔ ∃ happening ∈ past, select happening = some id := by
  simp [concerned]

theorem derived?_le_created? (past : List (Happening α)) :
    concerned Happening.derived? past ≤ concerned Happening.created? past := by
  induction past with
  | nil => exact le_rfl
  | cons happening rest ih =>
      have split : ∀ select : Happening α → Option Id,
          concerned select (happening :: rest) =
            concerned select [happening] + concerned select rest :=
        fun select => concerned_append select [happening] rest
      rw [split, split]
      refine add_le_add ?_ ih
      cases happening with
      | made id result => exact Multiset.zero_le _
      | derived agent id source => exact le_rfl
      | attempted agent id result won | attached code hook id | mapped id value => exact le_rfl

namespace Chronicle

variable {chronicle before after : Chronicle α ω} {move : Move α ω}

section Named

/-- Whether every promise came to be once. -/
structure Named (chronicle : Chronicle α ω) : Prop where
  created_lt : ∀ id ∈ concerned Happening.created? chronicle.past, id < chronicle.store.size
  nodup : (concerned Happening.created? chronicle.past).Nodup

theorem Named.eq_of_created (named : chronicle.Named) {first second : Happening α}
    (firstMem : first ∈ chronicle.past) (secondMem : second ∈ chronicle.past) {id : Id}
    (one : first.created? = some id) (other : second.created? = some id) : first = second := by
  have distinct := (List.pairwise_filterMap.mp (Multiset.coe_nodup.mp named.nodup))
  by_contra differs
  have symmetric : Std.Symm fun first second : Happening α =>
      ∀ one, first.created? = some one → ∀ other, second.created? = some other → one ≠ other :=
    ⟨fun _ _ apart one isOne other isOther => (apart other isOther one isOne).symm⟩
  exact distinct.forall firstMem secondMem differs id one id other rfl

/-- A move creates one promise at most, and gives it the next place. -/
theorem created_happenings [DecidableEq ω] (move : Move α ω) (chronicle : Chronicle α ω) :
    concerned Happening.created? (chronicle.happenings move) = 0 ∨
      concerned Happening.created? (chronicle.happenings move) = {chronicle.store.size} ∧
        chronicle.store.size < (chronicle.act move).size := by
  have made : ∀ cell, chronicle.store.size < (chronicle.store.create cell).2.size := by simp
  cases move with
  | step =>
      rcases chronicle.store.step_cases with ⟨waits, -⟩ | ⟨below, frame, store_eq, stepped⟩
      · left
        rw [happenings, stepHappenings_of_awaitsCaller waits]
        rfl
      · rw [happenings, act, stepped, store_eq]
        cases frame with
        | attach source action =>
            cases source with
            | map source mapper | chain source mapper =>
                refine .inr ⟨rfl, ?_⟩
                exact (below.size_create .fresh).ge
            | promise id | settled result => exact .inl rfl
        | run action result => cases action <;> cases result <;> exact .inl rfl
        | resolve target result | client | wake waker => exact .inl rfl
  | new => exact .inr ⟨rfl, made _⟩
  | resolved result => exact .inr ⟨rfl, made _⟩
  | map id mapper | flatMap id mapper =>
      refine .inr ⟨rfl, ?_⟩
      exact (made .fresh).trans_eq (Store.size_attach id _ _).symm
  | resolve id result | attach hook id | poll id waker | finish => exact .inl rfl

theorem named_opening : (opening : Chronicle α ω).Named where
  created_lt := by simp [opening, concerned]
  nodup := by simp [opening, concerned]

theorem named_perform [DecidableEq ω] (named : chronicle.Named) (move : Move α ω) :
    (chronicle.perform move).Named := by
  have grows := size_le_act move chronicle
  have split : concerned Happening.created? (chronicle.perform move).past =
      concerned Happening.created? chronicle.past +
        concerned Happening.created? (chronicle.happenings move) := concerned_append ..
  rcases created_happenings move chronicle with nothing | ⟨new, larger⟩
  · rw [nothing, add_zero] at split
    refine ⟨?_, split ▸ named.nodup⟩
    rw [split]
    exact fun id idMem => (named.created_lt id idMem).trans_le grows
  · rw [new] at split
    refine ⟨?_, ?_⟩
    · intro id idMem
      rw [split, Multiset.mem_add, Multiset.mem_singleton] at idMem
      rcases idMem with old | rfl
      · exact (named.created_lt id old).trans_le grows
      · exact larger
    · rw [split, Multiset.nodup_add]
      refine ⟨named.nodup, Multiset.nodup_singleton _, ?_⟩
      rw [Multiset.disjoint_singleton]
      exact fun old => (named.created_lt _ old).false

end Named

section Growth

variable [DecidableEq ω]

theorem grows_perform (sound : before.Sound) (allowed : before.allows move) :
    before.Grows (before.perform move) where
  result?_eq := fun id result resolved =>
    (turns_perform sound.wellFormed allowed).results_eq sound.served resolved
  past := fun happening happened => List.mem_append_left _ happened
  derived := by
    intro agent id source derived inside
    rcases List.mem_append.mp derived with old | new
    · exact old
    · have created : id ∈ concerned Happening.created? (before.happenings move) :=
        mem_concerned.mpr ⟨_, new, rfl⟩
      rcases created_happenings move before with nothing | ⟨here, -⟩
      · rw [nothing] at created
        cases created
      · rw [here, Multiset.mem_singleton] at created
        exact absurd created inside.ne

end Growth

end Chronicle

/-- The promise that an action is to resolve, as a multiset. -/
def Action.targets (action : Action α ℕ) : Multiset Id := action.target?.elim 0 fun id => {id}

/-- The promise whose mapper an action is to call. -/
def Action.mappers : Action α ℕ → Multiset Id
  | .map _ _ target | .chain _ _ target => {target}
  | .onResult _ | .onSuccess _ | .onFailure _ | .forward _ => 0

namespace Store

section Owed

variable (part : Action α ℕ → Multiset Id) (settles : Id → Multiset Id) {store : Store α ℕ ω}

/-- What is owed for a frame, when that is told for actions and for promises to be resolved. -/
def owedFor : Frame α ℕ ω → Multiset Id
  | .attach _ action | .run action _ => part action
  | .resolve target _ => settles target
  | .client | .wake _ => 0

/-- What a store still owes. -/
def owed (store : Store α ℕ ω) : Multiset Id :=
  store.collect (fun _ => part) (owedFor part settles)

theorem owed_next (frame : Frame α ℕ ω) (store : Store α ℕ ω) :
    (store.next frame).owed part settles = owedFor part settles frame + store.owed part settles :=
  collect_next ..

theorem owed_create {cell : Cell α ℕ ω} (nothing : cell.waiting = []) (store : Store α ℕ ω) :
    (store.create cell).2.owed part settles = store.owed part settles :=
  collect_create _ _ store nothing

theorem owed_enter? (code : Option ℕ) (result : Except Failure α) (store : Store α ℕ ω) :
    (store.enter? code result).owed part settles = store.owed part settles := by
  cases code with
  | none => rfl
  | some code => exact (owed_next part settles .client _).trans (zero_add _)

theorem owed_attach {id : Id} (inside : id < store.size) (action : Action α ℕ) :
    (store.attach id action).owed part settles = part action + store.owed part settles := by
  cases stored : store.result? id with
  | some result =>
      rw [attach_of_result? stored, owed_next]
      rfl
  | none => exact (collect_attach_of_pending _ _ inside stored action).trans (add_comm _ _)

theorem owed_resolve {id : Id} (inside : id < store.size) (result : Except Failure α) :
    (store.resolve id result).2.owed part settles = store.owed part settles := by
  cases stored : store.result? id with
  | some first => rw [resolve_of_result? stored]
  | none =>
      have resolved :=
        collect_resolve_of_pending (fun _ => part) (owedFor part settles) inside stored result
      have woken : ((store.wakers id).map fun waker => owedFor part settles
          (.wake waker : Frame α ℕ ω)).sum = 0 := by simp [owedFor]
      rw [woken, zero_add, add_comm] at resolved
      exact add_left_cancel resolved

theorem owed_replace {id : Id} (inside : id < store.size) {cell : Cell α ℕ ω}
    (same : cell.waiting = store.waiting id) :
    (store.replace id cell).owed part settles = store.owed part settles := by
  have replaced := collect_replace (fun _ => part) (owedFor part settles) inside cell
  rw [same] at replaced
  exact add_right_cancel replaced

end Owed

end Store

namespace Chronicle

section Owed

variable [DecidableEq ω] {chronicle : Chronicle α ω} {move : Move α ω} {below : Store α ℕ ω}
  {part : Action α ℕ → Multiset Id} (settles : Id → Multiset Id)

/-- Whether the actions that derive promises owe just those, and code of callers owes nothing. -/
structure Derives (part : Action α ℕ → Multiset Id) : Prop where
  map : ∀ code mapper target, part (.map code mapper target) = {target}
  chain : ∀ code mapper target, part (.chain code mapper target) = {target}
  hook : ∀ action, action.target? = none → part action = 0

theorem derives_targets : Derives (Action.targets (α := α)) where
  map := fun _ _ _ => rfl
  chain := fun _ _ _ => rfl
  hook := fun action none => by rw [Action.targets, none]; rfl

theorem derives_mappers : Derives (Action.mappers (α := α)) where
  map := fun _ _ _ => rfl
  chain := fun _ _ _ => rfl
  hook := fun action none => by cases action <;> first | rfl | cases none

omit [DecidableEq ω] in
/-- Reaching a source adds the promises that the store makes on the way. -/
theorem owed_attachSource (derives : Derives part) {source : Source α} {action : Action α ℕ}
    (there : ∀ id, source = .promise id → id < below.size) :
    (below.attachSource source action).owed part settles =
      concerned Happening.derived? (stepHappenings (below.next (.attach source action))) +
        (part action + below.owed part settles) := by
  have made : ∀ (inner : Source α) (waiting : Action α ℕ), part waiting = {below.size} →
      (((below.create .fresh).2.next (.attach (.promise below.size) action)).next
        (.attach inner waiting)).owed part settles =
          {below.size} + (part action + below.owed part settles) := by
    intro inner waiting owes
    rw [Store.owed_next, Store.owed_next, Store.owed_create part settles rfl]
    exact congrArg (· + _) owes
  cases source with
  | promise id =>
      rw [Store.attachSource, Store.owed_attach part settles (there id rfl)]
      exact (zero_add _).symm
  | settled result =>
      rw [Store.attachSource, Store.owed_next]
      exact (zero_add _).symm
  | map source mapper => exact made source _ (derives.map ..)
  | chain source mapper => exact made source _ (derives.chain ..)

/-- A caller adds the promises that it derives to what is owed, and nothing else. -/
theorem owed_act (derives : Derives part) (wellFormed : chronicle.WellFormed)
    (allowed : chronicle.allows move) (calls : move ≠ .step) :
    (chronicle.act move).owed part settles =
      concerned Happening.derived? (chronicle.happenings move) +
        chronicle.store.owed part settles := by
  have inside : ∀ id, (chronicle.store.awaitsCaller && chronicle.holds id) = true →
      id < chronicle.store.size := fun id held => lt_size_of_allows wellFormed held
  have derived : ∀ (id : Id) (action : Action α ℕ),
      (chronicle.store.awaitsCaller && chronicle.holds id) = true →
      part action = {chronicle.store.size} →
      ((chronicle.store.create .fresh).2.attach id action).owed part settles =
        {chronicle.store.size} + chronicle.store.owed part settles := by
    intro id action held owes
    have larger : id < (chronicle.store.create .fresh).2.size := by
      simpa using Nat.lt_succ_of_lt (inside id held)
    rw [Store.owed_attach part settles larger, owes, Store.owed_create part settles rfl]
  cases move with
  | step => exact absurd rfl calls
  | new => exact (Store.owed_create part settles rfl _).trans (zero_add _).symm
  | resolved result => exact (Store.owed_create part settles rfl _).trans (zero_add _).symm
  | resolve id result =>
      exact (Store.owed_resolve part settles (inside id allowed) result).trans (zero_add _).symm
  | attach hook id =>
      have attached : ∀ action : Action α ℕ, action.target? = none →
          (chronicle.store.attach id action).owed part settles =
            0 + chronicle.store.owed part settles := by
        intro action none
        rw [Store.owed_attach part settles (inside id allowed), derives.hook action none]
      cases hook <;> exact attached _ rfl
  | map id mapper => exact derived id _ allowed (derives.map ..)
  | flatMap id mapper => exact derived id _ allowed (derives.chain ..)
  | poll id waker =>
      refine Eq.trans ?_ (zero_add _).symm
      rw [act]
      rcases Store.poll_eq id waker chronicle.store with same | ⟨there, -, wakers, polled⟩
      · rw [same]
      · rw [polled]
        exact Store.owed_replace part settles there rfl
  | finish =>
      refine Eq.trans ?_ (zero_add _).symm
      rw [act, Store.finish]
      split
      · rename_i rest frames_eq
        have first := Store.owed_next part settles .client { chronicle.store with frames := rest }
        rw [Store.next, ← frames_eq] at first
        exact (first.trans (zero_add _)).symm
      · rfl

end Owed

section Balanced

variable [DecidableEq ω] {chronicle : Chronicle α ω} {move : Move α ω}

/-- Whether every derived promise is still to be resolved by one action, or the store has tried to;
and no mapper has been called that is still to be called. -/
structure Balanced (chronicle : Chronicle α ω) : Prop where
  answered : chronicle.store.owed Action.targets (fun id => {id}) +
    concerned Happening.answered? chronicle.past = concerned Happening.derived? chronicle.past
  mapped : chronicle.store.owed Action.mappers (fun _ => 0) +
    concerned Happening.mapped? chronicle.past ≤ concerned Happening.derived? chronicle.past

omit [DecidableEq ω] in
theorem balanced_opening : (opening : Chronicle α ω).Balanced where
  answered := by simp [opening, Store.empty, Store.owed, Store.collect, Store.size, concerned]
  mapped := by simp [opening, Store.empty, Store.owed, Store.collect, Store.size, concerned]

/-- What a move adds to both sides keeps them balanced. -/
theorem Balanced.onward (balanced : chronicle.Balanced)
    (answered : (chronicle.act move).owed Action.targets (fun id => {id}) +
      concerned Happening.answered? (chronicle.happenings move) =
        concerned Happening.derived? (chronicle.happenings move) +
          chronicle.store.owed Action.targets (fun id => {id}))
    (mapped : (chronicle.act move).owed Action.mappers (fun _ => 0) +
      concerned Happening.mapped? (chronicle.happenings move) ≤
        concerned Happening.derived? (chronicle.happenings move) +
          chronicle.store.owed Action.mappers (fun _ => 0)) : (chronicle.perform move).Balanced where
  answered := by
    rw [perform, concerned_append, concerned_append, ← balanced.answered, add_comm (concerned _ _),
      ← add_assoc, answered]
    abel
  mapped := by
    rw [perform, concerned_append, concerned_append, add_comm (concerned _ _), ← add_assoc,
      add_comm (concerned _ chronicle.past)]
    refine (add_le_add_left mapped _).trans ?_
    rw [add_assoc]
    exact add_le_add_right balanced.mapped _

omit [DecidableEq ω] in
/-- Running an action leaves its target to be resolved. -/
theorem owed_runAction (action : Action α ℕ) (result : Except Failure α) (below : Store α ℕ ω) :
    (below.runAction action result).owed Action.targets (fun id => {id}) =
      action.targets + below.owed Action.targets (fun id => {id}) := by
  have resolves : ∀ target stored, (below.next (.resolve target stored)).owed Action.targets
      (fun id => {id}) = {target} + below.owed Action.targets (fun id => {id}) :=
    fun target stored => Store.owed_next ..
  have enters : ∀ (code : ℕ) (seen : Except Failure α), (below.enter code seen).owed Action.targets
      (fun id => {id}) = 0 + below.owed Action.targets (fun id => {id}) := fun code seen =>
    Store.owed_next ..
  cases action with
  | onResult code => exact enters code result
  | onSuccess code =>
      cases result with
      | ok value => exact enters code (.ok value)
      | error failure => exact (zero_add _).symm
  | onFailure code =>
      cases result with
      | ok value => exact (zero_add _).symm
      | error failure => exact enters code (.error failure)
  | map code mapper target =>
      cases result with
      | ok value => exact (Store.owed_enter? ..).trans (resolves target _)
      | error failure => exact resolves target _
  | chain code mapper target =>
      cases result with
      | ok value => exact (Store.owed_enter? ..).trans (Store.owed_next ..)
      | error failure => exact resolves target _
  | forward target => exact resolves target _

omit [DecidableEq ω] in
/-- A mapper that has been called is not called again. -/
theorem mapped_runAction (action : Action α ℕ) (result : Except Failure α) (below : Store α ℕ ω) :
    (below.runAction action result).owed Action.mappers (fun _ => 0) +
        concerned Happening.mapped? (stepHappenings (below.next (.run action result))) ≤
      action.mappers + below.owed Action.mappers (fun _ => 0) := by
  have resolves : ∀ target stored, (below.next (.resolve target stored)).owed Action.mappers
      (fun _ => 0) = below.owed Action.mappers (fun _ => 0) :=
    fun target stored => (Store.owed_next ..).trans (zero_add _)
  have enters : ∀ (code : ℕ) (seen : Except Failure α), (below.enter code seen).owed Action.mappers
      (fun _ => 0) = below.owed Action.mappers (fun _ => 0) := fun code seen =>
    (Store.owed_next ..).trans (zero_add _)
  have idle : ∀ {after : Store α ℕ ω},
      after.owed Action.mappers (fun _ => 0) = below.owed Action.mappers (fun _ => 0) →
        after.owed Action.mappers (fun _ => 0) + 0 ≤
          action.mappers + below.owed Action.mappers (fun _ => 0) := by
    intro after same
    rw [same, add_zero]
    exact Multiset.le_add_left _ _
  cases action with
  | onResult code => exact idle (enters code result)
  | onSuccess code =>
      cases result with
      | ok value => exact idle (enters code (.ok value))
      | error failure => exact idle rfl
  | onFailure code =>
      cases result with
      | ok value => exact idle rfl
      | error failure => exact idle (enters code (.error failure))
  | map code mapper target =>
      cases result with
      | ok value =>
          rw [Store.runAction, Store.owed_enter?, resolves, add_comm]
          exact le_rfl
      | error failure => exact idle (resolves target _)
  | chain code mapper target =>
      cases result with
      | ok value =>
          rw [Store.runAction, Store.owed_enter?, Store.owed_next, add_comm]
          exact add_le_add_right (zero_add _).le _
      | error failure => exact idle (resolves target _)
  | forward target => exact idle (resolves target _)

theorem balanced_step (wellFormed : chronicle.store.WellFormed) (allowed : chronicle.allows .step)
    (balanced : chronicle.Balanced) : (chronicle.perform .step).Balanced := by
  rcases chronicle.store.step_cases with ⟨waits, same⟩ | ⟨below, frame, store_eq, stepped⟩
  · apply balanced.onward
    · rw [happenings, stepHappenings_of_awaitsCaller waits, act, same, add_comm]
      rfl
    · rw [happenings, stepHappenings_of_awaitsCaller waits, act, same, add_comm]
      exact le_rfl
  · have acts : chronicle.act .step = below.runFrame frame := stepped
    have happens : chronicle.happenings .step = stepHappenings (below.next frame) := by
      rw [happenings, store_eq]
    rw [store_eq] at wellFormed
    have fits := wellFormed.of_next.2
    have owed := fun part settles => Store.owed_next part settles frame below
    rw [← store_eq] at owed
    apply balanced.onward
    -- Each derived promise is owed its resolution until the store has answered.
    · rw [acts, happens, owed]
      cases frame with
      | attach source action =>
          rw [Store.runFrame, owed_attachSource _ derives_targets
            (lt_size_of_allows_step store_eq allowed)]
          cases source <;> exact add_zero _
      | run action result =>
          rw [Store.runFrame, owed_runAction]
          cases action <;> cases result <;> exact (add_zero _).trans (zero_add _).symm
      | resolve target result =>
          rw [Store.runFrame, Store.owed_resolve _ _ fits, add_comm]
          exact (zero_add _).symm
      | client => exact (add_zero _).trans ((Store.owed_next ..).trans (zero_add _).symm)
      | wake waker => exact (add_zero _).trans ((zero_add _).symm.trans (zero_add _).symm)
    -- Each mapper is owed at most one call, and none once its source has failed.
    · rw [acts, happens, owed]
      cases frame with
      | attach source action =>
          rw [Store.runFrame, owed_attachSource _ derives_mappers
            (lt_size_of_allows_step store_eq allowed)]
          cases source <;> exact (add_zero _).le
      | run action result =>
          refine (mapped_runAction action result below).trans ?_
          exact Multiset.le_add_left _ _
      | resolve target result =>
          rw [Store.runFrame, Store.owed_resolve _ _ fits]
          exact ((add_zero _).trans ((zero_add _).symm.trans (zero_add _).symm)).le
      | client => exact ((add_zero _).trans ((Store.owed_next ..).trans (zero_add _).symm)).le
      | wake waker => exact ((add_zero _).trans ((zero_add _).symm.trans (zero_add _).symm)).le

theorem balanced_perform (wellFormed : chronicle.WellFormed) (allowed : chronicle.allows move)
    (balanced : chronicle.Balanced) : (chronicle.perform move).Balanced := by
  by_cases steps : move = .step
  · subst steps
    exact balanced_step wellFormed.store allowed balanced
  · have idle : concerned Happening.answered? (chronicle.happenings move) = 0 ∧
        concerned Happening.mapped? (chronicle.happenings move) = 0 := by
      cases move with
      | step => exact absurd rfl steps
      | _ => exact ⟨rfl, rfl⟩
    apply balanced.onward
    · rw [owed_act _ derives_targets wellFormed allowed steps, idle.1, add_zero]
    · rw [owed_act _ derives_mappers wellFormed allowed steps, idle.2, add_zero]

end Balanced

end Chronicle

end CompletionEngine.Promise
