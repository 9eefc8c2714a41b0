import CompletionEngine.Proofs.Promise.Cells

/-!
# Stores come to rest

What a store has to do is a multiset of chores. A step replaces one of them by finitely many lighter
ones, so a store cannot step forever: it comes to a caller's turn, and every call returns once the code
that it enters has returned.
-/

namespace CompletionEngine.Promise

variable {α τ ω : Type}

namespace Store

section Collect

variable {β : Type} [AddCancelCommMonoid β] (waits : Id → Action α τ → β) (holds : Frame α τ ω → β)

/-- What is collected over the actions that wait for promises and over what is to be done. -/
def collect (store : Store α τ ω) : β :=
  (store.frames.map holds).sum +
    ∑ id ∈ Finset.range store.size, ((store.waiting id).map (waits id)).sum

theorem collect_next (frame : Frame α τ ω) (store : Store α τ ω) :
    (store.next frame).collect waits holds = holds frame + store.collect waits holds := by
  rw [collect, next, List.map_cons, List.sum_cons, add_assoc]
  rfl

theorem collect_create (store : Store α τ ω) {cell : Cell α τ ω} (nothing : cell.waiting = []) :
    (store.create cell).2.collect waits holds = store.collect waits holds := by
  have fresh : store.waiting store.size = [] := waiting_of_size_le le_rfl
  simp only [collect, size_create, waiting_create_of_nil nothing, Finset.sum_range_succ, fresh,
    List.map_nil, List.sum_nil, add_zero]
  rfl

theorem collect_replace {store : Store α τ ω} {id : Id} (inside : id < store.size)
    (cell : Cell α τ ω) :
    (store.replace id cell).collect waits holds + ((store.waiting id).map (waits id)).sum =
      store.collect waits holds + (cell.waiting.map (waits id)).sum := by
  have here : id ∈ Finset.range store.size := Finset.mem_range.mpr inside
  have others : ∀ other ∈ (Finset.range store.size).erase id,
      (((store.replace id cell).waiting other).map (waits other)).sum =
        ((store.waiting other).map (waits other)).sum := by
    intro other otherMem
    rw [waiting_replace inside, if_neg (Finset.ne_of_mem_erase otherMem)]
  have there : (store.replace id cell).waiting id = cell.waiting := by
    rw [waiting_replace inside, if_pos rfl]
  simp only [collect, size_replace]
  rw [← Finset.add_sum_erase _ _ here, ← Finset.add_sum_erase _ _ here, Finset.sum_congr rfl others,
    there, show (store.replace id cell).frames = store.frames from rfl]
  abel

theorem collect_frames (store : Store α τ ω) (frames : List (Frame α τ ω)) :
    { store with frames := frames ++ store.frames }.collect waits holds =
      (frames.map holds).sum + store.collect waits holds := by
  rw [collect, List.map_append, List.sum_append, add_assoc]
  rfl

theorem collect_attach_of_pending {store : Store α τ ω} {id : Id} (inside : id < store.size)
    (pending : store.result? id = none) (action : Action α τ) :
    (store.attach id action).collect waits holds =
      store.collect waits holds + waits id action := by
  have replaced := collect_replace waits holds inside
    (.pending (store.waiting id ++ [action]) (store.wakers id))
  rw [Cell.waiting, List.map_append, List.sum_append, List.map_singleton, List.sum_singleton,
    add_comm _ (waits id action), ← add_assoc] at replaced
  rw [attach_of_pending inside pending]
  exact add_right_cancel replaced

/-- What waits for a promise is to be run once the promise is resolved. -/
theorem collect_resolve_of_pending {store : Store α τ ω} {id : Id} (inside : id < store.size)
    (pending : store.result? id = none) (result : Except Failure α) :
    (store.resolve id result).2.collect waits holds + ((store.waiting id).map (waits id)).sum =
      ((store.wakers id).map fun waker => holds (.wake waker)).sum +
        ((store.waiting id).map fun action => holds (.run action result)).sum +
          store.collect waits holds := by
  have replaced := collect_replace waits holds inside (.resolved result)
  rw [Cell.waiting, List.map_nil, List.sum_nil, add_zero] at replaced
  have framed := collect_frames waits holds (store.replace id (.resolved result))
    ((store.waiting id).map (.run · result) ++ (store.wakers id).map .wake)
  rw [List.map_append, List.sum_append, List.map_map, List.map_map] at framed
  rw [resolve_of_pending inside pending, ← replaced]
  refine (congrArg (· + ((store.waiting id).map (waits id)).sum) framed).trans ?_
  simp only [Function.comp_def]
  abel

end Collect

theorem mem_sum_map {β ι : Type} {part : ι → Multiset β} {list : List ι} {item : β} :
    item ∈ (list.map part).sum ↔ ∃ index ∈ list, item ∈ part index := by
  induction list with
  | nil => simp
  | cons first rest ih => simp [ih]

theorem exists_of_mem_collect {β : Type} {waits : Id → Action α τ → Multiset β}
    {holds : Frame α τ ω → Multiset β} {store : Store α τ ω} {item : β}
    (collected : item ∈ store.collect waits holds) :
    (∃ frame ∈ store.frames, item ∈ holds frame) ∨
      ∃ id, ∃ action ∈ store.waiting id, item ∈ waits id action := by
  rcases Multiset.mem_add.mp collected with framed | waited
  · exact .inl (mem_sum_map.mp framed)
  · rcases Multiset.mem_sum.mp waited with ⟨id, -, there⟩
    exact .inr ⟨id, mem_sum_map.mp there⟩

end Store

/-- What a store has to do, as far as it matters for how long it takes. -/
inductive Chore (α : Type) where
  | wake
  | resolve
  /-- Run an action that resolves a promise at most. -/
  | run
  /-- Run an action that attaches another. -/
  | chain (mapper : α → Source α)
  /-- Make the promises that a source stands for. -/
  | reach (source : Source α)

namespace Chore

/-- The chores that a chore leaves behind. -/
inductive Lighter : Chore α → Chore α → Prop
  | wake : Lighter .wake .resolve
  | resolve : Lighter .resolve .run
  | answer (mapper : α → Source α) : Lighter .run (.chain mapper)
  | fail (mapper : α → Source α) : Lighter .resolve (.chain mapper)
  | mapped (mapper : α → Source α) (value : α) : Lighter (.reach (mapper value)) (.chain mapper)
  | target (id : Id) (source : Source α) (mapper : α → α) :
    Lighter (.reach (.promise id)) (.reach (.map source mapper))
  | source (source : Source α) (mapper : α → α) :
    Lighter (.reach source) (.reach (.map source mapper))
  | action (source : Source α) (mapper : α → α) : Lighter .run (.reach (.map source mapper))
  | chainTarget (id : Id) (source : Source α) (mapper : α → Source α) :
    Lighter (.reach (.promise id)) (.reach (.chain source mapper))
  | chainSource (source : Source α) (mapper : α → Source α) :
    Lighter (.reach source) (.reach (.chain source mapper))
  | chainAction (source : Source α) (mapper : α → Source α) :
    Lighter (.chain mapper) (.reach (.chain source mapper))

/-- There is a lightest chore: sources are trees. -/
theorem lighter_wellFounded : WellFounded (Lighter (α := α)) := by
  have wake : Acc Lighter (.wake : Chore α) := ⟨_, fun other lighter => nomatch lighter⟩
  have resolve : Acc Lighter (.resolve : Chore α) := ⟨_, fun other lighter => by
    cases lighter
    exact wake⟩
  have run : Acc Lighter (.run : Chore α) := ⟨_, fun other lighter => by
    cases lighter
    exact resolve⟩
  have promise : ∀ id, Acc Lighter (.reach (.promise id) : Chore α) := fun id =>
    ⟨_, fun other lighter => nomatch lighter⟩
  have chain : ∀ mapper : α → Source α, (∀ value, Acc Lighter (.reach (mapper value))) →
      Acc Lighter (.chain mapper) := fun mapper mapped => ⟨_, fun other lighter => by
    cases lighter with
    | answer => exact run
    | fail => exact resolve
    | mapped _ value => exact mapped value⟩
  have reach : ∀ source : Source α, Acc Lighter (.reach source) := by
    intro source
    induction source with
    | promise id => exact promise id
    | settled result => exact ⟨_, fun other lighter => nomatch lighter⟩
    | map source mapper ih =>
        refine ⟨_, fun other lighter => ?_⟩
        cases lighter with
        | target id => exact promise id
        | source => exact ih
        | action => exact run
    | chain source mapper ih mapped =>
        refine ⟨_, fun other lighter => ?_⟩
        cases lighter with
        | chainTarget id => exact promise id
        | chainSource => exact ih
        | chainAction => exact chain mapper mapped
  refine ⟨fun chore => ?_⟩
  cases chore with
  | wake => exact wake
  | resolve => exact resolve
  | run => exact run
  | chain mapper => exact chain mapper fun value => reach (mapper value)
  | reach source => exact reach source

end Chore

/-- The chore that it is to run an action. -/
def Action.chore : Action α τ → Chore α
  | chain _ mapper _ => .chain mapper
  | onResult _ | onSuccess _ | onFailure _ | map .. | forward _ => .run

/-- The chores that a frame is about. -/
def Frame.chores : Frame α τ ω → Multiset (Chore α)
  | client => 0
  | attach source action => {.reach source, action.chore}
  | run action _ => {action.chore}
  | resolve _ _ => {.resolve}
  | wake _ => {.wake}

namespace Store

/-- All that a store has to do. -/
def chores (store : Store α τ ω) : Multiset (Chore α) :=
  store.collect (fun _ action => {action.chore}) Frame.chores

/-- Whether some chores come from others by doing some of them. -/
abbrev Lightened : Multiset (Chore α) → Multiset (Chore α) → Prop :=
  Relation.TransGen (Relation.CutExpand Chore.Lighter)

theorem lightened_wellFounded : WellFounded (Lightened (α := α)) :=
  Chore.lighter_wellFounded.cutExpand.transGen

/-- Doing a chore leaves lighter ones. -/
theorem lightened_of_replaced {chore : Chore α} {left : Multiset (Chore α)}
    (lighter : ∀ other ∈ left, Chore.Lighter other chore) (rest : Multiset (Chore α)) :
    Lightened (left + rest) ({chore} + rest) :=
  .single ((Relation.cutExpand_add_right rest).mpr (Relation.cutExpand_singleton lighter))

theorem lightened_of_done (chore : Chore α) (rest : Multiset (Chore α)) :
    Lightened rest ({chore} + rest) := by
  have nothing : ∀ other ∈ (0 : Multiset (Chore α)), Chore.Lighter other chore := by simp
  simpa using lightened_of_replaced nothing rest

theorem chores_next (frame : Frame α τ ω) (store : Store α τ ω) :
    (store.next frame).chores = frame.chores + store.chores :=
  collect_next ..

theorem chores_create (store : Store α τ ω) : (store.create .fresh).2.chores = store.chores :=
  collect_create _ _ store rfl

theorem chores_enter? (code : Option τ) (result : Except Failure α) (store : Store α τ ω) :
    (store.enter? code result).chores = store.chores := by
  cases code with
  | none => rfl
  | some code => exact (chores_next .client _).trans (zero_add _)

/-- Running an action leaves at most a promise to be resolved, or a source to be reached. -/
theorem lightened_runAction (action : Action α τ) (result : Except Failure α)
    (store : Store α τ ω) :
    Lightened (store.runAction action result).chores ({action.chore} + store.chores) := by
  have entered : ∀ (code : τ) (result : Except Failure α),
      Lightened (store.enter code result).chores ({.run} + store.chores) := by
    intro code result
    rw [show (store.enter code result).chores = _ from store.chores_enter? (some code) result]
    exact lightened_of_done .run store.chores
  have resolves : ∀ target stored (chore : Chore α), Chore.Lighter .resolve chore →
      Lightened (store.next (.resolve target stored)).chores ({chore} + store.chores) := by
    intro target stored chore lighter
    rw [chores_next]
    exact lightened_of_replaced (by simpa [Frame.chores] using lighter) store.chores
  cases action with
  | onResult code => exact entered code result
  | onSuccess code =>
      cases result with
      | ok value => exact entered code (.ok value)
      | error failure => exact lightened_of_done .run store.chores
  | onFailure code =>
      cases result with
      | ok value => exact lightened_of_done .run store.chores
      | error failure => exact entered code (.error failure)
  | map code mapper target =>
      cases result with
      | ok value =>
          rw [runAction, chores_enter?]
          exact resolves target _ .run .resolve
      | error failure => exact resolves target _ .run .resolve
  | chain code mapper target =>
      cases result with
      | ok value =>
          rw [runAction, chores_enter?, chores_next]
          refine lightened_of_replaced ?_ store.chores
          intro chore left
          simp only [Frame.chores, Multiset.insert_eq_cons, Multiset.mem_cons,
            Multiset.mem_singleton] at left
          rcases left with rfl | rfl
          · exact .mapped mapper value
          · exact .answer mapper
      | error failure => exact resolves target _ (.chain mapper) (.fail mapper)
  | forward target => exact resolves target _ .run .resolve

theorem resolve_of_size_le {store : Store α τ ω} {id : Id} (outside : store.size ≤ id)
    (result : Except Failure α) : store.resolve id result = (false, store) := by
  rw [resolve, Array.getElem?_eq_none outside]

theorem attach_of_size_le {store : Store α τ ω} {id : Id} (outside : store.size ≤ id)
    (action : Action α τ) : store.attach id action = store := by
  rw [attach, Array.getElem?_eq_none outside]

theorem lightened_resolve (target : Id) (result : Except Failure α) (store : Store α τ ω) :
    Lightened (store.resolve target result).2.chores ({.resolve} + store.chores) := by
  have done := lightened_of_done .resolve store.chores
  cases pending : store.result? target with
  | some stored =>
      rw [resolve_of_result? pending]
      exact done
  | none =>
      rcases lt_or_ge target store.size with inside | outside
      · have resolved := collect_resolve_of_pending (fun _ action => {action.chore}) Frame.chores
          inside pending result
        -- What waited is now to be run, which is the same chore.
        have left : (store.resolve target result).2.chores =
            ((store.wakers target).map fun waker => (Frame.wake waker : Frame α τ ω).chores).sum +
              store.chores := by
          apply add_right_cancel (b := ((store.waiting target).map fun action =>
            ({action.chore} : Multiset (Chore α))).sum)
          refine resolved.trans ?_
          rw [add_right_comm]
          rfl
        rw [left]
        refine lightened_of_replaced ?_ store.chores
        intro chore woken
        rcases mem_sum_map.mp woken with ⟨waker, -, here⟩
        rw [Multiset.mem_singleton.mp here]
        exact .wake
      · rw [resolve_of_size_le outside]
        exact done

theorem lightened_attachSource (source : Source α) (action : Action α τ) (store : Store α τ ω) :
    Lightened (store.attachSource source action).chores
      ((Frame.attach source action : Frame α τ ω).chores + store.chores) := by
  have split : (Frame.attach source action : Frame α τ ω).chores + store.chores =
      {.reach source} + ({action.chore} + store.chores) := by
    rw [← add_assoc]
    rfl
  have reached : Lightened ({action.chore} + store.chores)
      ((Frame.attach source action : Frame α τ ω).chores + store.chores) := by
    rw [split]
    exact lightened_of_done _ _
  have made : ∀ (waiting : Action α τ) (inner : Source α),
      Chore.Lighter (.reach inner) (.reach source) → Chore.Lighter waiting.chore (.reach source) →
      Chore.Lighter (.reach (.promise store.size)) (.reach source) →
      Lightened (((store.create .fresh).2.next (.attach (.promise store.size) action)).next
        (.attach inner waiting)).chores
          ((Frame.attach source action : Frame α τ ω).chores + store.chores) := by
    intro waiting inner lighter heavier target
    have after : (Frame.attach inner waiting : Frame α τ ω).chores +
        ((Frame.attach (.promise store.size) action : Frame α τ ω).chores + store.chores) =
          {.reach inner, waiting.chore, .reach (.promise store.size)} +
            ({action.chore} + store.chores) := by
      simp only [Frame.chores, Multiset.insert_eq_cons, ← Multiset.singleton_add]
      abel
    rw [chores_next, chores_next, chores_create, split, after]
    refine lightened_of_replaced ?_ _
    intro chore left
    simp only [Multiset.insert_eq_cons, Multiset.mem_cons, Multiset.mem_singleton] at left
    rcases left with rfl | rfl | rfl
    · exact lighter
    · exact heavier
    · exact target
  cases source with
  | promise id =>
      cases pending : store.result? id with
      | some result =>
          rw [attachSource, attach_of_result? pending, chores_next]
          exact reached
      | none =>
          rcases lt_or_ge id store.size with inside | outside
          · rw [attachSource, chores, collect_attach_of_pending _ _ inside pending, add_comm]
            exact reached
          · rw [attachSource, attach_of_size_le outside]
            exact (lightened_of_done action.chore store.chores).trans reached
  | settled result =>
      rw [attachSource, chores_next]
      exact reached
  | map source mapper =>
      exact made _ source (.source source mapper) (.action source mapper) (.target _ source mapper)
  | chain source mapper =>
      exact made _ source (.chainSource source mapper) (.chainAction source mapper)
        (.chainTarget _ source mapper)

theorem lightened_step {store : Store α τ ω} (busy : store.awaitsCaller = false) :
    Lightened store.step.chores store.chores := by
  rcases store.step_cases with ⟨waits, -⟩ | ⟨below, frame, store_eq, stepped⟩
  · rw [busy] at waits
    cases waits
  · rw [stepped, store_eq, chores_next]
    cases frame with
    | client =>
        rw [store_eq] at busy
        cases busy
    | attach source action => exact below.lightened_attachSource source action
    | run action result => exact below.lightened_runAction action result
    | resolve target result => exact below.lightened_resolve target result
    | wake waker => exact lightened_of_done .wake below.chores

/-- After finitely many steps it is a caller's turn. -/
theorem exists_awaitsCaller (store : Store α τ ω) :
    ∃ steps, (Store.step^[steps] store).awaitsCaller := by
  -- A resolution adds frames, so their number need not fall. What they have to do gets lighter.
  induction chores_eq : store.chores using lightened_wellFounded.induction generalizing store with
  | _ chores ih =>
      cases turn : store.awaitsCaller with
      | true => exact ⟨0, turn⟩
      | false =>
          subst chores_eq
          rcases ih _ (lightened_step turn) store.step rfl with ⟨steps, returned⟩
          exact ⟨steps + 1, by rwa [Function.iterate_succ_apply]⟩

end Store

end CompletionEngine.Promise
