import CompletionEngine.Proofs.Promise.Derived

/-!
# What histories keep of derived promises

Whatever the store has to do, or has done, for a derived promise does what is left to do for it. This
holds in every history, whatever mappers answer and whatever callers do in the code that is entered.
-/

namespace CompletionEngine.Promise

variable {α ω : Type}

/-- Whether a source is what the mapper of another is called on. -/
def Source.Feeds (first whole : Source α) : Prop :=
  (∃ mapper, whole = .map first mapper) ∨ ∃ mapper, whole = .chain first mapper

theorem Source.Feeds.unique {first second whole : Source α} (feeds : first.Feeds whole)
    (again : second.Feeds whole) : first = second := by
  rcases feeds with ⟨mapper, rfl⟩ | ⟨mapper, rfl⟩ <;>
    rcases again with ⟨mapper', same⟩ | ⟨mapper', same⟩ <;> cases same <;> rfl

namespace Chronicle

variable {chronicle before after : Chronicle α ω}

/-- Whether everything that is done, and has been done, for derived promises does what is left to
do. -/
structure Founded (chronicle : Chronicle α ω) : Prop where
  store : chronicle.store.Right chronicle
  answered : ∀ id result won, .attempted .store id result won ∈ chronicle.past →
    (Action.forward id).Fits chronicle (.settled result)
  mapped : ∀ id value, .mapped id value ∈ chronicle.past →
    ∀ agent whole, .derived agent id whole ∈ chronicle.past →
      ∃ first, first.Feeds whole ∧ chronicle.Leaves whole first (.settled (.ok value))
  held : ∀ id result won, .attempted .caller id result won ∈ chronicle.past → chronicle.holds id

theorem founded_opening : (opening : Chronicle α ω).Founded where
  store := ⟨by simp [opening, Store.empty, Store.waiting], by simp [opening, Store.empty]⟩
  answered := by simp [opening]
  mapped := by simp [opening]
  held := by simp [opening]

theorem lt_of_derived (named : chronicle.Named) {id : Id}
    (derived : id ∈ concerned Happening.derived? chronicle.past) : id < chronicle.store.size :=
  named.created_lt id (Multiset.mem_of_le (derived?_le_created? _) derived)

theorem lt_of_answered (named : chronicle.Named) (balanced : chronicle.Balanced) {id : Id}
    {result : Except Failure α} {won : Bool}
    (answered : .attempted .store id result won ∈ chronicle.past) : id < chronicle.store.size := by
  apply lt_of_derived named
  rw [← balanced.answered, Multiset.mem_add]
  exact .inr (mem_concerned.mpr ⟨_, answered, rfl⟩)

theorem lt_of_mapped (named : chronicle.Named) (balanced : chronicle.Balanced) {id : Id} {value : α}
    (mapped : .mapped id value ∈ chronicle.past) : id < chronicle.store.size := by
  apply lt_of_derived named
  refine Multiset.mem_of_le balanced.mapped (Multiset.mem_add.mpr (.inr ?_))
  exact mem_concerned.mpr ⟨_, mapped, rfl⟩

/-- What a frame does is told by what happens. -/
theorem stems_of_step [DecidableEq ω] {below : Store α ℕ ω} {source : Source α}
    {action : Action α ℕ} (named : (chronicle.perform .step).Named)
    (store_eq : chronicle.store = below.next (.attach source action))
    (notPromise : ∀ id, source ≠ .promise id) (notSettled : ∀ result, source ≠ .settled result) :
    Store.Right.Stems (chronicle.perform .step) below.size source := by
  have derived : .derived .store below.size source ∈ (chronicle.perform .step).past := by
    apply List.mem_append_right
    rw [happenings, store_eq]
    cases source with
    | promise id => exact absurd rfl (notPromise id)
    | settled result => exact absurd rfl (notSettled result)
    | map source mapper | chain source mapper => exact List.mem_singleton_self _
  refine ⟨derived, fun agent whole again => ?_⟩
  cases named.eq_of_created derived again rfl rfl
  rfl

section Perform

variable [DecidableEq ω] {move : Move α ω}

theorem right_step (sound : chronicle.Sound) (founded : chronicle.Founded)
    (named : (chronicle.perform .step).Named) (allowed : chronicle.allows .step) :
    (chronicle.act .step).Right (chronicle.perform .step) := by
  have grows := grows_perform sound allowed
  have base := founded.store.grow sound.wellFormed.store rfl grows
  rcases chronicle.store.step_cases with ⟨waits, same⟩ | ⟨below, frame, store_eq, stepped⟩
  · rw [act, same]
    exact base
  · have wellFormed := sound.wellFormed.store
    rw [store_eq] at base wellFormed
    rcases base.of_next with ⟨right, fits⟩
    have known : ∀ id result, below.result? id = some result →
        (chronicle.perform .step).store.result? id = some result := fun id result resolved =>
      grows.result?_eq id result (by rw [store_eq]; exact resolved)
    have acts : chronicle.act .step = below.runFrame frame := stepped
    rw [acts]
    cases frame with
    | client => exact base
    | wake waker => exact ⟨right.waiting, right.frames⟩
    | attach source action =>
        exact right.attachSource fits.1 fits.2 (lt_size_of_allows_step store_eq allowed) known
          (stems_of_step named store_eq)
    | run action result => exact right.runAction fits
    | resolve target result =>
        apply right.resolve wellFormed.of_next.2
        exact congrArg (Store.result? target) acts.symm

theorem right_act (sound : chronicle.Sound) (founded : chronicle.Founded)
    (named : (chronicle.perform move).Named) (allowed : chronicle.allows move) :
    (chronicle.act move).Right (chronicle.perform move) := by
  have grows := grows_perform sound allowed
  have base := founded.store.grow sound.wellFormed.store rfl grows
  have inside : ∀ id, (chronicle.store.awaitsCaller && chronicle.holds id) = true →
      id < chronicle.store.size := fun id held => lt_size_of_allows sound.wellFormed held
  have known := grows.result?_eq
  have codeOnly : ∀ (id : Id) (action : Action α ℕ), action.target? = none →
      (chronicle.store.awaitsCaller && chronicle.holds id) = true →
      (chronicle.store.attach id action).Right (chronicle.perform move) := by
    intro id action none held
    refine base.attach (inside id held) ?_ (known id)
    intro target targetMem
    rw [none] at targetMem
    cases targetMem
  have derived : ∀ (id : Id) (action : Action α ℕ) (source : Source α),
      .derived .caller chronicle.store.size source ∈ (chronicle.perform move).past →
      action.target? = some chronicle.store.size →
      action.Serves (chronicle.perform move) source (.promise id) →
      (chronicle.store.awaitsCaller && chronicle.holds id) = true →
      ((chronicle.store.create .fresh).2.attach id action).Right (chronicle.perform move) := by
    intro id action source stems targeted serves held
    have larger : id < (chronicle.store.create .fresh).2.size := by
      simpa using Nat.lt_succ_of_lt (inside id held)
    refine (base.create rfl).attach larger ?_ ?_
    · intro target targetMem agent whole again
      rw [targeted] at targetMem
      cases targetMem
      cases named.eq_of_created stems again rfl rfl
      exact serves
    · intro result resolved
      rw [Store.result?_create_fresh] at resolved
      exact known id result resolved
  cases move with
  | step => exact right_step sound founded named allowed
  | new => exact base.create rfl
  | resolved result => exact base.create rfl
  | resolve id result => exact base.resolve (inside id allowed) rfl
  | attach hook id => cases hook <;> exact codeOnly id _ rfl allowed
  | map id mapper =>
      exact derived id _ (.map (.promise id) mapper) (List.mem_append_right _ (by simp [happenings]))
        rfl ⟨_, rfl, .refl _ _⟩ allowed
  | flatMap id mapper =>
      exact derived id _ (.chain (.promise id) mapper)
        (List.mem_append_right _ (by simp [happenings])) rfl ⟨_, rfl, .refl _ _⟩ allowed
  | poll id waker =>
      rw [act]
      rcases Store.poll_eq id waker chronicle.store with same | ⟨there, -, wakers, polled⟩
      · rw [same]
        exact base
      · rw [polled]
        exact base.replace there (base.waiting id)
  | finish =>
      rw [act, Store.finish]
      split
      · rename_i rest frames_eq
        refine ⟨base.waiting, fun frame frameMem => base.frames frame ?_⟩
        rw [frames_eq]
        exact List.mem_cons_of_mem _ frameMem
      · exact base

/-- What the store tries to resolve a promise with is what the promise is to hold. -/
theorem fits_of_answered (sound : chronicle.Sound) (founded : chronicle.Founded)
    (allowed : chronicle.allows move) {id : Id} {result : Except Failure α} {won : Bool}
    (answered : .attempted .store id result won ∈ chronicle.happenings move) :
    (Action.forward id).Fits (chronicle.perform move) (.settled result) := by
  have base := founded.store.grow sound.wellFormed.store rfl (grows_perform sound allowed)
  cases move with
  | step =>
      rcases (next_of_attempted answered).2 with ⟨below, store_eq⟩
      rw [store_eq] at base
      exact base.of_next.2
  | _ => simp [happenings] at answered

/-- A mapper is called on what its source comes to. -/
theorem leaves_of_mapped (sound : chronicle.Sound) (founded : chronicle.Founded)
    (allowed : chronicle.allows move) {id : Id} {value : α}
    (mapped : .mapped id value ∈ chronicle.happenings move) {agent : Agent} {whole : Source α}
    (derived : .derived agent id whole ∈ (chronicle.perform move).past) :
    ∃ first, first.Feeds whole ∧
      (chronicle.perform move).Leaves whole first (.settled (.ok value)) := by
  have base := founded.store.grow sound.wellFormed.store rfl (grows_perform sound allowed)
  cases move with
  | step =>
      rcases next_of_mapped mapped with ⟨below, action, store_eq, mapperOf⟩
      rw [store_eq] at base
      have fits := base.of_next.2
      rcases mapperOf with ⟨code, mapper, rfl⟩ | ⟨code, mapper, rfl⟩
      · rcases fits _ rfl agent whole derived with ⟨first, shape, leaves⟩
        exact ⟨first, .inl ⟨mapper, shape⟩, leaves⟩
      · rcases fits _ rfl agent whole derived with ⟨first, shape, leaves⟩
        exact ⟨first, .inr ⟨mapper, shape⟩, leaves⟩
  | _ => simp [happenings] at mapped

omit [DecidableEq ω] in
theorem holds_of_attempted (allowed : chronicle.allows move) {id : Id} {result : Except Failure α}
    {won : Bool} (attempted : .attempted .caller id result won ∈ chronicle.happenings move) :
    chronicle.holds id := by
  cases move with
  | resolve other stored =>
      simp only [happenings, List.mem_singleton, Happening.attempted.injEq] at attempted
      rcases attempted with ⟨-, rfl, -, -⟩
      exact (Bool.and_eq_true_iff.mp allowed).2
  | step => cases (next_of_attempted attempted).1
  | _ => simp [happenings] at attempted

theorem founded_perform (sound : chronicle.Sound) (founded : chronicle.Founded)
    (balanced : chronicle.Balanced) (before : chronicle.Named)
    (allowed : chronicle.allows move) : (chronicle.perform move).Founded where
  store := right_act sound founded (named_perform before move) allowed
  answered := by
    intro id result won answered
    rcases List.mem_append.mp answered with old | new
    · apply (founded.answered id result won old).grow (grows_perform sound allowed)
      rintro other ⟨⟩
      exact lt_of_answered before balanced old
    · exact fits_of_answered sound founded allowed new
  mapped := by
    intro id value mapped agent whole derived
    rcases List.mem_append.mp mapped with old | new
    · have grows := grows_perform sound allowed
      have inside := lt_of_mapped before balanced old
      rcases founded.mapped id value old agent whole (grows.derived agent id whole derived inside)
        with ⟨first, feeds, leaves⟩
      exact ⟨first, feeds, leaves.grow grows⟩
    · exact leaves_of_mapped sound founded allowed new derived
  held := by
    intro id result won attempted
    have kept : chronicle.holds id → (chronicle.perform move).holds id := by
      intro held
      rw [holds, perform, List.any_append, Bool.or_eq_true]
      exact .inl held
    rcases List.mem_append.mp attempted with old | new
    · exact kept (founded.held id result won old)
    · exact kept (holds_of_attempted allowed new)

/-- What holds of derived promises after every history. -/
structure Composed (chronicle : Chronicle α ω) : Prop where
  sound : chronicle.Sound
  named : chronicle.Named
  balanced : chronicle.Balanced
  founded : chronicle.Founded

theorem composed_of_play {moves : List (Move α ω)}
    (played : opening.play? moves = some chronicle) : chronicle.Composed := by
  refine keeps_of_play Composed ?_
    ⟨sound_opening, named_opening, balanced_opening, founded_opening⟩ played
  intro before move composed allowed
  exact ⟨sound_perform composed.sound allowed, named_perform composed.named move,
    balanced_perform composed.sound.wellFormed allowed composed.balanced,
    founded_perform composed.sound composed.founded composed.balanced composed.named allowed⟩

end Perform

end Chronicle

end CompletionEngine.Promise
