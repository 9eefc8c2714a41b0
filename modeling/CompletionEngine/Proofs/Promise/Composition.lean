import CompletionEngine.Proofs.Promise.Founded

/-!
# Composing promises

Whenever nothing is under way, a promise that callers derived and that nobody else has resolved holds
just what its source comes to. So promises that are derived in ways that come to the same agree, in
whichever order the promises are resolved that they are derived from.
-/

namespace CompletionEngine.Promise

variable {α ω : Type}

/-- The promise that a frame is to resolve in the end. -/
def Frame.target? : Frame α ℕ ω → Option Id
  | attach _ action | run action _ => action.target?
  | resolve target _ => some target
  | client | wake _ => none

/-- Whether nothing is under way that is to resolve a promise. -/
def Store.AtRest (store : Store α ℕ ω) : Prop := ∀ frame ∈ store.frames, frame.target? = none

/-- Whether no caller has tried to resolve a promise. -/
def LeftAlone (id : Id) (past : List (Happening α)) : Prop :=
  ∀ result won, .attempted .caller id result won ∉ past

/-- Whether callers have made a promise from a source, promise by promise, and left alone what they have
derived. -/
inductive Stands (past : List (Happening α)) : Source α → Id → Prop
  /-- A promise stands for itself. -/
  | promise (id : Id) : Stands past (.promise id) id
  /-- A promise that was made with a result stands for the result. -/
  | settled {id : Id} {result : Except Failure α} (made : .made id (some result) ∈ past) :
    Stands past (.settled result) id
  | map {source : Source α} {id derived : Id} {mapper : α → α} (stands : Stands past source id)
    (maps : .derived .caller derived (.map (.promise id) mapper) ∈ past)
    (alone : LeftAlone derived past) : Stands past (.map source mapper) derived
  | flatMap {source : Source α} {id derived : Id} {mapper : α → Source α}
    (stands : Stands past source id)
    (maps : .derived .caller derived (.chain (.promise id) mapper) ∈ past)
    (alone : LeftAlone derived past) : Stands past (.chain source mapper) derived

theorem length_attempts {id : Id} {past : List (Happening α)} (alone : LeftAlone id past) :
    (attempts id past).length = (concerned Happening.answered? past).count id := by
  rw [concerned, Multiset.coe_count]
  induction past with
  | nil => rfl
  | cons happening rest ih =>
      have rest := ih fun result won attempted => alone result won (List.mem_cons_of_mem _ attempted)
      cases happening with
      | attempted agent other result won =>
          cases agent with
          | caller =>
              have differs : other ≠ id := by
                rintro rfl
                exact alone result won List.mem_cons_self
              simpa [attempts, List.filterMap_cons, Happening.answered?, differs] using rest
          | store =>
              by_cases same : other = id <;>
                simpa [attempts, List.filterMap_cons, Happening.answered?, same] using rest
      | made | derived | attached | mapped =>
          simpa [attempts, List.filterMap_cons, Happening.answered?] using rest

namespace Chronicle

variable {chronicle : Chronicle α ω}

/-- At rest, what is owed waits for a pending promise. -/
theorem exists_waiting {id : Id} (rest : chronicle.store.AtRest)
    (owed : id ∈ chronicle.store.owed Action.targets fun id => {id}) :
    ∃ other, ∃ action ∈ chronicle.store.waiting other, action.target? = some id ∧
      chronicle.store.result? other = none := by
  have targeted : ∀ action : Action α ℕ, id ∈ action.targets → action.target? = some id := by
    intro action mem
    unfold Action.targets at mem
    cases target : action.target? with
    | none => simp [target] at mem
    | some other => simpa [target, eq_comm] using mem
  rcases Store.exists_of_mem_collect owed with ⟨frame, frameMem, framed⟩ | ⟨other, action, waits, mem⟩
  · have none := rest frame frameMem
    cases frame with
    | attach _ action | run action _ =>
        have some := targeted action framed
        rw [show action.target? = Option.none from none] at some
        cases some
    | resolve target result => cases none
    | client | wake waker => simp [Store.owedFor] at framed
  · refine ⟨other, action, waits, targeted action mem, ?_⟩
    cases resolved : chronicle.store.result? other with
    | none => rfl
    | some result =>
        rw [Store.waiting_of_result? resolved] at waits
        cases waits

namespace Composed

theorem origin_eq_none (composed : chronicle.Composed) {agent : Agent} {id : Id} {whole : Source α}
    (derived : .derived agent id whole ∈ chronicle.past) : origin id chronicle.past = none := by
  rw [origin, List.findSome?_eq_none_iff]
  intro happening happened
  cases happening with
  | made other result =>
      by_cases same : other = id
      · have one := composed.named.eq_of_created derived happened rfl (congrArg some same)
        cases one
      · simp [same]
  | _ => rfl

/-- Callers leave alone what the store makes on the way: they are never given it. -/
theorem alone_of_inner (composed : chronicle.Composed) {id : Id} {whole : Source α}
    (derived : .derived .store id whole ∈ chronicle.past) : LeftAlone id chronicle.past := by
  intro result won attempted
  have held := composed.founded.held id result won attempted
  rcases List.any_eq_true.mp held with ⟨happening, happened, given⟩
  have given : happening.given? = some id := by simpa using given
  cases happening with
  | made other stored =>
      cases given
      cases composed.named.eq_of_created derived happened rfl rfl
  | derived agent other source =>
      cases agent with
      | caller =>
          cases given
          cases composed.named.eq_of_created derived happened rfl rfl
      | store => cases given
  | _ => cases given

theorem result?_of_made (composed : chronicle.Composed) {id : Id} {result : Except Failure α}
    (made : .made id (some result) ∈ chronicle.past) :
    chronicle.store.result? id = some result := by
  have unique : ∀ stored, origin id chronicle.past = some stored → stored = result := by
    intro stored found
    rcases List.exists_of_findSome?_eq_some found with ⟨happening, happened, told⟩
    cases happening with
    | made other held =>
        simp only [Option.ite_none_right_eq_some] at told
        rcases told with ⟨rfl, rfl⟩
        cases composed.named.eq_of_created made happened rfl rfl
        rfl
    | _ => cases told
  have some : origin id chronicle.past ≠ none := by
    intro none
    rw [origin, List.findSome?_eq_none_iff] at none
    simpa using none _ made
  cases stored : chronicle.store.result? id with
  | none => exact absurd (composed.sound.tallied.pending id stored).1 some
  | some held =>
      rcases composed.sound.tallied.resolved id held stored with ⟨found, -⟩ | ⟨none, -⟩
      · rw [unique held found]
      · exact absurd none some

theorem count_derived (composed : chronicle.Composed) {agent : Agent} {id : Id} {whole : Source α}
    (derived : .derived agent id whole ∈ chronicle.past) :
    (concerned Happening.derived? chronicle.past).count id = 1 :=
  Multiset.count_eq_one_of_mem
    (Multiset.nodup_of_le (derived?_le_created? _) composed.named.nodup)
    (mem_concerned.mpr ⟨_, derived, rfl⟩)

/-- A derived promise that is left alone is pending as long as the store owes its resolution, and
then holds what the store has resolved it with. -/
theorem result?_of_derived (composed : chronicle.Composed) {agent : Agent} {id : Id}
    {whole : Source α} (derived : .derived agent id whole ∈ chronicle.past)
    (alone : LeftAlone id chronicle.past) :
    (id ∈ chronicle.store.owed Action.targets fun id => {id}) ∧
        chronicle.store.result? id = none ∧ attempts id chronicle.past = [] ∨
      ∃ result, .attempted .store id result true ∈ chronicle.past ∧
        chronicle.store.result? id = some result ∧
          attempts id chronicle.past = [(result, true)] := by
  have unmade := composed.origin_eq_none derived
  have told := length_attempts alone
  have count := congrArg (Multiset.count id) composed.balanced.answered
  rw [Multiset.count_add, composed.count_derived derived, ← told] at count
  cases stored : chronicle.store.result? id with
  | none =>
      have none := (composed.sound.tallied.pending id stored).2
      have none : attempts id chronicle.past = [] := none
      rw [none, List.length_nil, add_zero] at count
      exact .inl ⟨Multiset.one_le_count_iff_mem.mp count.ge, rfl, none⟩
  | some result =>
      rcases composed.sound.tallied.resolved id result stored with ⟨made, -⟩ | ⟨-, later, first, -⟩
      · exact absurd (unmade.symm.trans made) (by simp)
      · have first : attempts id chronicle.past = (result, true) :: later := first
        rw [first, List.length_cons] at count
        have nothing : later = [] := List.length_eq_zero_iff.mp (by omega)
        subst nothing
        refine .inr ⟨result, ?_, rfl, first⟩
        have attempted : (result, true) ∈ attempts id chronicle.past := by simp [first]
        rcases List.mem_filterMap.mp attempted with ⟨happening, happened, told⟩
        cases happening with
        | attempted agent other given won =>
            simp only [Option.ite_none_right_eq_some, Option.some.injEq, Prod.mk.injEq] at told
            rcases told with ⟨rfl, rfl, rfl⟩
            cases agent with
            | caller => exact absurd happened (alone given true)
            | store => exact happened
        | _ => cases told

/-- At rest, a derived promise that is left alone holds what it is derived from. -/
theorem value?_of_derived (composed : chronicle.Composed) (rest : chronicle.store.AtRest)
    {agent : Agent} {id : Id} {whole : Source α}
    (derived : .derived agent id whole ∈ chronicle.past) (alone : LeftAlone id chronicle.past) :
    chronicle.store.result? id = whole.value? fun id => chronicle.store.result? id := by
  -- The promises that the store makes on the way stem from parts of the source, or from answers of
  -- its mappers. They are below it, so what they hold is known.
  induction whole using Source.below_wellFounded.induction generalizing agent id with
  | _ whole ih =>
      have reads : chronicle.Reads whole fun id => chronicle.store.result? id := by
        refine ⟨fun id result resolved => resolved, fun inner source stems below => ?_⟩
        exact ih source below stems (composed.alone_of_inner stems)
      rcases composed.result?_of_derived derived alone with
        ⟨owed, pending, -⟩ | ⟨result, answered, resolved, -⟩
      · rcases exists_waiting rest owed with ⟨other, action, waits, targeted, unresolved⟩
        have serves :=
          composed.founded.store.waiting other action waits id targeted agent whole derived
        have nothing : (Source.promise other).value? (fun id => chronicle.store.result? id) =
            none := by simpa [Source.value?] using unresolved
        rw [pending]
        cases action with
        | map code mapper target | chain code mapper target =>
            rcases serves with ⟨first, rfl, leaves⟩
            rw [Source.value?, leaves.same _ reads, nothing]
            rfl
        | forward target =>
            have same : chronicle.Same whole whole (.promise other) := serves
            rw [same _ reads, nothing]
        | onResult code | onSuccess code | onFailure code => cases targeted
      · have same := composed.founded.answered id result true answered id rfl agent whole derived
        have same : chronicle.Same whole whole (.settled result) := same
        rw [resolved, same _ reads, Source.value?]

theorem reads (composed : chronicle.Composed) (rest : chronicle.store.AtRest) (whole : Source α) :
    chronicle.Reads whole fun id => chronicle.store.result? id :=
  ⟨fun _ _ resolved => resolved, fun _ _ stems _ =>
    composed.value?_of_derived rest stems (composed.alone_of_inner stems)⟩

/-- At rest, whatever stands for a source holds what the source comes to. -/
theorem value?_of_stands (composed : chronicle.Composed) (rest : chronicle.store.AtRest)
    {source : Source α} {id : Id} (stands : Stands chronicle.past source id) :
    chronicle.store.result? id = source.value? fun id => chronicle.store.result? id := by
  induction stands with
  | promise id => rw [Source.value?]
  | settled made => exact composed.result?_of_made made
  | map stands maps alone ih | flatMap stands maps alone ih =>
      rw [composed.value?_of_derived rest maps alone]
      simp only [Source.value?, ← ih]

end Composed

end Chronicle

/-- That derived promises compose, at a moment of a history. -/
structure Composes (chronicle : Chronicle α ω) : Prop where
  /-- Whatever stands for a source holds what it comes to. -/
  value : chronicle.store.AtRest → ∀ source id, Stands chronicle.past source id →
    chronicle.store.result? id = source.value? fun id => chronicle.store.result? id
  map_map : chronicle.store.AtRest → ∀ source first second one other,
    Stands chronicle.past ((Source.map source first).map second) one →
      Stands chronicle.past (.map source (second ∘ first)) other →
        chronicle.store.result? one = chronicle.store.result? other
  flatMap_success : chronicle.store.AtRest → ∀ source mapper one other,
    Stands chronicle.past (.chain source fun value => .settled (.ok (mapper value))) one →
      Stands chronicle.past (.map source mapper) other →
        chronicle.store.result? one = chronicle.store.result? other
  success_flatMap : chronicle.store.AtRest → ∀ value mapper one other,
    Stands chronicle.past (.chain (.settled (.ok value)) mapper) one →
      Stands chronicle.past (mapper value) other →
        chronicle.store.result? one = chronicle.store.result? other
  flatMap_flatMap : chronicle.store.AtRest → ∀ source first second one other,
    Stands chronicle.past ((Source.chain source first).chain second) one →
      Stands chronicle.past (.chain source fun value => (first value).chain second) other →
        chronicle.store.result? one = chronicle.store.result? other
  /-- A failure passes through what is derived from it. -/
  failure : chronicle.store.AtRest → ∀ source id failure,
    Stands chronicle.past source id → chronicle.store.result? id = some (.error failure) →
      (∀ mapper derived, Stands chronicle.past (.map source mapper) derived →
        chronicle.store.result? derived = some (.error failure)) ∧
      ∀ mapper derived, Stands chronicle.past (.chain source mapper) derived →
        chronicle.store.result? derived = some (.error failure)
  /-- A derived promise that nobody else resolves is resolved at most once. -/
  once : ∀ agent id whole, .derived agent id whole ∈ chronicle.past →
    LeftAlone id chronicle.past → (attempts id chronicle.past).length ≤ 1
  /-- No mapper is called more than once. -/
  mapped_once : (concerned Happening.mapped? chronicle.past).Nodup
  /-- A mapper is called on the value that its promise was resolved with, so never on a failure. -/
  mapped_value : ∀ derived value, .mapped derived value ∈ chronicle.past →
    ∀ agent whole id, .derived agent derived whole ∈ chronicle.past →
      (Source.promise id).Feeds whole → chronicle.store.result? id = some (.ok value)
  /-- The same holds of what the store makes on the way. -/
  mapped_inner : chronicle.store.AtRest → ∀ derived value, .mapped derived value ∈ chronicle.past →
    ∀ agent whole (source : Source α), .derived agent derived whole ∈ chronicle.past →
      source.Feeds whole → source.value? (fun id => chronicle.store.result? id) = some (.ok value)
  /-- Every call comes to rest, or enters code, after finitely many steps. -/
  returns : ∃ steps, (Store.step^[steps] chronicle.store).awaitsCaller

/-- Sources that come to the same agree. -/
theorem Chronicle.Composed.agree {chronicle : Chronicle α ω} (composed : chronicle.Composed)
    (rest : chronicle.store.AtRest) {first second : Source α} {one other : Id}
    (same : ∀ results, first.value? results = second.value? results)
    (stands : Stands chronicle.past first one) (stands' : Stands chronicle.past second other) :
    chronicle.store.result? one = chronicle.store.result? other := by
  rw [composed.value?_of_stands rest stands, composed.value?_of_stands rest stands', same]

/-- In every history, derived promises compose. -/
theorem composes_of_play [DecidableEq ω] {moves : List (Move α ω)} {chronicle : Chronicle α ω}
    (played : Chronicle.opening.play? moves = some chronicle) : Composes chronicle := by
  have composed := Chronicle.composed_of_play played
  refine ⟨fun rest source id => composed.value?_of_stands rest, ?_, ?_, ?_, ?_, ?_, ?_, ?_, ?_, ?_,
    Store.exists_awaitsCaller _⟩
  · intro rest source first second one other
    exact composed.agree rest fun results => source.value?_map_map results first second
  · intro rest source mapper one other
    exact composed.agree rest fun results => source.value?_chain_settled results mapper
  · intro rest value mapper one other
    exact composed.agree rest fun results => Source.value?_settled_chain results value mapper
  · intro rest source first second one other
    exact composed.agree rest fun results => source.value?_chain_chain results first second
  · intro rest source id failure stands failed
    rw [composed.value?_of_stands rest stands] at failed
    refine ⟨fun mapper derived maps => ?_, fun mapper derived maps => ?_⟩
    · rw [composed.value?_of_stands rest maps]
      exact Source.value?_map_of_failure failed mapper
    · rw [composed.value?_of_stands rest maps]
      exact Source.value?_chain_of_failure failed mapper
  · intro agent id whole derived alone
    rcases composed.result?_of_derived derived alone with ⟨-, -, none⟩ | ⟨result, -, -, one⟩
    · simp [none]
    · simp [one]
  · have derived := Multiset.nodup_of_le (derived?_le_created? _) composed.named.nodup
    exact Multiset.nodup_of_le ((Multiset.le_add_left _ _).trans composed.balanced.mapped) derived
  · intro derived value mapped agent whole id derives feeds
    rcases composed.founded.mapped derived value mapped agent whole derives with
      ⟨first, fed, leaves⟩
    rcases leaves.traces id (fed.unique feeds) with promise | ⟨result, settled, resolved⟩
    · cases promise
    · cases settled
      exact resolved
  · intro rest derived value mapped agent whole source derives feeds
    rcases composed.founded.mapped derived value mapped agent whole derives with
      ⟨first, fed, leaves⟩
    rw [← fed.unique feeds, leaves.same _ (composed.reads rest whole), Source.value?]

/-- Two ways to chain two mappers agree, before and after the promise between them is resolved. -/
theorem composes_late_promise :
    ∃ (earlier later : List (Move ℕ Unit)) (between after : Chronicle ℕ Unit),
      Chronicle.opening.play? earlier = some between ∧ between.play? later = some after ∧
        Composes between ∧ Composes after ∧
        between.store.frames = [] ∧ after.store.frames = [] ∧
        between.store.result? 0 = some (.ok 1) ∧
        between.store.result? 3 = none ∧ between.store.result? 4 = none ∧
        after.store.result? 3 = some (.ok 42) ∧ after.store.result? 4 = some (.ok 42) := by
  let earlier : List (Move ℕ Unit) :=
    [.new, .new, .flatMap 0 fun _ => .promise 1,
      .flatMap 2 fun value => .settled (.ok (value + 1)),
      .flatMap 0 fun _ => .chain (.promise 1) fun value => .settled (.ok (value + 1)),
      .resolve 0 (.ok 1), .step, .finish, .step, .step, .finish, .step, .step, .step]
  let later : List (Move ℕ Unit) :=
    .resolve 1 (.ok 41) :: List.replicate 3 .step ++ .finish :: List.replicate 9 .step
  have plays : (Chronicle.opening.play? earlier).any fun between =>
      (between.play? later).any fun after =>
        between.store.frames.isEmpty ∧ after.store.frames.isEmpty ∧
          between.store.result? 0 = some (.ok 1) ∧
          between.store.result? 3 = none ∧ between.store.result? 4 = none ∧
          after.store.result? 3 = some (.ok 42) ∧ after.store.result? 4 = some (.ok 42) := by
    decide +kernel
  rcases (Option.any_eq_true _ _).mp plays with ⟨between, first, onward⟩
  rcases (Option.any_eq_true _ _).mp onward with ⟨after, second, seen⟩
  have seen := of_decide_eq_true seen
  have whole := Chronicle.play?_append_eq_some.mpr ⟨between, first, second⟩
  exact ⟨earlier, later, between, after, first, second, composes_of_play first,
    composes_of_play whole, List.isEmpty_iff.mp seen.1, List.isEmpty_iff.mp seen.2.1, seen.2.2⟩

end CompletionEngine.Promise
