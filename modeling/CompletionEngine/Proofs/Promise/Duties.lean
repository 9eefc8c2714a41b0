import CompletionEngine.Proofs.Promise.Sound
import CompletionEngine.Proofs.Promise.Values

/-!
# What actions are to bring about

A derived promise is made to hold what a source comes to. The action that is to resolve it waits for
what is left of that source: every step replaces that by something that comes to the same, whatever
promises will hold later. The promises that the store makes on the way are read as what they were made
from.
-/

namespace CompletionEngine.Promise

variable {α ω : Type}

namespace Chronicle

/-- Whether results are possible from now on, as far as it matters for what a source is made of:
promises keep their results, and those that the store made hold what they were made from. -/
def Reads (chronicle : Chronicle α ω) (whole : Source α) (results : Results α) : Prop :=
  (∀ id result, chronicle.store.result? id = some result → results id = some result) ∧
    ∀ id source, .derived .store id source ∈ chronicle.past → source.Below whole →
      results id = source.value? results

/-- Whether two sources come to the same from now on. -/
def Same (chronicle : Chronicle α ω) (whole first second : Source α) : Prop :=
  ∀ results, chronicle.Reads whole results → first.value? results = second.value? results

/-- Whether a source is what is left of another: it comes to the same, and if that is a promise, it is
the same promise, or the result that the promise holds. -/
structure Leaves (chronicle : Chronicle α ω) (whole first second : Source α) : Prop where
  same : chronicle.Same whole first second
  traces : ∀ id, first = .promise id → second = .promise id ∨
    ∃ result, second = .settled result ∧ chronicle.store.result? id = some result

/-- Whether a chronicle goes on another. -/
structure Grows (before after : Chronicle α ω) : Prop where
  result?_eq : ∀ id result, before.store.result? id = some result →
    after.store.result? id = some result
  past : ∀ happening ∈ before.past, happening ∈ after.past
  derived : ∀ agent id source, .derived agent id source ∈ after.past → id < before.store.size →
    .derived agent id source ∈ before.past

section Same

variable {chronicle before after : Chronicle α ω} {whole first second third : Source α}

theorem Same.refl (whole source : Source α) : chronicle.Same whole source source := fun _ _ => rfl

theorem Same.trans (one : chronicle.Same whole first second)
    (other : chronicle.Same whole second third) : chronicle.Same whole first third :=
  fun results reads => (one results reads).trans (other results reads)

theorem Same.grow (same : before.Same whole first second) (grows : before.Grows after) :
    after.Same whole first second := fun results reads => same results
  ⟨fun id result resolved => reads.1 id result (grows.result?_eq id result resolved),
    fun id source derived => reads.2 id source (grows.past _ derived)⟩

theorem same_of_result? {id : Id} {result : Except Failure α}
    (resolved : chronicle.store.result? id = some result) (whole : Source α) :
    chronicle.Same whole (.promise id) (.settled result) :=
  fun results reads => by simpa [Source.value?] using reads.1 id result resolved

theorem same_of_derived {id : Id} {source : Source α}
    (derived : .derived .store id source ∈ chronicle.past) (below : source.Below whole) :
    chronicle.Same whole source (.promise id) :=
  fun results reads => by simpa [Source.value?] using (reads.2 id source derived below).symm

theorem Leaves.refl (whole source : Source α) : chronicle.Leaves whole source source :=
  ⟨.refl whole source, fun _ same => .inl same⟩

theorem Leaves.grow (leaves : before.Leaves whole first second) (grows : before.Grows after) :
    after.Leaves whole first second := by
  refine ⟨leaves.same.grow grows, fun id isPromise => ?_⟩
  rcases leaves.traces id isPromise with same | ⟨result, settled, resolved⟩
  · exact .inl same
  · exact .inr ⟨result, settled, grows.result?_eq id result resolved⟩

theorem Leaves.settle {id : Id} {result : Except Failure α}
    (leaves : chronicle.Leaves whole first (.promise id))
    (resolved : chronicle.store.result? id = some result) :
    chronicle.Leaves whole first (.settled result) := by
  refine ⟨leaves.same.trans (same_of_result? resolved whole), fun other isPromise => ?_⟩
  rcases leaves.traces other isPromise with same | ⟨stored, settled, -⟩
  · cases same
    exact .inr ⟨result, rfl, resolved⟩
  · cases settled

/-- A source that is neither a promise nor settled leaves the promise that the store makes for it. -/
theorem Leaves.inner {id : Id} (leaves : chronicle.Leaves whole first second)
    (notPromise : ∀ id, second ≠ .promise id) (notSettled : ∀ result, second ≠ .settled result)
    (same : chronicle.Same whole second (.promise id)) :
    chronicle.Leaves whole first (.promise id) := by
  refine ⟨leaves.same.trans same, fun other isPromise => ?_⟩
  rcases leaves.traces other isPromise with same | ⟨result, settled, -⟩
  · exact absurd same (notPromise other)
  · exact absurd settled (notSettled result)

end Same

end Chronicle

/-- Whether an action on a source does what is left to do for a promise that is to hold what a whole
source comes to. -/
def Action.Serves (chronicle : Chronicle α ω) (whole source : Source α) : Action α ℕ → Prop
  | .map _ mapper _ => ∃ first, whole = .map first mapper ∧ chronicle.Leaves whole first source
  | .chain _ mapper _ => ∃ first, whole = .chain first mapper ∧ chronicle.Leaves whole first source
  | .forward _ => chronicle.Same whole whole source
  | .onResult _ | .onSuccess _ | .onFailure _ => True

/-- Whether an action on a source does what is left to do for its target. -/
def Action.Fits (chronicle : Chronicle α ω) (source : Source α) (action : Action α ℕ) : Prop :=
  ∀ target ∈ action.target?, ∀ agent whole, .derived agent target whole ∈ chronicle.past →
    action.Serves chronicle whole source

/-- Whether a source that an action is to be attached to is a promise or a part of what the target is
to hold. -/
def Action.Reaches (chronicle : Chronicle α ω) (source : Source α) (action : Action α ℕ) : Prop :=
  ∀ target ∈ action.target?, ∀ agent whole, .derived agent target whole ∈ chronicle.past →
    (∃ id, source = .promise id) ∨ source.Below whole

/-- Whether a frame does what is left to do for its target. -/
def Frame.Fits (chronicle : Chronicle α ω) : Frame α ℕ ω → Prop
  | .attach source action => action.Fits chronicle source ∧ action.Reaches chronicle source
  | .run action result => action.Fits chronicle (.settled result)
  | .resolve target result => (Action.forward target).Fits chronicle (.settled result)
  | .client | .wake _ => True

section Fits

variable {chronicle before after : Chronicle α ω} {first second : Source α} {action : Action α ℕ}

theorem Action.Serves.grow {whole source : Source α} (serves : action.Serves before whole source)
    (grows : before.Grows after) : action.Serves after whole source := by
  cases action with
  | map code mapper target | chain code mapper target =>
      rcases serves with ⟨first, shape, leaves⟩
      exact ⟨first, shape, leaves.grow grows⟩
  | forward target => exact Chronicle.Same.grow serves grows
  | onResult code | onSuccess code | onFailure code => trivial

theorem Action.Fits.grow {source : Source α} (fits : action.Fits before source)
    (grows : before.Grows after) (inside : action.FitsIn before.store.size) :
    action.Fits after source := fun target targetMem agent whole derived =>
  (fits target targetMem agent whole
    (grows.derived agent target whole derived (inside target targetMem))).grow grows

theorem Frame.Fits.grow {frame : Frame α ℕ ω} (fits : frame.Fits before)
    (grows : before.Grows after) (inside : frame.FitsIn before.store.size) :
    frame.Fits after := by
  cases frame with
  | attach source action =>
      refine ⟨fits.1.grow grows inside.2, fun target targetMem agent whole derived => ?_⟩
      exact fits.2 target targetMem agent whole
        (grows.derived agent target whole derived (inside.2 target targetMem))
  | run action result => exact Action.Fits.grow fits grows inside
  | resolve target result =>
      refine Action.Fits.grow fits grows ?_
      rintro other ⟨⟩
      exact inside
  | client | wake waker => trivial

theorem Action.Fits.settle {id : Id} {result : Except Failure α}
    (fits : action.Fits chronicle (.promise id))
    (resolved : chronicle.store.result? id = some result) :
    action.Fits chronicle (.settled result) := by
  intro target targetMem agent whole derived
  have serves := fits target targetMem agent whole derived
  cases action with
  | map code mapper other | chain code mapper other =>
      rcases serves with ⟨first, shape, leaves⟩
      exact ⟨first, shape, leaves.settle resolved⟩
  | forward other =>
      exact Chronicle.Same.trans serves (Chronicle.same_of_result? resolved whole)
  | onResult code | onSuccess code | onFailure code => trivial

theorem Action.Fits.inner {source : Source α} {id : Id} (fits : action.Fits chronicle source)
    (reaches : action.Reaches chronicle source) (notPromise : ∀ id, source ≠ .promise id)
    (notSettled : ∀ result, source ≠ .settled result)
    (stems : .derived .store id source ∈ chronicle.past) :
    action.Fits chronicle (.promise id) := by
  intro target targetMem agent whole derived
  have serves := fits target targetMem agent whole derived
  have same : chronicle.Same whole source (.promise id) := by
    rcases reaches target targetMem agent whole derived with ⟨other, same⟩ | below
    · exact absurd same (notPromise other)
    · exact Chronicle.same_of_derived stems below
  cases action with
  | map code mapper other | chain code mapper other =>
      rcases serves with ⟨first, shape, leaves⟩
      exact ⟨first, shape, leaves.inner notPromise notSettled same⟩
  | forward other => exact Chronicle.Same.trans serves same
  | onResult code | onSuccess code | onFailure code => trivial

end Fits

/-- Whether everything that a store has to do, and what waits in it, does what is left to do. The
chronicle tells what is known of promises; it may be further than the store. -/
structure Store.Right (chronicle : Chronicle α ω) (store : Store α ℕ ω) : Prop where
  waiting : ∀ id, ∀ action ∈ store.waiting id, action.Fits chronicle (.promise id)
  frames : ∀ frame ∈ store.frames, frame.Fits chronicle

namespace Store.Right

variable {chronicle before after : Chronicle α ω} {store : Store α ℕ ω}

theorem grow (right : store.Right before) (wellFormed : store.WellFormed)
    (size_eq : store.size = before.store.size) (grows : before.Grows after) : store.Right after where
  waiting := fun id action actionMem =>
    (right.waiting id action actionMem).grow grows (size_eq ▸ wellFormed.waiting id action actionMem)
  frames := fun frame frameMem =>
    (right.frames frame frameMem).grow grows (size_eq ▸ wellFormed.frames frame frameMem)

theorem next (right : store.Right chronicle) {frame : Frame α ℕ ω} (fits : frame.Fits chronicle) :
    (store.next frame).Right chronicle where
  waiting := right.waiting
  frames := by
    intro other otherMem
    rcases List.mem_cons.mp otherMem with rfl | old
    · exact fits
    · exact right.frames other old

theorem of_next {frame : Frame α ℕ ω} (right : (store.next frame).Right chronicle) :
    store.Right chronicle ∧ frame.Fits chronicle :=
  ⟨⟨right.waiting, fun other otherMem => right.frames other (List.mem_cons_of_mem _ otherMem)⟩,
    right.frames frame List.mem_cons_self⟩

theorem create (right : store.Right chronicle) {cell : Cell α ℕ ω} (nothing : cell.waiting = []) :
    (store.create cell).2.Right chronicle where
  waiting := by
    intro id action actionMem
    rw [waiting_create_of_nil nothing] at actionMem
    exact right.waiting id action actionMem
  frames := right.frames

theorem replace (right : store.Right chronicle) {id : Id} (inside : id < store.size)
    {cell : Cell α ℕ ω} (fits : ∀ action ∈ cell.waiting, action.Fits chronicle (.promise id)) :
    (store.replace id cell).Right chronicle where
  waiting := by
    intro other action actionMem
    rw [waiting_replace inside] at actionMem
    split at actionMem
    · rename_i same
      rw [same]
      exact fits action actionMem
    · exact right.waiting other action actionMem
  frames := right.frames

theorem attach (right : store.Right chronicle) {id : Id} (inside : id < store.size)
    {action : Action α ℕ} (fits : action.Fits chronicle (.promise id))
    (known : ∀ result, store.result? id = some result →
      chronicle.store.result? id = some result) : (store.attach id action).Right chronicle := by
  cases stored : store.result? id with
  | some result =>
      rw [attach_of_result? stored]
      exact right.next (fits.settle (known result stored))
  | none =>
      rw [attach_of_pending inside stored]
      apply right.replace inside
      intro other otherMem
      rcases List.mem_append.mp otherMem with old | new
      · exact right.waiting id other old
      · rw [List.mem_singleton.mp new]
        exact fits

theorem resolve (right : store.Right chronicle) {id : Id} (inside : id < store.size)
    {result : Except Failure α}
    (known : (store.resolve id result).2.result? id = chronicle.store.result? id) :
    (store.resolve id result).2.Right chronicle := by
  cases stored : store.result? id with
  | some first =>
      rw [resolve_of_result? stored]
      exact right
  | none =>
      have resolved := resolve_of_pending inside stored result
      have now : chronicle.store.result? id = some result := by
        rw [← known, resolved]
        exact (result?_replace inside (.resolved result) id).trans (if_pos rfl)
      have replaced : (store.replace id (.resolved result)).Right chronicle :=
        right.replace inside (by simp [Cell.waiting])
      rw [resolved]
      refine ⟨replaced.waiting, ?_⟩
      intro frame frameMem
      rcases List.mem_append.mp frameMem with new | old
      · rcases List.mem_append.mp new with runs | wakes
        · rcases List.mem_map.mp runs with ⟨action, actionMem, rfl⟩
          exact (right.waiting id action actionMem).settle now
        · rcases List.mem_map.mp wakes with ⟨waker, -, rfl⟩
          trivial
      · exact right.frames frame old

theorem enter? (right : store.Right chronicle) (code : Option ℕ) (result : Except Failure α) :
    (store.enter? code result).Right chronicle := by
  cases code with
  | none => exact right
  | some code =>
      have logged : (store.log (.entered code result)).Right chronicle :=
        ⟨right.waiting, right.frames⟩
      exact logged.next trivial

/-- Running an action leaves to be done what is left to do for its target. -/
theorem runAction (right : store.Right chronicle) {action : Action α ℕ} {result : Except Failure α}
    (fits : action.Fits chronicle (.settled result)) :
    (store.runAction action result).Right chronicle := by
  have resolves : ∀ target stored, action.target? = some target →
      (∀ whole, action.Serves chronicle whole (.settled result) →
        chronicle.Same whole whole (.settled stored)) →
      (store.next (.resolve target stored)).Right chronicle := by
    intro target stored targeted comes
    apply right.next
    rintro other ⟨⟩ agent whole derived
    exact comes whole (fits target targeted agent whole derived)
  cases action with
  | onResult code => exact right.enter? (some code) result
  | onSuccess code =>
      cases result with
      | ok value => exact right.enter? (some code) (.ok value)
      | error failure => exact right
  | onFailure code =>
      cases result with
      | ok value => exact right
      | error failure => exact right.enter? (some code) (.error failure)
  | map code mapper target =>
      cases result with
      | ok value =>
          refine (resolves target _ rfl ?_).enter? code (.ok value)
          rintro whole ⟨first, rfl, leaves⟩ results reads
          simp only [Source.value?, leaves.same results reads]
          rfl
      | error failure =>
          refine resolves target _ rfl ?_
          rintro whole ⟨first, rfl, leaves⟩ results reads
          simp only [Source.value?, leaves.same results reads]
          rfl
  | chain code mapper target =>
      cases result with
      | ok value =>
          have attaches : (store.next (.attach (mapper value) (.forward target))).Right
              chronicle := by
            apply right.next
            refine ⟨?_, ?_⟩
            · rintro other ⟨⟩ agent whole derived
              rcases fits target rfl agent whole derived with ⟨first, rfl, leaves⟩
              intro results reads
              simp only [Source.value?, leaves.same results reads]
              rfl
            · rintro other ⟨⟩ agent whole derived
              rcases fits target rfl agent whole derived with ⟨first, rfl, -⟩
              exact .inr (.single (.answer first mapper value))
          exact attaches.enter? code (.ok value)
      | error failure =>
          refine resolves target _ rfl ?_
          rintro whole ⟨first, rfl, leaves⟩ results reads
          simp only [Source.value?, leaves.same results reads]
          rfl
  | forward target => exact resolves target result rfl fun whole same => same

/-- Whether a promise is known to have been made by the store from a source, and from no other. -/
def Stems (chronicle : Chronicle α ω) (id : Id) (source : Source α) : Prop :=
  .derived .store id source ∈ chronicle.past ∧
    ∀ agent whole, .derived agent id whole ∈ chronicle.past → whole = source

/-- What was to be attached to a source may be attached to a promise that stems from it. -/
theorem attachInner (right : store.Right chronicle) {source inner : Source α}
    {action waiting : Action α ℕ} (fits : action.Fits chronicle source)
    (reaches : action.Reaches chronicle source) (notPromise : ∀ id, source ≠ .promise id)
    (notSettled : ∀ result, source ≠ .settled result)
    (stems : Stems chronicle store.size source) (part : inner.Part source)
    (targets : waiting.target? = some store.size)
    (serves : waiting.Serves chronicle source inner) :
    (((store.create .fresh).2.next (.attach (.promise store.size) action)).next
      (.attach inner waiting)).Right chronicle := by
  have waits : ((store.create .fresh).2.next (.attach (.promise store.size) action)).Right
      chronicle := by
    exact (right.create rfl).next ⟨fits.inner reaches notPromise notSettled stems.1,
      fun _ _ _ _ _ => .inl ⟨_, rfl⟩⟩
  apply waits.next
  refine ⟨?_, ?_⟩
  · intro target targetMem agent whole derived
    rw [targets] at targetMem
    cases targetMem
    rw [stems.2 agent whole derived]
    exact serves
  · intro target targetMem agent whole derived
    rw [targets] at targetMem
    cases targetMem
    rw [stems.2 agent whole derived]
    exact .inr (.single part)

theorem attachSource (right : store.Right chronicle) {source : Source α} {action : Action α ℕ}
    (fits : action.Fits chronicle source) (reaches : action.Reaches chronicle source)
    (there : ∀ id, source = .promise id → id < store.size)
    (known : ∀ id result, store.result? id = some result →
      chronicle.store.result? id = some result)
    (stems : (∀ id, source ≠ .promise id) → (∀ result, source ≠ .settled result) →
      Stems chronicle store.size source) :
    (store.attachSource source action).Right chronicle := by
  cases source with
  | promise id => exact right.attach (there id rfl) fits (known id)
  | settled result => exact right.next fits
  | map source mapper =>
      exact right.attachInner fits reaches (by simp) (by simp) (stems (by simp) (by simp))
        (.map source mapper) rfl ⟨source, rfl, .refl _ _⟩
  | chain source mapper =>
      exact right.attachInner fits reaches (by simp) (by simp) (stems (by simp) (by simp))
        (.chain source mapper) rfl ⟨source, rfl, .refl _ _⟩

end Store.Right

end CompletionEngine.Promise
