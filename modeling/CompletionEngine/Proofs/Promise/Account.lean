import CompletionEngine.Proofs.Promise.Chronicle

/-!
# Accounts of attached code

An account is what matters of a chronicle for the code that callers attach: the results of promises,
the code that waits for each, the code that is due to be run, and what has happened before. A move
changes it in one of a few ways, which `Account.Turns` lists. That every attached code is run once, in
its turn, is a matter of these few ways only.
-/

namespace CompletionEngine.Promise

variable {α ω : Type}

/-- Code that is due to be run, how it is attached, and the result that it is due to see. -/
abbrev Due (α : Type) := ℕ × Hook × Except Failure α

/-- The code that a frame is about to run. -/
def Frame.due? : Frame α ℕ ω → Option (Due α)
  | run action result => action.hook?.map fun (code, hook) => (code, hook, result)
  | _ => none

/-- The code that an event is the entry of, with the result that it sees. -/
def Event.entry? : Event α ℕ ω → Option (ℕ × Except Failure α)
  | entered code result => some (code, result)
  | woken _ => none

namespace Store

/-- The code that waits for a promise, in the order of attachment. -/
def hooks (id : Id) (store : Store α ℕ ω) : List (ℕ × Hook) :=
  (store.waiting id).filterMap Action.hook?

/-- The code that is due to be run, in the order in which it is. -/
def due (store : Store α ℕ ω) : List (Due α) := store.frames.filterMap Frame.due?

/-- The code that has been entered, with the results that it saw, the first in front. -/
def story (store : Store α ℕ ω) : List (ℕ × Except Failure α) :=
  store.journal.reverse.filterMap Event.entry?

end Store

section Past

/-- The result that a promise was made with. -/
def origin (id : Id) (past : List (Happening α)) : Option (Except Failure α) :=
  past.findSome? fun
    | .made other result => if other = id then result else none
    | _ => none

/-- The attempts to resolve a promise, with what was told, the first in front. -/
def attempts (id : Id) (past : List (Happening α)) : List (Except Failure α × Bool) :=
  past.filterMap fun
    | .attempted _ other result won => if other = id then some (result, won) else none
    | _ => none

/-- The code that was attached to a promise, the first in front. -/
def attachments (id : Id) (past : List (Happening α)) : List (ℕ × Hook) :=
  past.filterMap fun
    | .attached code hook other => if other = id then some (code, hook) else none
    | _ => none

/-- Whether nothing has happened that concerns attached code. -/
def Idle (past : List (Happening α)) : Prop :=
  ∀ id, origin id past = none ∧ attempts id past = [] ∧ attachments id past = []

end Past

/-- What matters of a chronicle for attached code. -/
@[ext]
structure Account (α : Type) where
  size : ℕ
  /-- The next code to be attached. -/
  next : ℕ
  results : Id → Option (Except Failure α)
  hooks : Id → List (ℕ × Hook)
  due : List (Due α)
  story : List (ℕ × Except Failure α)
  origins : Id → Option (Except Failure α)
  attempts : Id → List (Except Failure α × Bool)
  attachments : Id → List (ℕ × Hook)

/-- The account of a chronicle. -/
def Chronicle.account (chronicle : Chronicle α ω) : Account α where
  size := chronicle.store.size
  next := chronicle.moves
  results := fun id => chronicle.store.result? id
  hooks := fun id => chronicle.store.hooks id
  due := chronicle.store.due
  story := chronicle.store.story
  origins := fun id => origin id chronicle.past
  attempts := fun id => attempts id chronicle.past
  attachments := fun id => attachments id chronicle.past

namespace Account

open Function (update)

/-- The ways in which a move changes an account. Promises may be made on the way. -/
inductive Turns (before : Account α) : Account α → Prop
  /-- Nothing happens to attached code. -/
  | rests (size : ℕ) (grows : before.size ≤ size) :
    Turns before { before with size := size, next := before.next + 1 }
  /-- A promise is made with a result. -/
  | born (result : Except Failure α) :
    Turns before { before with
      size := before.size + 1
      next := before.next + 1
      results := update before.results before.size (some result)
      origins := fun id =>
        (before.origins id).or (if id = before.size then some result else none) }
  /-- A promise is resolved, and the code that waits for it becomes due. -/
  | wins {id : Id} (inside : id < before.size) (pending : before.results id = none)
    (result : Except Failure α) :
    Turns before { before with
      next := before.next + 1
      results := update before.results id (some result)
      hooks := update before.hooks id []
      due := (before.hooks id).map (fun (code, hook) => (code, hook, result)) ++ before.due
      attempts := update before.attempts id (before.attempts id ++ [(result, true)]) }
  /-- An attempt to resolve a promise comes too late. -/
  | loses {id : Id} {stored : Except Failure α} (resolved : before.results id = some stored)
    (result : Except Failure α) :
    Turns before { before with
      next := before.next + 1
      attempts := update before.attempts id (before.attempts id ++ [(result, false)]) }
  /-- Code is attached to a pending promise, and waits. -/
  | waits {id : Id} (inside : id < before.size) (pending : before.results id = none) (hook : Hook)
    (size : ℕ) (grows : before.size ≤ size) :
    Turns before { before with
      size := size
      next := before.next + 1
      hooks := update before.hooks id (before.hooks id ++ [(before.next, hook)])
      attachments := update before.attachments id
        (before.attachments id ++ [(before.next, hook)]) }
  /-- Code is attached to a resolved promise, and is due at once. -/
  | falls {id : Id} {result : Except Failure α} (resolved : before.results id = some result)
    (hook : Hook) (size : ℕ) (grows : before.size ≤ size) :
    Turns before { before with
      size := size
      next := before.next + 1
      due := (before.next, hook, result) :: before.due
      attachments := update before.attachments id
        (before.attachments id ++ [(before.next, hook)]) }
  /-- The code that is due next is run, if it is attached for such a result. -/
  | runs {code : ℕ} {hook : Hook} {result : Except Failure α} {rest : List (Due α)}
    (first : before.due = (code, hook, result) :: rest) :
    Turns before { before with
      next := before.next + 1
      due := rest
      story := before.story ++ (hook.sees result).map fun seen => (code, seen) }

end Account

namespace Store

/-- Whether nothing happens to attached code from one store to another. -/
structure Rests (before after : Store α ℕ ω) : Prop where
  size_le : before.size ≤ after.size
  result?_eq : ∀ id, after.result? id = before.result? id
  hooks_eq : ∀ id, after.hooks id = before.hooks id
  due_eq : after.due = before.due
  story_eq : after.story = before.story

variable {store before between after : Store α ℕ ω}

theorem Rests.refl (store : Store α ℕ ω) : store.Rests store :=
  ⟨le_rfl, fun _ => rfl, fun _ => rfl, rfl, rfl⟩

theorem Rests.trans (earlier : before.Rests between) (later : between.Rests after) :
    before.Rests after where
  size_le := earlier.size_le.trans later.size_le
  result?_eq := fun id => (later.result?_eq id).trans (earlier.result?_eq id)
  hooks_eq := fun id => (later.hooks_eq id).trans (earlier.hooks_eq id)
  due_eq := later.due_eq.trans earlier.due_eq
  story_eq := later.story_eq.trans earlier.story_eq

theorem due_next (frame : Frame α ℕ ω) (store : Store α ℕ ω) :
    (store.next frame).due = frame.due?.toList ++ store.due := by
  rw [due, next, List.filterMap_cons]
  cases frame.due? <;> rfl

theorem story_log (event : Event α ℕ ω) (store : Store α ℕ ω) :
    (store.log event).story = store.story ++ event.entry?.toList := by
  rw [story, log, List.reverse_cons, List.filterMap_append, List.filterMap_cons]
  cases event.entry? <;> rfl

theorem rests_next {frame : Frame α ℕ ω} (plain : frame.due? = none) (store : Store α ℕ ω) :
    store.Rests (store.next frame) :=
  ⟨le_rfl, fun _ => rfl, fun _ => rfl, by simp [due_next, plain], rfl⟩

theorem rests_of_next {frame : Frame α ℕ ω} (plain : frame.due? = none) (store : Store α ℕ ω) :
    (store.next frame).Rests store :=
  ⟨le_rfl, fun _ => rfl, fun _ => rfl, by simp [due_next, plain], rfl⟩

theorem rests_woken (waker : ω) (store : Store α ℕ ω) : store.Rests (store.log (.woken waker)) :=
  ⟨le_rfl, fun _ => rfl, fun _ => rfl, rfl, by simp [story_log, Event.entry?]⟩

theorem rests_create (store : Store α ℕ ω) : store.Rests (store.create .fresh).2 where
  size_le := by simp
  result?_eq := result?_create_fresh store
  hooks_eq := fun id => by rw [hooks, waiting_create_of_nil rfl, hooks]
  due_eq := rfl
  story_eq := rfl

theorem hooks_replace {id : Id} (inside : id < store.size) (cell : Cell α ℕ ω) (other : Id) :
    (store.replace id cell).hooks other =
      if other = id then cell.waiting.filterMap Action.hook? else store.hooks other := by
  rw [hooks, waiting_replace inside]
  split <;> rfl

/-- Nothing happens to attached code when the code that waits for a pending promise stays. -/
theorem rests_replace {id : Id} (inside : id < store.size) (pending : store.result? id = none)
    {actions : List (Action α ℕ)} (same : actions.filterMap Action.hook? = store.hooks id)
    (wakers : List ω) : store.Rests (store.replace id (.pending actions wakers)) where
  size_le := (size_replace _ _ _).ge
  result?_eq := by
    intro other
    rw [result?_replace inside]
    split
    · rename_i here
      rw [here, pending]
      rfl
    · rfl
  hooks_eq := by
    intro other
    rw [hooks_replace inside]
    split
    · rename_i here
      rw [here, ← same]
      rfl
    · rfl
  due_eq := rfl
  story_eq := rfl

theorem rests_attach {id : Id} (inside : id < store.size) {action : Action α ℕ}
    (codeless : action.hook? = none) : store.Rests (store.attach id action) := by
  cases pending : store.result? id with
  | some result =>
      rw [attach_of_result? pending]
      exact rests_next (by simp [Frame.due?, codeless]) store
  | none =>
      rw [attach_of_pending inside pending]
      exact rests_replace inside pending (by simp [hooks, codeless]) _

theorem rests_attachSource {source : Source α} {action : Action α ℕ}
    (there : ∀ id, source = .promise id → id < store.size) (codeless : action.hook? = none) :
    store.Rests (store.attachSource source action) := by
  cases source with
  | promise id => exact rests_attach (there id rfl) codeless
  | settled result => exact rests_next (by simp [Frame.due?, codeless]) store
  | map source mapper =>
      exact ((rests_create store).trans (rests_next rfl _)).trans (rests_next rfl _)
  | chain source mapper =>
      exact ((rests_create store).trans (rests_next rfl _)).trans (rests_next rfl _)

/-- Running an action enters its code, when the code is attached for such a result, and leaves no code
to be run. -/
theorem runAction_eq (action : Action α ℕ) (result : Except Failure α) (store : Store α ℕ ω) :
    ∃ frames, (∀ frame ∈ frames, frame.due? = none) ∧ store.runAction action result =
      { store with
        frames := frames ++ store.frames
        journal := (action.hook?.elim [] fun (code, hook) =>
          (hook.sees result).map fun seen => .entered code seen) ++ store.journal } := by
  cases action with
  | onResult code => exact ⟨[.client], by simp [Frame.due?], rfl⟩
  | onSuccess code =>
      cases result with
      | ok value => exact ⟨[.client], by simp [Frame.due?], rfl⟩
      | error failure => exact ⟨[], by simp, rfl⟩
  | onFailure code =>
      cases result with
      | ok value => exact ⟨[], by simp, rfl⟩
      | error failure => exact ⟨[.client], by simp [Frame.due?], rfl⟩
  | map code mapper target =>
      cases result with
      | ok value =>
          cases code with
          | none => exact ⟨[.resolve target (.ok (mapper value))], by simp [Frame.due?], rfl⟩
          | some code =>
              exact ⟨[.client, .resolve target (.ok (mapper value))], by simp [Frame.due?], rfl⟩
      | error failure =>
          refine ⟨[.resolve target (.error failure)], by simp [Frame.due?], ?_⟩
          cases code <;> rfl
  | chain code mapper target =>
      cases result with
      | ok value =>
          cases code with
          | none => exact ⟨[.attach (mapper value) (.forward target)], by simp [Frame.due?], rfl⟩
          | some code =>
              exact ⟨[.client, .attach (mapper value) (.forward target)], by simp [Frame.due?], rfl⟩
      | error failure =>
          refine ⟨[.resolve target (.error failure)], by simp [Frame.due?], ?_⟩
          cases code <;> rfl
  | forward target => exact ⟨[.resolve target result], by simp [Frame.due?], rfl⟩

/-- Running an action leaves no code to be run. -/
theorem due_runAction (action : Action α ℕ) (result : Except Failure α) (store : Store α ℕ ω) :
    (store.runAction action result).due = store.due := by
  rcases store.runAction_eq action result with ⟨frames, plain, ran⟩
  have nothing : frames.filterMap Frame.due? = [] := List.filterMap_eq_nil_iff.mpr plain
  rw [ran, due, List.filterMap_append, nothing, List.nil_append]
  rfl

/-- Running an action enters its code, when the code is attached for such a result. -/
theorem story_runAction (action : Action α ℕ) (result : Except Failure α) (store : Store α ℕ ω) :
    (store.runAction action result).story = store.story ++
      action.hook?.elim [] fun (code, hook) =>
        (hook.sees result).map fun seen => (code, seen) := by
  rcases store.runAction_eq action result with ⟨frames, -, ran⟩
  rw [ran]
  cases action.hook? with
  | none => simp [story]
  | some attached =>
      simp only [story, Option.elim_some, List.reverse_append, List.filterMap_append]
      congr 1
      unfold Hook.sees
      split <;> rfl

/-- An action without code of a caller does not matter for attached code. -/
theorem rests_runAction {action : Action α ℕ} (codeless : action.hook? = none)
    (result : Except Failure α) (store : Store α ℕ ω) :
    store.Rests (store.runAction action result) where
  size_le := size_le_runFrame (.run action result) store
  result?_eq := by
    rcases store.runAction_eq action result with ⟨frames, -, ran⟩
    rw [ran]
    exact fun id => rfl
  hooks_eq := by
    rcases store.runAction_eq action result with ⟨frames, -, ran⟩
    rw [ran]
    exact fun id => rfl
  due_eq := store.due_runAction action result
  story_eq := by simp [story_runAction, codeless]

end Store

namespace Chronicle

section Past

variable (id : Id) (past new : List (Happening α))

theorem origin_append : origin id (past ++ new) = (origin id past).or (origin id new) :=
  List.findSome?_append

theorem attempts_append : attempts id (past ++ new) = attempts id past ++ attempts id new :=
  List.filterMap_append

theorem attachments_append :
    attachments id (past ++ new) = attachments id past ++ attachments id new :=
  List.filterMap_append

end Past

variable [DecidableEq ω] {chronicle : Chronicle α ω} {move : Move α ω}

/-- The account after a move, from the store after it and what has happened in it. -/
theorem account_perform {size : ℕ} {results : Id → Option (Except Failure α)}
    {hooks : Id → List (ℕ × Hook)} {due : List (Due α)} {story : List (ℕ × Except Failure α)}
    {origins : Id → Option (Except Failure α)} {attempts : Id → List (Except Failure α × Bool)}
    {attachments : Id → List (ℕ × Hook)}
    {after : Store α ℕ ω} (acts : chronicle.act move = after) (size_eq : after.size = size)
    (results_eq : ∀ id, after.result? id = results id) (hooks_eq : ∀ id, after.hooks id = hooks id)
    (due_eq : after.due = due) (story_eq : after.story = story)
    (origins_eq : ∀ id,
      (chronicle.account.origins id).or (origin id (chronicle.happenings move)) = origins id)
    (attempts_eq : ∀ id, chronicle.account.attempts id ++
      Promise.attempts id (chronicle.happenings move) = attempts id)
    (attachments_eq : ∀ id, chronicle.account.attachments id ++
      Promise.attachments id (chronicle.happenings move) = attachments id) :
    (chronicle.perform move).account =
      ⟨size, chronicle.account.next + 1, results, hooks, due, story, origins,
        attempts, attachments⟩ := by
  subst acts
  ext1
  · exact size_eq
  · rfl
  · exact funext results_eq
  · exact funext hooks_eq
  · exact due_eq
  · exact story_eq
  · exact funext fun id => (origin_append id _ _).trans (origins_eq id)
  · exact funext fun id => (attempts_append id _ _).trans (attempts_eq id)
  · exact funext fun id => (attachments_append id _ _).trans (attachments_eq id)

/-- A move in which nothing happens to attached code. -/
theorem turns_of_rests (rests : chronicle.store.Rests (chronicle.act move))
    (idle : Idle (chronicle.happenings move)) :
    chronicle.account.Turns (chronicle.perform move).account := by
  rw [account_perform rfl rfl rests.result?_eq rests.hooks_eq rests.due_eq rests.story_eq
    (fun id => by rw [(idle id).1, Option.or_none])
    (fun id => by rw [(idle id).2.1, List.append_nil])
    (fun id => by rw [(idle id).2.2, List.append_nil])]
  exact .rests _ rests.size_le

/-- A move that attempts to resolve a promise. -/
theorem turns_of_resolve {agent : Agent} {id : Id} {result : Except Failure α} {base : Store α ℕ ω}
    (rests : chronicle.store.Rests base) (size_eq : base.size = chronicle.store.size)
    (inside : id < base.size) (acts : chronicle.act move = (base.resolve id result).2)
    (happens : chronicle.happenings move =
      [.attempted agent id result (base.resolve id result).1]) :
    chronicle.account.Turns (chronicle.perform move).account := by
  have origins_eq : ∀ other, (chronicle.account.origins other).or
      (origin other (chronicle.happenings move)) = chronicle.account.origins other := by
    simp [happens, origin]
  have attachments_eq : ∀ other, chronicle.account.attachments other ++
      attachments other (chronicle.happenings move) = chronicle.account.attachments other := by
    simp [happens, attachments]
  have attempts_eq : ∀ other, chronicle.account.attempts other ++
      attempts other (chronicle.happenings move) = Function.update chronicle.account.attempts id
        (chronicle.account.attempts id ++ [(result, (base.resolve id result).1)]) other := by
    intro other
    by_cases here : other = id
    · simp [happens, attempts, here]
    · simp [happens, attempts, here, Ne.symm here]
  cases stored : base.result? id with
  | some first =>
      rw [Store.resolve_of_result? stored] at acts attempts_eq
      rw [account_perform acts size_eq rests.result?_eq rests.hooks_eq rests.due_eq rests.story_eq
        origins_eq attempts_eq attachments_eq]
      exact .loses ((rests.result?_eq id).symm.trans stored) result
  | none =>
      rw [Store.resolve_of_pending inside stored] at acts attempts_eq
      have results_eq : ∀ other, (base.replace id (.resolved result)).result? other =
          Function.update chronicle.account.results id (some result) other := by
        intro other
        rw [Function.update_apply, Store.result?_replace inside, rests.result?_eq]
        rfl
      have hooks_eq : ∀ other, (base.replace id (.resolved result)).hooks other =
          Function.update chronicle.account.hooks id [] other := by
        intro other
        rw [Function.update_apply, Store.hooks_replace inside, rests.hooks_eq]
        rfl
      have due_eq : ((base.waiting id).map (Frame.run · result) ++
          (base.wakers id).map Frame.wake ++ base.frames).filterMap Frame.due? =
            (chronicle.account.hooks id).map (fun (code, hook) => (code, hook, result)) ++
              chronicle.account.due := by
        have waited : base.hooks id = chronicle.account.hooks id := rests.hooks_eq id
        have owed : base.due = chronicle.account.due := rests.due_eq
        rw [← waited, ← owed]
        simp [Store.due, Store.hooks, List.filterMap_append, List.filterMap_map,
          Function.comp_def, Frame.due?, List.map_filterMap]
      have inside' : id < chronicle.account.size := inside.trans_eq size_eq
      have sized : (base.replace id (.resolved result)).size = chronicle.account.size :=
        (Store.size_replace id _ base).trans size_eq
      rw [account_perform acts sized results_eq hooks_eq due_eq rests.story_eq origins_eq
        attempts_eq attachments_eq]
      exact .wins inside' ((rests.result?_eq id).symm.trans stored) result

/-- A move that attaches code of a caller. -/
theorem turns_of_attach {id : Id} {hook : Hook} {action : Action α ℕ} {base : Store α ℕ ω}
    (rests : chronicle.store.Rests base) (inside : id < chronicle.store.size)
    (acts : chronicle.act move = base.attach id action)
    (hooked : action.hook? = some (chronicle.moves, hook))
    (origin_nil : ∀ other, origin other (chronicle.happenings move) = none)
    (attempts_nil : ∀ other, attempts other (chronicle.happenings move) = [])
    (attached : ∀ other, attachments other (chronicle.happenings move) =
      if other = id then [(chronicle.moves, hook)] else []) :
    chronicle.account.Turns (chronicle.perform move).account := by
  have insideBase : id < base.size := inside.trans_le rests.size_le
  have origins_eq : ∀ other, (chronicle.account.origins other).or
      (origin other (chronicle.happenings move)) = chronicle.account.origins other := by
    simp [origin_nil]
  have attempts_eq : ∀ other, chronicle.account.attempts other ++
      attempts other (chronicle.happenings move) = chronicle.account.attempts other := by
    simp [attempts_nil]
  have attachments_eq : ∀ other, chronicle.account.attachments other ++
      attachments other (chronicle.happenings move) =
        Function.update chronicle.account.attachments id
          (chronicle.account.attachments id ++ [(chronicle.account.next, hook)]) other := by
    intro other
    rw [attached]
    by_cases here : other = id
    · subst here
      simp [account]
    · simp [here]
  cases stored : base.result? id with
  | some result =>
      have due_eq : (base.next (.run action result)).due =
          (chronicle.account.next, hook, result) :: chronicle.account.due := by
        rw [Store.due_next, rests.due_eq]
        simp [Frame.due?, hooked, account]
      rw [account_perform (acts.trans (Store.attach_of_result? stored action)) rfl
        rests.result?_eq rests.hooks_eq due_eq rests.story_eq origins_eq attempts_eq attachments_eq]
      exact .falls ((rests.result?_eq id).symm.trans stored) hook _ rests.size_le
  | none =>
      have waits := Store.attach_of_pending insideBase stored action
      have results_eq : ∀ other, (base.replace id
          (.pending (base.waiting id ++ [action]) (base.wakers id))).result? other =
            chronicle.account.results other := by
        intro other
        rw [Store.result?_replace insideBase]
        split
        · rename_i here
          subst here
          exact stored.symm.trans (rests.result?_eq other)
        · exact rests.result?_eq other
      have hooks_eq : ∀ other, (base.replace id
          (.pending (base.waiting id ++ [action]) (base.wakers id))).hooks other =
            Function.update chronicle.account.hooks id
              (chronicle.account.hooks id ++ [(chronicle.account.next, hook)]) other := by
        intro other
        have waited : chronicle.account.hooks id = base.hooks id := (rests.hooks_eq id).symm
        rw [Store.hooks_replace insideBase, Function.update_apply, waited]
        split
        · simp [Cell.waiting, List.filterMap_append, hooked, Store.hooks, account]
        · exact rests.hooks_eq other
      rw [account_perform (acts.trans waits) (Store.size_replace id _ base) results_eq hooks_eq
        rests.due_eq rests.story_eq origins_eq attempts_eq attachments_eq]
      exact .waits inside ((rests.result?_eq id).symm.trans stored) hook _ rests.size_le

/-- A move that makes a promise with a result. -/
theorem turns_resolved (result : Except Failure α) :
    chronicle.account.Turns (chronicle.perform (.resolved result)).account := by
  have origins_eq : ∀ id, (chronicle.account.origins id).or
      (origin id (chronicle.happenings (.resolved result))) =
        (chronicle.account.origins id).or
          (if id = chronicle.account.size then some result else none) := by
    intro id
    by_cases here : id = chronicle.account.size
    · simp [happenings, origin, here, account]
    · have here : id ≠ chronicle.store.size := here
      simp [happenings, origin, account, here, Ne.symm here]
  have results_eq : ∀ id, (chronicle.act (.resolved result)).result? id =
      Function.update chronicle.account.results chronicle.account.size (some result) id := by
    intro id
    rw [Function.update_apply]
    exact Store.result?_create (.resolved result) chronicle.store id
  have hooks_eq : ∀ id, (chronicle.act (.resolved result)).hooks id =
      chronicle.account.hooks id := fun id =>
    congrArg (List.filterMap Action.hook?) (Store.waiting_create_of_nil rfl chronicle.store id)
  have sized : (chronicle.act (.resolved result)).size = chronicle.account.size + 1 :=
    Store.size_create _ chronicle.store
  rw [account_perform rfl sized results_eq hooks_eq rfl rfl origins_eq
    (fun id => List.append_nil _) (fun id => List.append_nil _)]
  exact .born result

section Step

variable {below : Store α ℕ ω} {frame : Frame α ℕ ω}

omit [DecidableEq ω] in
/-- What a step does concerns attached code only if it resolves a promise. -/
theorem idle_stepHappenings
    (plain : ∀ target result, frame ≠ .resolve target result) (below : Store α ℕ ω) :
    Idle (stepHappenings (below.next frame)) := by
  intro id
  have nothing : origin id ([] : List (Happening α)) = none ∧
      attempts id ([] : List (Happening α)) = [] ∧
      attachments id ([] : List (Happening α)) = [] := ⟨rfl, rfl, rfl⟩
  cases frame with
  | client | wake waker => exact nothing
  | attach source action => cases source <;> exact nothing
  | run action result =>
      cases action with
      | map code mapper target | chain code mapper target => cases result <;> exact nothing
      | _ => exact nothing
  | resolve target result => exact absurd rfl (plain target result)

/-- A step that runs an action. -/
theorem turns_run {action : Action α ℕ} {result : Except Failure α}
    (store_eq : chronicle.store = below.next (.run action result))
    (acts : chronicle.act .step = below.runAction action result)
    (idle : Idle (chronicle.happenings .step)) :
    chronicle.account.Turns (chronicle.perform .step).account := by
  cases hooked : action.hook? with
  | none =>
      refine turns_of_rests ?_ idle
      rw [acts, store_eq]
      have plain : (Frame.run action result : Frame α ℕ ω).due? = none := by
        simp [Frame.due?, hooked]
      exact (Store.rests_of_next plain below).trans (Store.rests_runAction hooked result below)
  | some attached =>
      rcases attached with ⟨code, hook⟩
      rcases below.runAction_eq action result with ⟨frames, -, ran⟩
      have owed : chronicle.account.due = (code, hook, result) :: below.due := by
        have first := Store.due_next (.run action result) below
        simpa [account, store_eq, Frame.due?, hooked] using first
      have told : chronicle.account.story = below.story := by
        rw [account, store_eq]
        rfl
      have story_eq := below.story_runAction action result
      rw [hooked, ← told] at story_eq
      have kept : (below.runAction action result).size = chronicle.account.size ∧
          (∀ id, (below.runAction action result).result? id = chronicle.account.results id) ∧
          ∀ id, (below.runAction action result).hooks id = chronicle.account.hooks id := by
        simp only [account, store_eq, ran]
        exact ⟨rfl, fun id => rfl, fun id => rfl⟩
      rw [account_perform acts kept.1 kept.2.1 kept.2.2 (below.due_runAction action result)
        story_eq (fun id => by rw [(idle id).1, Option.or_none])
        (fun id => by rw [(idle id).2.1, List.append_nil])
        (fun id => by rw [(idle id).2.2, List.append_nil])]
      exact .runs owed

/-- A step turns the account. -/
theorem turns_step (wellFormed : chronicle.store.WellFormed) (allowed : chronicle.allows .step) :
    chronicle.account.Turns (chronicle.perform .step).account := by
  have acts : chronicle.act .step = chronicle.store.step := rfl
  rcases chronicle.store.step_cases with ⟨waits, same⟩ | ⟨below, frame, store_eq, stepped⟩
  · refine turns_of_rests (acts.trans same ▸ .refl _) ?_
    rw [happenings, stepHappenings_of_awaitsCaller waits]
    exact fun id => ⟨rfl, rfl, rfl⟩
  · have happens : chronicle.happenings .step = stepHappenings (below.next frame) := by
      rw [happenings, store_eq]
    rw [stepped] at acts
    rw [store_eq] at wellFormed
    have fits := wellFormed.of_next.2
    cases frame with
    | resolve target result =>
        have told : chronicle.happenings .step =
            [.attempted .store target result (below.resolve target result).1] := by
          rw [happens, ← Store.won_next (.resolve target result) below]
          rfl
        refine turns_of_resolve ?_ (by rw [store_eq]; rfl) fits acts told
        rw [store_eq]
        exact Store.rests_of_next rfl below
    | client =>
        refine turns_of_rests ?_ (happens ▸ idle_stepHappenings (by simp) below)
        rw [acts, store_eq]
        exact .refl _
    | wake waker =>
        refine turns_of_rests ?_ (happens ▸ idle_stepHappenings (by simp) below)
        rw [acts, store_eq]
        exact (Store.rests_of_next rfl below).trans (Store.rests_woken waker below)
    | attach source action =>
        refine turns_of_rests ?_ (happens ▸ idle_stepHappenings (by simp) below)
        rw [acts, store_eq]
        exact (Store.rests_of_next rfl below).trans
          (Store.rests_attachSource (lt_size_of_allows_step store_eq allowed) fits.1)
    | run action result =>
        exact turns_run store_eq acts (happens ▸ idle_stepHappenings (by simp) below)

end Step

/-- Every move turns the account. -/
theorem turns_perform (wellFormed : chronicle.WellFormed) (allowed : chronicle.allows move) :
    chronicle.account.Turns (chronicle.perform move).account := by
  have inside : ∀ id, (chronicle.store.awaitsCaller && chronicle.holds id) = true →
      id < chronicle.store.size := fun id held => lt_size_of_allows wellFormed held
  cases move with
  | step => exact turns_step wellFormed.store allowed
  | new =>
      exact turns_of_rests (Store.rests_create _) fun id => ⟨by simp [happenings, origin], rfl, rfl⟩
  | resolved result => exact turns_resolved result
  | resolve id result =>
      exact turns_of_resolve (.refl _) rfl (inside id allowed) rfl rfl
  | attach hook id =>
      have attached : ∀ other, attachments other (chronicle.happenings (.attach hook id)) =
          if other = id then [(chronicle.moves, hook)] else [] := by
        intro other
        by_cases here : other = id
        · simp [happenings, attachments, here]
        · simp [happenings, attachments, here, Ne.symm here]
      have acts : ∃ action : Action α ℕ, action.hook? = some (chronicle.moves, hook) ∧
          chronicle.act (.attach hook id) = chronicle.store.attach id action := by
        cases hook with
        | result => exact ⟨.onResult chronicle.moves, rfl, rfl⟩
        | success => exact ⟨.onSuccess chronicle.moves, rfl, rfl⟩
        | failure => exact ⟨.onFailure chronicle.moves, rfl, rfl⟩
      rcases acts with ⟨action, hooked, acts⟩
      exact turns_of_attach (.refl _) (inside id allowed) acts hooked
        (by simp [happenings, origin]) (by simp [happenings, attempts]) attached
  | map id mapper | flatMap id mapper =>
      refine turns_of_attach (Store.rests_create _) (inside id allowed) rfl rfl
        (by simp [happenings, origin]) (by simp [happenings, attempts]) ?_
      intro other
      by_cases here : other = id
      · simp [happenings, attachments, here]
      · simp [happenings, attachments, here, Ne.symm here]
  | poll id waker =>
      refine turns_of_rests ?_ fun id => ⟨rfl, rfl, rfl⟩
      rw [act]
      rcases Store.poll_eq id waker chronicle.store with same | ⟨there, pending, wakers, polled⟩
      · rw [same]
        exact .refl _
      · rw [polled]
        exact Store.rests_replace there pending rfl wakers
  | finish =>
      refine turns_of_rests ?_ fun id => ⟨rfl, rfl, rfl⟩
      rw [act, Store.finish]
      split
      · rename_i rest frames_eq
        refine ⟨le_rfl, fun _ => rfl, fun _ => rfl, ?_, rfl⟩
        rw [Store.due, Store.due, frames_eq]
        rfl
      · exact .refl _

end Chronicle

end CompletionEngine.Promise
