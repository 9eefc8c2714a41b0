import CompletionEngine.Proofs.Promise.Progress
import CompletionEngine.Proofs.Promise.Sound

/-!
# Resolution happens once

For every history of promises, whatever entered code does: only the first attempt to resolve a
promise succeeds, the others change nothing, and every code that is attached to a promise sees its one
result once, if it is attached for such a result, and in its turn.
-/

namespace CompletionEngine.Promise

variable {α ω : Type}

/-- What code sees that is due. -/
def Due.view : Due α → List (ℕ × Except Failure α)
  | (code, hook, result) => (hook.sees result).map fun seen => (code, seen)

/-- What some code sees that is run in order on a result. -/
def views (watched : List (ℕ × Hook)) (result : Except Failure α) : List (ℕ × Except Failure α) :=
  watched.flatMap fun (code, hook) => Due.view (code, hook, result)

/-- The part of a list that concerns some code. -/
def about {β : Type} (watched : List (ℕ × Hook)) (list : List (ℕ × β)) : List (ℕ × β) :=
  list.filter fun (code, _) => code ∈ watched.map Prod.fst

section About

variable {β : Type} {watched : List (ℕ × Hook)}

theorem about_append (first second : List (ℕ × β)) :
    about watched (first ++ second) = about watched first ++ about watched second :=
  List.filter_append ..

theorem about_eq_nil {list : List (ℕ × β)}
    (unwatched : ∀ item ∈ list, item.1 ∉ watched.map Prod.fst) : about watched list = [] :=
  List.filter_eq_nil_iff.mpr fun item itemMem => by simpa using unwatched item itemMem

theorem about_eq_self {list : List (ℕ × β)} (all : ∀ item ∈ list, item.1 ∈ watched.map Prod.fst) :
    about watched list = list :=
  List.filter_eq_self.mpr fun item itemMem => by simpa using all item itemMem

theorem about_cons_of_watched {item : ℕ × β} (isWatched : item.1 ∈ watched.map Prod.fst)
    (rest : List (ℕ × β)) : about watched (item :: rest) = item :: about watched rest :=
  List.filter_cons_of_pos (by simpa using isWatched)

theorem about_cons_of_unwatched {item : ℕ × β} (unwatched : item.1 ∉ watched.map Prod.fst)
    (rest : List (ℕ × β)) : about watched (item :: rest) = about watched rest :=
  List.filter_cons_of_neg (by simpa using unwatched)

end About

namespace Account

variable {before after : Account α}

/-- Whether code that was attached to a promise before its resolution is run in order. -/
structure Follows (account : Account α) (id : Id) (result : Except Failure α)
    (watched : List (ℕ × Hook)) : Prop where
  resolved : account.results id = some result
  attached : ∀ attached ∈ watched, attached ∈ account.attachments id
  ordered : about watched account.story ++ (about watched account.due).flatMap Due.view =
    views watched result

namespace Follows

variable {id : Id} {result : Except Failure α} {watched : List (ℕ × Hook)}

theorem mem_of_watched (follows : before.Follows id result watched) {code : ℕ}
    (isWatched : code ∈ watched.map Prod.fst) : ∃ hook, (code, hook) ∈ before.attachments id := by
  rcases List.mem_map.mp isWatched with ⟨⟨code, hook⟩, watchedMem, rfl⟩
  exact ⟨hook, follows.attached _ watchedMem⟩

theorem turn (follows : before.Follows id result watched) (served : before.Served)
    (turns : before.Turns after) : after.Follows id result watched where
  resolved := turns.results_eq served follows.resolved
  attached := fun attached watchedMem => turns.attached (follows.attached attached watchedMem)
  ordered := by
    cases turns with
    | @wins other _ pending stored =>
        -- What becomes due now is attached to another promise.
        have unwatched : ∀ item ∈ (before.hooks other).map
            (fun (code, hook) => (code, hook, stored)), item.1 ∉ watched.map Prod.fst := by
          intro item itemMem isWatched
          rcases List.mem_map.mp itemMem with ⟨⟨code, hook⟩, hookMem, rfl⟩
          rw [served.hooks_eq, if_pos pending] at hookMem
          rcases follows.mem_of_watched isWatched with ⟨another, there⟩
          cases served.attached_once other id code hook another hookMem there
          rw [follows.resolved] at pending
          cases pending
        simpa [about_append, about_eq_nil unwatched] using follows.ordered
    | falls _ hook _ _ =>
        have unwatched : before.next ∉ watched.map Prod.fst := by
          intro isWatched
          rcases follows.mem_of_watched isWatched with ⟨another, there⟩
          exact (served.attached_lt id _ there).false
        rw [about_cons_of_unwatched unwatched]
        exact follows.ordered
    | @runs code hook seen rest first =>
        have ordered := follows.ordered
        rw [first] at ordered
        by_cases isWatched : code ∈ watched.map Prod.fst
        · rw [about_cons_of_watched isWatched, List.flatMap_cons, ← List.append_assoc] at ordered
          have ours : about watched ((hook.sees seen).map fun seen => (code, seen)) =
              Due.view (code, hook, seen) := by
            apply about_eq_self
            intro item itemMem
            rcases List.mem_map.mp itemMem with ⟨_, -, rfl⟩
            exact isWatched
          rw [about_append, ours]
          exact ordered
        · rw [about_cons_of_unwatched isWatched] at ordered
          have nothing : about watched ((hook.sees seen).map fun seen => (code, seen)) = [] := by
            apply about_eq_nil
            intro item itemMem
            rcases List.mem_map.mp itemMem with ⟨_, -, rfl⟩
            exact isWatched
          rw [about_append, nothing, List.append_nil]
          exact ordered
    | _ => exact follows.ordered

end Follows

/-- The code that waits for a promise is run in order from the moment of its resolution. -/
theorem Served.follows_of_wins (served : before.Served) {id : Id}
    (pending : before.results id = none) (result : Except Failure α)
    (attempts : Id → List (Except Failure α × Bool)) :
    ({ before with
        next := before.next + 1
        results := Function.update before.results id (some result)
        hooks := Function.update before.hooks id []
        due := (before.hooks id).map (fun (code, hook) => (code, hook, result)) ++ before.due
        attempts := attempts } : Account α).Follows id result (before.attachments id) where
  resolved := Function.update_self ..
  attached := fun _ there => there
  ordered := by
    have waited : before.hooks id = before.attachments id := by rw [served.hooks_eq, if_pos pending]
    have untold : about (before.attachments id) before.story = [] := by
      apply about_eq_nil
      rintro ⟨code, seen⟩ told isWatched
      rcases List.mem_map.mp isWatched with ⟨⟨code, hook⟩, attached, rfl⟩
      have nothing := served.waiting id code hook attached pending
      rw [entries, List.filterMap_eq_nil_iff] at nothing
      simpa using nothing _ told
    have undue : about (before.attachments id) before.due = [] := by
      apply about_eq_nil
      intro item due isWatched
      rcases List.mem_map.mp isWatched with ⟨⟨code, hook⟩, attached, same⟩
      have same : code = item.1 := same
      exact served.not_due_of_pending attached pending
        (same ▸ List.mem_map_of_mem (f := Prod.fst) due)
    have ours : about (before.attachments id)
        ((before.hooks id).map fun (code, hook) => (code, hook, result)) =
          (before.attachments id).map fun (code, hook) => (code, hook, result) := by
      rw [waited]
      apply about_eq_self
      intro item itemMem
      rcases List.mem_map.mp itemMem with ⟨⟨code, hook⟩, attached, rfl⟩
      exact List.mem_map_of_mem (f := Prod.fst) attached
    rw [untold, about_append, ours, undue, List.append_nil, List.nil_append, List.flatMap_map]
    rfl

/-- An attempt that succeeds finds the promise pending, and starts its code. -/
theorem Turns.follows (turns : before.Turns after) (served : before.Served) {id : Id}
    {result : Except Failure α}
    (succeeds : after.attempts id = before.attempts id ++ [(result, true)]) :
    before.results id = none ∧ after.Follows id result (before.attachments id) := by
  have changes : after.attempts id ≠ before.attempts id := by simp [succeeds]
  cases turns with
  | @wins other _ pending stored =>
      have same : id = other := by
        by_contra differs
        exact changes (Function.update_of_ne differs ..)
      subst same
      have told := succeeds.symm.trans (Function.update_self ..)
      simp only [List.append_cancel_left_eq, List.cons.injEq, Prod.mk.injEq] at told
      rcases told with ⟨⟨rfl, -⟩, -⟩
      exact ⟨pending, served.follows_of_wins pending result _⟩
  | @loses other _ _ stored =>
      have same : id = other := by
        by_contra differs
        exact changes (Function.update_of_ne differs ..)
      subst same
      have told := succeeds.symm.trans (Function.update_self ..)
      simp at told
  | _ => exact absurd rfl changes

end Account

namespace Chronicle

variable {chronicle before after : Chronicle α ω} {move : Move α ω}

/-- What is still to be done below a move: what was to be done before it, without the step itself. -/
def floor (move : Move α ω) (chronicle : Chronicle α ω) : List (Frame α ℕ ω) :=
  match move with
  | .step => chronicle.store.frames.tail
  | _ => chronicle.store.frames

/-- In a move, nothing else happens beside an attempt. -/
theorem happenings_of_attempted {agent : Agent} {id : Id} {result : Except Failure α} {won : Bool}
    (attempted : .attempted agent id result won ∈ chronicle.happenings move) :
    chronicle.happenings move = [.attempted agent id result won] := by
  cases move with
  | step =>
      simp only [happenings] at attempted ⊢
      unfold stepHappenings at attempted ⊢
      split at attempted <;> simp_all
  | resolve other stored => simpa [happenings, eq_comm] using attempted
  | _ => simp [happenings] at attempted

theorem resolve_eq_of_lost {store : Store α ℕ ω} {id : Id} {result : Except Failure α}
    (lost : (store.resolve id result).1 = false) : store.resolve id result = (false, store) := by
  unfold Store.resolve at lost ⊢
  split at lost <;> simp_all

/-- An attempt that fails changes nothing. -/
theorem act_of_lost [DecidableEq ω] {agent : Agent} {id : Id} {result : Except Failure α}
    (lost : .attempted agent id result false ∈ chronicle.happenings move) :
    chronicle.act move = { chronicle.store with frames := chronicle.floor move } := by
  have told := happenings_of_attempted lost
  cases move with
  | resolve other stored =>
      simp only [happenings, List.cons.injEq, Happening.attempted.injEq] at told
      rw [act, resolve_eq_of_lost told.1.2.2.2]
      rfl
  | step =>
      rcases (next_of_attempted lost).2 with ⟨below, store_eq⟩
      have won : ((below.next (.resolve id result)).resolve id result).1 = false := by
        simp only [happenings, store_eq, stepHappenings, Store.next, List.cons.injEq,
          Happening.attempted.injEq] at told
        exact told.1.2.2.2
      rw [Store.won_next] at won
      rw [act, floor, store_eq]
      exact congrArg Prod.snd (resolve_eq_of_lost won)
  | new | resolved | attach | map | flatMap | poll | finish => simp [happenings] at told

theorem due_subset {frames : List (Frame α ℕ ω)} (below : after.store.frames <:+ frames) :
    ∀ due ∈ after.account.due, due ∈ frames.filterMap Frame.due? := by
  intro due dueMem
  rcases List.mem_filterMap.mp dueMem with ⟨frame, frameMem, isDue⟩
  exact List.mem_filterMap.mpr ⟨frame, below.subset frameMem, isDue⟩

theorem due_of_floor {due : Due α}
    (dueMem : due ∈ (chronicle.floor move).filterMap Frame.due?) :
    due ∈ chronicle.account.due := by
  rcases List.mem_filterMap.mp dueMem with ⟨frame, frameMem, isDue⟩
  refine List.mem_filterMap.mpr ⟨frame, ?_, isDue⟩
  unfold floor at frameMem
  split at frameMem
  · exact List.mem_of_mem_tail frameMem
  · exact frameMem

variable [DecidableEq ω]

theorem exists_of_play_split {earlier later : List (Move α ω)} {start : Chronicle α ω}
    (played : start.play? (earlier ++ move :: later) = some after)
    (playedBefore : start.play? earlier = some before) :
    before.allows move ∧ (before.perform move).play? later = some after := by
  rcases play?_append_eq_some.mp played with ⟨between, first, rest⟩
  cases first.symm.trans playedBefore
  rcases play?_cons_eq_some.mp rest with ⟨next, moved, onward⟩
  rcases move?_eq_some.mp moved with ⟨allowed, rfl⟩
  exact ⟨allowed, onward⟩

theorem kept_of_play {moves : List (Move α ω)} (sound : before.Sound)
    (played : before.play? moves = some after) {id : Id} {result : Except Failure α}
    (resolved : before.store.result? id = some result) {attached : ℕ × Hook}
    (there : attached ∈ attachments id before.past) :
    after.store.result? id = some result ∧ attached ∈ attachments id after.past := by
  refine (keeps_of_play (fun chronicle => chronicle.Sound ∧
    chronicle.store.result? id = some result ∧ attached ∈ attachments id chronicle.past)
      ?_ ⟨sound, resolved, there⟩ played).2
  rintro chronicle move ⟨sound, resolved, there⟩ allowed
  have turns := turns_perform sound.wellFormed allowed
  exact ⟨sound_perform sound allowed, turns.results_eq sound.served resolved, turns.attached there⟩

/-- After an attempt that succeeds, what was attached before is run in order. -/
theorem follows_of_play {moves : List (Move α ω)} (sound : before.Sound)
    (allowed : before.allows move) {agent : Agent} {id : Id} {result : Except Failure α}
    (succeeds : .attempted agent id result true ∈ before.happenings move)
    (played : (before.perform move).play? moves = some after) :
    before.store.result? id = none ∧
      after.account.Follows id result (attachments id before.past) := by
  have turns := turns_perform sound.wellFormed allowed
  have first : (before.perform move).account.attempts id =
      before.account.attempts id ++ [(result, true)] := by
    refine (attempts_append id before.past _).trans ?_
    rw [happenings_of_attempted succeeds]
    simp [attempts, account]
  rcases turns.follows sound.served first with ⟨pending, follows⟩
  refine ⟨pending, ?_⟩
  refine (keeps_of_play (fun chronicle => chronicle.Sound ∧
    chronicle.account.Follows id result (attachments id before.past))
      ?_ ⟨sound_perform sound allowed, follows⟩ played).2
  rintro chronicle move ⟨sound, follows⟩ allowed
  exact ⟨sound_perform sound allowed,
    follows.turn sound.served (turns_perform sound.wellFormed allowed)⟩

end Chronicle

/-- That a promise is resolved once, in a history that leads to a chronicle. A call has returned when
what is to be done is back at what was to be done before it. -/
structure ResolvesOnce [DecidableEq ω] (moves : List (Move α ω)) (chronicle : Chronicle α ω) :
    Prop where
  /-- Nobody has tried to resolve a pending promise. -/
  pending : ∀ id, chronicle.store.result? id = none →
    origin id chronicle.past = none ∧ attempts id chronicle.past = []
  /-- The first attempt to resolve a promise succeeds and stores the result, and no other attempt
  does. A promise that was made with a result keeps it. -/
  resolved : ∀ id result, chronicle.store.result? id = some result →
    origin id chronicle.past = none ∧ FirstWins result (attempts id chronicle.past) ∨
      origin id chronicle.past = some result ∧
        ∀ attempt ∈ attempts id chronicle.past, attempt.2 = false
  /-- An attempt that fails changes nothing. -/
  late : ∀ earlier move later before, moves = earlier ++ move :: later →
    Chronicle.opening.play? earlier = some before →
      ∀ agent id result, .attempted agent id result false ∈ before.happenings move →
        before.act move = { before.store with frames := before.floor move }
  /-- Code that is attached to a pending promise has not run. -/
  unseen : ∀ id code hook, (code, hook) ∈ attachments id chronicle.past →
    chronicle.store.result? id = none → entries code chronicle.store.story = []
  /-- Code that is attached to a resolved promise is still to be run, or has seen the result, once or
  not at all as it is attached for it or not. -/
  seen : ∀ id code hook result, (code, hook) ∈ attachments id chronicle.past →
    chronicle.store.result? id = some result →
      (code, hook, result) ∈ chronicle.store.due ∧ entries code chronicle.store.story = [] ∨
        code ∉ chronicle.store.due.map Prod.fst ∧
          entries code chronicle.store.story = hook.sees result
  /-- What was attached while the promise was pending runs in the order of attachment, and has run
  when the attempt that resolves the promise returns. -/
  in_order : ∀ earlier move later before, moves = earlier ++ move :: later →
    Chronicle.opening.play? earlier = some before →
      ∀ agent id result, .attempted agent id result true ∈ before.happenings move →
        about (attachments id before.past) chronicle.store.story <+:
            views (attachments id before.past) result ∧
          (chronicle.store.frames <:+ before.floor move →
            about (attachments id before.past) chronicle.store.story =
              views (attachments id before.past) result)
  /-- What is attached to a resolved promise has run when the call returns that attaches it. -/
  at_once : ∀ earlier move later before, moves = earlier ++ move :: later →
    Chronicle.opening.play? earlier = some before →
      ∀ hook id result, .attached before.moves hook id ∈ before.happenings move →
        before.store.result? id = some result → chronicle.store.frames <:+ before.store.frames →
          entries before.moves chronicle.store.story = hook.sees result
  /-- Nothing is to be run when all calls have returned. -/
  rest : chronicle.store.frames = [] → chronicle.store.due = []
  /-- A call returns, or enters code, after finitely many steps. -/
  returns : ∃ steps, (Store.step^[steps] chronicle.store).awaitsCaller

/-- In every history, every promise is resolved once. -/
theorem resolvesOnce_of_play [DecidableEq ω] {moves : List (Move α ω)} {chronicle : Chronicle α ω}
    (played : Chronicle.opening.play? moves = some chronicle) : ResolvesOnce moves chronicle := by
  have sound := Chronicle.sound_of_play Chronicle.sound_opening played
  refine ⟨sound.tallied.pending, ?_, ?_, sound.served.waiting, ?_, ?_, ?_, ?_,
    Store.exists_awaitsCaller _⟩
  · intro id result resolved
    exact (sound.tallied.resolved id result resolved).symm
  · intro earlier move later before _ _ agent id result lost
    exact Chronicle.act_of_lost lost
  · intro id code hook result attached resolved
    by_cases due : code ∈ chronicle.store.due.map Prod.fst
    · refine .inl ⟨?_, sound.served.owed code due⟩
      rcases List.mem_map.mp due with ⟨⟨code, another, stored⟩, dueMem, rfl⟩
      rcases sound.served.due_attached code another stored dueMem with ⟨other, there, held⟩
      cases sound.served.attached_once id other code hook another attached there
      cases sound.served.eq_of_attached attached there
      cases resolved.symm.trans held
      exact dueMem
    · exact .inr ⟨due, sound.served.told id code hook result attached resolved due⟩
  · rintro earlier move later before rfl playedBefore agent id result succeeds
    rcases Chronicle.exists_of_play_split played playedBefore with ⟨allowed, onward⟩
    have soundBefore := Chronicle.sound_of_play Chronicle.sound_opening playedBefore
    rcases Chronicle.follows_of_play soundBefore allowed succeeds onward with ⟨pending, follows⟩
    refine ⟨⟨_, follows.ordered⟩, ?_⟩
    -- When the attempt has returned, only what was due before it still is.
    intro returned
    have idle : about (attachments id before.past) chronicle.account.due = [] := by
      apply about_eq_nil
      intro due dueMem isWatched
      rcases List.mem_map.mp isWatched with ⟨⟨code, hook⟩, attached, same⟩
      have same : code = due.1 := same
      have dueBefore := Chronicle.due_of_floor (Chronicle.due_subset returned due dueMem)
      exact soundBefore.served.not_due_of_pending attached pending
        (same ▸ List.mem_map_of_mem (f := Prod.fst) dueBefore)
    have ordered := follows.ordered
    rw [idle, List.flatMap_nil, List.append_nil] at ordered
    exact ordered
  · rintro earlier move later before rfl playedBefore hook id result attached resolved returned
    rcases Chronicle.exists_of_play_split played playedBefore with ⟨allowed, onward⟩
    have soundBefore := Chronicle.sound_of_play Chronicle.sound_opening playedBefore
    have attachedNext : (before.moves, hook) ∈ attachments id (before.perform move).past := by
      rw [Chronicle.perform, Chronicle.attachments_append]
      exact List.mem_append_right _ (List.mem_filterMap.mpr ⟨_, attached, by simp⟩)
    have resolvedNext : (before.perform move).store.result? id = some result :=
      (Chronicle.turns_perform soundBefore.wellFormed allowed).results_eq soundBefore.served resolved
    rcases Chronicle.kept_of_play (Chronicle.sound_perform soundBefore allowed) onward resolvedNext
      attachedNext with ⟨resolvedLast, attachedLast⟩
    refine sound.served.told id before.moves hook result attachedLast resolvedLast ?_
    -- What was to be done before the call has no such code: it was attached only then.
    intro due
    rcases List.mem_map.mp due with ⟨item, itemMem, same⟩
    have dueBefore : item ∈ before.account.due := Chronicle.due_subset returned item itemMem
    have older := soundBefore.served.due_lt (List.mem_map_of_mem (f := Prod.fst) dueBefore)
    exact older.ne same
  · intro empty
    rw [Store.due, empty]
    rfl

/-- Code that sees the result attaches more code and tries to resolve the promise again. -/
theorem resolvesOnce_reentrant :
    ∃ (moves : List (Move ℕ Unit)) (chronicle : Chronicle ℕ Unit),
      Chronicle.opening.play? moves = some chronicle ∧ ResolvesOnce moves chronicle ∧
        chronicle.store.frames = [] ∧
        attempts 0 chronicle.past = [(.ok 5, true), (.error .closed, false)] ∧
        chronicle.store.story = [(1, .ok 5), (6, .ok 5), (3, .ok 5)] := by
  let moves : List (Move ℕ Unit) :=
    [.new, .attach .result 0, .attach .failure 0, .map 0 (· + 1), .resolve 0 (.ok 5), .step,
      .attach .success 0, .step, .finish, .resolve 0 (.error .closed), .finish, .step, .step,
      .finish, .step]
  have plays : (Chronicle.opening.play? moves).any fun chronicle =>
      chronicle.store.frames.isEmpty ∧
        attempts 0 chronicle.past = [(.ok 5, true), (.error .closed, false)] ∧
        chronicle.store.story = [(1, .ok 5), (6, .ok 5), (3, .ok 5)] := by
    decide +kernel
  rcases (Option.any_eq_true _ _).mp plays with ⟨chronicle, played, seen⟩
  have seen := of_decide_eq_true seen
  exact ⟨moves, chronicle, played, resolvesOnce_of_play played, List.isEmpty_iff.mp seen.1, seen.2⟩

end CompletionEngine.Promise
