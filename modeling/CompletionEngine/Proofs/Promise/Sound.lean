import CompletionEngine.Proofs.Promise.Account

/-!
# What every account keeps

A promise that holds a result has it from its making, or from the first attempt to resolve it, and
every other attempt has come too late. The code that waits for a pending promise is what has been
attached to it, and none of it has run. Code that is attached to a resolved promise is due and has not
run, or is not due any more and has seen the result just as often as it is to.
-/

namespace CompletionEngine.Promise

variable {α ω : Type}

/-- The results that code has seen. -/
def entries (code : ℕ) (story : List (ℕ × Except Failure α)) : List (Except Failure α) :=
  story.filterMap fun (entered, result) => if entered = code then some result else none

theorem entries_append (code : ℕ) (story new : List (ℕ × Except Failure α)) :
    entries code (story ++ new) = entries code story ++ entries code new :=
  List.filterMap_append

theorem entries_map (code other : ℕ) (results : List (Except Failure α)) :
    entries code (results.map fun result => (other, result)) =
      if other = code then results else [] := by
  rw [entries, List.filterMap_map]
  by_cases same : other = code <;> simp [same]

/-- Whether only the first of some attempts has resolved a promise, and with a given result. -/
def FirstWins (result : Except Failure α) (attempts : List (Except Failure α × Bool)) : Prop :=
  ∃ later, attempts = (result, true) :: later ∧ ∀ attempt ∈ later, attempt.2 = false

theorem forall_append_lost {other : Except Failure α} {attempts : List (Except Failure α × Bool)}
    (lost : ∀ attempt ∈ attempts, attempt.2 = false) :
    ∀ attempt ∈ attempts ++ [(other, false)], attempt.2 = false := by
  intro attempt attemptMem
  rcases List.mem_append.mp attemptMem with old | new
  · exact lost attempt old
  · rw [List.mem_singleton.mp new]

theorem FirstWins.append {result other : Except Failure α}
    {attempts : List (Except Failure α × Bool)} (first : FirstWins result attempts) :
    FirstWins result (attempts ++ [(other, false)]) := by
  rcases first with ⟨later, rfl, lost⟩
  exact ⟨later ++ [(other, false)], rfl, forall_append_lost lost⟩

namespace Account

open Function (update update_apply update_self)

variable {before after : Account α}

section Tallied

/-- Whether results and attempts of an account agree. -/
structure Tallied (account : Account α) : Prop where
  outside : ∀ id, account.size ≤ id → account.results id = none
  pending : ∀ id, account.results id = none →
    account.origins id = none ∧ account.attempts id = []
  resolved : ∀ id result, account.results id = some result →
    account.origins id = some result ∧ (∀ attempt ∈ account.attempts id, attempt.2 = false) ∨
      account.origins id = none ∧ FirstWins result (account.attempts id)

namespace Tallied

theorem of_same (tallied : before.Tallied) (size_le : before.size ≤ after.size)
    (results_eq : after.results = before.results) (origins_eq : after.origins = before.origins)
    (attempts_eq : after.attempts = before.attempts) : after.Tallied where
  outside := fun id there => by
    rw [results_eq]
    exact tallied.outside id (size_le.trans there)
  pending := by
    rw [results_eq, origins_eq, attempts_eq]
    exact tallied.pending
  resolved := by
    rw [results_eq, origins_eq, attempts_eq]
    exact tallied.resolved

theorem turn (tallied : before.Tallied) (turns : before.Turns after) : after.Tallied := by
  cases turns with
  | rests size grows => exact tallied.of_same grows rfl rfl rfl
  | waits inside pending hook size grows => exact tallied.of_same grows rfl rfl rfl
  | falls resolved hook size grows => exact tallied.of_same grows rfl rfl rfl
  | runs first => exact tallied.of_same le_rfl rfl rfl rfl
  | born result =>
      have nothing := tallied.pending before.size (tallied.outside _ le_rfl)
      refine ⟨?_, ?_, ?_⟩
      · intro id there
        have older : before.size ≤ id := Nat.le_of_succ_le there
        have other : id ≠ before.size := (Nat.lt_of_succ_le there).ne'
        simpa [update_apply, other] using tallied.outside id older
      · intro id pending
        have other : id ≠ before.size := by
          rintro rfl
          simp at pending
        simp only [update_apply, other, if_false, Option.or_none] at pending ⊢
        exact tallied.pending id pending
      · intro id stored resolved
        by_cases new : id = before.size
        · subst new
          simp only [update_self, Option.some.injEq] at resolved
          refine .inl ⟨?_, by simp [nothing.2]⟩
          simp [nothing.1, resolved]
        · simp only [update_apply, new, if_false, Option.or_none] at resolved ⊢
          exact tallied.resolved id stored resolved
  | @wins id inside pending result =>
      have nothing := tallied.pending id pending
      refine ⟨?_, ?_, ?_⟩
      · intro other there
        have differs : other ≠ id := (inside.trans_le there).ne'
        simpa [update_apply, differs] using tallied.outside other there
      · intro other none
        have differs : other ≠ id := by
          rintro rfl
          simp at none
        simp only [update_apply, differs, if_false] at none ⊢
        exact tallied.pending other none
      · intro other stored resolved
        by_cases same : other = id
        · subst same
          simp only [update_self, Option.some.injEq] at resolved ⊢
          subst resolved
          exact .inr ⟨nothing.1, [], by simp [nothing.2], by simp⟩
        · simp only [update_apply, same, if_false] at resolved ⊢
          exact tallied.resolved other stored resolved
  | @loses id stored resolved result =>
      refine ⟨tallied.outside, ?_, ?_⟩
      · intro other none
        have differs : other ≠ id := by
          rintro rfl
          rw [resolved] at none
          cases none
        simp only [update_apply, differs, if_false]
        exact tallied.pending other none
      · intro other held there
        by_cases same : other = id
        · subst same
          simp only [update_self]
          rcases tallied.resolved other held there with ⟨made, lost⟩ | ⟨made, first⟩
          · exact .inl ⟨made, forall_append_lost lost⟩
          · exact .inr ⟨made, first.append⟩
        · simp only [update_apply, same, if_false]
          exact tallied.resolved other held there

end Tallied

end Tallied

section Served

/-- Whether attached code waits, is due, or has seen its result. -/
structure Served (account : Account α) : Prop where
  outside : ∀ id, account.size ≤ id → account.results id = none ∧ account.attachments id = []
  hooks_eq : ∀ id, account.hooks id = if account.results id = none then account.attachments id else []
  attached_lt : ∀ id, ∀ attached ∈ account.attachments id, attached.1 < account.next
  /-- Code is attached once. -/
  attached_once : ∀ id other code hook another, (code, hook) ∈ account.attachments id →
    (code, another) ∈ account.attachments other → other = id
  attached_nodup : ∀ id, ((account.attachments id).map Prod.fst).Nodup
  due_nodup : (account.due.map Prod.fst).Nodup
  due_attached : ∀ code hook result, (code, hook, result) ∈ account.due →
    ∃ id, (code, hook) ∈ account.attachments id ∧ account.results id = some result
  fresh : ∀ code, account.next ≤ code → entries code account.story = []
  waiting : ∀ id code hook, (code, hook) ∈ account.attachments id → account.results id = none →
    entries code account.story = []
  owed : ∀ code ∈ account.due.map Prod.fst, entries code account.story = []
  told : ∀ id code hook result, (code, hook) ∈ account.attachments id →
    account.results id = some result → code ∉ account.due.map Prod.fst →
      entries code account.story = hook.sees result

namespace Served

theorem lt_of_attached (served : before.Served) {id code : ℕ} {hook : Hook}
    (attached : (code, hook) ∈ before.attachments id) : id < before.size := by
  by_contra outside
  rw [(served.outside id (Nat.le_of_not_lt outside)).2] at attached
  cases attached

theorem eq_of_attached (served : before.Served) {id code : ℕ} {hook another : Hook}
    (attached : (code, hook) ∈ before.attachments id)
    (again : (code, another) ∈ before.attachments id) : hook = another :=
  congrArg Prod.snd
    (List.inj_on_of_nodup_map (served.attached_nodup id) attached again rfl)

theorem due_lt (served : before.Served) {code : ℕ} (due : code ∈ before.due.map Prod.fst) :
    code < before.next := by
  rcases List.mem_map.mp due with ⟨⟨code, hook, result⟩, dueMem, rfl⟩
  rcases served.due_attached code hook result dueMem with ⟨id, attached, -⟩
  exact served.attached_lt id _ attached

theorem not_due_of_pending (served : before.Served) {id code : ℕ} {hook : Hook}
    (attached : (code, hook) ∈ before.attachments id) (pending : before.results id = none) :
    code ∉ before.due.map Prod.fst := by
  intro due
  rcases List.mem_map.mp due with ⟨⟨code, other, result⟩, dueMem, rfl⟩
  rcases served.due_attached code other result dueMem with ⟨another, there, resolved⟩
  rcases served.attached_once id another code hook other attached there with rfl
  rw [pending] at resolved
  cases resolved

theorem of_same (served : before.Served) (size_le : before.size ≤ after.size)
    (next_le : before.next ≤ after.next)
    (results_eq : ∀ id < before.size, after.results id = before.results id)
    (outside : ∀ id, after.size ≤ id → after.results id = none)
    (hooks_eq : after.hooks = before.hooks) (attachments_eq : after.attachments = before.attachments)
    (due_eq : after.due = before.due) (story_eq : after.story = before.story) : after.Served where
  outside := by
    intro id there
    rw [attachments_eq]
    exact ⟨outside id there, (served.outside id (size_le.trans there)).2⟩
  hooks_eq := by
    intro id
    rw [hooks_eq, attachments_eq, served.hooks_eq id]
    by_cases inside : id < before.size
    · rw [results_eq id inside]
    · simp [(served.outside id (Nat.le_of_not_lt inside)).2]
  attached_lt := by
    rw [attachments_eq]
    exact fun id attached there => (served.attached_lt id attached there).trans_le next_le
  attached_once := by
    rw [attachments_eq]
    exact served.attached_once
  attached_nodup := by
    rw [attachments_eq]
    exact served.attached_nodup
  due_nodup := by
    rw [due_eq]
    exact served.due_nodup
  due_attached := by
    intro code hook result due
    rw [due_eq] at due
    rcases served.due_attached code hook result due with ⟨id, attached, resolved⟩
    rw [attachments_eq]
    exact ⟨id, attached, (results_eq id (served.lt_of_attached attached)).trans resolved⟩
  fresh := by
    rw [story_eq]
    exact fun code later => served.fresh code (next_le.trans later)
  waiting := by
    intro id code hook attached pending
    rw [attachments_eq] at attached
    rw [results_eq id (served.lt_of_attached attached)] at pending
    rw [story_eq]
    exact served.waiting id code hook attached pending
  owed := by
    rw [due_eq, story_eq]
    exact served.owed
  told := by
    intro id code hook result attached resolved
    rw [attachments_eq] at attached
    rw [results_eq id (served.lt_of_attached attached)] at resolved
    rw [due_eq, story_eq]
    exact served.told id code hook result attached resolved

/-- When a promise is resolved, the code that waits for it becomes due. -/
theorem wins (served : before.Served) {id : Id} (inside : id < before.size)
    (pending : before.results id = none) (result : Except Failure α)
    (attempts : Id → List (Except Failure α × Bool)) :
    ({ before with
        next := before.next + 1
        results := update before.results id (some result)
        hooks := update before.hooks id []
        due := (before.hooks id).map (fun (code, hook) => (code, hook, result)) ++ before.due
        attempts := attempts } : Account α).Served := by
  have waited : before.hooks id = before.attachments id := by
    rw [served.hooks_eq, if_pos pending]
  have codes : ((before.hooks id).map (fun (code, hook) => (code, hook, result))).map Prod.fst =
      (before.attachments id).map Prod.fst := by
    rw [waited, List.map_map]
    rfl
  constructor
  · intro other there
    have differs : other ≠ id := (inside.trans_le there).ne'
    simpa [update_apply, differs] using served.outside other there
  · intro other
    by_cases same : other = id
    · simp [same]
    · simpa [update_apply, same] using served.hooks_eq other
  · exact fun other attached there => Nat.lt_succ_of_lt (served.attached_lt other attached there)
  · exact served.attached_once
  · exact served.attached_nodup
  · simp only [List.map_append, codes]
    refine List.nodup_append.mpr ⟨served.attached_nodup id, served.due_nodup, ?_⟩
    rintro code attached other due rfl
    rcases List.mem_map.mp attached with ⟨⟨code, hook⟩, there, rfl⟩
    exact served.not_due_of_pending there pending due
  · intro code hook stored due
    rcases List.mem_append.mp due with new | old
    · rcases List.mem_map.mp new with ⟨⟨attached, admitted⟩, there, same⟩
      cases same
      rw [waited] at there
      exact ⟨id, there, by simp⟩
    · rcases served.due_attached code hook stored old with ⟨other, attached, resolved⟩
      have differs : other ≠ id := by
        rintro rfl
        rw [pending] at resolved
        cases resolved
      exact ⟨other, attached, by simpa [update_apply, differs] using resolved⟩
  · exact fun code later => served.fresh code (Nat.le_of_succ_le later)
  · intro other code hook attached none
    have differs : other ≠ id := by
      rintro rfl
      simp at none
    simp only [update_apply, differs, if_false] at none
    exact served.waiting other code hook attached none
  · intro code due
    simp only [List.map_append, codes] at due
    rcases List.mem_append.mp due with new | old
    · rcases List.mem_map.mp new with ⟨⟨code, hook⟩, attached, rfl⟩
      exact served.waiting id code hook attached pending
    · exact served.owed code old
  · intro other code hook stored attached resolved idle
    simp only [List.map_append, codes, List.mem_append, not_or] at idle
    have differs : other ≠ id := by
      rintro rfl
      exact idle.1 (List.mem_map_of_mem (f := Prod.fst) attached)
    simp only [update_apply, differs, if_false] at resolved
    exact served.told other code hook stored attached resolved idle.2

/-- The code that is attached to each promise when some more is attached to one. -/
abbrev attach (account : Account α) (id : Id) (hook : Hook) : Id → List (ℕ × Hook) :=
  update account.attachments id (account.attachments id ++ [(account.next, hook)])

theorem mem_attach {id other : Id} {hook another : Hook} {code : ℕ} :
    (code, another) ∈ attach before id hook other ↔
      (code, another) ∈ before.attachments other ∨
        other = id ∧ code = before.next ∧ another = hook := by
  by_cases same : other = id
  · subst same
    simp
  · simp [same]

theorem old_of_mem_attach {id other : Id} {hook another : Hook} {code : ℕ}
    (attached : (code, another) ∈ attach before id hook other) (old : code ≠ before.next) :
    (code, another) ∈ before.attachments other := by
  rcases mem_attach.mp attached with there | ⟨-, new, -⟩
  · exact there
  · exact absurd new old

theorem attach_once (served : before.Served) (id : Id) (hook : Hook) (one other : Id) (code : ℕ)
    (first second : Hook) (here : (code, first) ∈ attach before id hook one)
    (there : (code, second) ∈ attach before id hook other) : other = one := by
  rcases mem_attach.mp here with old | ⟨same, rfl, rfl⟩
  · rcases mem_attach.mp there with older | ⟨-, rfl, -⟩
    · exact served.attached_once one other code first second old older
    · exact absurd (served.attached_lt one _ old) (lt_irrefl _)
  · rcases mem_attach.mp there with old | ⟨again, -, -⟩
    · exact absurd (served.attached_lt other _ old) (lt_irrefl _)
    · exact again.trans same.symm

theorem attach_nodup (served : before.Served) (id : Id) (hook : Hook) (other : Id) :
    ((attach before id hook other).map Prod.fst).Nodup := by
  by_cases same : other = id
  · subst same
    rw [attach, update_self, List.map_append]
    refine List.nodup_append.mpr ⟨served.attached_nodup other, by simp, ?_⟩
    rintro code attached next new rfl
    rcases List.mem_map.mp attached with ⟨⟨code, old⟩, there, rfl⟩
    have below := served.attached_lt other _ there
    simp only [List.map_cons, List.map_nil, List.mem_singleton] at new
    exact below.ne new
  · simpa [attach, update_apply, same] using served.attached_nodup other

theorem attach_lt (served : before.Served) (id : Id) (hook : Hook) (other : Id) :
    ∀ attached ∈ attach before id hook other, attached.1 < before.next + 1 := by
  rintro ⟨code, another⟩ attached
  rcases mem_attach.mp attached with old | ⟨-, rfl, -⟩
  · exact Nat.lt_succ_of_lt (served.attached_lt other _ old)
  · exact Nat.lt_succ_self _

theorem attach_outside (served : before.Served) {id : Id} (inside : id < before.size) (hook : Hook)
    {size : ℕ} (grows : before.size ≤ size) (other : Id) (there : size ≤ other) :
    before.results other = none ∧ attach before id hook other = [] := by
  have older := grows.trans there
  have differs : other ≠ id := (inside.trans_le older).ne'
  simpa [attach, update_apply, differs] using served.outside other older

theorem waits (served : before.Served) {id : Id} (inside : id < before.size)
    (pending : before.results id = none) (hook : Hook) {size : ℕ} (grows : before.size ≤ size) :
    ({ before with
        size := size
        next := before.next + 1
        hooks := update before.hooks id (before.hooks id ++ [(before.next, hook)])
        attachments := attach before id hook } : Account α).Served where
  outside := served.attach_outside inside hook grows
  hooks_eq := by
    intro other
    by_cases same : other = id
    · subst same
      simp [served.hooks_eq other, pending]
    · simpa [same] using served.hooks_eq other
  attached_lt := served.attach_lt id hook
  attached_once := served.attach_once id hook
  attached_nodup := served.attach_nodup id hook
  due_nodup := served.due_nodup
  due_attached := by
    intro code attached result due
    rcases served.due_attached code attached result due with ⟨other, there, resolved⟩
    exact ⟨other, mem_attach.mpr (.inl there), resolved⟩
  fresh := fun code later => served.fresh code (Nat.le_of_succ_le later)
  waiting := by
    intro other code another attached none
    rcases mem_attach.mp attached with old | ⟨-, rfl, -⟩
    · exact served.waiting other code another old none
    · exact served.fresh _ le_rfl
  owed := served.owed
  told := by
    intro other code another result attached resolved
    rcases mem_attach.mp attached with old | ⟨rfl, -, -⟩
    · exact served.told other code another result old resolved
    · rw [pending] at resolved
      cases resolved

theorem falls (served : before.Served) {id : Id} {result : Except Failure α}
    (resolved : before.results id = some result) (hook : Hook) {size : ℕ}
    (grows : before.size ≤ size) :
    ({ before with
        size := size
        next := before.next + 1
        due := (before.next, hook, result) :: before.due
        attachments := attach before id hook } : Account α).Served where
  outside := by
    refine served.attach_outside ?_ hook grows
    by_contra outside
    rw [(served.outside id (Nat.le_of_not_lt outside)).1] at resolved
    cases resolved
  hooks_eq := by
    intro other
    by_cases same : other = id
    · subst same
      simp [served.hooks_eq other, resolved]
    · simpa [same] using served.hooks_eq other
  attached_lt := served.attach_lt id hook
  attached_once := served.attach_once id hook
  attached_nodup := served.attach_nodup id hook
  due_nodup :=
    List.nodup_cons.mpr ⟨fun due => (served.due_lt due).false, served.due_nodup⟩
  due_attached := by
    intro code attached stored due
    rcases List.mem_cons.mp due with new | old
    · cases new
      exact ⟨id, mem_attach.mpr (.inr ⟨rfl, rfl, rfl⟩), resolved⟩
    · rcases served.due_attached code attached stored old with ⟨other, there, held⟩
      exact ⟨other, mem_attach.mpr (.inl there), held⟩
  fresh := fun code later => served.fresh code (Nat.le_of_succ_le later)
  waiting := by
    intro other code another attached none
    rcases mem_attach.mp attached with old | ⟨rfl, -, -⟩
    · exact served.waiting other code another old none
    · rw [resolved] at none
      cases none
  owed := by
    intro code due
    rcases List.mem_cons.mp due with rfl | old
    · exact served.fresh _ le_rfl
    · exact served.owed code old
  told := by
    intro other code another stored attached held idle
    rw [List.map_cons, List.mem_cons, not_or] at idle
    exact served.told other code another stored (old_of_mem_attach attached idle.1) held idle.2

theorem runs (served : before.Served) {code : ℕ} {hook : Hook} {result : Except Failure α}
    {rest : List (Due α)} (first : before.due = (code, hook, result) :: rest) :
    ({ before with
        next := before.next + 1
        due := rest
        story := before.story ++ (hook.sees result).map fun seen => (code, seen) } :
      Account α).Served := by
  have nodup := served.due_nodup
  rw [first, List.map_cons, List.nodup_cons] at nodup
  have ours : (code, hook, result) ∈ before.due := by simp [first]
  have untold := served.owed code (by simp [first])
  rcases served.due_attached code hook result ours with ⟨id, attached, resolved⟩
  have seen : ∀ other, entries other
      (before.story ++ (hook.sees result).map fun seen => (code, seen)) =
        if other = code then hook.sees result else entries other before.story := by
    intro other
    rw [entries_append, entries_map]
    by_cases same : other = code
    · simp [same, untold]
    · simp [same, Ne.symm same]
  have unseen : ∀ other ≠ code, entries other
      (before.story ++ (hook.sees result).map fun seen => (code, seen)) =
        entries other before.story := fun other differs => by rw [seen, if_neg differs]
  constructor
  · exact served.outside
  · exact served.hooks_eq
  · exact fun id attached there => Nat.lt_succ_of_lt (served.attached_lt id attached there)
  · exact served.attached_once
  · exact served.attached_nodup
  · exact nodup.2
  · intro other another stored due
    exact served.due_attached other another stored (by rw [first]; exact List.mem_cons_of_mem _ due)
  · intro other later
    have below := served.attached_lt id _ attached
    rw [unseen other (below.trans_le (Nat.le_of_succ_le later)).ne']
    exact served.fresh other (Nat.le_of_succ_le later)
  · intro other another there attached pending
    have differs : another ≠ code := by
      rintro rfl
      exact served.not_due_of_pending attached pending (by simp [first])
    rw [unseen another differs]
    exact served.waiting other another there attached pending
  · intro other due
    have differs : other ≠ code := by
      rintro rfl
      exact nodup.1 due
    rw [unseen other differs]
    exact served.owed other (by rw [first]; exact List.mem_cons_of_mem _ due)
  · intro other another kind stored there held idle
    rw [seen]
    split
    · rename_i same
      subst same
      cases served.attached_once id other another hook kind attached there
      cases served.eq_of_attached attached there
      cases resolved.symm.trans held
      rfl
    · rename_i differs
      refine served.told other another kind stored there held ?_
      rw [first, List.map_cons, List.mem_cons, not_or]
      exact ⟨differs, idle⟩

theorem turn (served : before.Served) (turns : before.Turns after) : after.Served := by
  cases turns with
  | rests size grows =>
      exact served.of_same grows (Nat.le_succ _) (fun _ _ => rfl)
        (fun id there => (served.outside id (grows.trans there)).1) rfl rfl rfl rfl
  | born result =>
      refine served.of_same (Nat.le_succ _) (Nat.le_succ _) ?_ ?_ rfl rfl rfl rfl
      · intro id inside
        simp [inside.ne]
      · intro id there
        have differs : id ≠ before.size := (Nat.lt_of_succ_le there).ne'
        simpa [update_apply, differs] using (served.outside id (Nat.le_of_succ_le there)).1
  | wins inside pending result => exact served.wins inside pending result _
  | loses resolved result =>
      exact served.of_same le_rfl (Nat.le_succ _) (fun _ _ => rfl)
        (fun id there => (served.outside id there).1) rfl rfl rfl rfl
  | waits inside pending hook size grows => exact served.waits inside pending hook grows
  | falls resolved hook size grows => exact served.falls resolved hook grows
  | runs first => exact served.runs first

end Served

end Served

theorem Turns.results_eq (turns : before.Turns after) (served : before.Served) {id : Id}
    {result : Except Failure α} (resolved : before.results id = some result) :
    after.results id = some result := by
  have inside : id < before.size := by
    by_contra outside
    rw [(served.outside id (Nat.le_of_not_lt outside)).1] at resolved
    cases resolved
  cases turns with
  | born _ => simpa [Function.update_apply, inside.ne] using resolved
  | @wins other _ pending _ =>
      have differs : id ≠ other := by
        rintro rfl
        rw [resolved] at pending
        cases pending
      simpa [Function.update_apply, differs] using resolved
  | _ => exact resolved

theorem Turns.attached (turns : before.Turns after) {id : Id} {attached : ℕ × Hook}
    (there : attached ∈ before.attachments id) : attached ∈ after.attachments id := by
  cases turns with
  | waits _ _ hook _ _ | falls _ hook _ _ => exact Served.mem_attach.mpr (.inl there)
  | _ => exact there

end Account

namespace Chronicle

theorem tallied_opening : (opening : Chronicle α ω).account.Tallied where
  outside := fun id _ => by simp [account, opening, Store.empty, Store.result?]
  pending := fun id _ => ⟨rfl, rfl⟩
  resolved := by simp [account, opening, Store.empty, Store.result?]

theorem served_opening : (opening : Chronicle α ω).account.Served where
  outside := fun id _ => ⟨by simp [account, opening, Store.empty, Store.result?], rfl⟩
  hooks_eq := by simp [account, opening, Store.empty, Store.hooks, Store.waiting, attachments]
  attached_lt := by simp [account, opening, attachments]
  attached_once := by simp [account, opening, attachments]
  attached_nodup := by simp [account, opening, attachments]
  due_nodup := by simp [account, opening, Store.empty, Store.due]
  due_attached := by simp [account, opening, Store.empty, Store.due]
  fresh := by simp [account, opening, Store.empty, Store.story, entries]
  waiting := by simp [account, opening, attachments]
  owed := by simp [account, opening, Store.empty, Store.due]
  told := by simp [account, opening, attachments]

variable [DecidableEq ω]

/-- What holds of a chronicle after every history. -/
structure Sound (chronicle : Chronicle α ω) : Prop where
  wellFormed : chronicle.WellFormed
  tallied : chronicle.account.Tallied
  served : chronicle.account.Served

omit [DecidableEq ω] in
theorem sound_opening : (opening : Chronicle α ω).Sound :=
  ⟨wellFormed_opening, tallied_opening, served_opening⟩

theorem sound_perform {before : Chronicle α ω} {move : Move α ω} (sound : before.Sound)
    (allowed : before.allows move) : (before.perform move).Sound where
  wellFormed := wellFormed_perform sound.wellFormed allowed
  tallied := sound.tallied.turn (turns_perform sound.wellFormed allowed)
  served := sound.served.turn (turns_perform sound.wellFormed allowed)

theorem sound_of_play {moves : List (Move α ω)} {start after : Chronicle α ω} (sound : start.Sound)
    (played : start.play? moves = some after) : after.Sound :=
  keeps_of_play Sound (fun _ _ sound allowed => sound_perform sound allowed) sound played

end Chronicle

end CompletionEngine.Promise
