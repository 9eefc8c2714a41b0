import CompletionEngine.Proofs.Engine.Discipline
import CompletionEngine.Proofs.Engine.Journal

/-!
# Sound engines

Between two steps every operation in flight is somewhere: its record is staged, or the ring holds
it, or its completion or refusal is in hand. User data tell which, and no two operations share
them. An engine for which this holds, together with the books and the discipline of its frames, is
sound. A ring may do as it likes as long as it hands out no user data that it does not owe.
-/

namespace CompletionEngine

variable {κ τ : Type}

@[simp]
theorem outstanding_event (continuation : Continuation τ) (outcome : Outcome)
    (journal : List (Event τ)) :
    outstanding (continuation.event outcome :: journal) = outstanding journal := by
  cases continuation <;> rfl

namespace Frame

/-- The user data of what the frame has in hand. -/
def userData : Frame τ → Multiset UInt64
  | .dispatch batch _ _ => batch.map CompletionRecord.userData
  | .refuse records _ _ => records.map SubmitRecord.userData
  | _ => 0

/-- The slots of what was in flight when the ring was given up, and has not been failed yet. -/
def leftovers : Frame τ → Multiset SlotRef
  | .fail leftovers => leftovers.map Prod.snd
  | _ => 0

theorem userData_of_not_batch {frame : Frame τ} (notBatch : frame.isBatch = false) :
    frame.userData = 0 := by
  cases frame <;> simp_all [isBatch, userData]

theorem leftovers_of_not_fail {frame : Frame τ} (notFail : frame.isFail = false) :
    frame.leftovers = 0 := by
  cases frame <;> simp_all [isFail, leftovers]

end Frame

/-- The user data of operations that are staged, in hand or with the ring. -/
def inPlay (staged : List SubmitRecord) (frames : List (Frame τ)) (journal : List (Event τ)) :
    Multiset UInt64 :=
  ((staged.map SubmitRecord.userData : Multiset UInt64) + (frames.map Frame.userData).sum +
    outstanding journal).filter (· ≠ wakeUserData)

/-- The books agree with what is in play. -/
structure Accounts (pools : Pools (Continuation τ)) (tags : TagTable SlotRef)
    (staged : List SubmitRecord) (frames : List (Frame τ)) (journal : List (Event τ))
    (terminated : Bool) (flights : Multiset (Flight τ))
    (hand : Multiset (Grip (Continuation τ))) : Prop where
  books : Books pools tags flights hand
  ready : ∀ flight ∈ flights, flight.Ready
  pending : ∀ grip ∈ hand, grip.entry.state = .submitted ∧ grip.entry.continuation.isSome
  hand_eq : hand.map Grip.reference = (frames.map Frame.leftovers).sum
  landed : Released frames terminated → flights = 0
  inPlay_eq : ¬Released frames terminated →
    inPlay staged frames journal = flights.map fun flight => flight.tag.toUInt64

/-- An engine without fault, in order, with accounts that agree. -/
structure Engine.Sound (engine : Engine κ τ) (flights : Multiset (Flight τ))
    (hand : Multiset (Grip (Continuation τ))) : Prop where
  healthy : engine.fault = none
  disciplined : engine.Disciplined
  accounts : Accounts engine.pools engine.tags engine.staged engine.frames engine.journal
    engine.terminated flights hand

section InPlay

variable {staged : List SubmitRecord} {frames : List (Frame τ)} {journal : List (Event τ)}

theorem inPlay_cons_of_userData_eq_zero {frame : Frame τ} (nothing : frame.userData = 0) :
    inPlay staged (frame :: frames) journal = inPlay staged frames journal := by
  simp [inPlay, nothing]

theorem inPlay_congr_journal {other : List (Event τ)} (same : outstanding other = outstanding journal) :
    inPlay staged frames other = inPlay staged frames journal := by
  rw [inPlay, inPlay, same]

theorem inPlay_accepted {other : List (Event τ)}
    (accepted : outstanding other =
      (staged.map SubmitRecord.userData : Multiset UInt64) + outstanding journal) :
    inPlay [] frames other = inPlay staged frames journal := by
  simp only [inPlay, accepted, List.map_nil, Multiset.coe_nil, zero_add]
  congr 1
  abel

theorem inPlay_refused (failure : Failure) (outer : Bool) :
    inPlay [] (.refuse staged failure outer :: frames) journal = inPlay staged frames journal := by
  simp only [inPlay, List.map_nil, Multiset.coe_nil, zero_add, List.map_cons, List.sum_cons,
    Frame.userData]

theorem inPlay_drained {batch : List CompletionRecord}
    (owed : (batch.map CompletionRecord.userData : Multiset UInt64) ≤ outstanding journal)
    (delivered : ℕ) (outer : Bool) :
    inPlay staged (.dispatch batch delivered outer :: frames) (.drained batch :: journal) =
      inPlay staged frames journal := by
  simp only [inPlay, List.map_cons, List.sum_cons, Frame.userData, outstanding]
  conv_rhs => rw [← tsub_add_cancel_of_le owed]
  generalize outstanding journal - (batch.map CompletionRecord.userData : Multiset UInt64) = left
  congr 1
  abel

/-- What a batch settles for an operation leaves play. -/
theorem inPlay_settle {frame next : Frame τ} {userData : UInt64}
    (settles : frame.userData = userData ::ₘ next.userData) (operation : userData ≠ wakeUserData) :
    inPlay staged (frame :: frames) journal =
      userData ::ₘ inPlay staged (next :: frames) journal := by
  have counts : (fun userData : UInt64 => userData ≠ wakeUserData) userData := operation
  simp only [inPlay, List.map_cons, List.sum_cons, settles, Multiset.cons_add, Multiset.add_cons]
  exact Multiset.filter_cons_of_pos _ counts

/-- The wake-up was never in play. -/
theorem inPlay_settle_wake {frame next : Frame τ} {userData : UInt64}
    (settles : frame.userData = userData ::ₘ next.userData) (wake : userData = wakeUserData) :
    inPlay staged (frame :: frames) journal = inPlay staged (next :: frames) journal := by
  have counts : ¬(fun userData : UInt64 => userData ≠ wakeUserData) userData := by simpa using wake
  simp only [inPlay, List.map_cons, List.sum_cons, settles, Multiset.cons_add, Multiset.add_cons]
  exact Multiset.filter_cons_of_neg _ counts

theorem tag_ne_wakeUserData (tag : UInt32) : tag.toUInt64 ≠ wakeUserData := by
  intro same
  have bound := tag.toNat_lt
  have wide := congrArg UInt64.toNat same
  rw [UInt32.toNat_toUInt64] at wide
  have wake : wakeUserData.toNat = 18446744073709551615 := by decide
  omega

theorem inPlay_staged {admissions : List (Admission τ)}
    (proper : ∀ admission ∈ admissions, admission.Proper) :
    inPlay (staged ++ admissions.map Admission.record) frames journal =
      (admissions.map fun admission => admission.flight.tag.toUInt64 : Multiset UInt64) +
        inPlay staged frames journal := by
  have userData : (admissions.map Admission.record).map SubmitRecord.userData =
      admissions.map fun admission => admission.flight.tag.toUInt64 := by
    rw [List.map_map]
    apply List.map_congr_left
    intro admission admissionMem
    exact (proper admission admissionMem).named
  have counted : (admissions.map fun admission =>
      admission.flight.tag.toUInt64 : Multiset UInt64).filter (· ≠ wakeUserData) =
        admissions.map fun admission => admission.flight.tag.toUInt64 := by
    rw [Multiset.filter_eq_self]
    intro userData userDataMem
    rcases List.mem_map.mp (Multiset.mem_coe.mp userDataMem) with ⟨admission, -, rfl⟩
    exact tag_ne_wakeUserData _
  rw [← counted, inPlay, inPlay, ← Multiset.filter_add, List.map_append, userData,
    ← Multiset.coe_add]
  congr 1
  abel

end InPlay

namespace Accounts

variable {pools : Pools (Continuation τ)} {tags : TagTable SlotRef} {staged : List SubmitRecord}
  {frames : List (Frame τ)} {frame : Frame τ} {journal : List (Event τ)} {terminated : Bool}
  {flights : Multiset (Flight τ)} {hand : Multiset (Grip (Continuation τ))}

theorem sum_leftovers (calm : ∀ frame ∈ frames, frame.isFail = false) :
    (frames.map Frame.leftovers).sum = 0 := by
  apply List.sum_eq_zero
  intro slots slotsMem
  rcases List.mem_map.mp slotsMem with ⟨frame, frameMem, rfl⟩
  exact Frame.leftovers_of_not_fail (calm frame frameMem)

/-- Between two steps only a shutdown that fails leftovers has operations in hand. -/
theorem hand_eq_zero
    (accounts : Accounts pools tags staged frames journal terminated flights hand)
    (calm : ∀ frame ∈ frames, frame.isFail = false) : hand = 0 := by
  have slots := accounts.hand_eq
  rw [sum_leftovers calm] at slots
  exact Multiset.map_eq_zero.mp slots

theorem calm_of_not_released (notReleased : ¬Released frames terminated) :
    ∀ frame ∈ frames, frame.isFail = false := by
  intro frame frameMem
  by_contra fails
  exact notReleased (.inr (List.any_eq_true.mpr ⟨frame, frameMem, by simpa using fails⟩))

theorem transfer {otherStaged : List SubmitRecord} {otherFrames : List (Frame τ)}
    {otherJournal : List (Event τ)}
    (accounts : Accounts pools tags staged frames journal terminated flights hand)
    (released : Released otherFrames terminated ↔ Released frames terminated)
    (leftovers : (otherFrames.map Frame.leftovers).sum = (frames.map Frame.leftovers).sum)
    (same : ¬Released frames terminated →
      inPlay otherStaged otherFrames otherJournal = inPlay staged frames journal) :
    Accounts pools tags otherStaged otherFrames otherJournal terminated flights hand where
  books := accounts.books
  ready := accounts.ready
  pending := accounts.pending
  hand_eq := by rw [accounts.hand_eq, leftovers]
  landed := fun releasedNow => accounts.landed (released.mp releasedNow)
  inPlay_eq := fun notReleased => by
    have before := fun releasedBefore => notReleased (released.mpr releasedBefore)
    rw [same before, accounts.inPlay_eq before]

theorem released_cons (notFail : frame.isFail = false) :
    Released (frame :: frames) terminated ↔ Released frames terminated := by
  simp [Released, notFail]

theorem leftovers_cons (notFail : frame.isFail = false) :
    ((frame :: frames).map Frame.leftovers).sum = (frames.map Frame.leftovers).sum := by
  simp [Frame.leftovers_of_not_fail notFail]

/-- Frames that have nothing in hand do not matter to the accounts. -/
theorem cons_iff (nothing : frame.userData = 0) (notFail : frame.isFail = false) :
    Accounts pools tags staged (frame :: frames) journal terminated flights hand ↔
      Accounts pools tags staged frames journal terminated flights hand := by
  constructor
  · intro accounts
    exact accounts.transfer (released_cons notFail).symm (leftovers_cons notFail).symm
      fun _ => (inPlay_cons_of_userData_eq_zero nothing).symm
  · intro accounts
    exact accounts.transfer (released_cons notFail) (leftovers_cons notFail)
      fun _ => inPlay_cons_of_userData_eq_zero nothing

theorem enroll {otherPools : Pools (Continuation τ)} {otherTags : TagTable SlotRef}
    {admissions : List (Admission τ)}
    (accounts : Accounts pools tags staged frames journal terminated flights hand)
    (notReleased : ¬Released frames terminated)
    (books : Books otherPools otherTags (↑(admissions.map Admission.flight) + flights) hand)
    (proper : ∀ admission ∈ admissions, admission.Proper) :
    Accounts otherPools otherTags (staged ++ admissions.map Admission.record) frames journal
      terminated (↑(admissions.map Admission.flight) + flights) hand where
  books := books
  ready := by
    intro flight flightMem
    rcases Multiset.mem_add.mp flightMem with new | old
    · rcases List.mem_map.mp (Multiset.mem_coe.mp new) with ⟨admission, admissionMem, rfl⟩
      exact (proper admission admissionMem).ready
    · exact accounts.ready flight old
  pending := accounts.pending
  hand_eq := accounts.hand_eq
  landed := fun released => absurd released notReleased
  inPlay_eq := by
    intro _
    rw [inPlay_staged proper, accounts.inPlay_eq notReleased, Multiset.map_add, Multiset.map_coe,
      List.map_map]
    rfl

/-- User data in play name an operation in flight. -/
theorem exists_flight {userData : UInt64} {rest : Multiset UInt64}
    (accounts : Accounts pools tags staged frames journal terminated flights hand)
    (notReleased : ¬Released frames terminated)
    (named : inPlay staged frames journal = userData ::ₘ rest) :
    ∃ flight others, flights = flight ::ₘ others ∧ flight.tag.toUInt64 = userData ∧
      rest = others.map fun flight => flight.tag.toUInt64 := by
  have tags := accounts.inPlay_eq notReleased
  rw [named] at tags
  have userDataMem : userData ∈ flights.map fun flight => flight.tag.toUInt64 :=
    tags ▸ Multiset.mem_cons_self _ _
  rcases Multiset.mem_map.mp userDataMem with ⟨flight, flightMem, rfl⟩
  rcases Multiset.exists_cons_of_mem flightMem with ⟨others, rfl⟩
  rw [Multiset.map_cons, Multiset.cons_inj_right] at tags
  exact ⟨flight, others, rfl, rfl, tags⟩

/-- An operation that is settled leaves the books and play together. -/
theorem settle {next : Frame τ} {otherPools : Pools (Continuation τ)}
    {otherTags : TagTable SlotRef} {flight : Flight τ}
    (accounts : Accounts pools tags staged (frame :: frames) journal terminated
      (flight ::ₘ flights) hand)
    (notReleased : ¬Released (frame :: frames) terminated) (notFail : next.isFail = false)
    (settles : frame.userData = flight.tag.toUInt64 ::ₘ next.userData)
    (books : Books otherPools otherTags flights hand) :
    Accounts otherPools otherTags staged (next :: frames) journal terminated flights hand where
  books := books
  ready := fun flight flightMem => accounts.ready flight (Multiset.mem_cons_of_mem flightMem)
  pending := accounts.pending
  hand_eq := by
    have notFailBefore : frame.isFail = false := by
      by_contra fails
      exact notReleased (.inr (by simp [fails]))
    rw [accounts.hand_eq, leftovers_cons notFail, leftovers_cons notFailBefore]
  landed := fun released => by
    refine absurd ?_ notReleased
    rcases (released_cons notFail).mp released with terminated | failing
    · exact .inl terminated
    · exact .inr (by simp [failing])
  inPlay_eq := by
    intro _
    have before := accounts.inPlay_eq notReleased
    rwa [inPlay_settle settles (tag_ne_wakeUserData _), Multiset.map_cons,
      Multiset.cons_inj_right] at before

/-- Giving the ring up takes everything that is still in flight in hand. -/
theorem release
    (accounts : Accounts pools tags staged frames journal terminated flights hand)
    (other : List (Event τ)) :
    Accounts pools tags.drain.2 [] (.fail tags.bindings :: frames) other terminated 0
      (flights.map Flight.grip + hand) where
  books := accounts.books.drain
  ready := by simp
  pending := by
    intro grip gripMem
    rcases Multiset.mem_add.mp gripMem with new | old
    · rcases Multiset.mem_map.mp new with ⟨flight, flightMem, rfl⟩
      have ready := accounts.ready flight flightMem
      exact ⟨ready.state_eq, ready.awaited⟩
    · exact accounts.pending grip old
  hand_eq := by
    have slots := congrArg (Multiset.map Prod.snd) accounts.books.bindings_eq
    rw [Multiset.map_map] at slots
    rw [List.map_cons, List.sum_cons, ← accounts.hand_eq, Multiset.map_add, Multiset.map_map]
    congr 1
    exact slots.symm
  landed := fun _ => rfl
  inPlay_eq := fun notReleasedNow => absurd (.inr rfl) notReleasedNow

end Accounts

end CompletionEngine
