import CompletionEngine.Engine.Calls
import CompletionEngine.Proofs.Engine.Staging

/-!
# The order of what is to be done

The stack of frames obeys an order. A frame that delivers a batch knows whether another batch lies
below it. A shutdown runs at most once, and never above a batch, which is why it waits for the
outermost batch when it is asked for inside one. A request that waits for its staging is covered
only by the batch that its own push made, or by the shutdown that such a batch ends in. Once the
ring has been given up, nothing is staged and no batch is delivered any more.
-/

namespace CompletionEngine

variable {κ τ : Type}

namespace Frame

/-- Whether the frame delivers a batch. -/
def isBatch : Frame τ → Bool
  | .dispatch .. | .refuse .. => true
  | _ => false

/-- Whether the frame is part of a shutdown. -/
def isClosing : Frame τ → Bool
  | .emptyInbox | .drain _ | .drained _ | .lastReap | .release | .fail _ => true
  | _ => false

/-- Whether the frame fails what was in flight when the ring was given up. -/
def isFail : Frame τ → Bool
  | .fail _ => true
  | _ => false

/-- Whether the frame neither delivers a batch nor belongs to a shutdown. -/
def isPlain (frame : Frame τ) : Bool := !frame.isBatch && !frame.isClosing

/-- Whether the frame stages a request. -/
def isStage : Frame τ → Bool
  | .stage _ => true
  | _ => false

/-- Whether the frame fails what the ring refused. -/
def isRefuse : Frame τ → Bool
  | .refuse .. => true
  | _ => false

/-- What the frame notes about batches below it. -/
def outer? : Frame τ → Option Bool
  | .dispatch _ _ outer | .refuse _ _ outer => some outer
  | _ => none

/-- Whether the frame may lie on top of others. -/
structure LiesOn (frame : Frame τ) (below : List (Frame τ)) : Prop where
  outer_eq : ∀ outer, frame.outer? = some outer → outer = below.any isBatch
  closing : frame.isClosing → below.any isBatch = false
  waiting : below.head?.any isStage → frame.isRefuse ∨ frame.isClosing

end Frame

/-- Whether each frame may lie on top of those below it. -/
def Stacked : List (Frame τ) → Prop
  | [] => True
  | frame :: below => frame.LiesOn below ∧ Stacked below

/-- Whether the ring has been given up. -/
def Released (frames : List (Frame τ)) (terminated : Bool) : Prop :=
  terminated ∨ frames.any Frame.isFail

/-- The frames are in order, and the marks of an engine say what the frames say. -/
structure Discipline (frames : List (Frame τ)) (staged : List SubmitRecord)
    (dispatching deferred closed terminated inboxClosed : Bool) : Prop where
  stacked : Stacked frames
  dispatching_eq : dispatching = frames.any Frame.isBatch
  closed_eq : frames.countP Frame.isClosing + deferred.toNat + terminated.toNat = closed.toNat
  deferred_imp : deferred → dispatching
  closed_imp : closed → inboxClosed
  released : Released frames terminated → staged = [] ∧ dispatching = false

/-- The discipline of an engine. -/
def Engine.Disciplined (engine : Engine κ τ) : Prop :=
  Discipline engine.frames engine.staged engine.dispatching engine.shutdownDeferred engine.closed
    engine.terminated engine.inbox.closed

namespace Frame

variable {frame : Frame τ}

theorem isClosing_of_isFail (fails : frame.isFail) : frame.isClosing := by
  cases frame <;> simp_all [isFail, isClosing]

theorem isFail_eq_false_of_isPlain (plain : frame.isPlain) : frame.isFail = false := by
  cases frame <;> simp_all [isFail, isPlain, isClosing]

theorem isRefuse_eq_false_of_isPlain (plain : frame.isPlain) : frame.isRefuse = false := by
  cases frame <;> simp_all [isRefuse, isPlain, isBatch]

theorem isClosing_eq_false_of_isBatch (batch : frame.isBatch) : frame.isClosing = false := by
  cases frame <;> simp_all [isBatch, isClosing]

theorem isBatch_eq_false_of_isClosing (closing : frame.isClosing) : frame.isBatch = false := by
  cases frame <;> simp_all [isBatch, isClosing]

theorem outer?_eq_none (notBatch : frame.isBatch = false) : frame.outer? = none := by
  cases frame <;> simp_all [isBatch, outer?]

end Frame

namespace Discipline

variable {frames below : List (Frame τ)} {frame next : Frame τ} {staged other : List SubmitRecord}
  {dispatching deferred closed terminated inboxClosed : Bool}

theorem isClosed_of_closing
    (discipline : Discipline frames staged dispatching deferred closed terminated inboxClosed)
    (closing : terminated ∨ frames.any Frame.isClosing) : closed = true := by
  have counted := discipline.closed_eq
  have positive : 0 < frames.countP Frame.isClosing + deferred.toNat + terminated.toNat := by
    rcases closing with rfl | closing
    · simp
    · have := List.countP_pos_iff.mpr (List.any_eq_true.mp closing)
      omega
  cases closed
  · rw [Bool.toNat_false] at counted
    omega
  · rfl

theorem isClosed_of_released
    (discipline : Discipline frames staged dispatching deferred closed terminated inboxClosed)
    (released : Released frames terminated) : closed = true := by
  refine discipline.isClosed_of_closing (released.imp id fun failing => ?_)
  rcases List.any_eq_true.mp failing with ⟨frame, frameMem, fails⟩
  exact List.any_eq_true.mpr ⟨frame, frameMem, Frame.isClosing_of_isFail fails⟩

section Plain

/-- A plain frame may be put on top, though not on a request that waits. -/
theorem push
    (discipline : Discipline frames staged dispatching deferred closed terminated inboxClosed)
    (plain : frame.isPlain) (ready : frames.head?.any Frame.isStage = false) :
    Discipline (frame :: frames) staged dispatching deferred closed terminated inboxClosed := by
  have kinds : frame.isBatch = false ∧ frame.isClosing = false := by simpa [Frame.isPlain] using plain
  refine ⟨⟨⟨?_, ?_, ?_⟩, discipline.stacked⟩, ?_, ?_, discipline.deferred_imp, discipline.closed_imp, ?_⟩
  · simp [Frame.outer?_eq_none kinds.1]
  · simp [kinds.2]
  · simp [ready]
  · simp [kinds.1, discipline.dispatching_eq]
  · simp [kinds.2, discipline.closed_eq]
  · intro released
    apply discipline.released
    simpa [Released, Frame.isFail_eq_false_of_isPlain plain] using released

/-- A plain frame may be taken away, and then no request waits on top. -/
theorem pop
    (discipline : Discipline (frame :: frames) staged dispatching deferred closed terminated
      inboxClosed)
    (plain : frame.isPlain) :
    Discipline frames staged dispatching deferred closed terminated inboxClosed ∧
      frames.head?.any Frame.isStage = false := by
  have kinds : frame.isBatch = false ∧ frame.isClosing = false := by simpa [Frame.isPlain] using plain
  refine ⟨⟨discipline.stacked.2, ?_, ?_, discipline.deferred_imp, discipline.closed_imp, ?_⟩, ?_⟩
  · simpa [kinds.1] using discipline.dispatching_eq
  · simpa [kinds.2] using discipline.closed_eq
  · intro released
    apply discipline.released
    simpa [Released, Frame.isFail_eq_false_of_isPlain plain] using released
  · have waiting := discipline.stacked.1.waiting
    simpa [kinds.2, Frame.isRefuse_eq_false_of_isPlain plain] using waiting

end Plain

section Batch

theorem pushBatch
    (discipline : Discipline frames staged dispatching deferred closed terminated inboxClosed)
    (notReleased : ¬Released frames terminated) (outer : frame.outer? = some dispatching)
    (ready : frame.isRefuse ∨ frames.head?.any Frame.isStage = false)
    (other : List SubmitRecord) :
    Discipline (frame :: frames) other true deferred closed terminated inboxClosed := by
  have batch : frame.isBatch := by cases frame <;> simp_all [Frame.outer?, Frame.isBatch]
  have notClosing := Frame.isClosing_eq_false_of_isBatch batch
  have notFail : frame.isFail = false := by cases frame <;> simp_all [Frame.isBatch, Frame.isFail]
  refine ⟨⟨⟨?_, ?_, ?_⟩, discipline.stacked⟩, ?_, ?_, by simp, discipline.closed_imp, ?_⟩
  · intro noted notedHere
    rw [outer, Option.some.injEq] at notedHere
    exact notedHere ▸ discipline.dispatching_eq
  · simp [notClosing]
  · rcases ready with refuses | ready
    · simp [refuses]
    · simp [ready]
  · simp [batch]
  · simp [notClosing, discipline.closed_eq]
  · intro released
    exact absurd (by simpa [Released, notFail] using released) notReleased

theorem not_released_of_batch
    (discipline : Discipline (frame :: frames) staged dispatching deferred closed terminated
      inboxClosed)
    (batch : frame.isBatch) : ¬Released (frame :: frames) terminated := by
  intro released
  have idle := (discipline.released released).2
  rw [discipline.dispatching_eq] at idle
  simp [batch] at idle

theorem continueBatch
    (discipline : Discipline (frame :: frames) staged dispatching deferred closed terminated
      inboxClosed)
    (batch : frame.isBatch) (outer : next.outer? = frame.outer?)
    (refuses : next.isRefuse = frame.isRefuse) :
    Discipline (next :: frames) staged dispatching deferred closed terminated inboxClosed := by
  have notReleased := discipline.not_released_of_batch batch
  have nextBatch : next.isBatch := by
    cases frame <;> cases next <;> simp_all [Frame.outer?, Frame.isBatch]
  have notClosing := Frame.isClosing_eq_false_of_isBatch batch
  have nextNotClosing := Frame.isClosing_eq_false_of_isBatch nextBatch
  have notFail : next.isFail = frame.isFail := by
    cases frame <;> cases next <;> simp_all [Frame.isBatch, Frame.isFail]
  have below := discipline.stacked.1
  refine ⟨⟨⟨?_, ?_, ?_⟩, discipline.stacked.2⟩, ?_, ?_, discipline.deferred_imp,
    discipline.closed_imp, ?_⟩
  · rw [outer]
    exact below.outer_eq
  · simp [nextNotClosing]
  · simpa [refuses, notClosing, nextNotClosing] using below.waiting
  · simpa [batch, nextBatch] using discipline.dispatching_eq
  · simpa [notClosing, nextNotClosing] using discipline.closed_eq
  · intro released
    exact absurd (by simpa [Released, notFail] using released) notReleased

/-- The answer to a cycle may be put below the batch that the cycle delivers. -/
theorem insertReport {batch : List CompletionRecord} {delivered answer : ℕ} {outer : Bool}
    (discipline : Discipline (.dispatch batch delivered outer :: frames) staged dispatching deferred
      closed terminated inboxClosed) :
    Discipline (.dispatch batch delivered outer :: .report answer :: frames) staged dispatching
      deferred closed terminated inboxClosed := by
  have below := discipline.stacked.1
  refine ⟨⟨⟨?_, ?_, ?_⟩, ⟨⟨?_, ?_, ?_⟩, discipline.stacked.2⟩⟩, ?_, ?_, discipline.deferred_imp,
    discipline.closed_imp, ?_⟩
  · simpa [Frame.isBatch] using below.outer_eq
  · simp [Frame.isClosing]
  · simp [Frame.isStage]
  · simp [Frame.outer?]
  · simp [Frame.isClosing]
  · simpa [Frame.isRefuse, Frame.isClosing] using below.waiting
  · simpa [Frame.isBatch] using discipline.dispatching_eq
  · simpa [Frame.isClosing] using discipline.closed_eq
  · simpa [Released, Frame.isFail] using discipline.released

/-- A batch that is delivered is taken off, and the mark tells whether another one lies below. -/
theorem popBatch
    (discipline : Discipline (frame :: frames) staged dispatching deferred closed terminated
      inboxClosed)
    {outer : Bool} (noted : frame.outer? = some outer) (goesOn : deferred = true → outer = true) :
    Discipline frames staged outer deferred closed terminated inboxClosed := by
  have batch : frame.isBatch := by cases frame <;> simp_all [Frame.outer?, Frame.isBatch]
  have notReleased := discipline.not_released_of_batch batch
  have notClosing := Frame.isClosing_eq_false_of_isBatch batch
  refine ⟨discipline.stacked.2, discipline.stacked.1.outer_eq outer noted, ?_, goesOn,
    discipline.closed_imp, ?_⟩
  · simpa [notClosing] using discipline.closed_eq
  · intro released
    refine absurd ?_ notReleased
    rcases released with terminated | failing
    · exact .inl terminated
    · exact .inr (by simp [failing])

/-- A shutdown that waited for the outermost batch begins once it is delivered. -/
theorem popBatch_deferred
    (discipline : Discipline (frame :: frames) staged dispatching true closed terminated inboxClosed)
    (noted : frame.outer? = some false) :
    Discipline (.emptyInbox :: frames) staged false false closed terminated inboxClosed := by
  have batch : frame.isBatch := by cases frame <;> simp_all [Frame.outer?, Frame.isBatch]
  have notReleased := discipline.not_released_of_batch batch
  have notClosing := Frame.isClosing_eq_false_of_isBatch batch
  have noBatch := discipline.stacked.1.outer_eq false noted
  refine ⟨⟨⟨?_, ?_, ?_⟩, discipline.stacked.2⟩, ?_, ?_, by simp, discipline.closed_imp, ?_⟩
  · simp [Frame.outer?]
  · simp [← noBatch]
  · simp [Frame.isClosing]
  · simpa [Frame.isBatch] using noBatch
  · have counted := discipline.closed_eq
    simp only [List.countP_cons, notClosing, Bool.toNat_true] at counted
    simp only [List.countP_cons, Frame.isClosing, Bool.toNat_false]
    simpa using counted
  · intro released
    refine absurd ?_ notReleased
    rcases released with terminated | failing
    · exact .inl terminated
    · exact .inr (by simpa [Frame.isFail] using Or.inr failing)

end Batch

section Closing

theorem deferShutdown
    (discipline : Discipline frames staged true deferred false terminated inboxClosed) :
    Discipline frames staged true true true terminated true := by
  have counted := discipline.closed_eq
  have idle : deferred = false ∧ terminated = false := by
    cases deferred <;> cases terminated <;> simp_all
  refine ⟨discipline.stacked, discipline.dispatching_eq, ?_, by simp, by simp, ?_⟩
  · rcases idle with ⟨rfl, rfl⟩
    simp only [Bool.toNat_false, Bool.toNat_true] at counted ⊢
    omega
  · intro released
    exact absurd (discipline.isClosed_of_released released) (by simp)

theorem beginShutdown
    (discipline : Discipline frames staged false deferred false terminated inboxClosed) :
    Discipline (.emptyInbox :: frames) staged false deferred true terminated true := by
  have counted := discipline.closed_eq
  refine ⟨⟨⟨?_, ?_, ?_⟩, discipline.stacked⟩, ?_, ?_, discipline.deferred_imp, by simp, ?_⟩
  · simp [Frame.outer?]
  · simp [← discipline.dispatching_eq]
  · simp [Frame.isClosing]
  · simpa [Frame.isBatch] using discipline.dispatching_eq
  · simp only [List.countP_cons, Frame.isClosing, if_true, Bool.toNat_false, Bool.toNat_true]
      at counted ⊢
    omega
  · intro released
    have before : Released frames terminated := by
      simpa [Released, Frame.isFail] using released
    exact absurd (discipline.isClosed_of_released before) (by simp)

theorem not_released_of_closing
    (discipline : Discipline (frame :: frames) staged dispatching deferred closed terminated
      inboxClosed)
    (closing : frame.isClosing) (notFail : frame.isFail = false) :
    ¬Released (frame :: frames) terminated := by
  intro released
  have counted := discipline.closed_eq
  have single : closed.toNat ≤ 1 := Bool.toNat_le closed
  simp only [List.countP_cons, closing, if_true] at counted
  rcases released with rfl | failing
  · rw [Bool.toNat_true] at counted
    omega
  · simp only [List.any_cons, notFail, Bool.false_or] at failing
    rcases List.any_eq_true.mp failing with ⟨other, otherMem, fails⟩
    have := List.countP_pos_iff.mpr ⟨other, otherMem, Frame.isClosing_of_isFail fails⟩
    omega

theorem continueClosing
    (discipline : Discipline (frame :: frames) staged dispatching deferred closed terminated
      inboxClosed)
    (closing : frame.isClosing) (nextClosing : next.isClosing)
    (released : next.isFail → other = []) (kept : frame.isFail → next.isFail) :
    Discipline (next :: frames) other dispatching deferred closed terminated inboxClosed := by
  have notBatch := Frame.isBatch_eq_false_of_isClosing closing
  have nextNotBatch := Frame.isBatch_eq_false_of_isClosing nextClosing
  have below := discipline.stacked.1
  have noBatch := below.closing closing
  refine ⟨⟨⟨?_, ?_, ?_⟩, discipline.stacked.2⟩, ?_, ?_, discipline.deferred_imp,
    discipline.closed_imp, ?_⟩
  · simp [Frame.outer?_eq_none nextNotBatch]
  · simp [noBatch]
  · simp [nextClosing]
  · simpa [notBatch, nextNotBatch] using discipline.dispatching_eq
  · simpa [closing, nextClosing] using discipline.closed_eq
  · intro releasedNow
    refine ⟨?_, by simp [discipline.dispatching_eq, notBatch, noBatch]⟩
    by_cases fails : next.isFail
    · exact released fails
    · have notFail : frame.isFail = false := by
        cases failed : frame.isFail
        · rfl
        · exact absurd (kept failed) fails
      have notReleased := discipline.not_released_of_closing closing notFail
      refine absurd ?_ notReleased
      simpa [Released, notFail, Bool.eq_false_iff.mpr fails] using releasedNow

theorem finishClosing
    (discipline : Discipline (.fail [] :: frames) staged dispatching deferred closed terminated
      inboxClosed) :
    Discipline frames staged dispatching deferred closed true inboxClosed := by
  have counted := discipline.closed_eq
  have single : closed.toNat ≤ 1 := Bool.toNat_le closed
  have released := discipline.released (.inr rfl)
  simp only [List.countP_cons, Frame.isClosing, if_true] at counted
  refine ⟨discipline.stacked.2, ?_, ?_, discipline.deferred_imp, discipline.closed_imp,
    fun _ => released⟩
  · simpa [Frame.isBatch] using discipline.dispatching_eq
  · cases terminated
    · simp only [Bool.toNat_false, Bool.toNat_true] at counted ⊢
      omega
    · simp only [Bool.toNat_true] at counted
      omega

/-- Once everything has been given up, neither a batch nor a shutdown is under way. -/
theorem isPlain_of_terminated
    (discipline : Discipline frames staged dispatching deferred closed true inboxClosed) :
    ∀ frame ∈ frames, frame.isPlain := by
  intro frame frameMem
  have noBatch := (discipline.released (.inl rfl)).2
  rw [discipline.dispatching_eq, List.any_eq_false] at noBatch
  have counted := discipline.closed_eq
  have single : closed.toNat ≤ 1 := Bool.toNat_le closed
  have noneClosing : frames.countP Frame.isClosing = 0 := by
    rw [Bool.toNat_true] at counted
    omega
  rw [List.countP_eq_zero] at noneClosing
  simp [Frame.isPlain, noBatch frame frameMem, noneClosing frame frameMem]

/-- A closed engine with nothing left to do has given everything up. -/
theorem terminated_of_nil
    (discipline : Discipline ([] : List (Frame τ)) staged dispatching deferred true terminated
      inboxClosed) : terminated = true := by
  have notDeferred : deferred = false := by
    have idle : dispatching = false := discipline.dispatching_eq
    have waits := discipline.deferred_imp
    rw [idle] at waits
    simpa using waits
  have counted := discipline.closed_eq
  rw [notDeferred] at counted
  cases terminated
  · cases counted
  · rfl

end Closing

theorem restage
    (discipline : Discipline frames staged dispatching deferred closed terminated inboxClosed)
    (notReleased : ¬Released frames terminated) (other : List SubmitRecord) :
    Discipline frames other dispatching deferred closed terminated inboxClosed :=
  { discipline with released := fun released => absurd released notReleased }

/-- Closing the inbox asks for nothing that a shutdown does not do. -/
theorem closeInbox
    (discipline : Discipline frames staged dispatching deferred closed terminated inboxClosed) :
    Discipline frames staged dispatching deferred closed terminated true :=
  { discipline with closed_imp := fun _ => rfl }

end Discipline

end CompletionEngine
