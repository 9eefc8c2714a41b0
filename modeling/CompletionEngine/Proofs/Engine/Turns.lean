import CompletionEngine.Proofs.Engine.Steps

/-!
# Turns

Most of what an engine has to do begins and ends no operation. A step then plans what is to be done
next, and does at most one thing besides: it begins a shutdown, leaves a batch, takes a task out of
the inbox, arms the wake-up poll, enters the kernel or takes completions from the ring. Where there
is something in hand, a step ends one operation, or tells what became of the wake-up poll. This is
said here once. What is known of steps elsewhere is known by cases over their turns.
-/

namespace CompletionEngine

variable {κ τ : Type}

namespace Books

variable {pools others : Pools (Continuation τ)} {tags otherTags : TagTable SlotRef}
  {flights : Multiset (Flight τ)} {hand : Multiset (Grip (Continuation τ))}

theorem held_of_flight {flight : Flight τ} (books : Books pools tags (flight ::ₘ flights) hand)
    (after : Books others otherTags flights hand) : pools.held = flight.grip ::ₘ others.held := by
  rw [books.held_eq, after.held_eq, Multiset.map_cons, Multiset.add_cons]

theorem held_of_grip {grip : Grip (Continuation τ)} (books : Books pools tags flights (grip ::ₘ hand))
    (after : Books others otherTags flights hand) : pools.held = grip ::ₘ others.held := by
  rw [books.held_eq, after.held_eq, Multiset.cons_add]

end Books

namespace Frame

/-- Whether the frame begins or ends operations, or tells what became of the wake-up poll. -/
def isBusiness : Frame τ → Bool
  | .stage _ | .dispatch (_ :: _) .. | .refuse (_ :: _) .. | .release | .fail _ => true
  | _ => false

/-- Whether the frame is part of a shutdown that has found the inbox empty. -/
def isPastInbox : Frame τ → Bool
  | .drain _ | .drained _ | .lastReap | .release | .fail _ => true
  | _ => false

/-- Whether the frame has completions, refused records or leftovers in hand. -/
def isLoaded : Frame τ → Bool
  | .dispatch (_ :: _) .. | .refuse (_ :: _) .. | .fail (_ :: _) => true
  | _ => false

/-- Whether the frame has neither a request in hand, nor completions, refused records or leftovers. -/
def isEmptyHanded : Frame τ → Bool
  | .stage _ | .dispatch .. | .refuse .. | .fail _ => false
  | _ => true

variable {frame : Frame τ}

theorem isStage_of_minor (minor : frame.isBusiness = false) : frame.isStage = false := by
  cases frame <;> first | rfl | cases minor

theorem isStage_of_isEmptyHanded (emptyHanded : frame.isEmptyHanded) : frame.isStage = false := by
  cases frame <;> first | rfl | cases emptyHanded

theorem isRefuse_of_isEmptyHanded (emptyHanded : frame.isEmptyHanded) : frame.isRefuse = false := by
  cases frame <;> first | rfl | cases emptyHanded

theorem isStage_of_isLoaded (loaded : frame.isLoaded) : frame.isStage = false := by
  cases frame <;> first | rfl | cases loaded

/-- Operations begin with a request. They end with what is in hand, or with the ring. -/
theorem business_cases (business : frame.isBusiness) :
    (∃ request, frame = .stage request) ∨ frame.isLoaded ∨ frame = .release ∨ frame = .fail [] := by
  cases frame with
  | stage request => exact .inl ⟨request, rfl⟩
  | release => exact .inr (.inr (.inl rfl))
  | dispatch batch delivered outer =>
      cases batch with
      | nil => cases business
      | cons record rest => exact .inr (.inl rfl)
  | refuse records failure outer =>
      cases records with
      | nil => cases business
      | cons record rest => exact .inr (.inl rfl)
  | fail leftovers =>
      cases leftovers with
      | nil => exact .inr (.inr (.inr rfl))
      | cons leftover rest => exact .inr (.inl rfl)
  | _ => cases business

/-- What is left of a frame with something in hand is no request, and as far past the inbox. -/
structure IsLeftOf (left frame : Frame τ) : Prop where
  notStage : left.isStage = false
  isPastInbox_eq : left.isPastInbox = frame.isPastInbox

end Frame

namespace Engine

/-- An engine plans what to do after a frame: it puts in front what has nothing in hand. While tasks
wait in the inbox, it plans nothing past the inbox, unless the frame was past it. -/
inductive Plans (frame : Frame τ) (engine : Engine κ τ) : Engine κ τ → Prop where
  | nothing : engine.Plans frame engine
  | next {between : Engine κ τ} {next : Frame τ} (plans : engine.Plans frame between)
      (emptyHanded : next.isEmptyHanded)
      (pastInbox : next.isPastInbox → frame.isPastInbox ∨ between.inbox.queue = []) :
      engine.Plans frame (between.next next)

/-- What a step does on a frame that begins and ends no operation. -/
inductive Turns (platform : Platform κ) (frame : Frame τ) (engine after : Engine κ τ) : Prop where
  | plans (plans : engine.Plans frame after)
  | answers (answer : Except RingError ℕ) (after_eq : after = { engine with answer := answer })
  | shutsDown (between : Engine κ τ) (plans : engine.Plans frame between)
      (after_eq : after = between.shutdown)
  | leavesBatch (between : Engine κ τ) (plans : engine.Plans frame between) (outer : Bool)
      (after_eq : after = between.endDispatch outer)
  | takesTask (between : Engine κ τ) (plans : engine.Plans frame between) (task : Task τ)
      (inbox : Inbox (Task τ)) (popped : between.inbox.pop? = some (task, inbox))
      (after_eq : after = { between with inbox := inbox }.runTask platform task)
  | armsWake (wait : Wait) (frame_eq : frame = .arm wait)
      (after_eq : after = ((engine.armWake platform).next (.enter wait)).flush platform)
  | entersKernel (wait : Wait) (after_eq : after = engine.enterKernel platform wait)
  | reaps (between : Engine κ τ) (plans : engine.Plans frame between)
      (after_eq : after = between.reap platform)

/-- What a step does on a frame with something in hand. An operation that ends leaves its pool, and
its continuation is called. -/
inductive Unloads (platform : Platform κ) (frame : Frame τ) (engine after : Engine κ τ) : Prop where
  | acknowledges (record : CompletionRecord) (rest : List CompletionRecord) (delivered : ℕ)
      (outer : Bool) (frame_eq : frame = .dispatch (record :: rest) delivered outer)
      (wake : record.userData = wakeUserData)
      (after_eq : after = (engine.next (.dispatch rest delivered outer)).acknowledge platform)
  | disarms (left : Frame τ) (isLeft : left.IsLeftOf frame)
      (after_eq : after = { engine.next left with wakeArmed := false })
  | delivers (left : Frame τ) (isLeft : left.IsLeftOf frame) (grip : Grip (Continuation τ))
      (continuation : Continuation τ) (holds : grip.entry.continuation = some continuation)
      (pools : Pools (Continuation τ)) (held_eq : engine.pools.held = grip ::ₘ pools.held)
      (tags : TagTable SlotRef) (world : κ) (statistics : Statistics) (outcome : Outcome)
      (after_eq : after = { engine.next left with
        pools := pools
        tags := tags
        world := world
        statistics := statistics }.deliver (some continuation) outcome)

namespace Plans

variable {engine between : Engine κ τ} {frame next : Frame τ}

theorem same (plans : engine.Plans frame between) :
    between = { engine with frames := between.frames } := by
  induction plans with
  | nothing => rfl
  | next plans emptyHanded pastInbox ih =>
      rw [ih]
      rfl

theorem early (plans : engine.Plans frame between) (emptyHanded : next.isEmptyHanded)
    (early : next.isPastInbox = false) : engine.Plans frame (between.next next) :=
  plans.next emptyHanded fun past => absurd past (by simp [early])

theorem late (plans : engine.Plans frame between) (emptyHanded : next.isEmptyHanded)
    (past : frame.isPastInbox) : engine.Plans frame (between.next next) :=
  plans.next emptyHanded fun _ => .inl past

end Plans

/-- Whatever is to be done next takes one of these turns, unless it begins or ends operations or tells
what became of the wake-up poll. -/
theorem turns_runFrame (engine : Engine κ τ) {frame : Frame τ} (platform : Platform κ)
    (minor : frame.isBusiness = false) :
    engine.Turns platform frame (engine.runFrame platform frame) := by
  have popped : engine.Plans frame engine := .nothing
  cases frame with
  | stage request => cases minor
  | release => cases minor
  | fail leftovers => cases minor
  | client => exact .plans (popped.early rfl rfl)
  | intake remaining wait =>
      cases remaining with
      | zero => exact .plans (popped.early rfl rfl)
      | succ remaining =>
          simp only [runFrame]
          split
          · exact .plans (popped.early rfl rfl)
          · rename_i task inbox found
            exact .takesTask _ (popped.early rfl rfl) task inbox found rfl
  | observe wait =>
      simp only [runFrame]
      split
      · exact .shutsDown _ (popped.early rfl rfl) rfl
      · exact .plans (popped.early rfl rfl)
  | arm wait =>
      simp only [runFrame]
      split
      · exact .answers _ rfl
      · exact .armsWake wait rfl rfl
  | enter wait =>
      simp only [runFrame]
      split
      · exact .answers _ rfl
      · exact .entersKernel wait rfl
  | dispatch batch delivered outer =>
      cases batch with
      | cons record rest => cases minor
      | nil => exact .leavesBatch _ (popped.early rfl rfl) outer rfl
  | report delivered => exact .answers _ rfl
  | refuse records failure outer =>
      cases records with
      | cons record rest => cases minor
      | nil => exact .leavesBatch _ popped outer rfl
  | emptyInbox =>
      simp only [runFrame]
      split
      · rename_i task inbox found
        exact .takesTask _ (popped.early rfl rfl) task inbox found rfl
      · rename_i nothing
        exact .plans (popped.next rfl fun _ => .inr (Inbox.queue_of_pop? nothing))
  | drain deadline =>
      simp only [runFrame]
      split
      · exact .plans (popped.late rfl rfl)
      · exact .plans ((popped.late rfl rfl).early rfl rfl)
  | drained deadline =>
      simp only [runFrame]
      split <;> exact .plans (popped.late rfl rfl)
  | lastReap => exact .reaps _ (popped.late rfl rfl) rfl
  | work =>
      simp only [runFrame]
      split
      · exact .plans popped
      · exact .plans ((popped.early rfl rfl).early rfl rfl)
  | worked =>
      simp only [runFrame]
      split
      · exact .shutsDown _ popped rfl
      · exact .plans (popped.early rfl rfl)

namespace Sound

variable {engine : Engine κ τ} {flights : Multiset (Flight τ)}
  {hand : Multiset (Grip (Continuation τ))} {frame : Frame τ}

/-- As long as there is something in hand, not everything has been given up. -/
theorem running_of_isLoaded (sound : (engine.next frame).Sound flights hand) (loaded : frame.isLoaded) :
    engine.terminated ≠ true := by
  intro terminated
  have disciplined := sound.disciplined
  rw [Disciplined, Engine.next, terminated] at disciplined
  have plain := disciplined.isPlain_of_terminated frame List.mem_cons_self
  cases frame <;> first | cases loaded | cases plain

theorem unloads_runFrame (sound : (engine.next frame).Sound flights hand) (platform : Platform κ)
    (loaded : frame.isLoaded) : engine.Unloads platform frame (engine.runFrame platform frame) := by
  have before : Books engine.pools engine.tags flights hand := sound.accounts.books
  cases frame with
  | dispatch batch delivered outer =>
      cases batch with
      | nil => cases loaded
      | cons record rest =>
          simp only [Engine.runFrame]
          split
          · rename_i wake
            exact .acknowledges record rest delivered outer rfl wake rfl
          · rename_i operation
            rcases sound.dispatchOne_eq platform operation with
              ⟨flight, others, continuation, pools, tags, rfl, -, holds, books, dispatched⟩
            rw [dispatched, orRaise]
            exact .delivers (.dispatch rest (delivered + 1) outer) ⟨rfl, rfl⟩ flight.grip continuation
              holds pools (before.held_of_flight books) tags _ _ _ rfl
  | refuse records failure outer =>
      cases records with
      | nil => cases loaded
      | cons record rest =>
          simp only [Engine.runFrame]
          split
          · exact .disarms (.refuse rest failure outer) ⟨rfl, rfl⟩ rfl
          · rename_i operation
            rcases sound.refuseOne_eq operation with
              ⟨flight, others, continuation, pools, tags, rfl, -, holds, books, refused⟩
            rw [refused, orRaise]
            exact .delivers (.refuse rest failure outer) ⟨rfl, rfl⟩ flight.grip continuation holds
              pools (before.held_of_flight books) tags _ _ _ rfl
  | fail leftovers =>
      cases leftovers with
      | nil => cases loaded
      | cons leftover rest =>
          rcases sound.fail_eq platform with
            ⟨grip, others, continuation, pools, rfl, -, -, holds, books, failed⟩
          rw [failed]
          exact .delivers (.fail rest) ⟨rfl, rfl⟩ grip continuation holds pools
            (before.held_of_grip books) engine.tags _ _ _ rfl
  | _ => cases loaded

end Sound

end Engine

end CompletionEngine
