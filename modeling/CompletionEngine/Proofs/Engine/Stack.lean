import CompletionEngine.Proofs.Engine.Tasks

/-!
# What lies below

An engine works only at the top of what is to be done. Whatever it does there, what lies below is
still to be done afterwards, in the same order. Everything is given up only by the last step of a
shutdown.
-/

namespace CompletionEngine

variable {κ τ : Type}

namespace Engine

/-- What one engine has to do, another has to do as well, once it has done what came on top. Neither
has given up more than the other. -/
structure BuildsOn (below after : Engine κ τ) : Prop where
  frames : below.frames <:+ after.frames
  terminated_eq : after.terminated = below.terminated

namespace BuildsOn

variable {before between after : Engine κ τ}

theorem of_same (frames_eq : after.frames = before.frames)
    (terminated_eq : after.terminated = before.terminated) : before.BuildsOn after :=
  ⟨by rw [frames_eq], terminated_eq⟩

theorem trans (first : before.BuildsOn between) (second : between.BuildsOn after) :
    before.BuildsOn after :=
  ⟨first.frames.trans second.frames, second.terminated_eq.trans first.terminated_eq⟩

end BuildsOn

section Operations

variable (platform : Platform κ) (engine : Engine κ τ)

theorem buildsOn_next (frame : Frame τ) : engine.BuildsOn (engine.next frame) :=
  ⟨List.suffix_cons frame engine.frames, rfl⟩

theorem buildsOn_plans {frame : Frame τ} {between : Engine κ τ} (plans : engine.Plans frame between) :
    engine.BuildsOn between := by
  induction plans with
  | nothing => exact .of_same rfl rfl
  | next plans emptyHanded pastInbox ih => exact ih.trans (buildsOn_next _ _)

theorem buildsOn_deliver (continuation : Continuation τ) (outcome : Outcome) :
    engine.BuildsOn (engine.deliver (some continuation) outcome) := by
  rw [deliver_some]
  exact ⟨List.suffix_append _ _, rfl⟩

theorem buildsOn_shutdown : engine.BuildsOn engine.shutdown := by
  rcases shutdown_cases engine with ⟨-, same⟩ | ⟨-, -, deferred⟩ | ⟨-, -, begun⟩
  · rw [same]
    exact .of_same rfl rfl
  · rw [deferred]
    exact .of_same rfl rfl
  · rw [begun]
    exact ⟨List.suffix_cons _ _, rfl⟩

theorem buildsOn_endDispatch (outer : Bool) : engine.BuildsOn (engine.endDispatch outer) := by
  rcases endDispatch_cases engine outer with ⟨-, -, begun⟩ | ⟨-, left⟩
  · rw [begun]
    exact ⟨List.suffix_cons _ _, rfl⟩
  · rw [left]
    exact .of_same rfl rfl

theorem buildsOn_flush : engine.BuildsOn (engine.flush platform) := by
  rcases flush_cases platform engine with
    ⟨-, same⟩ | ⟨-, world, events, -, pushed | ⟨error, refused⟩⟩
  · rw [same]
    exact .of_same rfl rfl
  · rw [pushed]
    exact .of_same rfl rfl
  · rw [refused]
    exact ⟨List.suffix_cons _ _, rfl⟩

theorem buildsOn_beginRequest (request : Request τ) :
    (engine.next (.stage request)).BuildsOn (engine.beginRequest platform request) := by
  rcases beginRequest_eq platform engine request with plain | room
  · rw [plain]
    exact .of_same rfl rfl
  · rw [room]
    exact buildsOn_flush platform _

theorem buildsOn_runTask (task : Task τ) : engine.BuildsOn (engine.runTask platform task) := by
  cases task with
  | request command promise =>
      exact (engine.buildsOn_next _).trans (engine.buildsOn_beginRequest platform _)
  | job body => exact ⟨List.suffix_cons _ _, rfl⟩

theorem buildsOn_reap : engine.BuildsOn (engine.reap platform) :=
  ⟨List.suffix_cons _ _, rfl⟩

theorem buildsOn_enterKernel (wait : Wait) :
    engine.BuildsOn (engine.enterKernel platform wait) := by
  rcases enterKernel_cases platform engine wait with ⟨world, event, -, ⟨error, failed⟩ | entered⟩
  · rw [failed]
    exact .of_same rfl rfl
  · rw [entered]
    exact ⟨List.suffix_cons _ _, rfl⟩

theorem buildsOn_armWake : engine.BuildsOn (engine.armWake platform) := by
  rcases armWake_cases engine platform with ⟨-, same⟩ | ⟨descriptor, -, -, -, armed⟩
  · rw [same]
    exact .of_same rfl rfl
  · rw [armed]
    exact .of_same rfl rfl

theorem buildsOn_turns {frame : Frame τ} {after : Engine κ τ}
    (turns : engine.Turns platform frame after) : engine.BuildsOn after := by
  cases turns with
  | plans plans => exact engine.buildsOn_plans plans
  | answers answer after_eq =>
      rw [after_eq]
      exact .of_same rfl rfl
  | shutsDown between plans after_eq =>
      rw [after_eq]
      exact (engine.buildsOn_plans plans).trans between.buildsOn_shutdown
  | leavesBatch between plans outer after_eq =>
      rw [after_eq]
      exact (engine.buildsOn_plans plans).trans (between.buildsOn_endDispatch outer)
  | takesTask between plans task inbox popped after_eq =>
      have taken : engine.BuildsOn { between with inbox := inbox } :=
        (engine.buildsOn_plans plans).trans (.of_same rfl rfl)
      rw [after_eq]
      exact taken.trans (buildsOn_runTask platform _ task)
  | armsWake wait frame_eq after_eq =>
      have armed := engine.buildsOn_armWake platform
      rw [after_eq]
      exact (armed.trans (buildsOn_next _ _)).trans (buildsOn_flush platform _)
  | entersKernel wait after_eq =>
      rw [after_eq]
      exact engine.buildsOn_enterKernel platform wait
  | reaps between plans after_eq =>
      rw [after_eq]
      exact (engine.buildsOn_plans plans).trans (between.buildsOn_reap platform)

theorem buildsOn_unloads {frame : Frame τ} {after : Engine κ τ}
    (unloads : engine.Unloads platform frame after) : engine.BuildsOn after := by
  cases unloads with
  | acknowledges record rest delivered outer frame_eq wake after_eq =>
      rw [after_eq]
      exact ⟨List.suffix_cons _ _, rfl⟩
  | disarms left isLeft after_eq =>
      rw [after_eq]
      exact ⟨List.suffix_cons _ _, rfl⟩
  | delivers left isLeft grip continuation holds pools held_eq tags world statistics outcome after_eq =>
      rw [after_eq]
      refine (engine.buildsOn_next left).trans (BuildsOn.trans ?_ (buildsOn_deliver _ _ _))
      exact .of_same rfl rfl

end Operations

namespace Sound

variable {engine : Engine κ τ} {flights : Multiset (Flight τ)}
  {hand : Multiset (Grip (Continuation τ))} {frame : Frame τ}

theorem buildsOn_stage {request : Request τ}
    (sound : (engine.next (.stage request)).Sound flights hand) (platform : Platform κ)
    (spare : engine.inFlight + 2 ≤ UInt32.size) :
    engine.BuildsOn (engine.runFrame platform (.stage request)) := by
  rcases sound.of_next rfl with ⟨below, -⟩
  rcases below.accounts.books.stageRequest engine (below.room spare) platform request with
    ⟨pools, tags, failure, rejected, -⟩ | ⟨-, pools, tags, admissions, admitted, -⟩
  · rw [Engine.runFrame, rejected]
    have kept : engine.BuildsOn { engine with pools := pools, tags := tags } := .of_same rfl rfl
    exact kept.trans (buildsOn_deliver _ _ _)
  · rw [Engine.runFrame, admitted]
    exact .of_same rfl rfl

/-- Whatever is to be done next leaves alone what lies below, and gives up nothing, unless it is the
last step of a shutdown. -/
theorem buildsOn_runFrame (sound : (engine.next frame).Sound flights hand)
    (platform : Platform κ) (spare : engine.inFlight + 2 ≤ UInt32.size)
    (goesOn : frame ≠ .fail []) : engine.BuildsOn (engine.runFrame platform frame) := by
  cases business : frame.isBusiness with
  | false => exact engine.buildsOn_turns platform (engine.turns_runFrame platform business)
  | true =>
      rcases Frame.business_cases business with ⟨request, rfl⟩ | loaded | rfl | rfl
      · exact sound.buildsOn_stage platform spare
      · exact engine.buildsOn_unloads platform (sound.unloads_runFrame platform loaded)
      · exact ⟨List.suffix_cons _ _, rfl⟩
      · exact absurd rfl goesOn

theorem suffix_runFrame (sound : (engine.next frame).Sound flights hand)
    (platform : Platform κ) (spare : engine.inFlight + 2 ≤ UInt32.size) :
    engine.frames <:+ (engine.runFrame platform frame).frames := by
  by_cases last : frame = .fail []
  · rw [last]
    exact List.suffix_rfl
  · exact (sound.buildsOn_runFrame platform spare last).frames

end Sound

end Engine

end CompletionEngine
