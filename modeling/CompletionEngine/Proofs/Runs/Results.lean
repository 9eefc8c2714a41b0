import CompletionEngine.Proofs.Runs.Manifest
import CompletionEngine.Simulation.Script

/-!
# Results reach the right continuation

The observer of a run also keeps a logbook of the batches that the ring has handed out. Whenever a
completion of the batch in hand is taken up, the observer looks up in the manifest whose record was
pushed last with the completion's user data, and writes down what happens.

Each completion, other than a wake-up, is told to the continuation of just this errand, as what the
errand's kind of operation makes of the completion. The completions of each batch are taken up in
the order of the batch, whatever other batches are taken in hand in between.
-/

namespace CompletionEngine

variable {κ τ : Type}

/-- A completion that has been taken up. -/
structure Delivery (κ τ : Type) where
  completion : CompletionRecord
  /-- The errand of the last record that was pushed with the completion's user data. -/
  errand : Option (Errand τ)
  /-- The platform on which the completion was taken up. -/
  world : κ
  /-- What was written into the journal then, the last event in front. -/
  events : List (Event τ)

/-- The continuation of the right errand has been called, and nothing else, with what the errand's
kind of operation makes of the completion. -/
def Delivery.Right (platform : Platform κ) (delivery : Delivery κ τ) : Prop :=
  ∃ errand heap previous payload, delivery.errand = some errand ∧
    errand.kind.operation.prepare ⟨errand.started, heap⟩ errand.params previous = .ok payload ∧
    delivery.events = [errand.continuation.event ⟨errand.kind,
      (errand.kind.operation.translate platform.sockets (platform.now delivery.world)
        delivery.completion.result
        (errand.kind.operation.receive delivery.completion.written payload) delivery.world).1⟩]

/-- A batch that the ring has handed out, and what has been taken up of it, the first in front. -/
structure Batch (κ τ : Type) where
  completions : List CompletionRecord
  deliveries : List (Delivery κ τ)

namespace Batch

/-- What has not been taken up yet. -/
def rest (batch : Batch κ τ) : List CompletionRecord :=
  batch.completions.drop batch.deliveries.length

/-- The batch has been taken up in its order so far, and each completion has been told right. -/
structure Right (platform : Platform κ) (batch : Batch κ τ) : Prop where
  inOrder : batch.deliveries.map Delivery.completion ++ batch.rest = batch.completions
  right : ∀ delivery ∈ batch.deliveries, delivery.completion.userData ≠ wakeUserData →
    delivery.Right platform

theorem right_of_drained (platform : Platform κ) (completions : List CompletionRecord) :
    (⟨completions, []⟩ : Batch κ τ).Right platform :=
  ⟨rfl, by simp⟩

end Batch

/-- The batches of a run. -/
structure Logbook (κ τ : Type) where
  /-- Those in hand, the innermost in front. -/
  inHand : List (Batch κ τ)
  /-- Those that have been left, the last in front. -/
  left : List (Batch κ τ)

namespace Logbook

/-- Write down that a completion of the innermost batch is taken up. -/
def deliver (delivery : Delivery κ τ) (logbook : Logbook κ τ) : Logbook κ τ :=
  match logbook.inHand with
  | [] => logbook
  | batch :: outer =>
    { logbook with
      inHand := { batch with deliveries := batch.deliveries ++ [delivery] } :: outer }

/-- Write down that the innermost batch is left. -/
def leave (logbook : Logbook κ τ) : Logbook κ τ :=
  match logbook.inHand with
  | [] => logbook
  | batch :: outer => ⟨outer, batch :: logbook.left⟩

/-- Write down what a step does with the batch in hand. -/
def note (before after : Engine κ τ) (manifest : Manifest τ) (logbook : Logbook κ τ) :
    Logbook κ τ :=
  match before.frames with
  | .dispatch (completion :: _) _ _ :: _ =>
    logbook.deliver ⟨completion, manifest.lastPushed completion.userData, before.world,
      before.eventsSince after⟩
  | .dispatch [] _ _ :: _ => logbook.leave
  | _ => logbook

/-- A batch that the ring hands out is taken in hand. -/
def hear (event : Event τ) (logbook : Logbook κ τ) : Logbook κ τ :=
  match event with
  | .drained batch => { logbook with inHand := ⟨batch, []⟩ :: logbook.inHand }
  | _ => logbook

/-- Observe a move. -/
def observe (move : Move κ τ) (before after : Engine κ τ) (manifest : Manifest τ)
    (logbook : Logbook κ τ) : Logbook κ τ :=
  let noted := match move with
    | .step => logbook.note before after manifest
    | _ => logbook
  (before.eventsSince after).foldr hear noted

/-- A logbook agrees with an engine. -/
structure Follows (platform : Platform κ) (engine : Engine κ τ) (logbook : Logbook κ τ) :
    Prop where
  /-- What has not been taken up of the batches in hand is what the engine still has to deliver. -/
  inHand_eq : logbook.inHand.map Batch.rest = inDelivery engine.frames
  /-- Every batch that the ring has handed out is there. -/
  drained_eq : ((logbook.inHand ++ logbook.left).map Batch.completions :
    Multiset (List CompletionRecord)) = drained engine.journal
  right : ∀ batch ∈ logbook.inHand ++ logbook.left, batch.Right platform
  /-- A batch is left only when everything in it has been taken up. -/
  left_rest : ∀ batch ∈ logbook.left, batch.rest = []

variable {logbook : Logbook κ τ} {platform : Platform κ} {before after : Engine κ τ}

theorem hear_of_not_traffic (event : Event τ) (silent : event.isTraffic = false)
    (logbook : Logbook κ τ) : logbook.hear event = logbook := by
  cases event with
  | drained batch => simp [Event.isTraffic] at silent
  | _ => rfl

namespace Follows

/-- A logbook goes on agreeing while batches are left alone. -/
theorem congr (follows : logbook.Follows platform before)
    (inDelivery_eq : inDelivery after.frames = inDelivery before.frames)
    (drained_eq : drained after.journal = drained before.journal) :
    logbook.Follows platform after where
  inHand_eq := by rw [inDelivery_eq, follows.inHand_eq]
  drained_eq := by rw [drained_eq, follows.drained_eq]
  right := follows.right
  left_rest := follows.left_rest

theorem rests (follows : logbook.Follows platform before) (rests : before.Rests after) :
    logbook.Follows platform after :=
  follows.congr rests.inDelivery_eq rests.drained_eq

theorem drains (follows : logbook.Follows platform before) (batch : List CompletionRecord)
    (inDelivery_eq : inDelivery after.frames = batch :: inDelivery before.frames)
    (drained_eq : drained after.journal = batch ::ₘ drained before.journal) :
    (logbook.hear (.drained batch)).Follows platform after where
  inHand_eq := by
    rw [inDelivery_eq, ← follows.inHand_eq]
    rfl
  drained_eq := by
    rw [drained_eq, ← follows.drained_eq]
    rfl
  right := by
    intro other otherMem
    rcases List.mem_cons.mp otherMem with rfl | old
    · exact Batch.right_of_drained platform batch
    · exact follows.right other old
  left_rest := follows.left_rest

/-- A logbook goes on agreeing by listening. -/
theorem passes (follows : logbook.Follows platform before) (passes : before.Passes after) :
    ((before.eventsSince after).foldr hear logbook).Follows platform after := by
  cases passes with
  | rests rests =>
      rcases rests.journal with ⟨events, silent, appended⟩
      rw [Engine.eventsSince_eq appended, foldr_of_not_traffic hear hear_of_not_traffic silent]
      exact follows.rests rests
  | pushes between rests kept world events silent after_eq =>
      rcases rests.journal with ⟨earlier, earlierSilent, appended⟩
      have since : after.journal =
          (.pushed between.staged (.ok ()) :: (events ++ earlier)) ++ before.journal := by
        rw [after_eq, appended]
        simp
      have heard : (events ++ earlier).foldr hear logbook = logbook := by
        apply foldr_of_not_traffic hear hear_of_not_traffic
        intro event eventMem
        exact (List.mem_append.mp eventMem).elim (silent event) (earlierSilent event)
      rw [Engine.eventsSince_eq since, List.foldr_cons, heard]
      refine (follows.rests rests).congr (by rw [after_eq]) ?_
      rw [after_eq]
      exact append_of_skips _ drained_cons_of_not_traffic silent _
  | drains between rests kept world batch owed after_eq =>
      rcases rests.journal with ⟨earlier, earlierSilent, appended⟩
      have since : after.journal = (.drained batch :: earlier) ++ before.journal := by
        rw [after_eq, appended]
        rfl
      rw [Engine.eventsSince_eq since, List.foldr_cons,
        foldr_of_not_traffic hear hear_of_not_traffic earlierSilent]
      exact (follows.rests rests).drains batch (by rw [after_eq]; rfl) (by rw [after_eq]; rfl)

section Flights

variable {engine : Engine κ τ} {flights : Multiset (Flight τ)}
  {hand : Multiset (Grip (Continuation τ))} {manifest : Manifest τ}

theorem deliver (follows : logbook.Follows platform before) {delivery : Delivery κ τ}
    {rest : List CompletionRecord} {outer : List (List CompletionRecord)}
    (before_eq : inDelivery before.frames = (delivery.completion :: rest) :: outer)
    (after_eq : inDelivery after.frames = rest :: outer)
    (drained_eq : drained after.journal = drained before.journal)
    (right : delivery.completion.userData ≠ wakeUserData → delivery.Right platform) :
    (logbook.deliver delivery).Follows platform after := by
  have inHand_eq := follows.inHand_eq
  rw [before_eq] at inHand_eq
  rcases logbook with ⟨_ | ⟨batch, batches⟩, left⟩
  · cases inHand_eq
  simp only [List.map_cons, List.cons.injEq] at inHand_eq
  have wasRight := follows.right batch (by simp)
  have rest_eq : batch.completions.drop (batch.deliveries.length + 1) = rest := by
    rw [← List.tail_drop, ← Batch.rest, inHand_eq.1, List.tail_cons]
  refine ⟨?_, ?_, ?_, follows.left_rest⟩
  · simp [Logbook.deliver, after_eq, inHand_eq.2, Batch.rest, rest_eq]
  · rw [drained_eq, ← follows.drained_eq]
    rfl
  · intro other otherMem
    rcases List.mem_cons.mp otherMem with rfl | old
    · constructor
      · have inOrder := wasRight.inOrder
        rw [inHand_eq.1] at inOrder
        simpa [Batch.rest, rest_eq] using inOrder
      · intro taken takenMem operation
        rcases List.mem_append.mp takenMem with old | new
        · exact wasRight.right taken old operation
        · rw [List.mem_singleton.mp new] at operation ⊢
          exact right operation
    · exact follows.right other (List.mem_cons_of_mem _ old)

theorem leave (follows : logbook.Follows platform before) {outer : List (List CompletionRecord)}
    (before_eq : inDelivery before.frames = [] :: outer)
    (after_eq : inDelivery after.frames = outer)
    (drained_eq : drained after.journal = drained before.journal) :
    logbook.leave.Follows platform after := by
  have inHand_eq := follows.inHand_eq
  rw [before_eq] at inHand_eq
  rcases logbook with ⟨_ | ⟨batch, batches⟩, left⟩
  · cases inHand_eq
  simp only [List.map_cons, List.cons.injEq] at inHand_eq
  have same : (batches ++ batch :: left).Perm (batch :: batches ++ left) := List.perm_middle
  refine ⟨?_, ?_, ?_, ?_⟩
  · rw [after_eq]
    exact inHand_eq.2
  · rw [drained_eq, ← follows.drained_eq]
    exact Multiset.coe_eq_coe.mpr (same.map Batch.completions)
  · exact fun other otherMem => follows.right other (same.mem_iff.mp otherMem)
  · intro other otherMem
    rcases List.mem_cons.mp otherMem with rfl | old
    · exact inHand_eq.1
    · exact follows.left_rest other old

/-- A completion that is taken up is told to the continuation of the errand whose record was pushed
last with its user data. -/
theorem dispatch {batch : List CompletionRecord} {delivered : ℕ} {outer : Bool}
    (follows : logbook.Follows platform (engine.next (.dispatch batch delivered outer)))
    (tells : manifest.Follows (engine.next (.dispatch batch delivered outer)))
    (sound : (engine.next (.dispatch batch delivered outer)).Sound flights hand) :
    (logbook.observe .step (engine.next (.dispatch batch delivered outer))
      (engine.runFrame platform (.dispatch batch delivered outer)) manifest).Follows platform
        (engine.runFrame platform (.dispatch batch delivered outer)) := by
  cases batch with
  | nil =>
      have left := Engine.rests_endDispatch (engine.next (.report delivered)) outer
      rcases left.journal with ⟨events, silent, appended⟩
      have since : (engine.next (.dispatch [] delivered outer)).eventsSince
          ((engine.next (.report delivered)).endDispatch outer) = events :=
        Engine.eventsSince_eq appended
      rw [Engine.runFrame, observe, since, foldr_of_not_traffic hear hear_of_not_traffic silent]
      exact follows.leave rfl left.inDelivery_eq left.drained_eq
  | cons completion rest =>
      rcases sound.delivers platform with
        ⟨event, after, after_eq, journal_eq, silent, -, inDelivery_eq, -, told⟩
      have since : (engine.next (.dispatch (completion :: rest) delivered outer)).eventsSince after =
          [event] := Engine.eventsSince_eq journal_eq
      have drained_eq : drained after.journal = drained engine.journal := by
        rw [journal_eq, drained_cons_of_not_traffic _ _ silent]
      rw [after_eq, observe, since, List.foldr_cons, List.foldr_nil, hear_of_not_traffic _ silent]
      refine follows.deliver rfl inDelivery_eq drained_eq ?_
      intro operation
      rcases told operation with ⟨tag, grip, continuation, inFlight, named, holds, rfl⟩
      have handed : (engine.next (.dispatch (completion :: rest) delivered outer)).Handed
          tag.toUInt64 :=
        .inl ⟨completion :: rest, List.mem_cons_self, named ▸ List.mem_cons_self⟩
      rcases tells.pushed_held tag grip inFlight handed with
        ⟨⟨_, errand⟩, found, ⟨slot, entry, previous, heap, rfl, awaited, prepared⟩, -⟩
      obtain rfl : errand.continuation = continuation :=
        Option.some_injective _ (awaited.symm.trans holds)
      have noted : manifest.lastPushed completion.userData = some errand := by
        rw [← named, Manifest.lastPushed, ← Manifest.lastRow, found]
        rfl
      exact ⟨errand, heap, previous, entry.payload, noted, prepared, since⟩

/-- A logbook goes on agreeing from step to step. -/
theorem step (follows : logbook.Follows platform engine) (tells : manifest.Follows engine)
    (sound : engine.Sound flights hand) (spare : engine.inFlight + 2 ≤ UInt32.size)
    (keeps : keepsContract (engine.step platform).journal) :
    (logbook.observe .step engine (engine.step platform) manifest).Follows platform
      (engine.step platform) := by
  rcases Engine.step_cases engine platform with ⟨turn, same⟩ | ⟨below, frame, rfl, stepped⟩
  · have nothing : logbook.note engine engine manifest = logbook := by
      rcases Engine.frames_of_awaitsCaller sound.healthy turn with empty | ⟨rest, running⟩
      · simp only [note, empty]
      · simp only [note, running]
    rw [same, observe, nothing]
    exact follows.passes (.rests (.refl engine))
  · rw [stepped] at keeps ⊢
    cases delivering : frame.batch? with
    | some batch =>
        cases frame with
        | dispatch batch delivered outer => exact follows.dispatch tells sound
        | _ => cases delivering
    | none =>
        have nothing : logbook.note (below.next frame) (below.runFrame platform frame) manifest =
            logbook := by
          cases frame <;> first | rfl | cases delivering
        rw [observe, nothing]
        cases staging : frame.isStage with
        | false => exact follows.passes (sound.passes_runFrame platform keeps staging delivering)
        | true =>
            cases frame with
            | stage request =>
                rcases sound.stages platform spare with ⟨after, after_eq, ⟨rests, -⟩ |
                  ⟨-, admissions, -, inDelivery_eq, journal_eq, -⟩⟩
                · rw [after_eq]
                  exact follows.passes (.rests rests)
                · have silent : (below.next (.stage request)).eventsSince after = [] :=
                    Engine.eventsSince_eq journal_eq
                  rw [after_eq, silent]
                  exact follows.congr inDelivery_eq (by rw [journal_eq]; rfl)
            | _ => cases staging

end Flights

end Follows

end Logbook

/-- A logbook goes on agreeing from move to move. -/
theorem Scene.logs_perform {platform : Platform κ} {engine : Engine κ τ} {logbook : Logbook κ τ}
    (follows : logbook.Follows platform engine) {manifest : Manifest τ}
    (tells : manifest.Follows engine) {flights : Multiset (Flight τ)}
    {hand : Multiset (Grip (Continuation τ))} (sound : engine.Sound flights hand)
    {pushes : List (PushPhase (Task τ))} {move : Move κ τ}
    (allowed : (Scene.mk engine pushes).allows move)
    (keeps : keepsContract ((Scene.mk engine pushes).perform platform move).engine.journal) :
    (logbook.observe move engine ((Scene.mk engine pushes).perform platform move).engine
      manifest).Follows platform ((Scene.mk engine pushes).perform platform move).engine := by
  cases move with
  | step => exact follows.step tells sound (by simpa [allows] using allowed) keeps
  | _ => exact follows.passes (passes_perform platform (by simp))

/-- What the observer of a run knows. -/
structure Chronicle (κ τ : Type) where
  manifest : Manifest τ
  logbook : Logbook κ τ

namespace Chronicle

/-- Nothing has been observed. -/
def blank : Chronicle κ τ := ⟨⟨[], []⟩, ⟨[], []⟩⟩

/-- Observe a move. -/
def observe (platform : Platform κ) (move : Move κ τ) (before after : Engine κ τ)
    (chronicle : Chronicle κ τ) : Chronicle κ τ where
  manifest := chronicle.manifest.observe platform move before after
  logbook := chronicle.logbook.observe move before after chronicle.manifest

end Chronicle

namespace Scene

/-- A scene after some moves, and what the observer knows by then. -/
def tell (platform : Platform κ) (moves : List (Move κ τ)) (scene : Scene κ τ) :
    Scene κ τ × Chronicle κ τ :=
  moves.foldl (fun (scene, chronicle) move =>
    (scene.perform platform move,
      chronicle.observe platform move scene.engine (scene.perform platform move).engine))
    (scene, .blank)

/-- What the observer of a run knows at its end. -/
def chronicle (platform : Platform κ) (moves : List (Move κ τ)) (scene : Scene κ τ) :
    Chronicle κ τ :=
  (scene.tell platform moves).2

theorem tell_append (platform : Platform κ) (moves : List (Move κ τ)) (move : Move κ τ)
    (start : Scene κ τ) :
    start.tell platform (moves ++ [move]) =
      (((start.tell platform moves).1.perform platform move),
        (start.tell platform moves).2.observe platform move (start.tell platform moves).1.engine
          ((start.tell platform moves).1.perform platform move).engine) := by
  rw [tell, List.foldl_append]
  rfl

/-- What the observer of a run knows agrees with the engine. -/
theorem follows_of_play {platform : Platform κ} {configuration : Configuration} {world : κ}
    {moves : List (Move κ τ)} {scene : Scene κ τ}
    (played : (opening configuration world).play? platform moves = some scene) :
    ((opening configuration world).tell platform moves).1 = scene ∧
      ((opening configuration world).chronicle platform moves).manifest.Follows scene.engine ∧
      ((opening configuration world).chronicle platform moves).logbook.Follows platform
        scene.engine := by
  refine play?_induction (fun moves scene =>
    ((opening configuration world).tell platform moves).1 = scene ∧
      ((opening configuration world).chronicle platform moves).manifest.Follows scene.engine ∧
      ((opening configuration world).chronicle platform moves).logbook.Follows platform
        scene.engine) ?_ ?_ played
  · refine ⟨rfl, ⟨rfl, rfl, by simp [chronicle, tell, Chronicle.blank], ?_⟩,
      ⟨rfl, rfl, by simp [chronicle, tell, Chronicle.blank],
        by simp [chronicle, tell, Chronicle.blank]⟩⟩
    intro tag grip inFlight
    have held := inFlight.2
    simp [opening, Engine.new] at held
  · rintro moves before move after playedBefore ⟨same, tells, logs⟩ moved
    rcases move?_eq_some.mp moved with ⟨allowed, keeps, rfl⟩
    rcases sound_of_play playedBefore with ⟨flights, hand, sound⟩
    simp only [chronicle, tell_append, same] at tells logs ⊢
    exact ⟨trivial, follows_perform tells sound allowed keeps,
      logs_perform logs tells sound allowed keeps⟩

end Scene

/-- In every run, whatever callers ask for from inside the code that the engine has entered, each
completion that is taken up, other than a wake-up, is told to the continuation of the errand whose
record was pushed last with the completion's user data, as what the errand's kind of operation makes
of just this completion. The completions of every batch that the ring has handed out are taken up in
the order of the batch, and a batch is left only when all of it has been taken up. -/
theorem told_of_play {platform : Platform κ} {configuration : Configuration} {world : κ}
    {moves : List (Move κ τ)} {scene : Scene κ τ}
    (played : (Scene.opening configuration world).play? platform moves = some scene) :
    let chronicle := (Scene.opening configuration world).chronicle platform moves
    let batches := chronicle.logbook.inHand ++ chronicle.logbook.left
    chronicle.manifest.pushed.map Prod.fst = accepted scene.engine.journal ∧
      (batches.map Batch.completions : Multiset (List CompletionRecord)) =
        drained scene.engine.journal ∧
      (∀ batch ∈ batches, batch.deliveries.map Delivery.completion ++ batch.rest =
          batch.completions ∧
        ∀ delivery ∈ batch.deliveries, delivery.completion.userData ≠ wakeUserData →
          delivery.Right platform) ∧
      chronicle.logbook.inHand.map Batch.rest = inDelivery scene.engine.frames ∧
      ∀ batch ∈ chronicle.logbook.left, batch.rest = [] := by
  rcases Scene.follows_of_play played with ⟨-, tells, logs⟩
  refine ⟨tells.pushed_eq, logs.drained_eq, ?_, logs.inHand_eq, logs.left_rest⟩
  intro batch batchMem
  exact ⟨(logs.right batch batchMem).inOrder, (logs.right batch batchMem).right⟩

open Simulation in
/-- Two reads are completed in one batch, and the code of the first asks for a third, which takes
over its tag and its slot while the second completion is still in hand. -/
theorem told_reused_tag :
    ∃ (moves : List (Move Script String)) (scene : Scene Script String),
      let start := Scene.opening .default (.new 8 .wait none [⟨none, some ⟨.length, .none⟩⟩])
      let logbook := (start.chronicle (Script.platform (.silent _)) moves).logbook
      start.play? (Script.platform (.silent _)) moves = some scene ∧
        (logbook.left.map fun batch => batch.deliveries.map fun delivery =>
          delivery.completion.userData) = [[0, 1]] ∧
        ∀ batch ∈ logbook.inHand ++ logbook.left,
          batch.deliveries.map Delivery.completion ++ batch.rest = batch.completions ∧
            ∀ delivery ∈ batch.deliveries, delivery.completion.userData ≠ wakeUserData →
              delivery.Right (Script.platform (.silent _)) := by
  let read (label : String) : Move Script String :=
    .request ⟨.read, ⟨⟨3⟩, ⟨4096, 16⟩, .current⟩, none⟩ label
  let moves : List (Move Script String) :=
    [read "first", Move.step, read "second", Move.step, Move.cycle none] ++
      List.replicate 5 Move.step ++
      [read "third", Move.step, Move.finish, Move.step, Move.finish, Move.step, Move.step]
  have plays : ((Scene.opening .default (.new 8 .wait none [⟨none, some ⟨.length, .none⟩⟩])).play?
      (Script.platform (.silent _)) moves).isSome := by
    decide +kernel
  rcases Option.isSome_iff_exists.mp plays with ⟨scene, played⟩
  exact ⟨moves, scene, played, by decide +kernel, (told_of_play played).2.2.1⟩

end CompletionEngine
