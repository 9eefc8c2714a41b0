import CompletionEngine.Proofs.Operation.Shown
import CompletionEngine.Simulation.Descriptors

/-!
# Traces of socket calls

A script is a list of socket calls. It is run by making its calls in order up to the first that
fails, and the calls made with their answers are its trace. What a system has open is known from the
traces of what was run on it.

To see which calls something makes that is given the calls of a system, these are written down as
they are answered. Writing them down changes nothing that it finds out, or does to the system.

A new socket is finished by a script. It is kept open if all of the script succeeds, and closed
again otherwise.
-/

namespace CompletionEngine

/-- A socket call with what it is asked for. -/
inductive SocketCall where
  | setOption (socket : Descriptor) (option : NativeOption)
  | bind (socket : Descriptor) (block : AddressBlock)
  | listen (socket : Descriptor) (backlog : Int32)
  | boundAddress (socket : Descriptor) (block : AddressBlock)
  | close (socket : Descriptor)
  deriving DecidableEq

/-- What a call answers. Only the query for an address gives anything back. -/
abbrev SocketAnswer := Except ErrorNumber (Option AddressBlock)

/-- Calls that were made, with their answers. -/
abbrev SocketTrace := List (SocketCall × SocketAnswer)

def SocketCall.closed? : SocketCall → Option Descriptor
  | close socket => some socket
  | _ => none

/-- The descriptors that a trace closes, as often as it closes them. -/
def SocketTrace.closed (trace : SocketTrace) : List Descriptor :=
  trace.filterMap fun made => made.1.closed?

namespace SocketCalls

variable {σ : Type} (calls : SocketCalls σ)

/-- Make a call. -/
def make : SocketCall → σ → SocketAnswer × σ
  | .setOption socket option, system =>
    (calls.setOption socket option system).map (·.map fun _ => none) id
  | .bind socket block, system => (calls.bind socket block system).map (·.map fun _ => none) id
  | .listen socket backlog, system =>
    (calls.listen socket backlog system).map (·.map fun _ => none) id
  | .boundAddress socket block, system =>
    (calls.boundAddress socket block system).map (·.map some) id
  | .close socket, system => (.ok none, calls.close socket system)

/-- A script is run from one state of the system to another. -/
inductive Runs : List SocketCall → σ → Except ErrorNumber Unit → SocketTrace → σ → Prop where
  | done (system : σ) : Runs [] system (.ok ()) [] system
  | fails {call : SocketCall} {system after : σ} {error : ErrorNumber}
    (made : calls.make call system = (.error error, after)) (rest : List SocketCall) :
    Runs (call :: rest) system (.error error) [(call, .error error)] after
  | goesOn {call : SocketCall} {system next after : σ} {block : Option AddressBlock}
    {rest : List SocketCall} {outcome : Except ErrorNumber Unit} {trace : SocketTrace}
    (made : calls.make call system = (.ok block, next))
    (later : Runs rest next outcome trace after) :
    Runs (call :: rest) system outcome ((call, .ok block) :: trace) after

namespace Runs

variable {calls} {first rest : List SocketCall} {outcome : Except ErrorNumber Unit}
  {trace later : SocketTrace} {system middle after : σ}

theorem append (runs : calls.Runs first system (.ok ()) trace middle)
    (more : calls.Runs rest middle outcome later after) :
    calls.Runs (first ++ rest) system outcome (trace ++ later) after := by
  generalize succeeded : Except.ok () = finished at runs
  induction runs with
  | done system => exact more
  | fails made remaining => cases succeeded
  | goesOn made _ ih => exact .goesOn made (ih more succeeded)

/-- What would have come after a call that failed is not made. -/
theorem append_of_fails {error : ErrorNumber}
    (runs : calls.Runs first system (.error error) trace after) (rest : List SocketCall) :
    calls.Runs (first ++ rest) system (.error error) trace after := by
  generalize failed : Except.error error = finished at runs
  induction runs with
  | done system => cases failed
  | fails made remaining => exact .fails made (remaining ++ rest)
  | goesOn made _ ih => exact .goesOn made (ih failed)

theorem calls_subset (runs : calls.Runs first system outcome trace after) :
    trace.map Prod.fst ⊆ first := by
  induction runs with
  | done system => exact List.Subset.refl []
  | fails made remaining => simp
  | goesOn made _ ih => exact List.cons_subset_cons _ ih

theorem closed_eq_nil (runs : calls.Runs first system outcome trace after)
    (keeps : ∀ call ∈ first, call.closed? = none) : trace.closed = [] := by
  apply List.filterMap_eq_nil_iff.mpr
  intro row member
  apply keeps
  apply runs.calls_subset
  exact List.mem_map_of_mem member

end Runs

/-- What is open on a system changes only when it is closed. -/
structure Tracks (isOpen : Descriptor → σ → Prop) : Prop where
  make : ∀ call system, call.closed? = none → ∀ descriptor,
    isOpen descriptor (calls.make call system).2 ↔ isOpen descriptor system
  close : ∀ socket system descriptor,
    isOpen descriptor (calls.close socket system) ↔ isOpen descriptor system ∧ descriptor ≠ socket

theorem Runs.isOpen_iff {calls : SocketCalls σ} {isOpen : Descriptor → σ → Prop}
    {script : List SocketCall} {outcome : Except ErrorNumber Unit} {trace : SocketTrace}
    {system after : σ} (runs : calls.Runs script system outcome trace after)
    (tracks : calls.Tracks isOpen) (keeps : ∀ call ∈ script, call.closed? = none)
    (descriptor : Descriptor) : isOpen descriptor after ↔ isOpen descriptor system := by
  induction runs with
  | done system => rfl
  | @fails call system after error made remaining =>
      have kept := tracks.make call system (keeps call List.mem_cons_self) descriptor
      rwa [made] at kept
  | @goesOn call system next after block rest outcome trace made _ ih =>
      have kept := tracks.make call system (keeps call List.mem_cons_self) descriptor
      rw [made] at kept
      exact (ih fun call member => keeps call (List.mem_cons_of_mem _ member)).trans kept

/-- An answer with the system it leaves, and the call written down behind those made before. -/
def note {α : Type} (call : SocketCall) (block? : α → Option AddressBlock)
    (answered : Except ErrorNumber α × σ) (trace : SocketTrace) :
    Except ErrorNumber α × σ × SocketTrace :=
  (answered.1, answered.2, trace ++ [(call, answered.1.map block?)])

/-- The same calls, written down as they are answered. -/
def recorded : SocketCalls (σ × SocketTrace) where
  setOption socket option state :=
    note (.setOption socket option) (fun _ => none) (calls.setOption socket option state.1) state.2
  bind socket block state :=
    note (.bind socket block) (fun _ => none) (calls.bind socket block state.1) state.2
  listen socket backlog state :=
    note (.listen socket backlog) (fun _ => none) (calls.listen socket backlog state.1) state.2
  boundAddress socket block state :=
    note (.boundAddress socket block) some (calls.boundAddress socket block state.1) state.2
  close socket state := (calls.close socket state.1, state.2 ++ [(.close socket, .ok none)])

/-- Writing calls down does not change how they are answered. -/
theorem recorded_shows : calls.recorded.Shows calls Prod.fst where
  setOption _ _ _ := rfl
  bind _ _ _ := rfl
  listen _ _ _ := rfl
  boundAddress _ _ _ := rfl
  close _ _ := rfl

theorem make_recorded (call : SocketCall) (system : σ) (trace : SocketTrace) :
    calls.recorded.make call (system, trace) =
      ((calls.make call system).1, (calls.make call system).2,
        trace ++ [(call, (calls.make call system).1)]) := by
  cases call <;> rfl

/-- A script that is run on a system that writes down what is asked of it leaves its trace there. -/
theorem Runs.of_recorded {calls : SocketCalls σ} {script : List SocketCall}
    {outcome : Except ErrorNumber Unit} {trace : SocketTrace} {start finish : σ × SocketTrace}
    (runs : calls.recorded.Runs script start outcome trace finish) :
    calls.Runs script start.1 outcome trace finish.1 ∧ finish.2 = start.2 ++ trace := by
  induction runs with
  | done state =>
      refine ⟨.done state.1, ?_⟩
      rw [List.append_nil]
  | @fails call state after error made remaining =>
      rcases state with ⟨system, written⟩
      rcases answered : calls.make call system with ⟨answer, next⟩
      rw [make_recorded, answered] at made
      cases made
      exact ⟨.fails answered remaining, rfl⟩
  | @goesOn call state next after block rest outcome trace made _ ih =>
      rcases state with ⟨system, written⟩
      rcases answered : calls.make call system with ⟨answer, later⟩
      rw [make_recorded, answered] at made
      cases made
      refine ⟨.goesOn answered ih.1, ?_⟩
      rw [ih.2, List.append_assoc]
      rfl

section NewSockets

/--
How a new socket is finished: either the whole script succeeds and reports what the operation
yields, or a call of it fails, nothing after that call is made, and the socket is closed.
-/
inductive Finishes {α : Type} (created : Descriptor) (script : List SocketCall)
    (Reports : SocketTrace → α → Prop) (system : σ) :
    Except Failure α → SocketTrace → σ → Prop where
  | keeps {output : α} {trace : SocketTrace} {after : σ}
    (runs : calls.Runs script system (.ok ()) trace after) (reports : Reports trace output) :
    Finishes created script Reports system (.ok output) trace after
  | discards {error : ErrorNumber} {trace : SocketTrace} {after : σ}
    (runs : calls.Runs script system (.error error) trace after) :
    Finishes created script Reports system (.error (.native error))
      (trace ++ [(.close created, .ok none)]) (calls.close created after)

variable {calls} {α : Type} {created : Descriptor} {script : List SocketCall}
  {Reports : SocketTrace → α → Prop} {outcome : Except Failure α} {trace : SocketTrace}

theorem Finishes.of_recorded {system : σ} {finish : σ × SocketTrace}
    (finishes : calls.recorded.Finishes created script Reports (system, []) outcome trace finish) :
    calls.Finishes created script Reports system outcome trace finish.1 ∧ finish.2 = trace := by
  cases finishes with
  | keeps runs reports =>
      rcases runs.of_recorded with ⟨runs, written⟩
      exact ⟨.keeps runs reports, written⟩
  | discards runs =>
      rcases runs.of_recorded with ⟨runs, written⟩
      refine ⟨.discards runs, ?_⟩
      exact congrArg (· ++ [(SocketCall.close created, .ok none)]) written

/-- A script fails with the number that one of its calls failed with. -/
theorem Runs.exists_failed {system after : σ} {error : ErrorNumber}
    (runs : calls.Runs script system (.error error) trace after) :
    ∃ call ∈ script, (call, .error error) ∈ trace := by
  generalize failed : Except.error error = finished at runs
  induction runs with
  | done system => cases failed
  | fails made remaining =>
      cases failed
      exact ⟨_, List.mem_cons_self, List.mem_cons_self⟩
  | goesOn made _ ih =>
      rcases ih failed with ⟨call, member, told⟩
      exact ⟨call, List.mem_cons_of_mem _ member, List.mem_cons_of_mem _ told⟩

variable {system after : σ}

theorem Finishes.exists_failed {failure : Failure}
    (finishes : calls.Finishes created script Reports system (.error failure) trace after) :
    ∃ error, failure = .native error ∧ ∃ call ∈ script, (call, .error error) ∈ trace := by
  cases finishes with
  | discards runs =>
      rcases runs.exists_failed with ⟨call, member, told⟩
      exact ⟨_, rfl, call, member, List.mem_append_left _ told⟩

theorem closed_append_close (trace : SocketTrace) (created : Descriptor) :
    SocketTrace.closed (trace ++ [(.close created, .ok none)]) = trace.closed ++ [created] := by
  simp [SocketTrace.closed, SocketCall.closed?]

/-- A new socket that is handed out is open, and no other descriptor is closed for it. -/
theorem Finishes.of_ok {output : α}
    (finishes : calls.Finishes created script Reports system (.ok output) trace after)
    (keeps : ∀ call ∈ script, call.closed? = none) :
    trace.closed = [] ∧ ∀ isOpen : Descriptor → σ → Prop, calls.Tracks isOpen →
      ∀ descriptor, isOpen descriptor after ↔ isOpen descriptor system := by
  cases finishes with
  | keeps runs reports =>
      refine ⟨runs.closed_eq_nil keeps, ?_⟩
      intro isOpen tracks
      exact runs.isOpen_iff tracks keeps

/-- A new socket that is not handed out is closed, once and nothing else with it. -/
theorem Finishes.of_error {failure : Failure}
    (finishes : calls.Finishes created script Reports system (.error failure) trace after)
    (keeps : ∀ call ∈ script, call.closed? = none) :
    trace.closed = [created] ∧ ∀ isOpen : Descriptor → σ → Prop, calls.Tracks isOpen →
      ∀ descriptor, isOpen descriptor after ↔ isOpen descriptor system ∧ descriptor ≠ created := by
  cases finishes with
  | discards runs =>
      constructor
      · rw [closed_append_close, runs.closed_eq_nil keeps, List.nil_append]
      · intro isOpen tracks descriptor
        rw [tracks.close, runs.isOpen_iff tracks keeps]

end NewSockets

end SocketCalls

namespace Simulation.DescriptorTable

theorem file?_cons (row : Int32 × OpenFile) (table : DescriptorTable) (number : Int32) :
    file? (row :: table) number = if number = row.1 then some row.2 else table.file? number := by
  rw [file?, List.lookup_cons]
  by_cases same : number = row.1
  · simp [same]
  · have different : (number == row.1) = false := beq_eq_false_iff_ne.mpr same
    simp only [different, file?, if_neg same]

theorem file?_remove (table : DescriptorTable) (closed number : Int32) :
    (table.remove closed).file? number = if number = closed then none else table.file? number := by
  induction table with
  | nil => split <;> rfl
  | cons row rest ih =>
      rw [remove] at ih
      rw [remove, List.filter_cons, file?_cons]
      by_cases dropped : row.1 = closed
      · subst dropped
        rw [if_neg (by simp), ih]
        split <;> rfl
      · rw [if_pos (by simpa using dropped), file?_cons, ih]
        split
        · next same => rw [if_neg (same ▸ dropped)]
        · rfl

theorem file?_insert (table : DescriptorTable) (opened number : Int32) (file : OpenFile) :
    (table.insert opened file).file? number =
      if number = opened then some file else table.file? number := by
  rw [insert, file?_cons, file?_remove]
  split <;> rfl

theorem isSome_onSocket (table : DescriptorTable) (descriptor : Descriptor)
    (action : Socket → Except ErrorNumber Socket) (number : Int32) :
    ((table.onSocket descriptor action).2.file? number).isSome = (table.file? number).isSome := by
  rw [onSocket]
  split
  · rfl
  · next socket found =>
      split
      · rw [file?_insert]
        split
        · next same =>
            rw [same, found]
            rfl
        · rfl
      · rfl
  · rfl

/-- Only closing a descriptor changes which of a process are open. -/
theorem tracks : socketCalls.Tracks fun descriptor table =>
    (table.file? descriptor.number).isSome where
  make := by
    intro call table keeps descriptor
    cases call with
    | close socket => cases keeps
    | boundAddress socket block => rfl
    | setOption socket option => exact Bool.coe_iff_coe.mpr (table.isSome_onSocket socket _ _)
    | bind socket block => exact Bool.coe_iff_coe.mpr (table.isSome_onSocket socket _ _)
    | listen socket backlog => exact Bool.coe_iff_coe.mpr (table.isSome_onSocket socket _ _)
  close := by
    intro socket table descriptor
    change ((table.remove socket.number).file? descriptor.number).isSome ↔ _
    rcases socket with ⟨closed⟩
    rcases descriptor with ⟨number⟩
    rw [file?_remove]
    simp only [ne_eq, Descriptor.mk.injEq]
    split <;> simp_all

end Simulation.DescriptorTable

end CompletionEngine
