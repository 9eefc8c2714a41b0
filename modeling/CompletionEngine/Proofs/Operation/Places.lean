import CompletionEngine.Operation.Catalogue
import Mathlib.Data.List.Nodup

/-!
# Where the memory of an operation lies

A payload owns blocks of memory, and the record that it fills in points into these blocks and nowhere
else. Preparing a payload leaves the blocks that it has where they are, or replaces them, and makes
what it lacks at places that have not been given out before. Nothing else that is done to a payload
makes a block or moves one: what the kernel writes and what a result means concern only what blocks
hold, and recycling a payload drops blocks or keeps them.
-/

namespace CompletionEngine

/-- The place of a block that may not be there. -/
def Owned.places {α : Type} (block : Option (Owned α)) : List Place :=
  (block.map Owned.place).toList

/-- Changing what a block holds does not move it. -/
theorem Owned.places_map {α : Type} (block : Option (Owned α)) (change : α → α) :
    places (block.map (map change)) = places block := by
  cases block <;> rfl

/-- The places that a word of a record points at. -/
def Operand.places : Operand → List Place
  | .word _ => []
  | .block place _ => [place]

/-- The places that a record points at. -/
def SubmitRecord.places (record : SubmitRecord) : List Place :=
  record.address.places ++ record.address2.places

namespace Heap

/-- A place is one of the next two that a heap gives out. -/
def Gives (heap : Heap) (place : Place) : Prop :=
  heap.used ≤ place.number ∧ place.number < heap.grow.grow.used

theorem gives_place (heap : Heap) : heap.Gives heap.place :=
  ⟨Nat.le_refl _, Nat.lt_add_of_pos_right Nat.two_pos⟩

theorem gives_grow_place (heap : Heap) : heap.Gives heap.grow.place :=
  ⟨Nat.le_add_right _ 1, Nat.lt_add_one _⟩

/-- Each place is one of before, or one that the heap gives out, and none is there twice. -/
structure Supplies (heap : Heap) (before after : List Place) : Prop where
  nodup : after.Nodup
  origin : ∀ place ∈ after, place ∈ before ∨ heap.Gives place

namespace Supplies

variable {heap : Heap} {before after : List Place}

theorem of_sublist (nodup : before.Nodup) (part : after.Sublist before) :
    heap.Supplies before after :=
  ⟨nodup.sublist part, fun _ placeMem => .inl (part.subset placeMem)⟩

/-- A block that is made instead of whatever was there. -/
theorem of_place (heap : Heap) (before : List Place) : heap.Supplies before [heap.place] := by
  refine ⟨List.nodup_singleton heap.place, fun place placeMem => .inr ?_⟩
  rw [List.mem_singleton.mp placeMem]
  exact heap.gives_place

/-- A block that is there is changed where it lies, and else it is made. -/
theorem of_getD {α : Type} (heap : Heap) (block : Option (Owned α)) (content : α) (change : α → α) :
    heap.Supplies (Owned.places block)
      (Owned.places (some ((block.getD ⟨heap.place, content⟩).map change))) := by
  cases block with
  | some block => exact of_sublist (List.nodup_singleton block.place) (List.Sublist.refl _)
  | none => exact of_place heap []

/-- A block that is made, and another one that is changed where it lies, or else made too. -/
theorem of_place_of_getD {α : Type} (heap : Heap) (others : List Place) (block : Option (Owned α))
    (content : α) (change : α → α)
    (given : ∀ place ∈ Owned.places block, place.number < heap.used) :
    heap.Supplies (others ++ Owned.places block) (heap.place ::
      Owned.places (some ((block.getD ⟨heap.grow.place, content⟩).map change))) := by
  have origin : (block.getD ⟨heap.grow.place, content⟩).place ∈ Owned.places block ∨
      (block.getD ⟨heap.grow.place, content⟩).place = heap.grow.place := by
    cases block with
    | some block => exact .inl (List.mem_singleton_self _)
    | none => exact .inr rfl
  have ne : heap.place ≠ (block.getD ⟨heap.grow.place, content⟩).place := by
    intro same
    rcases origin with old | new
    · exact absurd (given _ old) (by rw [← same]; exact Nat.lt_irrefl _)
    · rw [new] at same
      simp [place, grow] at same
  refine ⟨List.nodup_cons.mpr ⟨mt List.mem_singleton.mp ne, List.nodup_singleton _⟩, ?_⟩
  intro place placeMem
  rcases List.mem_pair.mp placeMem with rfl | rfl
  · exact .inr heap.gives_place
  · rcases origin with old | new
    · exact .inl (List.mem_append_right others old)
    · right
      change heap.Gives (block.getD _).place
      rw [new]
      exact heap.gives_grow_place

end Supplies

end Heap

namespace Kind

/-- The places of the memory that a payload owns. -/
def places : (kind : Kind) → kind.Payload → List Place
  | delay, payload => Owned.places (DelayPayload.spec payload)
  | guard, payload => Owned.places (α := TimeSpec) payload
  | opening, payload => Owned.places (OpenPayload.path payload)
  | accept, payload => Owned.places (AcceptPayload.peer payload)
  | connect, payload => Owned.places (ConnectPayload.address payload)
  | status, payload =>
    Owned.places (StatusPayload.path payload) ++ Owned.places (StatusPayload.block payload)
  | _, _ => []

variable {kind : Kind} {payload : kind.Payload}

@[simp]
theorem places_fresh (kind : Kind) : kind.places kind.operation.fresh = [] := by
  cases kind <;> rfl

/-- A record points only at memory that the payload owns. -/
theorem places_fill (payload : kind.Payload) :
    (kind.operation.fill payload .blank).places ⊆ kind.places payload := by
  cases kind with
  | delay =>
      rcases payload with ⟨spec, started⟩
      cases spec <;> exact List.Subset.refl _
  | guard => cases payload <;> exact List.Subset.refl _
  | opening =>
      rcases payload with ⟨path, flags, mode⟩
      cases path <;> exact List.Subset.refl _
  | accept =>
      rcases payload with ⟨socket, flags, peer⟩
      cases peer with
      | none => exact List.Subset.refl _
      | some peer =>
          -- The storage and its length lie in one block.
          exact List.append_subset.mpr ⟨List.Subset.refl _, List.Subset.refl _⟩
  | connect =>
      rcases payload with ⟨socket, address⟩
      cases address <;> exact List.Subset.refl _
  | status =>
      rcases payload with ⟨directory, path, flags, mask, block⟩
      cases path <;> cases block <;> exact List.Subset.refl _
  | splice | socket => cases payload <;> exact List.Subset.refl _
  | listen =>
      rcases payload with ⟨params | params, scratch⟩ <;> exact List.Subset.refl _
  | _ => exact List.Subset.refl _

theorem places_receive (payload : kind.Payload) (written : KernelWrite) :
    kind.places (kind.operation.receive written payload) = kind.places payload := by
  cases kind with
  | accept =>
      rcases payload with ⟨socket, flags, peer⟩
      cases written with
      | peer bytes length => exact Owned.places_map peer (·.receive bytes length)
      | nothing | status _ => rfl
  | status =>
      rcases payload with ⟨directory, path, flags, mask, block⟩
      cases written with
      | status result => exact congrArg (Owned.places path ++ ·) (Owned.places_map block fun _ => result)
      | nothing | peer _ _ => rfl
  | _ => rfl

theorem places_translate {σ : Type} (payload : kind.Payload) (calls : SocketCalls σ)
    (now : Instant) (result : Int32) (system : σ) :
    kind.places (kind.operation.translate calls now result payload system).2.1 =
      kind.places payload := by
  cases kind with
  | socket | listen => simp only [places]
  | _ => rfl

/-- Recycling a payload drops blocks or keeps them. -/
theorem places_recycle (payload : kind.Payload) :
    (kind.places (kind.operation.recycle payload)).Sublist (kind.places payload) := by
  cases kind with
  | opening => exact List.nil_sublist _
  | status => exact List.sublist_append_right _ _
  | _ => exact List.Sublist.refl _

/-- Preparing a payload leaves blocks where they lie, drops them, or makes new ones elsewhere. -/
theorem supplies_prepare {now : Moment} {params : kind.Params} {prepared : kind.Payload}
    (prepares : kind.operation.prepare now params payload = .ok prepared)
    (given : ∀ place ∈ kind.places payload, place.number < now.heap.used) :
    now.heap.Supplies (kind.places payload) (kind.places prepared) := by
  cases kind with
  | delay =>
      cases prepares
      exact .of_getD now.heap (DelayPayload.spec payload) .zero (·.set params)
  | guard =>
      cases prepares
      exact .of_getD now.heap payload .zero (·.set params)
  | accept =>
      cases prepares
      exact .of_getD now.heap (AcceptPayload.peer payload) .blank (·.reset)
  | connect =>
      cases prepares
      exact .of_getD now.heap (ConnectPayload.address payload) .blank (·.assign params.2)
  | opening =>
      cases path : NativePath.ofBytes (OpenParams.path params) with
      | error failure => simp [operation, Operation.opening, path, bind, Except.bind] at prepares
      | ok path' =>
          simp only [operation, Operation.opening, path, bind, Except.bind] at prepares
          cases prepares
          exact .of_place now.heap _
  | status =>
      cases path : NativePath.ofBytes (StatusParams.start params).2 with
      | error failure => simp [operation, Operation.status, path, bind, Except.bind] at prepares
      | ok path' =>
          simp only [operation, Operation.status, path, bind, Except.bind] at prepares
          cases prepares
          exact .of_place_of_getD now.heap _ (StatusPayload.block payload) .zero (·.reset)
            fun place placeMem => given place (List.mem_append_right _ placeMem)
  | _ =>
      cases prepares
      exact ⟨List.nodup_nil, by simp [places]⟩

end Kind

end CompletionEngine
