import CompletionEngine.Failure

/-!
# Tag tables

A tag is the small number that a submission carries to the kernel and its completion brings back.
The table says what each tag stands for. The lowest free tag is handed out first, found through an
occupancy bitmap of 64 tags a block, so the table stays as small as the most tags ever in use.
-/

namespace CompletionEngine

/-- What each tag in use stands for. -/
structure TagTable (ρ : Type) where
  entries : Array (Option ρ)
  /-- A set bit is a tag in use. -/
  occupied : Array (BitVec 64)
  /-- The number of tags in use. -/
  live : Nat

namespace TagTable

variable {ρ : Type}

/-- A table without tags. -/
def new : TagTable ρ := ⟨#[], #[], 0⟩

/-- The lowest bit of a block that is not set, when there is one. -/
def lowestClear? (block : BitVec 64) : Option Nat :=
  (List.range 64).find? fun bit => !block.getLsbD bit

/-- Put a reference under a tag that lies in the table. -/
def occupy (table : TagTable ρ) (index bit : Nat) (reference : ρ) : TagTable ρ where
  entries := table.entries.setIfInBounds (index * 64 + bit) (some reference)
  occupied := table.occupied.modify index fun block => block ||| BitVec.twoPow 64 bit
  live := table.live + 1

/-- Append a block of free tags. -/
def grow (table : TagTable ρ) : TagTable ρ :=
  { table with
    entries := table.entries ++ Array.replicate 64 none
    occupied := table.occupied.push 0 }

/-- Register a reference under the lowest free tag. -/
def register (table : TagTable ρ) (reference : ρ) : UInt32 × TagTable ρ :=
  match table.occupied.findIdx? fun block => block ≠ BitVec.allOnes 64 with
  | some index =>
    let bit := (lowestClear? (table.occupied.getD index 0)).getD 0
    (UInt32.ofNat (index * 64 + bit), table.occupy index bit reference)
  | none =>
    (UInt32.ofNat (table.occupied.size * 64), table.grow.occupy table.occupied.size 0 reference)

/-- What a tag stands for. -/
def lookup? (table : TagTable ρ) (tag : UInt32) : Option ρ := (table.entries[tag.toNat]?).join

/-- Free a tag and tell what it stood for. -/
def resolve (table : TagTable ρ) (tag : UInt32) : Except Fault (ρ × TagTable ρ) :=
  match table.lookup? tag with
  | none => .error (.unknownTag tag)
  | some reference =>
    .ok (reference,
      { entries := table.entries.setIfInBounds tag.toNat none
        occupied := table.occupied.modify (tag.toNat / 64) fun block =>
          block &&& ~~~BitVec.twoPow 64 (tag.toNat % 64)
        live := table.live - 1 })

/-- Every tag in use with what it stands for, lowest tag first. -/
def bindings (table : TagTable ρ) : List (UInt32 × ρ) :=
  table.entries.toList.zipIdx.filterMap fun row =>
    row.1.map fun reference => (UInt32.ofNat row.2, reference)

/-- Free every tag, and tell what they stood for, lowest tag first. -/
def drain (table : TagTable ρ) : List (UInt32 × ρ) × TagTable ρ :=
  (table.bindings,
    { entries := table.entries.map fun _ => none
      occupied := table.occupied.map fun _ => 0
      live := 0 })

/-- Whether no tag is in use. -/
def isEmpty (table : TagTable ρ) : Bool := table.live = 0

/-- The number of tags the table can hold before it grows. -/
def capacity (table : TagTable ρ) : Nat := table.entries.size

end TagTable

/-- Where a registered operation lives: the pool of its kind and its slot there. -/
structure SlotRef where
  kind : Kind
  slot : UInt32
  deriving DecidableEq

end CompletionEngine
