/-!
# Documents

A document is a tree of named parts. What the library is asked for and what it tells can both be given
as documents: `Readable` types are read from one, `Writable` types are written as one. Reading never
fails. A part that is missing counts as null, and null is read as the default of its type.
-/

namespace CompletionEngine

/-- A tree of named parts. -/
inductive Document where
  | null
  | bool (value : Bool)
  | int (value : Int)
  | text (value : String)
  | list (items : List Document)
  | record (fields : List (String × Document))
deriving Inhabited

namespace Document

/-- The parts of a record with their names. -/
abbrev Fields := List (String × Document)

/-- Whether a document says nothing. -/
def isNull : Document → Bool
  | null => true
  | _ => false

/-- Whether a document is the number zero. -/
def isZero : Document → Bool
  | int value => value = 0
  | _ => false

/-- The named parts. -/
def allFields : Document → Fields
  | record fields => fields
  | _ => []

/-- The named parts that say something. -/
def fields (document : Document) : Fields :=
  document.allFields.filter fun field => !field.2.isNull

/-- A part of a document. -/
def part (document : Document) (name : String) : Document := (document.fields.lookup name).getD null

/-- The document with a part added, in place of one with the same name. -/
def withPart (document : Document) (name : String) (value : Document) : Document :=
  record ((name, value) :: document.allFields.filter fun field => field.1 ≠ name)

end Document

/-- Types whose values are read from documents. -/
class Readable (α : Type) where
  read : Document → α

/-- Types whose values are written as documents. -/
class Writable (α : Type) where
  write : α → Document

export Readable (read)
export Writable (write)

namespace Document

/-- A part of a document, read as the type that is wanted. -/
def get {α : Type} [Readable α] (document : Document) (name : String) : α :=
  read (document.part name)

/-- A part of a document, or else a default. -/
def getD {α : Type} [Readable α] (document : Document) (name : String) (default : α) : α :=
  match document.part name with
  | null => default
  | part => read part

/-- The parts of a list under a name. -/
def items (document : Document) (name : String) : List Document :=
  match document.part name with
  | list items => items
  | _ => []

/-- A success in a document. -/
def success (value : Document) : Document := record [("ok", value)]

/-- A failure in a document. -/
def failure (value : Document) : Document := record [("err", value)]

end Document

/-- Read a natural number, which is zero when a negative one is written. -/
instance : Readable Nat where
  read
    | .int value => value.toNat
    | _ => 0

instance : Readable Int where
  read
    | .int value => value
    | _ => 0

instance : Readable Document := ⟨id⟩
instance : Readable UInt8 := ⟨fun document => .ofNat (read document)⟩
instance : Readable UInt16 := ⟨fun document => .ofNat (read document)⟩
instance : Readable UInt32 := ⟨fun document => .ofNat (read document)⟩
instance : Readable UInt64 := ⟨fun document => .ofNat (read document)⟩
instance : Readable Int32 := ⟨fun document => .ofInt (read document)⟩
instance : Readable Int64 := ⟨fun document => .ofInt (read document)⟩

instance : Readable Bool where
  read
    | .bool value => value
    | _ => false

/-- Whether a part of a document is true. -/
def Document.holds (document : Document) (name : String) : Bool := document.get name

instance : Readable String where
  read
    | .text value => value
    | _ => ""

instance {α : Type} [Readable α] : Readable (Option α) where
  read
    | .null => none
    | document => some (read document)

instance {α : Type} [Readable α] : Readable (List α) where
  read
    | .list items => items.map read
    | _ => []

instance : Writable Document := ⟨id⟩
instance : Writable Unit := ⟨fun _ => .null⟩
instance : Writable Bool := ⟨.bool⟩
instance : Writable Int := ⟨.int⟩
instance : Writable String := ⟨.text⟩
instance : Writable Nat := ⟨fun value => .int value⟩
instance : Writable UInt8 := ⟨fun value => .int value.toNat⟩
instance : Writable UInt16 := ⟨fun value => .int value.toNat⟩
instance : Writable UInt32 := ⟨fun value => .int value.toNat⟩
instance : Writable UInt64 := ⟨fun value => .int value.toNat⟩
instance : Writable Int32 := ⟨fun value => .int value.toInt⟩
instance : Writable Int64 := ⟨fun value => .int value.toInt⟩

instance {α : Type} [Writable α] : Writable (Option α) where
  write
    | some value => write value
    | none => .null

instance {α : Type} [Writable α] : Writable (List α) := ⟨fun values => .list (values.map write)⟩

instance {α β : Type} [Writable α] [Writable β] : Writable (α × β) :=
  ⟨fun pair => .list [write pair.1, write pair.2]⟩

/-- Any value that can be written may stand for its document. -/
instance {α : Type} [Writable α] : CoeOut α Document := ⟨write⟩

instance {number : Nat} : OfNat Document number := ⟨.int number⟩

end CompletionEngine
