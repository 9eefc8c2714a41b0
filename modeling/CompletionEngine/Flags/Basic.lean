/-!
# Flag sets

A flag family names some of the bits of a native word. A flag set keeps every bit of its word, also
those its family does not name, so encoding and decoding lose nothing. `decompose` splits a set into
the named flags it contains, in the order of declaration, and at most one remainder.
-/

namespace CompletionEngine

/-- A named flag and its native bits. -/
structure Flag where
  name : String
  bits : Nat
  deriving DecidableEq

/-- The named flags of one native word, whose width and signedness the kernel fixes. -/
structure FlagFamily where
  name : String
  width : Nat
  isSigned : Bool
  flags : List Flag

/-- A native word read as a set of the flags of `family`. Unknown bits are kept. -/
structure Flags (family : FlagFamily) where
  bits : BitVec family.width
  deriving DecidableEq

namespace Flags

variable {family : FlagFamily}

/-- The set holding exactly the given native bits, cut to the width of the family. -/
def ofNat (bits : Nat) : Flags family := ⟨BitVec.ofNat family.width bits⟩

/-- The set holding exactly the given native bits, as a signed word. -/
def ofInt (bits : Int) : Flags family := ⟨BitVec.ofInt family.width bits⟩

/-- The set holding one flag. -/
def ofFlag (flag : Flag) : Flags family := ofNat flag.bits

/-- The set without any bit. -/
def empty : Flags family := ⟨0⟩

/-- Every bit of either set. -/
def union (left right : Flags family) : Flags family := ⟨left.bits ||| right.bits⟩

/-- Every bit of both sets. -/
def intersection (left right : Flags family) : Flags family := ⟨left.bits &&& right.bits⟩

/-- Every bit of the left set that the right one lacks. -/
def difference (left right : Flags family) : Flags family := ⟨left.bits &&& ~~~right.bits⟩

/-- Every bit of exactly one set. -/
def symmetricDifference (left right : Flags family) : Flags family := ⟨left.bits ^^^ right.bits⟩

/-- Every named bit. -/
def all : Flags family := family.flags.foldl (fun set flag => set.union (ofFlag flag)) empty

/-- The set without its unknown bits. -/
def truncate (set : Flags family) : Flags family := set.intersection all

/-- Every named bit the set lacks. -/
def complement (set : Flags family) : Flags family := truncate ⟨~~~set.bits⟩

/-- Whether every bit of `other` is in the set. -/
def contains (set other : Flags family) : Bool := set.intersection other = other

/-- Whether the two sets share a bit. -/
def intersects (left right : Flags family) : Bool := left.intersection right ≠ empty

/-- Whether the set has no bit. -/
def isEmpty (set : Flags family) : Bool := set = empty

/-- Whether the set has every named bit. -/
def isAll (set : Flags family) : Bool := set.contains all

/-- The set of exactly these bits, when all of them are named. -/
def ofKnownBits? (set : Flags family) : Option (Flags family) :=
  if set.truncate = set then some set else none

/--
The flags of `candidates` that `source` contains, in order, with what `uncovered` keeps once they
are taken away. A flag counts only while it still covers something.
-/
def decomposeFrom (source : Flags family) :
    List Flag → Flags family → List Flag × Flags family
  | [], uncovered => ([], uncovered)
  | flag :: rest, uncovered =>
    if source.contains (ofFlag flag) && uncovered.intersects (ofFlag flag) then
      let (flags, remainder) := decomposeFrom source rest (uncovered.difference (ofFlag flag))
      (flag :: flags, remainder)
    else
      decomposeFrom source rest uncovered

/-- The named flags of a set in the order of declaration, and the bits they do not cover. -/
def decompose (set : Flags family) : List Flag × Flags family :=
  decomposeFrom set family.flags set

/-- The parts of a set: its named flags, then the remainder when it has bits. -/
def parts (set : Flags family) : List (Flags family) :=
  let (flags, remainder) := set.decompose
  flags.map ofFlag ++ if remainder.isEmpty then [] else [remainder]

/-- The native value of the set, signed where the native word is. -/
def value (set : Flags family) : Int :=
  if family.isSigned then set.bits.toInt else set.bits.toNat

/-- The set as diagnostics show it: its flags by name, then the remainder in hexadecimal. -/
def debugText (set : Flags family) : String :=
  let (flags, remainder) := set.decompose
  let hex := "0x" ++ String.ofList (Nat.toDigits 16 remainder.bits.toNat)
  let shown :=
    flags.map Flag.name ++ if remainder.isEmpty && !flags.isEmpty then [] else [hex]
  family.name ++ "(" ++ String.intercalate " | " shown ++ ")"

/-- The set as an unsigned 32-bit word. -/
def toUInt32 (set : Flags family) : UInt32 := UInt32.ofNat set.bits.toNat

instance : Inhabited (Flags family) := ⟨empty⟩

end Flags

/-- The flag of a family that bears exactly this name. -/
def FlagFamily.find? (family : FlagFamily) (name : String) : Option Flag :=
  family.flags.find? (·.name = name)

end CompletionEngine
