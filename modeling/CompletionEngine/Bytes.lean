/-!
# Bytes

Words as bytes of a fixed width, in either order, and byte blocks that are overwritten from the
front. Native layouts are built from these.
-/

namespace CompletionEngine.Bytes

/-- The `width` lowest bytes of a number, lowest first. -/
def littleEndian : Nat → Nat → List UInt8
  | 0, _ => []
  | width + 1, value => UInt8.ofNat (value % 256) :: littleEndian width (value / 256)

/-- The number whose bytes are given lowest first. -/
def ofLittleEndian : List UInt8 → Nat
  | [] => 0
  | byte :: rest => byte.toNat + 256 * ofLittleEndian rest

/-- The `width` lowest bytes of a number, highest first. -/
def bigEndian (width value : Nat) : List UInt8 := (littleEndian width value).reverse

/-- The number whose bytes are given highest first. -/
def ofBigEndian (bytes : List UInt8) : Nat := ofLittleEndian bytes.reverse

/-- A block whose front holds `bytes`, cut to the block, and whose rest is as before. -/
def overwrite {size : Nat} (bytes : List UInt8) (block : Vector UInt8 size) : Vector UInt8 size :=
  Vector.ofFn fun index => bytes.getD index block[index]

/-- The `width` bytes of a block from `offset` on. -/
def field {size : Nat} (block : Vector UInt8 size) (offset width : Nat) : List UInt8 :=
  (block.toList.drop offset).take width

/-- Two hexadecimal digits for each byte. -/
def hex (bytes : List UInt8) : String :=
  String.ofList (bytes.flatMap fun byte =>
    [Nat.digitChar (byte.toNat / 16), Nat.digitChar (byte.toNat % 16)])

/-- The value of a hexadecimal digit, written small. -/
def digitValue? (digit : Char) : Option Nat :=
  (List.range 16).find? fun value => Nat.digitChar value = digit

/-- The bytes written by two hexadecimal digits each. -/
def ofHex? : List Char → Option (List UInt8)
  | [] => some []
  | high :: low :: rest => do
    let upper ← digitValue? high
    let lower ← digitValue? low
    return UInt8.ofNat (upper * 16 + lower) :: (← ofHex? rest)
  | _ => none

end CompletionEngine.Bytes
