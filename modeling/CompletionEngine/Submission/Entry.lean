import CompletionEngine.Submission.Record

/-!
# Submission queue entries

The native layout of a submission record: 64 bytes, little endian. Each opcode fills in the fields
it has a use for; all others are zero. Only flags with a name reach the kernel.
-/

namespace CompletionEngine

/-- The fields of a submission queue entry. -/
structure SubmissionEntry where
  opcode : Opcode
  flags : SubmitFlags
  descriptor : Int32
  offset : Operand
  address : Operand
  length : UInt32
  operationFlags : UInt32
  userData : UInt64
  spliceFrom : Int32
  deriving DecidableEq

namespace SubmissionEntry

/-- The operation flags that a timer knows. -/
def timerFlags : UInt32 := 0x7d

/-- An entry of a record that fills in no field of its own. -/
def common (record : SubmitRecord) : SubmissionEntry where
  opcode := record.opcode
  flags := record.flags.truncate
  descriptor := 0
  offset := .word 0
  address := .word 0
  length := 0
  operationFlags := 0
  userData := record.userData
  spliceFrom := 0

/-- The low 32 bits of a word. -/
def lowWord (value : UInt64) : UInt64 := value &&& 0xffffffff

/-- The low 32 bits of a word, read as a signed number and widened again. -/
def signedLowWord (value : UInt64) : UInt64 := value.toUInt32.toInt32.toInt64.toUInt64

/-- The entry that carries out a record. -/
def ofRecord (record : SubmitRecord) : SubmissionEntry :=
  let entry := common record
  match record.opcode with
  | .nop => { entry with descriptor := -1 }
  | .read | .write | .readv | .writev =>
    { entry with
      descriptor := record.descriptor
      address := record.address
      length := record.length
      offset := .word record.offset }
  | .timeout =>
    { entry with
      descriptor := -1
      address := record.address
      length := 1
      offset := .word (lowWord record.offset)
      operationFlags := record.operationFlags &&& timerFlags }
  | .linkTimeout =>
    { entry with
      descriptor := -1
      address := record.address
      length := 1
      operationFlags := record.operationFlags &&& timerFlags }
  | .close => { entry with descriptor := record.descriptor }
  | .splice =>
    { entry with
      descriptor := record.descriptor
      offset := .word record.offset
      address := record.address2
      length := record.length
      operationFlags := record.operationFlags
      spliceFrom := record.secondDescriptor }
  | .openAt =>
    { entry with
      descriptor := record.descriptor
      address := record.address
      length := record.length
      operationFlags := record.operationFlags }
  | .statx =>
    { entry with
      descriptor := record.descriptor
      address := record.address
      offset := record.address2
      length := record.length
      operationFlags := record.operationFlags }
  | .socket =>
    { entry with
      descriptor := record.descriptor
      offset := .word (signedLowWord record.offset)
      length := record.length }
  | .accept =>
    { entry with
      descriptor := record.descriptor
      address := record.address
      offset := record.address2
      operationFlags := record.operationFlags }
  | .connect =>
    { entry with
      descriptor := record.descriptor
      address := record.address
      offset := .word (lowWord record.offset) }
  | .pollAdd =>
    { entry with
      descriptor := record.descriptor
      operationFlags := record.operationFlags }

/-- The word of an operand, where `address` says which address a place stands for. -/
def operandWord (address : Place → UInt64) : Operand → UInt64
  | .word value => value
  | .block place memory => address place + UInt64.ofNat memory.offset

/-- The 64 bytes of an entry, where `address` says which address a place stands for. -/
def bytes (address : Place → UInt64) (entry : SubmissionEntry) : List UInt8 :=
  [entry.opcode.code, UInt8.ofNat entry.flags.bits.toNat, 0, 0] ++
    Bytes.littleEndian 4 entry.descriptor.toUInt32.toNat ++
    Bytes.littleEndian 8 (operandWord address entry.offset).toNat ++
    Bytes.littleEndian 8 (operandWord address entry.address).toNat ++
    Bytes.littleEndian 4 entry.length.toNat ++
    Bytes.littleEndian 4 entry.operationFlags.toNat ++
    Bytes.littleEndian 8 entry.userData.toNat ++
    List.replicate 4 0 ++
    Bytes.littleEndian 4 entry.spliceFrom.toUInt32.toNat ++
    List.replicate 16 0

end SubmissionEntry

end CompletionEngine
