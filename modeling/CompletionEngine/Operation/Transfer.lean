import CompletionEngine.Operation.Basic

/-!
# Transfers

Reading and writing, whole or vectored, and moving bytes between two descriptors. All of them yield
the number of bytes moved. A single transfer is never asked to move more than `maxTransfer` bytes.
-/

namespace CompletionEngine

/-- A read or write: which descriptor, which memory and where in the file. -/
structure Transfer where
  descriptor : Descriptor
  span : BufferSpan
  offset : Offset

/-- No transfer. -/
def Transfer.none : Transfer := ⟨.invalid, ⟨0, 0⟩, .current⟩

/-- The transfer with its length cut to the longest that may be asked for. -/
def Transfer.clamp (transfer : Transfer) : Transfer :=
  { transfer with span.length := min transfer.span.length maxTransfer }

/-- A vectored read or write: which descriptor, which list of memory and where in the file. -/
structure VectorTransfer where
  descriptor : Descriptor
  span : VectorSpan
  offset : Offset

/-- No vectored transfer. -/
def VectorTransfer.none : VectorTransfer := ⟨.invalid, ⟨0, 0⟩, .current⟩

/-- Moving bytes from one descriptor to another. -/
structure SpliceParams where
  source : Descriptor
  sourceOffset : Offset
  target : Descriptor
  targetOffset : Offset
  count : UInt64
  flags : SpliceFlags

/-- Move bytes between two descriptors at their own positions. -/
def SpliceParams.between (source target : Descriptor) (count : UInt64) : SpliceParams :=
  ⟨source, .current, target, .current, count, .empty⟩

namespace Operation

/-- A transfer under the given opcode. -/
def transfer (opcode : Opcode) : Operation where
  Params := Transfer
  Output := UInt64
  Payload := Transfer
  fresh := .none
  prepare _ transfer _ := .ok transfer.clamp
  fill payload record :=
    { record with
      opcode := opcode
      descriptor := payload.descriptor.number
      address := .word payload.span.address
      length := payload.span.length
      offset := payload.offset }
  receive _ payload := payload
  translate _ _ result payload system := (checkResult result UInt32.toUInt64, payload, system)
  recycle _ := .none
  dispose _ := .none

/-- A vectored transfer under the given opcode. -/
def vectorTransfer (opcode : Opcode) : Operation where
  Params := VectorTransfer
  Output := UInt64
  Payload := VectorTransfer
  fresh := .none
  prepare _ transfer _ := .ok transfer
  fill payload record :=
    { record with
      opcode := opcode
      descriptor := payload.descriptor.number
      address := .word payload.span.address
      length := payload.span.count
      offset := payload.offset }
  receive _ payload := payload
  translate _ _ result payload system := (checkResult result UInt32.toUInt64, payload, system)
  recycle _ := .none
  dispose _ := .none

/-- Read into memory of the caller. -/
def read : Operation := transfer .read

/-- Write from memory of the caller. -/
def write : Operation := transfer .write

/-- Read into a list of memory of the caller. -/
def readVector : Operation := vectorTransfer .readv

/-- Write from a list of memory of the caller. -/
def writeVector : Operation := vectorTransfer .writev

/-- Move bytes between two descriptors. -/
def splice : Operation where
  Params := SpliceParams
  Output := UInt64
  Payload := Option SpliceParams
  fresh := none
  prepare _ params _ := .ok (some params)
  fill
    | none, record => { record with opcode := .splice, descriptor := Descriptor.invalid.number }
    | some params, record =>
      { record with
        opcode := .splice
        secondDescriptor := params.source.number
        address2 := .word params.sourceOffset
        descriptor := params.target.number
        offset := params.targetOffset
        length := (min params.count maxTransfer.toUInt64).toUInt32
        operationFlags := params.flags.toUInt32 }
  receive _ payload := payload
  translate _ _ result payload system := (checkResult result UInt32.toUInt64, payload, system)
  recycle _ := none
  dispose _ := none

end Operation

end CompletionEngine
