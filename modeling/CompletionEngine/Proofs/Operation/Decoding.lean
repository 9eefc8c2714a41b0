import CompletionEngine.Proofs.Address.Codec
import CompletionEngine.Proofs.Slots.Entry

/-!
# Reading a record back

What a submission record asks for can be read from it, and from the memory that it points at, by the
table of its fields. A record rendered for accepted parameters asks for just what these say. Only
the lengths of single transfers are cut, and a field that the opcode has no use for is zero.

The type word of a socket is the exception: any bit of the socket flags goes into it, also one that
has no name there and belongs to the number of a type. Then the word names another type, or none.
-/

namespace CompletionEngine

/-- A field of a record whose meaning depends on the opcode. -/
inductive RecordField where
  | descriptor
  | address
  | length
  | offset
  | address2
  | operationFlags
  | secondDescriptor
  deriving DecidableEq

/-- The fields that an opcode has a use for. -/
def Opcode.uses : Opcode → List RecordField
  | nop => []
  | close => [.descriptor]
  | read | write | readv | writev => [.descriptor, .address, .length, .offset]
  | timeout => [.address, .offset, .operationFlags]
  | linkTimeout => [.address, .operationFlags]
  | splice =>
    [.descriptor, .length, .offset, .address2, .operationFlags, .secondDescriptor]
  | openAt => [.descriptor, .address, .length, .operationFlags]
  | statx => [.descriptor, .address, .length, .address2, .operationFlags]
  | socket => [.descriptor, .length, .offset]
  | accept => [.descriptor, .address, .address2, .operationFlags]
  | connect => [.descriptor, .address, .offset]
  | pollAdd => [.descriptor, .operationFlags]

def SubmitRecord.IsZeroAt (record : SubmitRecord) : RecordField → Prop
  | .descriptor => record.descriptor = 0
  | .address => record.address = .word 0
  | .length => record.length = 0
  | .offset => record.offset = 0
  | .address2 => record.address2 = .word 0
  | .operationFlags => record.operationFlags = 0
  | .secondDescriptor => record.secondDescriptor = 0

/-- The record with only some of its fields. -/
def SubmitRecord.keep (record : SubmitRecord) (fields : List RecordField) : SubmitRecord :=
  { record with
    descriptor := if .descriptor ∈ fields then record.descriptor else 0
    address := if .address ∈ fields then record.address else .word 0
    length := if .length ∈ fields then record.length else 0
    offset := if .offset ∈ fields then record.offset else 0
    address2 := if .address2 ∈ fields then record.address2 else .word 0
    operationFlags := if .operationFlags ∈ fields then record.operationFlags else 0
    secondDescriptor := if .secondDescriptor ∈ fields then record.secondDescriptor else 0 }

theorem SubmitRecord.isZeroAt_of_keep {record : SubmitRecord} {fields : List RecordField}
    (kept : record.keep fields = record) {field : RecordField} (unused : field ∉ fields) :
    record.IsZeroAt field := by
  rw [← kept]
  cases field <;> exact if_neg unused

/-- What the kernel is asked to do, with what it finds in memory. -/
inductive NativeCall where
  | nop
  /-- The time comes in nanoseconds, with a number of completions to wait for instead. -/
  | delay (nanos : Nat) (count : UInt64) (flags : UInt32)
  | guard (nanos : Nat) (flags : UInt32)
  | close (descriptor : Descriptor)
  | read (transfer : Transfer)
  | write (transfer : Transfer)
  | readVector (transfer : VectorTransfer)
  | writeVector (transfer : VectorTransfer)
  | splice (params : SpliceParams)
  | opening (directory : Descriptor) (params : OpenParams)
  /-- The type word may name no type. -/
  | socket (family : AddressFamily) (type? : Option SocketType) (flags : SocketFlags)
    (protocol : UInt32)
  | accept (socket : Descriptor) (flags : SocketFlags) (peer : AddressBlock)
  | connect (socket : Descriptor) (address : SocketAddress)
  | status (directory : Descriptor) (path : List UInt8) (flags : StatusFlags) (mask : StatusMask)
    (block : StatusBlock)
  | poll (descriptor : Descriptor) (mask : UInt32)

namespace Operand

def word? : Operand → Option UInt64
  | .word value => some value
  | _ => none

/-- The nanoseconds of a time specification, unless it has more of them left over than a second. -/
def nanos? : Operand → Option Nat
  | .block _ (.timeSpec spec) =>
    if spec.nanos.toNat < 1000000000 then some (spec.seconds.toNat * 1000000000 + spec.nanos.toNat)
    else none
  | _ => none

/-- The bytes of a path up to the first NUL byte. -/
def path? : Operand → Option (List UInt8)
  | .block _ (.path path) => some ((path.bytes ++ [0]).takeWhile (· ≠ 0))
  | _ => none

def address? : Operand → Option (Owned AddressBlock)
  | .block place (.address memory) => some ⟨place, memory⟩
  | _ => none

def addressLength? : Operand → Option (Owned AddressBlock)
  | .block place (.addressLength memory) => some ⟨place, memory⟩
  | _ => none

def status? : Operand → Option StatusBlock
  | .block _ (.status memory) => some memory
  | _ => none

end Operand

/-- The type that the four lowest bits of a type word name. -/
def SocketType.ofWord? (word : UInt32) : Option SocketType :=
  all.find? fun type => type.native.toUInt32 = word &&& 0xf

/-- Read a record by the table of its fields. -/
def SubmitRecord.call? (record : SubmitRecord) : Option NativeCall :=
  match record.opcode with
  | .nop => some .nop
  | .timeout => record.address.nanos?.map (.delay · record.offset record.operationFlags)
  | .linkTimeout => record.address.nanos?.map (.guard · record.operationFlags)
  | .close => some (.close ⟨record.descriptor⟩)
  | .read => record.address.word?.map fun address =>
    .read ⟨⟨record.descriptor⟩, ⟨address, record.length⟩, record.offset⟩
  | .write => record.address.word?.map fun address =>
    .write ⟨⟨record.descriptor⟩, ⟨address, record.length⟩, record.offset⟩
  | .readv => record.address.word?.map fun address =>
    .readVector ⟨⟨record.descriptor⟩, ⟨address, record.length⟩, record.offset⟩
  | .writev => record.address.word?.map fun address =>
    .writeVector ⟨⟨record.descriptor⟩, ⟨address, record.length⟩, record.offset⟩
  | .splice => record.address2.word?.map fun sourceOffset =>
    .splice ⟨⟨record.secondDescriptor⟩, sourceOffset, ⟨record.descriptor⟩, record.offset,
      record.length.toUInt64, .ofNat record.operationFlags.toNat⟩
  | .openAt => record.address.path?.map fun path =>
    .opening ⟨record.descriptor⟩
      ⟨path, .ofNat record.operationFlags.toNat, .ofNat record.length.toNat⟩
  | .statx => do
    let path ← record.address.path?
    let block ← record.address2.status?
    some (.status ⟨record.descriptor⟩ path (.ofNat record.operationFlags.toNat)
      (.ofNat record.length.toNat) block)
  | .socket => do
    let family ← [AddressFamily.inet, .inet6].find? fun family => family.native = record.descriptor
    some (.socket family (SocketType.ofWord? record.offset.toUInt32)
      (Flags.ofNat record.offset.toUInt32.toNat).truncate record.length)
  | .accept => do
    let peer ← record.address.address?
    let holder ← record.address2.addressLength?
    if peer = holder then
      some (.accept ⟨record.descriptor⟩ (.ofNat record.operationFlags.toNat) peer.content)
    else none
  | .connect => do
    let block ← record.address.address?
    let address ← { block.content with length := record.offset.toUInt32 }.extract?
    some (.connect ⟨record.descriptor⟩ address)
  | .pollAdd => some (.poll ⟨record.descriptor⟩ record.operationFlags)

/-- Socket flags that leave the number of the type alone. -/
def SocketParams.KeepsType (params : SocketParams) : Prop :=
  params.flags.toUInt32 &&& 0xf &&& ~~~params.type.native.toUInt32 = 0

/-- A call for a socket as asked for, with the named ones of its flags. -/
def SocketParams.ConveyedBy (params : SocketParams) (call : NativeCall) : Prop :=
  ∃ type?, call = .socket params.family type? params.flags.truncate 0 ∧
    (type? = some params.type ↔ params.KeepsType)

/-- A call for just what parameters say. A single transfer is cut to what one may move. -/
def Kind.ConveyedBy : (kind : Kind) → kind.Params → NativeCall → Prop
  | nop, _, call => call = .nop
  | delay, limit, call => call = .delay (TimeLimit.nanos limit).toNat 0 0
  | guard, limit, call => call = .guard (TimeLimit.nanos limit).toNat 0
  | close, descriptor, call => call = .close descriptor
  | read, transfer, call => ∃ length : UInt32,
    length.toNat = min (BufferSpan.length (Transfer.span transfer)).toNat 0x7ffff000 ∧
      call = .read { (transfer : Transfer) with span.length := length }
  | write, transfer, call => ∃ length : UInt32,
    length.toNat = min (BufferSpan.length (Transfer.span transfer)).toNat 0x7ffff000 ∧
      call = .write { (transfer : Transfer) with span.length := length }
  | readVector, transfer, call => call = .readVector transfer
  | writeVector, transfer, call => call = .writeVector transfer
  | splice, params, call => ∃ count : UInt64,
    count.toNat = min (SpliceParams.count params).toNat 0x7ffff000 ∧
      call = .splice { (params : SpliceParams) with count := count }
  | opening, params, call => call = .opening .workingDirectory params
  | socket, params, call => SocketParams.ConveyedBy params call
  | listen, params, call => SocketParams.ConveyedBy (ListenParams.socket params) call
  | accept, params, call => call = .accept params.1 params.2 .blank
  | connect, params, call => call = .connect params.1 params.2
  | status, params, call =>
    call = .status (StatusParams.start params).1 (StatusParams.start params).2
      (StatusParams.flags params) (StatusParams.mask params) .zero

section Words

theorem toUInt32_toInt64 (word : Int32) : word.toInt64.toUInt64.toUInt32 = word.toUInt32 := by
  apply UInt32.eq_of_toBitVec_eq
  rw [UInt64.toBitVec_toUInt32, Int64.toBitVec_toUInt64, Int32.toBitVec_toInt64,
    Int32.toBitVec_toUInt32]
  apply BitVec.eq_of_getLsbD_eq
  intro index inside
  have wide : index < 64 := by omega
  rw [BitVec.getLsbD_setWidth, BitVec.getLsbD_signExtend]
  simp [inside, wide]

/-- Adding bits to a word leaves it as it is if they are in it already. -/
theorem or_eq_left_iff {width : Nat} (word bits : BitVec width) :
    word ||| bits = word ↔ bits &&& ~~~word = BitVec.ofNat width 0 := by
  simp only [BitVec.eq_of_getLsbD_eq_iff, BitVec.getLsbD_or, BitVec.getLsbD_and, BitVec.getLsbD_not,
    BitVec.getLsbD_zero]
  refine forall₂_congr ?_
  intro index inside
  cases word.getLsbD index <;> simp [inside]

theorem Flags.ofNat_toUInt32 {family : FlagFamily} (wide : family.width = 32)
    (set : Flags family) : ofNat set.toUInt32.toNat = set := by
  rcases set with ⟨bits⟩
  have small : bits.toNat < UInt32.size := lt_of_lt_of_eq bits.isLt (by rw [wide])
  have kept : (UInt32.ofNat bits.toNat).toNat = bits.toNat := UInt32.toNat_ofNat_of_lt' small
  rw [ofNat, toUInt32, kept, BitVec.ofNat_toNat, BitVec.setWidth_eq]

theorem toNat_min_maxTransfer (length : UInt32) :
    (min length maxTransfer).toNat = min length.toNat 0x7ffff000 := by
  change (if length ≤ maxTransfer then length else maxTransfer).toNat = _
  have bound : maxTransfer.toNat = 0x7ffff000 := rfl
  split
  · next below =>
      have small := UInt32.le_iff_toNat_le.mp below
      omega
  · next above =>
      have large := UInt32.lt_iff_toNat_lt.mp (UInt32.not_le.mp above)
      omega

theorem toNat_min_count (count : UInt64) :
    (min count maxTransfer.toUInt64).toUInt32.toUInt64.toNat = min count.toNat 0x7ffff000 := by
  change (if count ≤ maxTransfer.toUInt64 then count
    else maxTransfer.toUInt64).toUInt32.toUInt64.toNat = _
  have bound : maxTransfer.toUInt64.toNat = 0x7ffff000 := rfl
  rw [UInt32.toNat_toUInt64, UInt64.toNat_toUInt32]
  split
  · next below =>
      have small := UInt64.le_iff_toNat_le.mp below
      omega
  · next above =>
      have large := UInt64.lt_iff_toNat_lt.mp (UInt64.not_le.mp above)
      omega

end Words

namespace SocketType

theorem ofWord?_eq_some_iff {word : UInt32} {type : SocketType} :
    ofWord? word = some type ↔ type.native.toUInt32 = word &&& 0xf := by
  constructor
  · intro found
    simpa using List.find?_some found
  · intro named
    rw [ofWord?, ← named]
    cases type <;> decide

/-- A type is named by its number, together with flags that are not of another one. -/
theorem ofWord?_native_or (type : SocketType) (flags : UInt32) :
    ofWord? (type.native.toUInt32 ||| flags) = some type ↔
      flags &&& 0xf &&& ~~~type.native.toUInt32 = 0 := by
  have low : type.native.toUInt32 &&& 0xf = type.native.toUInt32 := by cases type <;> decide
  rw [ofWord?_eq_some_iff]
  generalize type.native.toUInt32 = number at *
  have apart : (number ||| flags) &&& 0xf = number ||| flags &&& 0xf := by
    apply UInt32.eq_of_toBitVec_eq
    rw [UInt32.toBitVec_and, UInt32.toBitVec_or, BitVec.and_or_distrib_right, ← UInt32.toBitVec_and,
      low, ← UInt32.toBitVec_and, ← UInt32.toBitVec_or]
  rw [apart, eq_comm, ← UInt32.toBitVec_inj, ← UInt32.toBitVec_inj]
  exact or_eq_left_iff number.toBitVec (flags &&& 0xf).toBitVec

end SocketType

theorem SocketParams.toUInt32_offset_fill (params : SocketParams) (record : SubmitRecord) :
    (params.fill record).offset.toUInt32 =
      params.type.native.toUInt32 ||| params.flags.toUInt32 := by
  rw [fill, toUInt32_toInt64, Int32.toUInt32_or, UInt32.toUInt32_toInt32]

/-- No named flag is in the number of a type. -/
theorem SocketParams.truncate_offset (params : SocketParams) :
    (Flags.ofNat (params.type.native.toUInt32 ||| params.flags.toUInt32).toNat).truncate =
      params.flags.truncate := by
  rcases params with ⟨family, type, flags, options⟩
  have unnamed : type.native.toUInt32.toBitVec &&& 0x80800 = BitVec.ofNat 32 0 := by
    cases type <;> decide
  have kept : BitVec.ofNat 32 flags.toUInt32.toNat = flags.bits :=
    congrArg Flags.bits (Flags.ofNat_toUInt32 rfl flags)
  have named : (Flags.all : SocketFlags).bits = BitVec.ofNat 32 0x80800 := rfl
  apply congrArg Flags.mk
  rw [named, ← kept]
  change BitVec.ofNat 32 (type.native.toUInt32 ||| flags.toUInt32).toBitVec.toNat &&& 0x80800 =
    BitVec.ofNat 32 flags.toUInt32.toBitVec.toNat &&& 0x80800
  rw [BitVec.ofNat_toNat, BitVec.ofNat_toNat, BitVec.setWidth_eq, BitVec.setWidth_eq,
    UInt32.toBitVec_or, BitVec.and_or_distrib_right, unnamed, BitVec.zero_or]

theorem SocketParams.conveyedBy_fill (params : SocketParams) :
    ∃ call, (params.fill .blank).call? = some call ∧ params.ConveyedBy call := by
  refine ⟨.socket params.family (SocketType.ofWord? (params.fill .blank).offset.toUInt32)
    params.flags.truncate 0, ?_, _, rfl, ?_⟩
  · rw [← params.truncate_offset, ← params.toUInt32_offset_fill .blank]
    rcases params with ⟨family, type, flags, options⟩
    cases family <;> rfl
  · rw [toUInt32_offset_fill, SocketType.ofWord?_native_or]
    rfl

namespace Kind

variable {kind : Kind} {params : kind.Params}

theorem accepts_of_prepare {now : Moment} {before payload : kind.Payload}
    (prepared : kind.operation.prepare now params before = .ok payload) : kind.Accepts params := by
  apply Classical.byContradiction
  intro refuses
  rw [prepare_of_refuses refuses] at prepared
  cases prepared

/-- A field that the opcode has no use for stays zero. -/
theorem isZeroAt_of_prepare {now : Moment} {before payload : kind.Payload}
    (prepared : kind.operation.prepare now params before = .ok payload) :
    ∀ field ∉ (kind.operation.fill payload .blank).opcode.uses,
      (kind.operation.fill payload .blank).IsZeroAt field := by
  have accepts := accepts_of_prepare prepared
  intro field unused
  apply SubmitRecord.isZeroAt_of_keep _ unused
  cases kind with
  | opening =>
      have path := NativePath.ofBytes_of_notMem accepts
      simp only [operation, Operation.opening, path] at prepared
      cases prepared
      rfl
  | status =>
      have path := NativePath.ofBytes_of_notMem accepts
      simp only [operation, Operation.status, path] at prepared
      cases prepared
      rfl
  | _ =>
      cases prepared
      rfl

theorem nanos?_timeSpec (limit : TimeLimit) (place : Place) :
    Operand.nanos? (.block place (.timeSpec limit.timeSpec)) = some limit.nanos.toNat := by
  have spells := TimeSpec.spells_timeSpec limit
  simp only [Operand.nanos?]
  rw [if_pos spells.2, spells.1]

theorem path?_of_notMem {bytes : List UInt8} (clean : 0 ∉ bytes) (place : Place) :
    Operand.path? (.block place (.path ⟨bytes⟩)) = some bytes := by
  have unending (byte : UInt8) (member : byte ∈ bytes) : decide (byte ≠ 0) = true := by
    apply decide_eq_true
    rintro rfl
    exact clean member
  simp only [Operand.path?]
  rw [List.takeWhile_append_of_pos unending]
  simp

/-- A record rendered for accepted parameters asks for what they say. -/
theorem conveyedBy_of_prepare {now : Moment} {before payload : kind.Payload}
    (prepared : kind.operation.prepare now params before = .ok payload) :
    ∃ call, (kind.operation.fill payload .blank).call? = some call ∧
      kind.ConveyedBy params call := by
  have accepts := accepts_of_prepare prepared
  cases kind with
  | nop | close | readVector | writeVector =>
      cases prepared
      exact ⟨_, rfl, rfl⟩
  | delay =>
      cases prepared
      exact ⟨_, congrArg (Option.map _) (nanos?_timeSpec params _), rfl⟩
  | guard =>
      cases prepared
      exact ⟨_, congrArg (Option.map _) (nanos?_timeSpec params _), rfl⟩
  | read | write =>
      cases prepared
      exact ⟨_, rfl, _, toNat_min_maxTransfer _, rfl⟩
  | splice =>
      cases prepared
      rcases params with ⟨source, sourceOffset, target, targetOffset, count, flags⟩
      have flags_eq := Flags.ofNat_toUInt32 rfl flags
      refine ⟨_, ?_, _, toNat_min_count count, rfl⟩
      simp only [operation, Operation.splice, SubmitRecord.call?, Operand.word?, Option.map_some]
      rw [flags_eq]
  | opening =>
      have path := NativePath.ofBytes_of_notMem accepts
      simp only [operation, Operation.opening, path] at prepared
      cases prepared
      rcases params with ⟨bytes, flags, mode⟩
      have flags_eq := Flags.ofNat_toUInt32 rfl flags
      have mode_eq := Flags.ofNat_toUInt32 rfl mode
      refine ⟨_, ?_, rfl⟩
      simp only [operation, Operation.opening, SubmitRecord.call?, Operand.ofBlock?]
      rw [flags_eq, mode_eq, path?_of_notMem accepts]
      rfl
  | socket =>
      cases prepared
      exact SocketParams.conveyedBy_fill params
  | listen =>
      cases prepared
      exact SocketParams.conveyedBy_fill (ListenParams.socket params)
  | accept =>
      cases prepared
      rcases params with ⟨socket, flags⟩
      have flags_eq := Flags.ofNat_toUInt32 rfl flags
      refine ⟨_, ?_, rfl⟩
      simp only [operation, Operation.accept, SubmitRecord.call?, Operand.address?,
        Operand.addressLength?, AddressBlock.reset, Owned.map, bind, Option.bind, if_true]
      rw [flags_eq]
  | connect =>
      cases prepared
      rcases params with ⟨socket, address⟩
      refine ⟨_, ?_, rfl⟩
      simp only [operation, Operation.connect, SubmitRecord.call?, Operand.address?, Owned.map,
        UInt32.toUInt32_toUInt64, bind, Option.bind]
      rw [AddressBlock.extract?_assign]
  | status =>
      have path := NativePath.ofBytes_of_notMem accepts
      simp only [operation, Operation.status, path] at prepared
      cases prepared
      have flags_eq := Flags.ofNat_toUInt32 rfl (StatusParams.flags params)
      have mask_eq := Flags.ofNat_toUInt32 rfl (StatusParams.mask params)
      refine ⟨_, ?_, rfl⟩
      simp only [operation, Operation.status, SubmitRecord.call?, Operand.ofBlock?,
        Operand.status?, bind, Option.bind]
      rw [flags_eq, mask_eq, path?_of_notMem accepts]
      rfl

end Kind

namespace Entry

variable {kind : Kind} {γ : Type}

/-- A prepared entry under its tag, linked to the submission after it or not. -/
def registered (tag : UInt32) (linked : Bool) (entry : Entry kind γ) : Entry kind γ :=
  if linked then (entry.assignTag tag).link else entry.assignTag tag

/--
An entry that has accepted parameters renders a record that asks for what they say, bears its tag
and says whether it is linked. Nothing else is in the record, whatever it was used for before.
-/
theorem renders_call {entry prepared : Entry kind γ} (idle : entry.Idle) {now : Moment}
    {params : kind.Params} {continuation : γ}
    (accepted : entry.prepare now params continuation = .ok (.ok (), prepared)) (tag : UInt32)
    (linked : Bool) (former : SubmitRecord) :
    let record := (prepared.registered tag linked).render former
    (∃ call, record.call? = some call ∧ kind.ConveyedBy params call) ∧
      record.userData = tag.toUInt64 ∧
      record.flags = (if linked then .ioLink else .empty) ∧
      (∀ field ∉ record.opcode.uses, record.IsZeroAt field) ∧
      ∀ other, record = (prepared.registered tag linked).render other := by
  intro record
  rcases prepare_of_idle idle now params continuation with ⟨outcome, payload, prepares, ends⟩
  rw [prepares] at accepted
  cases accepted
  rcases ends with ⟨_, taken⟩ | ⟨failure, impossible, _⟩
  · have conveyed := Kind.conveyedBy_of_prepare taken
    have zero := Kind.isZeroAt_of_prepare taken
    cases linked with
    | false => exact ⟨conveyed, rfl, flags_render _ former, zero, fun other => rfl⟩
    | true =>
        refine ⟨conveyed, rfl, (flags_render _ former).trans ?_, zero, fun other => rfl⟩
        apply flags_link
        rfl
  · cases impossible

/-- A splice of more bytes than 32 bits can count, over a record that was used for a status query.
-/
theorem renders_long_splice :
    let params : Kind.splice.Params :=
      (⟨⟨3⟩, .current, ⟨4⟩, 7, 0x200000005, .empty⟩ : SpliceParams)
    let entry : Entry .splice String := ⟨.prepared, none, .empty, some "moved", some params⟩
    let former : SubmitRecord :=
      { SubmitRecord.blank with opcode := .statx, address := .block ⟨4⟩ (.status .zero), userData := 9 }
    let record := (entry.registered 7 true).render former
    (fresh : Entry .splice String).prepare ⟨0, .untouched⟩ params "moved" = .ok (.ok (), entry) ∧
      record.call? = some (.splice { (params : SpliceParams) with count := 0x7ffff000 }) ∧
      record.userData = 7 ∧ record.flags = .ioLink ∧ record.address = .word 0 := by
  intro params entry former record
  have accepted : (fresh : Entry .splice String).prepare ⟨0, .untouched⟩ params "moved" =
      .ok (.ok (), entry) := rfl
  rcases renders_call idle_fresh accepted 7 true former with
    ⟨⟨call, reads, count, count_eq, conveyed⟩, tagged, linked, zero, _⟩
  have cut : count = 0x7ffff000 := UInt64.toNat_inj.mp count_eq
  rw [conveyed, cut] at reads
  exact ⟨accepted, reads, tagged, linked, zero .address (by decide)⟩

/-- A socket's type is lost in its record if the flags have a bit of another type's number. -/
theorem type_lost_in_record :
    let entry (params : SocketParams) : Entry .socket String :=
      ⟨.prepared, none, .empty, some "socket", some params⟩
    let record (params : SocketParams) := ((entry params).registered 0 false).render .blank
    let asked : SocketParams := ⟨.inet, .stream, .ofNat 2, .empty⟩
    let other : SocketParams := ⟨.inet, .raw, .empty, .empty⟩
    (∀ params, (fresh : Entry .socket String).prepare ⟨0, .untouched⟩ params "socket" =
      .ok (.ok (), entry params)) ∧
      record asked = record other ∧
      ¬ ∃ decode : SubmitRecord → Option SocketType,
        ∀ params, decode (record params) = some params.type := by
  intro entry record asked other
  have same : record asked = record other := by decide
  refine ⟨fun params => rfl, same, ?_⟩
  rintro ⟨decode, decodes⟩
  have stream := decodes asked
  rw [same, decodes other] at stream
  cases stream

end Entry

end CompletionEngine
