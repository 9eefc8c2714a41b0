import CompletionEngine.Operation.Catalogue

/-!
# What operations accept and supply

Parameters are accepted unless a path in them holds a NUL byte. A payload that has accepted its
parameters supplies the kernel with memory that these alone determine: an exact time specification,
the path as its bytes stand, the address encoded over zeros, a zeroed status block, and for the peer
of an accept 128 zero bytes that are all in use.
-/

namespace CompletionEngine

/-- A time specification of exactly a time limit. -/
def TimeSpec.Spells (spec : TimeSpec) (limit : TimeLimit) : Prop :=
  spec.seconds.toNat * 1000000000 + spec.nanos.toNat = limit.nanos.toNat ∧
    spec.nanos.toNat < 1000000000

/-- An address block that holds an address and nothing else. -/
def AddressBlock.Holds (block : AddressBlock) (address : SocketAddress) : Prop :=
  block.storage.toList =
      address.encode ++ List.replicate (128 - address.encode.length) 0 ∧
    block.length.toNat = address.encode.length

theorem TimeSpec.spells_timeSpec (limit : TimeLimit) : limit.timeSpec.Spells limit := by
  have seconds : limit.timeSpec.seconds.toNat = limit.nanos.toNat / 1000000000 := rfl
  have nanos : limit.timeSpec.nanos.toNat = limit.nanos.toNat % 1000000000 := by
    have small : limit.nanos.toNat % 1000000000 < 2 ^ 32 := by omega
    simp only [TimeLimit.timeSpec, nanosPerSecond, UInt64.toNat_toUInt32, UInt64.toNat_mod]
    exact Nat.mod_eq_of_lt small
  unfold Spells
  omega

namespace Bytes

theorem length_littleEndian (width value : Nat) : (littleEndian width value).length = width := by
  induction width generalizing value with
  | zero => rfl
  | succ width ih => rw [littleEndian, List.length_cons, ih]

theorem length_bigEndian (width value : Nat) : (bigEndian width value).length = width := by
  rw [bigEndian, List.length_reverse, length_littleEndian]

theorem toList_overwrite_zero {size : Nat} {bytes : List UInt8} (fits : bytes.length ≤ size) :
    (overwrite bytes (Vector.replicate size 0)).toList =
      bytes ++ List.replicate (size - bytes.length) 0 := by
  apply List.ext_getElem
  · simp only [Vector.length_toList, List.length_append, List.length_replicate]
    omega
  · intro index inside inside'
    rw [Vector.getElem_toList, List.getElem_append]
    split
    · next written => simp [overwrite, written]
    · next beyond => simp [overwrite, Nat.not_lt.mp beyond]

end Bytes

theorem SocketAddress.length_encode_le (address : SocketAddress) :
    address.encode.length ≤ 28 := by
  cases address <;> simp [encode, Bytes.length_littleEndian, Bytes.length_bigEndian]

theorem AddressBlock.holds_assign (address : SocketAddress) (block : AddressBlock) :
    (block.assign address).Holds address := by
  have short := address.length_encode_le
  refine ⟨Bytes.toList_overwrite_zero (by omega), ?_⟩
  exact Nat.mod_eq_of_lt (by omega)

namespace NativePath

theorem ofBytes_of_notMem {bytes : List UInt8} (clean : 0 ∉ bytes) :
    ofBytes bytes = .ok ⟨bytes⟩ := by
  simp [ofBytes, clean]

theorem ofBytes_of_mem {bytes : List UInt8} (holdsNul : 0 ∈ bytes) :
    ofBytes bytes = .error .pathHoldsNul := by
  simp [ofBytes, holdsNul]

end NativePath

def Operand.memory? : Operand → Option NativeBlock
  | .word _ => none
  | .block _ memory => some memory

/-- The memory that a record points at. -/
def SubmitRecord.memory (record : SubmitRecord) : List NativeBlock :=
  [record.address, record.address2].filterMap Operand.memory?

namespace Kind

/-- Parameters are accepted unless a path in them holds a NUL byte. -/
def Accepts : (kind : Kind) → kind.Params → Prop
  | opening, params => 0 ∉ OpenParams.path params
  | status, params => 0 ∉ (StatusParams.start params).2
  | _, _ => True

/-- What the kernel finds in the memory that a record for some parameters points at. -/
def Supplies : (kind : Kind) → kind.Params → SubmitRecord → Prop
  | delay, limit, record => ∃ spec, record.memory = [.timeSpec spec] ∧ spec.Spells limit
  | guard, limit, record => ∃ spec, record.memory = [.timeSpec spec] ∧ spec.Spells limit
  | opening, params, record => record.memory = [.path ⟨OpenParams.path params⟩]
  | accept, _, record =>
    ∃ peer, record.memory = [.address peer, .addressLength peer] ∧
      peer.storage.toList = List.replicate 128 0 ∧ peer.length = 128
  | connect, params, record =>
    ∃ block, record.memory = [.address block] ∧ block.Holds params.2 ∧
      record.offset = block.length.toUInt64
  | status, params, record =>
    record.memory = [.path ⟨(StatusParams.start params).2⟩, .status .zero]
  | _, _, record => record.memory = []

variable {kind : Kind} {params : kind.Params}

theorem prepare_of_refuses (refuses : ¬ kind.Accepts params) (now : Moment)
    (payload : kind.Payload) :
    kind.operation.prepare now params payload = .error .pathHoldsNul := by
  cases kind with
  | opening =>
      have path := NativePath.ofBytes_of_mem (Classical.not_not.mp refuses)
      simp only [operation, Operation.opening, path]
      rfl
  | status =>
      have path := NativePath.ofBytes_of_mem (Classical.not_not.mp refuses)
      simp only [operation, Operation.status, path]
      rfl
  | _ => exact absurd trivial refuses

/-- A payload just prepared supplies exactly what its parameters say. -/
theorem supplies_of_prepare (accepts : kind.Accepts params) {now : Moment}
    {before payload : kind.Payload}
    (prepared : kind.operation.prepare now params before = .ok payload) :
    kind.Supplies params (kind.operation.fill payload .blank) := by
  cases kind with
  | opening =>
      have path := NativePath.ofBytes_of_notMem accepts
      simp only [operation, Operation.opening, path] at prepared
      cases prepared
      rfl
  | status =>
      have path := NativePath.ofBytes_of_notMem accepts
      simp only [operation, Operation.status, path] at prepared
      cases prepared
      rfl
  | delay =>
      cases prepared
      exact ⟨_, rfl, TimeSpec.spells_timeSpec _⟩
  | guard =>
      cases prepared
      exact ⟨_, rfl, TimeSpec.spells_timeSpec _⟩
  | accept =>
      cases prepared
      exact ⟨.blank, rfl, rfl, rfl⟩
  | connect =>
      cases prepared
      exact ⟨_, rfl, AddressBlock.holds_assign params.2 .blank, rfl⟩
  | _ =>
      cases prepared
      rfl

end Kind

end CompletionEngine
