import Mathlib.Data.List.GetD
import CompletionEngine.Proofs.Operation.Supplies

/-!
# Addresses in native storage

An address is written into a block byte by byte, and read back by code that shares nothing with the
writing. The two meet at the layout of the address's family. Assigning an address lays it out and
clears everything else, and an address is extracted exactly if it is laid out and the length in use
covers its layout. Since a layout determines the address and the address its bytes, nothing is lost
either way, whatever the block went through before.
-/

namespace CompletionEngine

namespace Bytes

theorem field_eq_ofFn {size offset width : Nat} (block : Vector UInt8 size)
    (fits : offset + width ≤ size) :
    field block offset width =
      List.ofFn fun index : Fin width => block[offset + index.val]! := by
  apply List.ext_getElem
  · simp only [field, List.length_take, List.length_drop, Vector.length_toList, List.length_ofFn]
    omega
  · intro index inside inside'
    rw [List.length_ofFn] at inside'
    rw [List.getElem_ofFn, getElem!_pos block _ (by omega)]
    simp [field]

end Bytes

namespace SocketAddress

/-- The fields of an address stand where the kernel looks for them. The port has its high byte
first, the other numbers their low byte. All these places lie within the storage. -/
def LaidOut (storage : Vector UInt8 128) : SocketAddress → Prop
  | v4 host port =>
    storage[0]! = 2 ∧ storage[1]! = 0 ∧
      port.toNat = 256 * storage[2]!.toNat + storage[3]!.toNat ∧
      ∀ index : Fin 4, storage[4 + index.val]! = host[index.val]!
  | v6 host port flow scope =>
    storage[0]! = 10 ∧ storage[1]! = 0 ∧
      port.toNat = 256 * storage[2]!.toNat + storage[3]!.toNat ∧
      flow.toNat = storage[4]!.toNat +
        256 * (storage[5]!.toNat + 256 * (storage[6]!.toNat + 256 * storage[7]!.toNat)) ∧
      (∀ index : Fin 16, storage[8 + index.val]! = host[index.val]!) ∧
      scope.toNat = storage[24]!.toNat +
        256 * (storage[25]!.toNat + 256 * (storage[26]!.toNat + 256 * storage[27]!.toNat))

/-- How many bytes the fields of an address take up. -/
def extent : SocketAddress → Nat
  | v4 .. => 8
  | v6 .. => 28

/-- The size of the layout of an address. That of the older family ends in eight unused bytes. -/
def size : SocketAddress → Nat
  | v4 .. => 16
  | v6 .. => 28

theorem encode_v4 (host : Vector UInt8 4) (port : UInt16) :
    (v4 host port).encode = 2 :: 0 :: UInt8.ofNat (port.toNat / 256 % 256) ::
      UInt8.ofNat (port.toNat % 256) :: (host.toList ++ List.replicate 8 0) := by
  simp [encode, Bytes.bigEndian, Bytes.littleEndian]

theorem encode_v6 (host : Vector UInt8 16) (port : UInt16) (flow scope : UInt32) :
    (v6 host port flow scope).encode = 10 :: 0 :: UInt8.ofNat (port.toNat / 256 % 256) ::
      UInt8.ofNat (port.toNat % 256) :: UInt8.ofNat (flow.toNat % 256) ::
      UInt8.ofNat (flow.toNat / 256 % 256) :: UInt8.ofNat (flow.toNat / 256 / 256 % 256) ::
      UInt8.ofNat (flow.toNat / 256 / 256 / 256 % 256) ::
      (host.toList ++ Bytes.littleEndian 4 scope.toNat) := by
  simp [encode, Bytes.bigEndian, Bytes.littleEndian]

theorem length_encode (address : SocketAddress) : address.encode.length = address.size := by
  cases address <;> simp [encode, size, Bytes.length_littleEndian, Bytes.length_bigEndian]

end SocketAddress

namespace AddressBlock

section Writing

variable (address : SocketAddress) (block : AddressBlock)

theorem storage_assign (index : Nat) :
    (block.assign address).storage[index]! = address.encode.getD index 0 := by
  rcases Nat.lt_or_ge index 128 with inside | outside
  · rw [getElem!_pos (block.assign address).storage index inside]
    simp [assign, Bytes.overwrite]
  · have short : address.encode.length ≤ index := by
      rw [SocketAddress.length_encode]
      cases address <;> simp only [SocketAddress.size] <;> omega
    rw [getElem!_neg (block.assign address).storage index (Nat.not_lt.mpr outside),
      List.getD_eq_default _ _ short]
    rfl

theorem length_assign : (block.assign address).length.toNat = address.size := by
  have covered := (holds_assign address block).2
  rw [covered, SocketAddress.length_encode]

/-- Assigning an address lays it out. -/
theorem laidOut_assign : address.LaidOut (block.assign address).storage := by
  cases address with
  | v4 host port =>
      have portBound := port.toNat_lt
      simp only [SocketAddress.LaidOut, storage_assign, SocketAddress.encode_v4]
      refine ⟨rfl, rfl, ?_, ?_⟩
      · simp
        omega
      · intro index
        have inside : index.val < host.toList.length := by simp
        simp [Nat.add_comm 4, List.getElem?_append_left inside]
  | v6 host port flow scope =>
      have portBound := port.toNat_lt
      have flowBound := flow.toNat_lt
      have scopeBound := scope.toNat_lt
      simp only [SocketAddress.LaidOut, storage_assign, SocketAddress.encode_v6]
      refine ⟨rfl, rfl, ?_, ?_, ?_, ?_⟩
      · simp
        omega
      · simp
        omega
      · intro index
        have inside : index.val < host.toList.length := by simp
        simp [Nat.add_comm 8, List.getElem?_append_left inside]
      · simp [Bytes.littleEndian]
        omega

/-- Assigning an address clears all that its fields do not take up. -/
theorem storage_assign_of_extent_le {index : Nat} (beyond : address.extent ≤ index) :
    (block.assign address).storage[index]! = 0 := by
  rw [storage_assign]
  cases address with
  | v4 host port =>
      obtain ⟨past, rfl⟩ := Nat.exists_eq_add_of_le beyond
      have outside : host.toList.length ≤ past + 4 := by simp
      rw [SocketAddress.encode_v4, SocketAddress.extent, Nat.add_comm]
      simp only [List.getD_cons_succ]
      rw [List.getD_append_right _ _ _ _ outside, List.getD_eq_getElem?_getD]
      exact List.getElem?_getD_replicate_default_eq ..
  | v6 host port flow scope =>
      apply List.getD_eq_default
      rw [SocketAddress.length_encode]
      exact beyond

end Writing

section Reading

variable {address : SocketAddress} {block : AddressBlock}

theorem familyNumber_eq_iff {number : UInt8} :
    block.familyNumber = number.toNat ↔ block.storage[0]! = number ∧ block.storage[1]! = 0 := by
  have low := block.storage[0]!.toNat_lt
  have bound := number.toNat_lt
  rw [familyNumber, Bytes.field_eq_ofFn _ (by omega), ← UInt8.toNat_inj, ← UInt8.toNat_inj]
  simp [Bytes.ofLittleEndian]
  omega

theorem toNat_port :
    block.port.toNat = 256 * block.storage[2]!.toNat + block.storage[3]!.toNat := by
  have high := block.storage[2].toNat_lt
  have low := block.storage[3].toNat_lt
  rw [port, Bytes.field_eq_ofFn _ (by omega)]
  simp [Bytes.ofBigEndian, Bytes.ofLittleEndian]
  omega

theorem toNat_word {size offset : Nat} (storage : Vector UInt8 size) (fits : offset + 4 ≤ size) :
    (UInt32.ofNat (Bytes.ofLittleEndian (Bytes.field storage offset 4))).toNat =
      storage[offset]!.toNat + 256 * (storage[offset + 1]!.toNat +
        256 * (storage[offset + 2]!.toNat + 256 * storage[offset + 3]!.toNat)) := by
  have first := storage[offset]!.toNat_lt
  have second := storage[offset + 1]!.toNat_lt
  have third := storage[offset + 2]!.toNat_lt
  have fourth := storage[offset + 3]!.toNat_lt
  rw [Bytes.field_eq_ofFn _ fits]
  simp [Bytes.ofLittleEndian]
  omega

/-- What is extracted is laid out, and the length in use covers it. -/
theorem laidOut_of_extract? (found : block.extract? = some address) :
    address.LaidOut block.storage ∧ address.size ≤ block.length.toNat := by
  unfold extract? at found
  split at found
  · next older =>
      cases found
      have family : block.storage[0]! = 2 ∧ block.storage[1]! = 0 := familyNumber_eq_iff.mp older.1
      refine ⟨⟨family.1, family.2, toNat_port, ?_⟩, older.2⟩
      intro index
      simp (disch := omega) [getElem!_pos]
  · split at found
    · next newer =>
        cases found
        have family : block.storage[0]! = 10 ∧ block.storage[1]! = 0 :=
          familyNumber_eq_iff.mp newer.1
        refine ⟨⟨family.1, family.2, toNat_port, ?_, ?_, ?_⟩, newer.2⟩
        · exact toNat_word block.storage (by omega)
        · intro index
          simp (disch := omega) [getElem!_pos]
        · exact toNat_word block.storage (by omega)
    · cases found

/-- What is laid out is extracted, if the length in use covers it. -/
theorem extract?_of_laidOut (laidOut : address.LaidOut block.storage)
    (covered : address.size ≤ block.length.toNat) : block.extract? = some address := by
  cases address with
  | v4 host port =>
      rcases laidOut with ⟨first, second, port_eq, host_eq⟩
      have family : block.familyNumber = 2 := familyNumber_eq_iff.mpr ⟨first, second⟩
      have older : block.familyNumber = 2 ∧ 16 ≤ block.length.toNat := ⟨family, covered⟩
      rw [extract?, if_pos older]
      congr 2
      · apply Vector.ext
        intro index inside
        simpa (disch := omega) [getElem!_pos] using host_eq ⟨index, inside⟩
      · apply UInt16.toNat_inj.mp
        rw [toNat_port, port_eq]
  | v6 host port flow scope =>
      rcases laidOut with ⟨first, second, port_eq, flow_eq, host_eq, scope_eq⟩
      have family : block.familyNumber = 10 := familyNumber_eq_iff.mpr ⟨first, second⟩
      have notOlder : ¬ (block.familyNumber = 2 ∧ 16 ≤ block.length.toNat) := by omega
      have newer : block.familyNumber = 10 ∧ 28 ≤ block.length.toNat := ⟨family, covered⟩
      rw [extract?, if_neg notOlder, if_pos newer]
      congr 2
      · apply Vector.ext
        intro index inside
        simpa (disch := omega) [getElem!_pos] using host_eq ⟨index, inside⟩
      · apply UInt16.toNat_inj.mp
        rw [toNat_port, port_eq]
      · apply UInt32.toNat_inj.mp
        rw [toNat_word block.storage (by omega), flow_eq]
      · apply UInt32.toNat_inj.mp
        rw [toNat_word block.storage (by omega), scope_eq]

theorem extract?_assign (address : SocketAddress) (block : AddressBlock) :
    (block.assign address).extract? = some address := by
  apply extract?_of_laidOut (laidOut_assign address block)
  exact Nat.le_of_eq (length_assign address block).symm

end Reading

end AddressBlock

namespace SocketAddress

/-- A number determines its lowest byte and what is above it. -/
theorem eq_of_digits_eq {low low' : UInt8} {rest rest' : Nat}
    (same : low.toNat + 256 * rest = low'.toNat + 256 * rest') : low = low' ∧ rest = rest' := by
  have bound := low.toNat_lt
  have bound' := low'.toNat_lt
  rw [← UInt8.toNat_inj]
  omega

section Bytewise

variable {left right : Vector UInt8 128} {index : Nat}

/-- The family number and the port determine the first four bytes. -/
theorem getElem_eq_of_port {family : UInt8} {port : Nat} (first : left[0]! = family)
    (first' : right[0]! = family) (second : left[1]! = 0) (second' : right[1]! = 0)
    (port_eq : port = 256 * left[2]!.toNat + left[3]!.toNat)
    (port_eq' : port = 256 * right[2]!.toNat + right[3]!.toNat) (low : index < 4) :
    left[index]! = right[index]! := by
  have digits : left[3]! = right[3]! ∧ left[2]!.toNat = right[2]!.toNat := by
    apply eq_of_digits_eq
    omega
  match index, low with
  | 0, _ => rw [first, first']
  | 1, _ => rw [second, second']
  | 2, _ => exact UInt8.toNat_inj.mp digits.2
  | 3, _ => exact digits.1

/-- A word determines its four bytes. -/
theorem getElem_eq_of_word {offset word : Nat}
    (word_eq : word = left[offset]!.toNat + 256 * (left[offset + 1]!.toNat +
      256 * (left[offset + 2]!.toNat + 256 * left[offset + 3]!.toNat)))
    (word_eq' : word = right[offset]!.toNat + 256 * (right[offset + 1]!.toNat +
      256 * (right[offset + 2]!.toNat + 256 * right[offset + 3]!.toNat)))
    (low : index < 4) : left[offset + index]! = right[offset + index]! := by
  obtain ⟨first, rest⟩ := eq_of_digits_eq (word_eq.symm.trans word_eq')
  obtain ⟨second, rest⟩ := eq_of_digits_eq rest
  obtain ⟨third, fourth⟩ := eq_of_digits_eq rest
  match index, low with
  | 0, _ => exact first
  | 1, _ => exact second
  | 2, _ => exact third
  | 3, _ => exact UInt8.toNat_inj.mp fourth

/-- A layout determines every byte that the fields take up. -/
theorem LaidOut.getElem_eq {address : SocketAddress} (laidOut : address.LaidOut left)
    (laidOut' : address.LaidOut right) (within : index < address.extent) :
    left[index]! = right[index]! := by
  cases address with
  | v4 host port =>
      rcases laidOut with ⟨first, second, port_eq, host_eq⟩
      rcases laidOut' with ⟨first', second', port_eq', host_eq'⟩
      rw [extent] at within
      rcases Nat.lt_or_ge index 4 with low | high
      · exact getElem_eq_of_port first first' second second' port_eq port_eq' low
      · obtain ⟨past, rfl⟩ := Nat.exists_eq_add_of_le high
        have small : past < 4 := by omega
        exact (host_eq ⟨past, small⟩).trans (host_eq' ⟨past, small⟩).symm
  | v6 host port flow scope =>
      rcases laidOut with ⟨first, second, port_eq, flow_eq, host_eq, scope_eq⟩
      rcases laidOut' with ⟨first', second', port_eq', flow_eq', host_eq', scope_eq'⟩
      rw [extent] at within
      -- From the end backwards: scope, host, flow, and the bytes that both families share.
      rcases Nat.lt_or_ge index 24 with beforeScope | inScope
      · rcases Nat.lt_or_ge index 8 with beforeHost | inHost
        · rcases Nat.lt_or_ge index 4 with low | inFlow
          · exact getElem_eq_of_port first first' second second' port_eq port_eq' low
          · obtain ⟨past, rfl⟩ := Nat.exists_eq_add_of_le inFlow
            have small : past < 4 := by omega
            exact getElem_eq_of_word flow_eq flow_eq' small
        · obtain ⟨past, rfl⟩ := Nat.exists_eq_add_of_le inHost
          have small : past < 16 := by omega
          exact (host_eq ⟨past, small⟩).trans (host_eq' ⟨past, small⟩).symm
      · obtain ⟨past, rfl⟩ := Nat.exists_eq_add_of_le inScope
        have small : past < 4 := by omega
        exact getElem_eq_of_word scope_eq scope_eq' small

end Bytewise

end SocketAddress

namespace AddressBlock

/-- What happens to a block between two uses: it is assigned an address, made available, or written
by the kernel. -/
inductive Change where
  | assign (address : SocketAddress)
  | reset
  | receive (bytes : List UInt8) (length : UInt32)

def change (block : AddressBlock) : Change → AddressBlock
  | .assign address => block.assign address
  | .reset => block.reset
  | .receive bytes length => block.receive bytes length

/-- A block that has gone through some changes since it was allocated. -/
def after (history : List Change) : AddressBlock := history.foldl change blank

theorem isSome_extract?_iff (block : AddressBlock) :
    block.extract?.isSome ↔
      (block.storage[0]! = 2 ∧ block.storage[1]! = 0) ∧ 16 ≤ block.length.toNat ∨
        (block.storage[0]! = 10 ∧ block.storage[1]! = 0) ∧ 28 ≤ block.length.toNat := by
  have older : block.familyNumber = (2 : UInt8).toNat ↔ _ := familyNumber_eq_iff
  have newer : block.familyNumber = (10 : UInt8).toNat ↔ _ := familyNumber_eq_iff
  rw [← older, ← newer]
  unfold extract?
  split
  · next found => simp [found]
  · next notOlder =>
      split
      · next found => simp [found]
      · next notNewer => simp_all

/--
Whatever a block went through, an address assigned to it is extracted again, with the length of its
layout and nothing else in the storage, and a block made available holds no address in 128 zero
bytes. Of any storage and length, an address is extracted exactly under its family number and a
length that covers the layout, and assigning it anywhere gives the bytes of its fields again.
-/
theorem codec_of_history (history : List Change) :
    (∀ address : SocketAddress,
      ((after history).assign address).extract? = some address ∧
      ((after history).assign address).length.toNat = address.size ∧
      address.LaidOut ((after history).assign address).storage ∧
      ∀ index : Fin 128, address.extent ≤ index.val →
        ((after history).assign address).storage[index.val] = 0) ∧
    ((after history).reset.extract? = none ∧
      (∀ index : Fin 128, (after history).reset.storage[index.val] = 0) ∧
      (after history).reset.length = 128) ∧
    ∀ block : AddressBlock,
      (block.extract?.isSome ↔
        (block.storage[0]! = 2 ∧ block.storage[1]! = 0) ∧ 16 ≤ block.length.toNat ∨
          (block.storage[0]! = 10 ∧ block.storage[1]! = 0) ∧ 28 ≤ block.length.toNat) ∧
      ∀ (address : SocketAddress) (other : AddressBlock), block.extract? = some address →
        ∀ index : Fin 128, index.val < address.extent →
          (other.assign address).storage[index.val] = block.storage[index.val] := by
  refine ⟨?_, ?_, ?_⟩
  · intro address
    refine ⟨extract?_assign address _, length_assign address _, laidOut_assign address _, ?_⟩
    intro index beyond
    rw [← getElem!_pos]
    exact storage_assign_of_extent_le address _ beyond
  · have zero (index : Fin 128) : (after history).reset.storage[index.val] = 0 := by
      simp [reset, blank]
    refine ⟨?_, zero, rfl⟩
    rw [Option.eq_none_iff_forall_ne_some]
    intro address found
    have laidOut := (laidOut_of_extract? found).1
    cases address <;> exact absurd ((zero 0).symm.trans laidOut.1) (by decide)
  · intro block
    refine ⟨isSome_extract?_iff block, ?_⟩
    intro address other found index within
    have laidOut := (laidOut_of_extract? found).1
    rw [← getElem!_pos, ← getElem!_pos]
    exact (laidOut_assign address other).getElem_eq laidOut within

/-- A peer's address that the kernel wrote over that of an earlier connection. -/
theorem codec_peer_written :
    let earlier : SocketAddress := .v6 (Vector.replicate 16 255) 443 7 3
    let peer : SocketAddress := .v4 #v[127, 0, 0, 1] 8080
    let block := after [.assign earlier, .receive [2, 0, 31, 144, 127, 0, 0, 1] 16]
    block.extract? = some peer ∧
      ∀ index : Fin 128, index.val < 8 →
        (block.reset.assign peer).storage[index.val] = block.storage[index.val] := by
  intro earlier peer block
  have found : block.extract? = some peer := by decide
  refine ⟨found, ?_⟩
  exact ((codec_of_history []).2.2 block).2 peer block.reset found

end AddressBlock

end CompletionEngine
