import CompletionEngine.Memory.Buffer

/-!
# What buffers hold

A buffer is known by its bytes. Writing changes the bytes that are written and no others, and only
filling and an explicit note change how many of them are in use, so that the lengths given to the
kernel never reach beyond the memory there is. A list of buffers adds up in 64-bit words.
-/

namespace CompletionEngine

namespace Buffer

/-- All the bytes of a buffer. -/
def memory (buffer : Buffer) : List UInt8 := buffer.take buffer.size

section Bytes

variable (buffer : Buffer) {count index : Nat}

theorem length_take : (buffer.take count).length = count := by
  simp only [take, List.length_take, List.length_append, List.length_replicate]
  omega

theorem getElem?_take (inside : index < count) :
    (buffer.take count)[index]? = some (buffer.byte index) := by
  rw [take, List.getElem?_take_of_lt inside, byte, List.getD_eq_getElem?_getD]
  rcases Nat.lt_or_ge index buffer.written.length with written | beyond
  · rw [List.getElem?_append_left written, List.getElem?_eq_getElem written]
    rfl
  · rw [List.getElem?_append_right beyond, List.getElem?_replicate_of_lt (by omega),
      List.getElem?_eq_none beyond]
    rfl

/-- The first bytes are determined one by one. -/
theorem take_eq {bytes : List UInt8} (length_eq : bytes.length = count)
    (same : ∀ index < count, bytes[index]? = some (buffer.byte index)) :
    buffer.take count = bytes := by
  apply List.ext_getElem?
  intro index
  rcases Nat.lt_or_ge index count with inside | outside
  · rw [getElem?_take buffer inside, same index inside]
  · rw [List.getElem?_eq_none (by rwa [length_take]),
      List.getElem?_eq_none (by rwa [length_eq])]

theorem take_take {more : Nat} (fewer : count ≤ more) :
    (buffer.take more).take count = buffer.take count := by
  symm
  apply take_eq
  · rw [List.length_take, length_take]
    exact Nat.min_eq_left fewer
  · intro index inside
    rw [List.getElem?_take_of_lt inside, getElem?_take buffer (Nat.lt_of_lt_of_le inside fewer)]

theorem length_memory : buffer.memory.length = buffer.size := buffer.length_take

/-- A write changes the bytes that it covers within the memory, and no others. -/
theorem memory_write (start : Nat) (data : List UInt8) :
    (buffer.write start data).memory =
      buffer.memory.take start ++ data.take (buffer.size - start) ++
        buffer.memory.drop (start + (data.take (buffer.size - start)).length) := by
  have fits : (data.take (buffer.size - start)).length ≤ buffer.size - start := by
    rw [List.length_take]
    exact Nat.min_le_left ..
  apply take_eq
  · simp only [List.length_append, List.length_take, List.length_drop, length_memory,
      write] at fits ⊢
    omega
  · intro index inside
    change index < buffer.size at inside
    simp only [write, byte, List.getD_eq_getElem?_getD, List.append_assoc]
    generalize data.take (buffer.size - start) = fitting at fits ⊢
    have front : (buffer.memory.take start).length = min start buffer.size := by
      rw [List.length_take, length_memory]
    have front' : (buffer.take start).length = start := length_take buffer
    -- An index lies before the write, under it or behind it.
    rcases Nat.lt_or_ge index start with before | after
    · rw [List.getElem?_append_left (by omega), List.getElem?_take_of_lt before, memory,
        getElem?_take buffer inside, List.getElem?_append_left (by omega),
        getElem?_take buffer before]
      rfl
    · have behind (rest : List UInt8) :
          (buffer.take start ++ rest)[index]? = rest[index - start]? := by
        rw [List.getElem?_append_right (by omega), front']
      rw [behind, List.getElem?_append_right (by omega), front, Nat.min_eq_left (by omega)]
      rcases Nat.lt_or_ge (index - start) fitting.length with covered | beyond
      · rw [List.getElem?_append_left covered, List.getElem?_append_left covered,
          List.getElem?_eq_getElem covered]
        rfl
      · have same : start + fitting.length + (index - start - fitting.length) = index := by omega
        rw [List.getElem?_append_right beyond, List.getElem?_append_right beyond,
          List.getElem?_drop, List.getElem?_drop, same, memory, getElem?_take buffer inside, byte,
          List.getD_eq_getElem?_getD]

theorem memory_fill (data : List UInt8) :
    (buffer.fill data).2.memory =
      data.take (min data.length buffer.size) ++
        buffer.memory.drop (min data.length buffer.size) := by
  have filled : (buffer.fill data).2.memory = (buffer.write 0 data).memory := rfl
  have front : data.take buffer.size = data.take (min data.length buffer.size) := by
    rw [Nat.min_comm, List.take_eq_take_min]
  rw [filled, memory_write, Nat.sub_zero, List.take_zero, List.nil_append, Nat.zero_add,
    List.length_take, Nat.min_comm, front]

end Bytes

/-- How a buffer comes about. -/
inductive Making where
  | allocate (size alignment : Nat)
  | ofSize (size : Nat)
  | ofData (data : List UInt8)

def Making.result : Making → Except Failure Buffer
  | allocate size alignment => Buffer.allocate size alignment
  | ofSize size => Buffer.ofSize size
  | ofData data => Buffer.ofData data

/-- What happens to a buffer in use. Its owner and the kernel write into its memory alike. -/
inductive Change where
  | fill (data : List UInt8)
  | setUsed (used : Nat)
  | write (start : Nat) (data : List UInt8)

def change (buffer : Buffer) : Change → Buffer
  | .fill data => (buffer.fill data).2
  | .setUsed used => buffer.setUsed used
  | .write start data => buffer.write start data

/-- A buffer that has gone through some changes. -/
def after (buffer : Buffer) (history : List Change) : Buffer := history.foldl change buffer

/-- A size that 32 bits can say, and no more bytes in use than there are. -/
structure IsSound (buffer : Buffer) : Prop where
  pos : 0 < buffer.size
  size_le : buffer.size ≤ maxBufferSize
  used_le : buffer.used ≤ buffer.size

section Making

variable {size alignment : Nat} {made : Buffer}

theorem eq_of_allocate (result : allocate size alignment = .ok made) :
    0 < size ∧ size ≤ maxBufferSize ∧ made = ⟨size, [], 0⟩ := by
  unfold allocate at result
  split at result
  · cases result
  · next bounded =>
      split at result
      · cases result
      · cases result
        refine ⟨?_, ?_, rfl⟩ <;> omega

theorem ofSize_eq_ok (pos : 0 < size) (size_le : size ≤ maxBufferSize) :
    ofSize size = .ok ⟨size, [], 0⟩ := by
  have bounded : ¬ (size = 0 ∨ maxBufferSize < size) := by omega
  have laidOut : isLayout size pageAlignment = true := by
    have fits : size + 4096 ≤ addressSpace := by
      simp only [maxBufferSize, UInt32.size] at size_le
      simp only [addressSpace]
      omega
    simp [isLayout, pageAlignment, fits]
  rw [ofSize, allocate, if_neg bounded, laidOut]
  rfl

theorem ofData_eq_ok {data : List UInt8} (short : data.length ≤ maxBufferSize) :
    ofData data = .ok (fill data ⟨max data.length 1, [], 0⟩).2 := by
  have one : 1 ≤ maxBufferSize := by decide
  rw [ofData, ofSize_eq_ok (by omega) (by omega)]
  rfl

theorem ofData_eq_error {data : List UInt8} (long : maxBufferSize < data.length) :
    ofData data = .error .bufferSize := by
  have tooLarge : max data.length 1 = 0 ∨ maxBufferSize < max data.length 1 := by omega
  rw [ofData, ofSize, allocate, if_pos tooLarge]
  rfl

/-- A buffer made of data holds them, and nothing else is in use. -/
theorem contents_ofData (data : List UInt8) :
    (fill data ⟨max data.length 1, [], 0⟩).2.contents = data := by
  have whole : min data.length (max data.length 1) = data.length := by omega
  have inUse : (fill data ⟨max data.length 1, [], 0⟩).2.used = data.length := whole
  have fits : data.length ≤ (fill data ⟨max data.length 1, [], 0⟩).2.size :=
    Nat.le_max_left ..
  rw [contents, inUse, ← take_take _ fits]
  change (memory _).take _ = _
  rw [memory_fill, whole, List.take_length, List.take_left]

theorem isSound_of_result {making : Making} (result : making.result = .ok made) :
    made.IsSound := by
  cases making with
  | allocate size alignment =>
      obtain ⟨pos, size_le, rfl⟩ := eq_of_allocate result
      exact ⟨pos, size_le, Nat.zero_le _⟩
  | ofSize size =>
      obtain ⟨pos, size_le, rfl⟩ := eq_of_allocate result
      exact ⟨pos, size_le, Nat.zero_le _⟩
  | ofData data =>
      rcases Nat.lt_or_ge maxBufferSize data.length with long | short
      · rw [Making.result, ofData_eq_error long] at result
        cases result
      · rw [Making.result, ofData_eq_ok short] at result
        cases result
        have one : 1 ≤ maxBufferSize := by decide
        refine ⟨?_, ?_, ?_⟩ <;> simp only [fill, write] <;> omega

end Making

section Changing

variable {buffer : Buffer}

theorem size_after (history : List Change) : (buffer.after history).size = buffer.size := by
  induction history generalizing buffer with
  | nil => rfl
  | cons next later ih =>
      have kept : (buffer.change next).size = buffer.size := by cases next <;> rfl
      exact ih.trans kept

theorem IsSound.change (sound : buffer.IsSound) (next : Change) : (buffer.change next).IsSound := by
  cases next with
  | fill data => exact ⟨sound.pos, sound.size_le, Nat.min_le_right ..⟩
  | setUsed used => exact ⟨sound.pos, sound.size_le, Nat.min_le_right ..⟩
  | write start data => exact ⟨sound.pos, sound.size_le, sound.used_le⟩

theorem IsSound.after (sound : buffer.IsSound) (history : List Change) :
    (buffer.after history).IsSound := by
  induction history generalizing buffer with
  | nil => exact sound
  | cons next later ih => exact ih (sound.change next)

end Changing

/-- What a buffer does with what it is given, and what it gives. -/
structure Accounts (buffer : Buffer) : Prop extends IsSound buffer where
  length_memory : buffer.memory.length = buffer.size
  fill : ∀ data : List UInt8,
    let count := min data.length buffer.size
    (buffer.fill data).1 = count ∧ (buffer.fill data).2.used = count ∧
      (buffer.fill data).2.memory = data.take count ++ buffer.memory.drop count
  setUsed : ∀ used, (buffer.setUsed used).used = min used buffer.size ∧
    (buffer.setUsed used).memory = buffer.memory
  write : ∀ (start : Nat) (data : List UInt8), start + data.length ≤ buffer.size →
    (buffer.write start data).used = buffer.used ∧
      (buffer.write start data).memory =
        buffer.memory.take start ++ data ++ buffer.memory.drop (start + data.length)
  contents : buffer.contents = buffer.memory.take buffer.used
  spanLength : buffer.spanLength.toNat = buffer.size
  usedSpanLength : buffer.usedSpanLength.toNat = buffer.used

theorem IsSound.accounts {buffer : Buffer} (sound : buffer.IsSound) : buffer.Accounts := by
  have size_lt : buffer.size < UInt32.size := by
    have size_le := sound.size_le
    simp only [maxBufferSize] at size_le
    have positive : 0 < UInt32.size := by decide
    omega
  constructor
  case toIsSound => exact sound
  case length_memory => exact buffer.length_memory
  case fill =>
    intro data
    exact ⟨rfl, rfl, buffer.memory_fill data⟩
  case setUsed =>
    intro used
    exact ⟨rfl, rfl⟩
  case write =>
    intro start data fits
    have whole : data.take (buffer.size - start) = data := List.take_of_length_le (by omega)
    refine ⟨rfl, ?_⟩
    rw [memory_write, whole]
  case contents => exact (buffer.take_take sound.used_le).symm
  case spanLength => exact UInt32.toNat_ofNat_of_lt' size_lt
  case usedSpanLength => exact UInt32.toNat_ofNat_of_lt' (Nat.lt_of_le_of_lt sound.used_le size_lt)

/-- A buffer that somebody has made, after whatever happened to it since. -/
def IsInUse (buffer : Buffer) : Prop :=
  ∃ (making : Making) (made : Buffer) (history : List Change),
    making.result = .ok made ∧ buffer = made.after history

theorem IsInUse.isSound {buffer : Buffer} (inUse : buffer.IsInUse) : buffer.IsSound := by
  obtain ⟨making, made, history, result, rfl⟩ := inUse
  exact (isSound_of_result result).after history

end Buffer

namespace GatherList

/-- The lengths listed, added up without a bound. -/
def sum (list : GatherList) : Nat := list.entries.foldr (fun entry rest => entry.2 + rest) 0

/-- As long as the sum fits, no word overflows on the way to it. -/
theorem toNat_foldl_add (entries : List (Nat × Nat)) (start : UInt64)
    (fits : start.toNat + sum ⟨entries⟩ < UInt64.size) :
    (entries.foldl (fun sum entry => sum + UInt64.ofNat entry.2) start).toNat =
      start.toNat + sum ⟨entries⟩ := by
  induction entries generalizing start with
  | nil => rfl
  | cons entry rest ih =>
      have more : sum ⟨entry :: rest⟩ = entry.2 + sum ⟨rest⟩ := rfl
      rw [more] at fits
      have next : (start + UInt64.ofNat entry.2).toNat = start.toNat + entry.2 := by
        rw [UInt64.toNat_add, UInt64.toNat_ofNat_of_lt' (by omega)]
        exact Nat.mod_eq_of_lt (by simp only [UInt64.size] at fits; omega)
      rw [List.foldl_cons, ih _ (by omega), next, more]
      omega

theorem toNat_total {list : GatherList} (fits : list.sum < UInt64.size) :
    list.total.toNat = list.sum := by
  rw [total, toNat_foldl_add list.entries 0 (by simpa using fits)]
  exact Nat.zero_add _

section Buffers

variable {buffers : List PlacedBuffer}

theorem sum_readable_le (sound : ∀ placed ∈ buffers, placed.2.IsSound) :
    (readable buffers).sum ≤ buffers.length * maxBufferSize := by
  induction buffers with
  | nil => exact Nat.zero_le _
  | cons placed rest ih =>
      have first := (sound placed List.mem_cons_self).size_le
      have others := ih fun other member => sound other (List.mem_cons_of_mem _ member)
      have more : (readable (placed :: rest)).sum = placed.2.size + (readable rest).sum := rfl
      rw [more, List.length_cons, Nat.add_mul]
      omega

theorem sum_writable_le (sound : ∀ placed ∈ buffers, placed.2.IsSound) :
    (writable buffers).sum ≤ (readable buffers).sum := by
  induction buffers with
  | nil => exact Nat.le_refl _
  | cons placed rest ih =>
      have first := (sound placed List.mem_cons_self).used_le
      have others := ih fun other member => sound other (List.mem_cons_of_mem _ member)
      exact Nat.add_le_add first others

/-- Fewer buffers than 32 bits can count never add up to more than 64 bits can say. -/
theorem sum_readable_lt (sound : ∀ placed ∈ buffers, placed.2.IsSound)
    (few : buffers.length < UInt32.size) : (readable buffers).sum < UInt64.size := by
  have count_le : buffers.length ≤ maxBufferSize := Nat.le_sub_one_of_lt few
  have product := Nat.mul_le_mul_right maxBufferSize count_le
  have bound : maxBufferSize * maxBufferSize < UInt64.size := by decide
  exact Nat.lt_of_le_of_lt (Nat.le_trans (sum_readable_le sound) product) bound

end Buffers

end GatherList

namespace Buffer

/--
Every buffer that can be made keeps its size and accounts for its bytes, whatever happens to it. A
buffer can be made of any data whose length 32 bits can say, and holds them; longer data are
refused. Lists of such buffers list the memory of each, or its bytes in use, and their totals are
exact.
-/
theorem accounts_of_history :
    (∀ (making : Making) (made : Buffer) (history : List Change), making.result = .ok made →
      (made.after history).size = made.size ∧ (made.after history).Accounts) ∧
    (∀ data : List UInt8,
      (data.length ≤ maxBufferSize → ∃ made, ofData data = .ok made ∧
        made.size = max data.length 1 ∧ made.used = data.length ∧ made.contents = data) ∧
      (maxBufferSize < data.length → ofData data = .error .bufferSize)) ∧
    ∀ buffers : List PlacedBuffer, (∀ placed ∈ buffers, placed.2.IsInUse) →
      buffers.length < UInt32.size →
      let readable := GatherList.readable buffers
      let writable := GatherList.writable buffers
      readable.entries = buffers.map (fun placed => (placed.1, placed.2.size)) ∧
      writable.entries = buffers.map (fun placed => (placed.1, placed.2.used)) ∧
      readable.count.toNat = buffers.length ∧ writable.count.toNat = buffers.length ∧
      readable.sum < UInt64.size ∧ readable.total.toNat = readable.sum ∧
      writable.total.toNat = writable.sum ∧ writable.total ≤ readable.total := by
  refine ⟨?_, ?_, ?_⟩
  · intro making made history result
    exact ⟨size_after history, ((isSound_of_result result).after history).accounts⟩
  · intro data
    refine ⟨?_, ofData_eq_error⟩
    intro short
    have whole : min data.length (max data.length 1) = data.length := by omega
    exact ⟨_, ofData_eq_ok short, rfl, whole, contents_ofData data⟩
  · intro buffers inUse few readable writable
    have sound (placed : PlacedBuffer) (member : placed ∈ buffers) : placed.2.IsSound :=
      (inUse placed member).isSound
    have fits : readable.sum < UInt64.size := GatherList.sum_readable_lt sound few
    have fewer : writable.sum ≤ readable.sum := GatherList.sum_writable_le sound
    have whole : readable.total.toNat = readable.sum := GatherList.toNat_total fits
    have part : writable.total.toNat = writable.sum :=
      GatherList.toNat_total (Nat.lt_of_le_of_lt fewer fits)
    have counted (list : GatherList) (length_eq : list.entries.length = buffers.length) :
        list.count.toNat = buffers.length := by
      rw [GatherList.count, length_eq]
      exact UInt32.toNat_ofNat_of_lt' few
    refine ⟨rfl, rfl, counted _ (List.length_map _), counted _ (List.length_map _), fits, whole,
      part, ?_⟩
    rwa [UInt64.le_iff_toNat_le, whole, part]

/-- A read of two bytes into a buffer of four, with what an earlier fill left behind them. -/
theorem accounts_short_read :
    let history := [Change.fill [1, 2, 3, 4, 5], .write 0 [8, 9], .setUsed 2]
    let made : Buffer := ⟨4, [], 0⟩
    let buffer := made.after history
    (Making.allocate 4 8).result = .ok made ∧ buffer.Accounts ∧ buffer.memory = [8, 9, 3, 4] ∧
      buffer.contents = [8, 9] ∧
      (GatherList.writable [(4096, buffer), (8192, made)]).total ≤
        (GatherList.readable [(4096, buffer), (8192, made)]).total := by
  intro history made buffer
  have result : (Making.allocate 4 8).result = .ok made := rfl
  have accounts := (accounts_of_history.1 (.allocate 4 8) made history result).2
  have listed := accounts_of_history.2.2 [(4096, buffer), (8192, made)]
    (by
      intro placed member
      simp only [List.mem_cons, List.not_mem_nil, or_false] at member
      rcases member with rfl | rfl
      · exact ⟨.allocate 4 8, made, history, result, rfl⟩
      · exact ⟨.allocate 4 8, made, [], result, rfl⟩)
    (by decide)
  exact ⟨result, accounts, by decide, by decide, listed.2.2.2.2.2.2.2⟩

end Buffer

end CompletionEngine
