import CompletionEngine.Settings.Configuration

/-!
# What the environment settles

Which texts write a number is said here without a parser: `Text.Spells` splits a text into white
space, at most a plus sign, digits and white space, and weighs the digits by their places. The
parser reads exactly these, and from there every field of a number is read by one law. A switch has
a law of its own, for every way of writing a text in lower case that a program could take: outside
ASCII, none makes a letter of the words that switch something on.
-/

namespace CompletionEngine

namespace Text

section Digits

/-- The number that digits write, each weighed by its place. -/
def placeValue : List Char → Nat
  | [] => 0
  | char :: rest => (char.toNat - '0'.toNat) * Nat.pow 10 rest.length + placeValue rest

theorem digitValue?_of_isDigit {char : Char} (digit : char.isDigit = true) :
    digitValue? char = some (char.toNat - '0'.toNat) := by
  simp only [Char.isDigit, Bool.and_eq_true, decide_eq_true_eq] at digit
  exact if_pos digit

theorem digitValue?_of_not_isDigit {char : Char} (other : ¬ char.isDigit = true) :
    digitValue? char = none := by
  simp only [Char.isDigit, Bool.and_eq_true, decide_eq_true_eq] at other
  exact if_neg other

theorem digitsValue?_eq_some_iff {digits : List Char} {value number : Nat} :
    digitsValue? value digits = some number ↔
      (∀ char ∈ digits, char.isDigit = true) ∧
        value * Nat.pow 10 digits.length + placeValue digits = number := by
  induction digits generalizing value with
  | nil => simp [digitsValue?, placeValue]
  | cons char rest ih =>
      by_cases digit : char.isDigit = true
      · -- What was read before moves up a place, so the induction runs over every start.
        have shifted :
            (value * 10 + (char.toNat - '0'.toNat)) * Nat.pow 10 rest.length + placeValue rest =
              value * Nat.pow 10 (char :: rest).length + placeValue (char :: rest) := by
          simp only [placeValue, List.length_cons, Nat.pow_eq, Nat.pow_succ]
          rw [Nat.add_mul, Nat.mul_assoc, Nat.mul_comm 10]
          omega
        simp only [digitsValue?, digitValue?_of_isDigit digit]
        rw [ih, shifted, List.forall_mem_cons]
        simp [digit]
      · simp [digitsValue?, digitValue?_of_not_isDigit digit, digit]

theorem magnitude?_eq_some_iff {digits : List Char} {number : Nat} :
    magnitude? digits = some number ↔
      digits ≠ [] ∧ (∀ char ∈ digits, char.isDigit = true) ∧ placeValue digits = number := by
  cases digits with
  | nil => simp [magnitude?]
  | cons char rest =>
      have read : magnitude? (char :: rest) = digitsValue? 0 (char :: rest) := rfl
      rw [read, digitsValue?_eq_some_iff]
      simp

end Digits

section Numerals

/-- At most a plus sign, and ASCII digits, at least one. -/
def Numeral (text : List Char) (number : Nat) : Prop :=
  ∃ sign digits, text = sign ++ digits ∧ (sign = [] ∨ sign = ['+']) ∧ digits ≠ [] ∧
    (∀ char ∈ digits, char.isDigit = true) ∧ placeValue digits = number

/-- A numeral between white space. -/
def Spells (text : List Char) (number : Nat) : Prop :=
  ∃ before numeral after, text = before ++ numeral ++ after ∧
    (∀ char ∈ before, isBlank char = true) ∧ (∀ char ∈ after, isBlank char = true) ∧
    Numeral numeral number

theorem numeral_iff {text : List Char} {number : Nat} :
    Numeral text number ↔
      magnitude? text = some number ∨
        ∃ digits, text = '+' :: digits ∧ magnitude? digits = some number := by
  simp only [magnitude?_eq_some_iff]
  constructor
  · rintro ⟨sign, digits, rfl, rfl | rfl, spelled⟩
    · exact .inl spelled
    · exact .inr ⟨digits, rfl, spelled⟩
  · rintro (spelled | ⟨digits, rfl, spelled⟩)
    · exact ⟨[], text, rfl, .inl rfl, spelled⟩
    · exact ⟨['+'], digits, rfl, .inr rfl, spelled⟩

theorem magnitude?_eq_none {char : Char} (other : ¬ char.isDigit = true) (rest : List Char) :
    magnitude? (char :: rest) = none := by
  simp [magnitude?, digitsValue?, digitValue?_of_not_isDigit other]

theorem not_numeral_minus (rest : List Char) (number : Nat) : ¬ Numeral ('-' :: rest) number := by
  rw [numeral_iff, magnitude?_eq_none (by decide)]
  simp

theorem keep?_unsigned {width : Nat} {number : Nat} {value : Int} :
    (IntegerRange.unsigned width).keep? number = some value ↔
      value = number ∧ number < Nat.pow 2 width := by
  have within : (0 : Int) ≤ number ∧ (number : Int) ≤ ↑(Nat.pow 2 width) - 1 ↔
      number < Nat.pow 2 width := by
    omega
  simp only [IntegerRange.keep?, IntegerRange.unsigned, IntegerRange.wordCount, within]
  by_cases fits : number < Nat.pow 2 width
  · simp only [fits, if_true, Option.some.injEq, and_true, eq_comm]
  · simp only [fits, if_false, and_false, reduceCtorEq]

/-- A parser of unsigned words accepts exactly the numerals of words. -/
theorem read?_unsigned_eq_some_iff {width : Nat} {text : List Char} {value : Int} :
    (IntegerRange.unsigned width).read? text = some value ↔
      ∃ number : Nat, value = number ∧ Numeral text number ∧ number < Nat.pow 2 width := by
  have kept (digits : List Char) :
      ((magnitude? digits).bind fun number => (IntegerRange.unsigned width).keep? number) =
          some value ↔
        ∃ number : Nat, value = number ∧ magnitude? digits = some number ∧
          number < Nat.pow 2 width := by
    simp only [Option.bind_eq_some_iff, keep?_unsigned]
    constructor
    · rintro ⟨number, read, rfl, fits⟩
      exact ⟨number, rfl, read, fits⟩
    · rintro ⟨number, rfl, read, fits⟩
      exact ⟨number, read, rfl, fits⟩
  unfold IntegerRange.read?
  split
  · rename_i digits
    have plus : ¬ '+'.isDigit = true := by decide
    rw [kept]
    simp [numeral_iff, magnitude?_eq_none plus]
  · rename_i digits
    simp [IntegerRange.unsigned, not_numeral_minus]
  · rename_i plain _
    rw [kept]
    have unsigned (digits : List Char) : text ≠ '+' :: digits := plain digits
    simp [numeral_iff, unsigned]

end Numerals

section Trimming

theorem dropWhile_isBlank {before core rest : List Char}
    (blank : ∀ char ∈ before, isBlank char = true) (solid : ∀ char ∈ core, isBlank char = false)
    (nonempty : core ≠ []) : (before ++ (core ++ rest)).dropWhile isBlank = core ++ rest := by
  rw [List.dropWhile_append_of_pos blank]
  cases core with
  | nil => exact absurd rfl nonempty
  | cons char tail =>
      have first : isBlank char = false := solid char List.mem_cons_self
      exact List.dropWhile_cons_of_neg (by rw [first]; decide)

theorem trim_of_solid {before core after : List Char}
    (blank : ∀ char ∈ before, isBlank char = true) (blank' : ∀ char ∈ after, isBlank char = true)
    (solid : ∀ char ∈ core, isBlank char = false) (nonempty : core ≠ []) :
    trim (before ++ core ++ after) = core := by
  have back : (after.reverse ++ (core.reverse ++ [])).dropWhile isBlank = core.reverse ++ [] := by
    apply dropWhile_isBlank
    · simpa using blank'
    · simpa using solid
    · simpa using nonempty
  rw [trim, List.append_assoc, dropWhile_isBlank blank solid nonempty, List.reverse_append]
  rw [List.append_nil] at back
  rw [back, List.reverse_reverse]

theorem isBlank_of_mem_takeWhile {text : List Char} {char : Char}
    (mem : char ∈ text.takeWhile isBlank) : isBlank char = true :=
  List.all_eq_true.mp List.all_takeWhile char mem

theorem exists_trim (text : List Char) :
    ∃ before after, text = before ++ trim text ++ after ∧
      (∀ char ∈ before, isBlank char = true) ∧ ∀ char ∈ after, isBlank char = true := by
  let started := text.dropWhile isBlank
  refine ⟨text.takeWhile isBlank, (started.reverse.takeWhile isBlank).reverse, ?_, ?_, ?_⟩
  · have back : trim text ++ (started.reverse.takeWhile isBlank).reverse = started := by
      rw [trim, ← List.reverse_append, List.takeWhile_append_dropWhile, List.reverse_reverse]
    rw [List.append_assoc, back, List.takeWhile_append_dropWhile]
  · intro char mem
    exact isBlank_of_mem_takeWhile mem
  · intro char mem
    exact isBlank_of_mem_takeWhile (List.mem_reverse.mp mem)

theorem isBlank_of_isDigit {char : Char} (digit : char.isDigit = true) : isBlank char = false := by
  have low : 48 ≤ char.toNat ∧ char.toNat ≤ 57 := by
    simpa [Char.isDigit, UInt32.le_iff_toNat_le] using digit
  have apart : ∀ range ∈ blankRanges, range.2 < 48 ∨ 57 < range.1 := by decide
  rw [isBlank, List.any_eq_false]
  intro range mem
  have outside : range.2 < 48 ∨ 57 < range.1 := apart range mem
  rw [Bool.and_eq_true, decide_eq_true_eq, decide_eq_true_eq]
  omega

theorem Numeral.solid {text : List Char} {number : Nat} (numeral : Numeral text number) :
    text ≠ [] ∧ ∀ char ∈ text, isBlank char = false := by
  obtain ⟨sign, digits, rfl, signed, nonempty, all, -⟩ := numeral
  refine ⟨by simp [nonempty], ?_⟩
  intro char mem
  rcases List.mem_append.mp mem with before | digit
  · have plus : char = '+' := by
      rcases signed with rfl | rfl
      · contradiction
      · simpa using before
    rw [plus]
    decide
  · exact isBlank_of_isDigit (all char digit)

theorem spells_iff_numeral_trim {text : List Char} {number : Nat} :
    Spells text number ↔ Numeral (trim text) number := by
  constructor
  · rintro ⟨before, core, after, rfl, blank, blank', numeral⟩
    obtain ⟨nonempty, solid⟩ := numeral.solid
    rwa [trim_of_solid blank blank' solid nonempty]
  · intro numeral
    obtain ⟨before, after, split, blank, blank'⟩ := exists_trim text
    exact ⟨before, trim text, after, split, blank, blank', numeral⟩

end Trimming

end Text

namespace Environment

section Reading

variable {environment : Environment} {name : String}

/-- A variable is set, to the UTF-8 bytes of a text. -/
def HoldsText (environment : Environment) (name text : String) : Prop :=
  environment.lookup name = some text.toUTF8.data.toList

/-- A variable is set to a text that writes a number. -/
def Holds (environment : Environment) (name : String) (number : Nat) : Prop :=
  ∃ text, environment.HoldsText name text ∧ Text.Spells text.toList number

theorem fromUTF8?_eq_some_iff {bytes : List UInt8} {text : String} :
    String.fromUTF8? ⟨bytes.toArray⟩ = some text ↔ bytes = text.toUTF8.data.toList := by
  unfold String.fromUTF8?
  split
  · rename_i valid
    rw [Option.some.injEq, ← String.toByteArray_inj]
    constructor
    · intro same
      rw [String.toUTF8, ← same]
      rfl
    · rintro rfl
      rfl
  · rename_i invalid
    simp only [reduceCtorEq, false_iff]
    rintro rfl
    exact invalid text.isValidUTF8

theorem text?_eq_some_iff {text : String} :
    environment.text? name = some text ↔ environment.HoldsText name text := by
  simp only [text?, Option.bind_eq_some_iff, fromUTF8?_eq_some_iff, HoldsText]
  constructor
  · rintro ⟨bytes, found, rfl⟩
    exact found
  · intro found
    exact ⟨_, found, rfl⟩

theorem HoldsText.unique {text other : String} (held : environment.HoldsText name text)
    (held' : environment.HoldsText name other) : text = other :=
  Option.some.inj ((text?_eq_some_iff.mpr held).symm.trans (text?_eq_some_iff.mpr held'))

theorem integer?_unsigned_eq_some_iff {width : Nat} {value : Int} :
    environment.integer? (.unsigned width) name = some value ↔
      ∃ number : Nat, value = number ∧ environment.Holds name number ∧
        number < Nat.pow 2 width := by
  simp only [integer?, Option.bind_eq_some_iff, text?_eq_some_iff,
    Text.read?_unsigned_eq_some_iff, ← Text.spells_iff_numeral_trim, Holds]
  constructor
  · rintro ⟨text, held, number, rfl, spelled, fits⟩
    exact ⟨number, rfl, ⟨text, held, spelled⟩, fits⟩
  · rintro ⟨number, rfl, ⟨text, held, spelled⟩, fits⟩
    exact ⟨text, held, number, rfl, spelled, fits⟩

end Reading

section Switches

/-- The letters of the words that switch something on. -/
def switchLetters : List Char := switchWords.flatMap String.toList

/--
A way to write a text in lower case, as far as the words can tell. ASCII characters have one lower
case. What another character is written as may depend on its place, but it is something, and none
of it a letter of the words: the only ones that have ASCII in their lower case are the Kelvin sign,
a k, and the dotted capital I.
-/
inductive Lowers : List Char → List Char → Prop
  | nil : Lowers [] []
  | ascii {char : Char} {rest lowered : List Char} (plain : char.toNat < 128) :
      Lowers rest lowered → Lowers (char :: rest) (char.toLower :: lowered)
  | other {char : Char} {rest lowered piece : List Char} (beyond : 128 ≤ char.toNat)
      (nonempty : piece ≠ []) (foreign : ∀ letter ∈ piece, letter ∉ switchLetters) :
      Lowers rest lowered → Lowers (char :: rest) (piece ++ lowered)

theorem toNat_lt_of_mem_switchLetters {char : Char} (mem : char ∈ switchLetters) :
    char.toNat < 128 := by
  have all : switchLetters.all (fun letter => letter.toNat < 128) = true := by decide
  exact of_decide_eq_true (List.all_eq_true.mp all char mem)

theorem toLower_of_beyond {char : Char} (beyond : 128 ≤ char.toNat) : char.toLower = char := by
  apply dif_neg
  rintro ⟨-, le⟩
  have small : char.toNat ≤ 90 := UInt32.le_iff_toNat_le.mp le
  omega

/-- Whatever the way, a text becomes a word exactly when its ASCII capitals are the difference. -/
theorem Lowers.eq_iff {text lowered : List Char} (lowers : Lowers text lowered) {word : List Char}
    (letters : ∀ char ∈ word, char ∈ switchLetters) :
    lowered = word ↔ text.map Char.toLower = word := by
  induction lowers generalizing word with
  | nil => rfl
  | ascii plain lowers ih =>
      cases word with
      | nil => simp
      | cons head tail =>
          rw [List.map_cons, List.cons.injEq, List.cons.injEq]
          rw [ih fun char mem => letters char (List.mem_cons_of_mem head mem)]
  | @other char rest lowered piece beyond nonempty foreign lowers ih =>
      -- Neither text is a word: the piece is foreign, and ASCII leaves the character as it is.
      constructor
      · rintro rfl
        obtain ⟨head, tail, rfl⟩ := List.exists_cons_of_ne_nil nonempty
        exact absurd (letters head (by simp)) (foreign head (by simp))
      · rintro rfl
        have mem : char ∈ switchLetters := by
          apply letters
          simp [toLower_of_beyond beyond]
        have small := toNat_lt_of_mem_switchLetters mem
        omega

theorem lowers_toLower (text : List Char) : Lowers text (text.map Char.toLower) := by
  induction text with
  | nil => exact .nil
  | cons char rest ih =>
      by_cases plain : char.toNat < 128
      · exact .ascii plain ih
      · have beyond : 128 ≤ char.toNat := by omega
        rw [List.map_cons, toLower_of_beyond beyond, ← List.singleton_append]
        refine .other beyond (List.cons_ne_nil char []) ?_ ih
        intro letter mem known
        rw [List.mem_singleton.mp mem] at known
        exact plain (toNat_lt_of_mem_switchLetters known)

theorem toLower_mem_switchWords_iff {text : String} {lowered : List Char}
    (lowers : Lowers text.toList lowered) :
    text.toLower ∈ switchWords ↔ String.ofList lowered ∈ switchWords := by
  have each : ∀ word ∈ switchWords, text.toLower = word ↔ String.ofList lowered = word := by
    intro word mem
    have letters : ∀ char ∈ word.toList, char ∈ switchLetters := fun char inside =>
      List.mem_flatMap.mpr ⟨word, mem, inside⟩
    have lower : text.toLower.toList = text.toList.map Char.toLower := String.toList_map
    rw [← String.toList_inj, ← String.toList_inj, String.toList_ofList, lower]
    exact (lowers.eq_iff letters).symm
  constructor
  · intro mem
    rwa [← (each _ mem).mp rfl] at mem
  · intro mem
    rwa [← (each _ mem).mpr rfl] at mem

end Switches

end Environment

namespace Configuration

/--
A field that a variable of its own settles: it is made of the number the variable writes, when that
is below `size`, and falls back whatever else the variable holds.
-/
structure ReadsNumber {α : Type} (field : Configuration → α) (name : String) (size : Nat)
    (made : Nat → α) (fallback : α) : Prop where
  alone : ∀ environment other : Environment, environment.lookup name = other.lookup name →
    field (ofEnvironment environment) = field (ofEnvironment other)
  read : ∀ (environment : Environment) (number : Nat), environment.Holds name number →
    number < size → field (ofEnvironment environment) = made number
  kept : ∀ environment : Environment,
    (∀ number, environment.Holds name number → size ≤ number) →
      field (ofEnvironment environment) = fallback

/-- A switch that a variable of its own settles, unless it holds no text. -/
structure ReadsSwitch (field : Configuration → Bool) (name : String) (words : List String)
    (fallback : Bool) : Prop where
  alone : ∀ environment other : Environment, environment.lookup name = other.lookup name →
    field (ofEnvironment environment) = field (ofEnvironment other)
  read : ∀ (environment : Environment) (text : String) (lowered : List Char),
    environment.HoldsText name text → Environment.Lowers text.toList lowered →
      (field (ofEnvironment environment) = true ↔ String.ofList lowered ∈ words)
  kept : ∀ environment : Environment, (∀ text, ¬ environment.HoldsText name text) →
    field (ofEnvironment environment) = fallback

theorem readsNumber_of_integer? {α : Type} {field : Configuration → α} {name : String} (width : Nat)
    {made : Nat → α} {fallback : α}
    (eq : ∀ environment : Environment, field (ofEnvironment environment) =
      ((environment.integer? (.unsigned width) name).map fun value => made value.toNat).getD
        fallback) :
    ReadsNumber field name (Nat.pow 2 width) made fallback where
  alone environment other same := by
    simp only [eq, Environment.integer?, Environment.text?, same]
  read environment number holds fits := by
    have read : environment.integer? (.unsigned width) name = some (number : Int) :=
      Environment.integer?_unsigned_eq_some_iff.mpr ⟨number, rfl, holds, fits⟩
    rw [eq, read]
    rfl
  kept environment none_fits := by
    have unread : environment.integer? (.unsigned width) name = none := by
      rw [Option.eq_none_iff_forall_ne_some]
      intro value read
      obtain ⟨number, -, holds, fits⟩ := Environment.integer?_unsigned_eq_some_iff.mp read
      exact absurd fits (Nat.not_lt.mpr (none_fits number holds))
    rw [eq, unread]
    rfl

theorem ReadsNumber.congr {α : Type} {field : Configuration → α} {name : String} {size : Nat}
    {made made' : Nat → α} {fallback : α} (reads : ReadsNumber field name size made fallback)
    (same : ∀ number, number < size → made number = made' number) :
    ReadsNumber field name size made' fallback where
  alone := reads.alone
  read environment number holds fits := by
    rw [reads.read environment number holds fits, same number fits]
  kept := reads.kept

theorem ofMillis_ofNat (number : Nat) (fits : number < UInt64.size) :
    TimeLimit.ofMillis (UInt64.ofNat number) =
      ⟨UInt64.ofNat (min (number * 1000000) (UInt64.size - 1))⟩ := by
  rw [TimeLimit.ofMillis, saturatingMul, UInt64.toNat_ofNat_of_lt' fits]
  rfl

theorem readsSwitch_wakePoll :
    ReadsSwitch (·.wakePoll) "PROACTOR_WAKE_POLL" Environment.switchWords true where
  alone environment other same := by
    simp only [ofEnvironment, Environment.switch, Environment.text?, same]
  read environment text lowered holds lowers := by
    rw [← Environment.toLower_mem_switchWords_iff lowers]
    simp only [ofEnvironment, Environment.switch, Environment.text?_eq_some_iff.mpr holds]
    exact List.contains_iff_mem
  kept environment untold := by
    have unread : environment.text? "PROACTOR_WAKE_POLL" = none := by
      rw [Option.eq_none_iff_forall_ne_some]
      intro text read
      exact untold text (Environment.text?_eq_some_iff.mp read)
    simp only [ofEnvironment, Environment.switch, unread]
    rfl

/--
Each field is read from its own variable: a number from any text that spells one of the type, and
nothing else; milliseconds up to the largest limit; the switch from its words in any case. Unset,
unreadable and out of range leave the default.
-/
theorem ofEnvironment_reads :
    ReadsNumber (·.ring.submissions) "PROACTOR_SQ_ENTRIES" UInt32.size UInt32.ofNat 256 ∧
    ReadsNumber (·.ring.completions) "PROACTOR_CQ_ENTRIES" UInt32.size
      (fun number => some (UInt32.ofNat number)) none ∧
    ReadsNumber (·.inboxCapacity) "PROACTOR_INBOX_CAPACITY" UInt64.size UInt64.ofNat 4096 ∧
    ReadsNumber (·.poolCeiling) "PROACTOR_POOL_CEILING" UInt64.size
      (fun number => some (UInt64.ofNat number)) none ∧
    ReadsNumber (·.completionBatch) "PROACTOR_COMPLETION_BATCH" UInt64.size UInt64.ofNat 256 ∧
    ReadsNumber (·.waitLimit) "PROACTOR_WAIT_TIMEOUT_MS" UInt64.size
      (fun number => ⟨UInt64.ofNat (min (number * 1000000) (UInt64.size - 1))⟩) ⟨100000000⟩ ∧
    ReadsNumber (·.shutdownDrain) "PROACTOR_SHUTDOWN_DRAIN_MS" UInt64.size
      (fun number => ⟨UInt64.ofNat (min (number * 1000000) (UInt64.size - 1))⟩) ⟨1000000000⟩ ∧
    ReadsSwitch (·.wakePoll) "PROACTOR_WAKE_POLL" ["1", "true", "yes", "on"] true := by
  refine ⟨?_, ?_, ?_, ?_, ?_, ?_, ?_, readsSwitch_wakePoll⟩
  · exact readsNumber_of_integer? 32 fun environment => rfl
  · apply readsNumber_of_integer? 32
    intro environment
    simp only [ofEnvironment]
    cases environment.integer? (.unsigned 32) "PROACTOR_CQ_ENTRIES" <;> rfl
  · exact readsNumber_of_integer? 64 fun environment => rfl
  · apply readsNumber_of_integer? 64
    intro environment
    simp only [ofEnvironment]
    cases environment.integer? (.unsigned 64) "PROACTOR_POOL_CEILING" <;> rfl
  · exact readsNumber_of_integer? 64 fun environment => rfl
  · refine (readsNumber_of_integer? 64 ?_).congr ofMillis_ofNat
    intro environment
    simp only [ofEnvironment, Option.map_map]
    rfl
  · refine (readsNumber_of_integer? 64 ?_).congr ofMillis_ofNat
    intro environment
    simp only [ofEnvironment, Option.map_map]
    rfl

/-- Blanks, a plus, zeros and capitals are read. A minus and an unset variable change nothing. -/
theorem reads_set_variables :
    let environment : Environment :=
      [("PROACTOR_SQ_ENTRIES", " +007\u00a0".toUTF8.data.toList),
        ("PROACTOR_CQ_ENTRIES", "-0".toUTF8.data.toList),
        ("PROACTOR_WAIT_TIMEOUT_MS", "18446744073709551615".toUTF8.data.toList),
        ("PROACTOR_WAKE_POLL", "oN".toUTF8.data.toList)]
    (ofEnvironment environment).ring.submissions = 7 ∧
      (ofEnvironment environment).ring.completions = none ∧
      (ofEnvironment environment).inboxCapacity = 4096 ∧
      (ofEnvironment environment).waitLimit = ⟨UInt64.ofNat (UInt64.size - 1)⟩ ∧
      (ofEnvironment environment).wakePoll = true := by
  intro environment
  obtain ⟨submissions, completions, inbox, -, -, wait, -, poll⟩ := ofEnvironment_reads
  have blanks : environment.HoldsText "PROACTOR_SQ_ENTRIES" " +007\u00a0" := rfl
  have minus : environment.HoldsText "PROACTOR_CQ_ENTRIES" "-0" := rfl
  have largest : environment.HoldsText "PROACTOR_WAIT_TIMEOUT_MS" "18446744073709551615" := rfl
  have capital : environment.HoldsText "PROACTOR_WAKE_POLL" "oN" := rfl
  refine ⟨?_, ?_, ?_, ?_, ?_⟩
  · apply submissions.read environment 7 ⟨_, blanks, ?_⟩ (by decide)
    exact ⟨[' '], ['+', '0', '0', '7'], ['\u00a0'], rfl, List.all_eq_true.mp rfl,
      List.all_eq_true.mp rfl, ['+'], ['0', '0', '7'], rfl, .inr rfl, List.cons_ne_nil _ _,
      List.all_eq_true.mp rfl, rfl⟩
  · apply completions.kept
    rintro number ⟨text, held, spelled⟩
    cases minus.unique held
    exact absurd (Text.spells_iff_numeral_trim.mp spelled) (Text.not_numeral_minus ['0'] number)
  · apply inbox.kept
    rintro number ⟨text, held, -⟩
    have unset : environment.lookup "PROACTOR_INBOX_CAPACITY" = none := rfl
    cases unset.symm.trans held
  · apply wait.read environment 18446744073709551615 ⟨_, largest, ?_⟩ (by decide)
    refine ⟨[], _, [], (List.append_nil _).symm, by simp, by simp, ?_⟩
    exact ⟨[], _, rfl, .inl rfl, by decide, List.all_eq_true.mp rfl, rfl⟩
  · apply (poll.read environment "oN" _ capital (Environment.lowers_toLower _)).mpr
    decide

end Configuration

end CompletionEngine
