/-!
# Decimal numerals

The grammar of the integers a setting may hold: an optional sign, then one or more ASCII digits
whose value fits the type. A minus sign is allowed for signed types only, also before a zero.
-/

namespace CompletionEngine.Text

/-- The value of a digit. -/
def digitValue? (char : Char) : Option Nat :=
  if '0' ≤ char ∧ char ≤ '9' then some (char.toNat - '0'.toNat) else none

/-- The value of a run of digits read after `value`, when every character is a digit. -/
def digitsValue? (value : Nat) : List Char → Option Nat
  | [] => some value
  | char :: rest =>
    match digitValue? char with
    | some digit => digitsValue? (value * 10 + digit) rest
    | none => none

/-- The value of a non-empty run of digits. -/
def magnitude? : List Char → Option Nat
  | [] => none
  | digits => digitsValue? 0 digits

/-- The values of an integer type. -/
structure IntegerRange where
  isSigned : Bool
  lowest : Int
  highest : Int

namespace IntegerRange

/-- How many values a word of `width` bits has. -/
def wordCount (width : Nat) : Int := Nat.pow 2 width

/-- Unsigned words of `width` bits. -/
def unsigned (width : Nat) : IntegerRange := ⟨false, 0, wordCount width - 1⟩

/-- Signed words of `width` bits. -/
def signed (width : Nat) : IntegerRange := ⟨true, -wordCount (width - 1), wordCount (width - 1) - 1⟩

/-- Keep a value only when it is in the range. -/
def keep? (range : IntegerRange) (value : Int) : Option Int :=
  if range.lowest ≤ value ∧ value ≤ range.highest then some value else none

/-- The integer that a text writes, when it is a numeral of a value in the range. -/
def read? (range : IntegerRange) : List Char → Option Int
  | '+' :: digits => (magnitude? digits).bind fun value => range.keep? value
  | '-' :: digits =>
    if range.isSigned then (magnitude? digits).bind fun value => range.keep? (-value) else none
  | digits => (magnitude? digits).bind fun value => range.keep? value

end IntegerRange

end CompletionEngine.Text
