import CompletionEngine.Text.Blank
import CompletionEngine.Text.Numeral

/-!
# Environment variables

A variable holds bytes. Bytes that are not UTF-8 count as no value at all. Integers are read with
white space at either end removed; a switch is read as it stands, whatever the case of its letters.
-/

namespace CompletionEngine

/-- The variables that are set, with the bytes they hold. -/
abbrev Environment := List (String × List UInt8)

namespace Environment

/-- The text of a variable, when it is set and holds UTF-8. -/
def text? (environment : Environment) (name : String) : Option String :=
  (environment.lookup name).bind fun bytes => String.fromUTF8? ⟨bytes.toArray⟩

/-- The integer a variable holds, when it holds one of the range. -/
def integer? (environment : Environment) (range : Text.IntegerRange) (name : String) : Option Int :=
  (environment.text? name).bind fun text => range.read? (Text.trim text.toList)

/-- The truth value a variable holds, when it holds the word for one. -/
def boolean? (environment : Environment) (name : String) : Option Bool :=
  (environment.text? name).bind fun text =>
    match String.ofList (Text.trim text.toList) with
    | "true" => some true
    | "false" => some false
    | _ => none

/-- The words that switch something on. -/
def switchWords : List String := ["1", "true", "yes", "on"]

/-- Whether a variable switches something on, and the default when it is not set. -/
def switch (environment : Environment) (name : String) (default : Bool) : Bool :=
  match environment.text? name with
  | some text => switchWords.contains text.toLower
  | none => default

end Environment

end CompletionEngine
