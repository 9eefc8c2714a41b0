import CompletionEngine.Text.Shape

/-!
# Quoted text

Diagnostics show text between double quotes. Quotes, backslashes and the usual controls have short
escapes; other characters without a shape of their own are shown by their number in hexadecimal.
-/

namespace CompletionEngine.Text

/-- One character as it stands between quotes. -/
def quoteChar (char : Char) : String :=
  if char = '\x00' then "\\0"
  else if char = '\t' then "\\t"
  else if char = '\r' then "\\r"
  else if char = '\n' then "\\n"
  else if char = '\\' then "\\\\"
  else if char = '"' then "\\\""
  else if isShapeless char then
    "\\u\x7b" ++ String.ofList (Nat.toDigits 16 char.toNat) ++ "\x7d"
  else
    String.singleton char

/-- Text between double quotes, with every character that would be unclear escaped. -/
def quoted (text : String) : String :=
  "\"" ++ String.join (text.toList.map quoteChar) ++ "\""

end CompletionEngine.Text
