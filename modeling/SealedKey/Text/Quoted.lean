import SealedKey.Text.Printable

/-!
# Quoted strings

A string that is shown as a value stands in double quotes.  Whatever does not print by
itself is written with a backslash: a letter for the common ones, and the code point in
braces for all others.
-/

namespace SealedKey

/-- The lower-case hexadecimal form of a character's code point. -/
def codePoint (c : Char) : String :=
  String.ofList (Nat.toDigits 16 c.toNat)

/-- One character inside quotes. -/
def quotedChar (c : Char) : String :=
  if c = '"' then "\\\""
  else if c = '\\' then "\\\\"
  else if c = '\t' then "\\t"
  else if c = '\n' then "\\n"
  else if c = '\r' then "\\r"
  else if c.toNat = 0 then "\\0"
  else if Text.isPrintable c then c.toString
  else "\\u\x7b" ++ codePoint c ++ "\x7d"

/-- A string in double quotes. -/
def quoted (text : String) : String :=
  "\"" ++ String.join (text.toList.map quotedChar) ++ "\""

end SealedKey
