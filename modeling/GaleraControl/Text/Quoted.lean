import GaleraControl.Text.Printable

/-!
# Quoted text

How a text is shown inside a message: between double quotes, on one line, with
every character that has no glyph of its own written as an escape.
-/

namespace GaleraControl.Text

/-- The code point of a character in lower-case hexadecimal digits. -/
def hexadecimal (c : Char) : String :=
  String.ofList (Nat.toDigits 16 c.toNat)

/-- One character of a quoted text. -/
def escaped (c : Char) : String :=
  if c = '"' then "\\\""
  else if c = '\\' then "\\\\"
  else if c = '\n' then "\\n"
  else if c = '\r' then "\\r"
  else if c = '\t' then "\\t"
  else if c.toNat = 0 then "\\0"
  else if isPrintable c then c.toString
  else "\\u\x7b" ++ hexadecimal c ++ "\x7d"

/-- A text between double quotes, with its unprintable characters escaped. -/
def quoted (text : String) : String :=
  "\"" ++ String.join (text.toList.map escaped) ++ "\""

end GaleraControl.Text
