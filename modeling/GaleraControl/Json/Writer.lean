import GaleraControl.Json

/-!
# Writing JSON

The compact text of a document: no spaces, members in the order of their names,
and within texts only the quote, the backslash and the control characters
escaped.
-/

namespace GaleraControl.Json

/-- One character of a written text. -/
def escapedCharacter (c : Char) : String :=
  if c = '"' then "\\\""
  else if c = '\\' then "\\\\"
  else if c = '\n' then "\\n"
  else if c = '\r' then "\\r"
  else if c = '\t' then "\\t"
  else if c.toNat = 0x08 then "\\b"
  else if c.toNat = 0x0C then "\\f"
  else if c.toNat < 0x20 then
    let digits := String.ofList (Nat.toDigits 16 c.toNat)
    "\\u" ++ String.ofList (List.replicate (4 - digits.length) '0') ++ digits
  else c.toString

/-- A text between quotes. -/
def writeString (text : String) : String :=
  text.foldl (fun written c => written ++ escapedCharacter c) "\"" ++ "\""

/-- A number. -/
def writeNumber : Number → String
  | .integer value => toString value
  | .fraction value => value.text

mutual

/-- Append the text of a document. -/
def writeOnto (written : String) : Json → String
  | .null => written ++ "null"
  | .bool value => written ++ (if value then "true" else "false")
  | .number value => written ++ writeNumber value
  | .string value => written ++ writeString value
  | .array [] => written ++ "[]"
  | .array (item :: items) => writeItemsOnto (writeOnto (written ++ "[") item) items ++ "]"
  | .object [] => written ++ "\x7b\x7d"
  | .object ((name, value) :: members) =>
      writeMembersOnto (writeOnto (written ++ "\x7b" ++ writeString name ++ ":") value) members
        ++ "\x7d"

/-- Append the items after the first one. -/
def writeItemsOnto (written : String) : List Json → String
  | [] => written
  | item :: items => writeItemsOnto (writeOnto (written ++ ",") item) items

/-- Append the members after the first one. -/
def writeMembersOnto (written : String) : List (String × Json) → String
  | [] => written
  | (name, value) :: members =>
      writeMembersOnto (writeOnto (written ++ "," ++ writeString name ++ ":") value) members

end

/-- The compact text of a document. -/
def write (document : Json) : String := writeOnto "" document

end GaleraControl.Json
