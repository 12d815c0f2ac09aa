import GaleraControl.Json

/-!
# Reading JSON

A reader for JSON text.  Integers between `-2 ^ 63` and `2 ^ 64` are read exactly;
every other number, and `-0`, is read as the nearest binary64 fraction.  Of
several members with one name the last counts.

Every step consumes a character, so the length of the text bounds the number of
steps, and the fuel that the loops carry is that length.
-/

namespace GaleraControl.Json.Reader

/-- The characters after leading white space. -/
def skipSpace : List Char → List Char
  | ' ' :: rest | '\n' :: rest | '\r' :: rest | '\t' :: rest => skipSpace rest
  | text => text

/-- The value of a hexadecimal digit. -/
def hexDigit? (c : Char) : Option Nat :=
  if '0' ≤ c ∧ c ≤ '9' then some (c.toNat - '0'.toNat)
  else if 'a' ≤ c ∧ c ≤ 'f' then some (c.toNat - 'a'.toNat + 10)
  else if 'A' ≤ c ∧ c ≤ 'F' then some (c.toNat - 'A'.toNat + 10)
  else none

/-- Four hexadecimal digits as one number. -/
def hexUnit? : List Char → Option (Nat × List Char)
  | a :: b :: c :: d :: rest => do
      let a ← hexDigit? a
      let b ← hexDigit? b
      let c ← hexDigit? c
      let d ← hexDigit? d
      return (((a * 16 + b) * 16 + c) * 16 + d, rest)
  | _ => none

/-- The character of an escape `\u....`, or of two escapes that form a surrogate pair. -/
def unicodeEscape? (text : List Char) : Option (Char × List Char) := do
  let (unit, rest) ← hexUnit? text
  if 0xD800 ≤ unit ∧ unit < 0xDC00 then
    match rest with
    | '\\' :: 'u' :: rest =>
        let (low, rest) ← hexUnit? rest
        if 0xDC00 ≤ low ∧ low < 0xE000 then
          return (Char.ofNat (0x10000 + (unit - 0xD800) * 0x400 + (low - 0xDC00)), rest)
        else none
    | _ => none
  else if 0xDC00 ≤ unit ∧ unit < 0xE000 then none
  else return (Char.ofNat unit, rest)

/-- The rest of a text after its opening quote, with the characters read so far reversed. -/
def stringBody? (fuel : Nat) (read : List Char) (text : List Char) :
    Option (String × List Char) :=
  match fuel with
  | 0 => none
  | fuel + 1 =>
      match text with
      | '"' :: rest => some (String.ofList read.reverse, rest)
      | '\\' :: 'u' :: rest => do
          let (c, rest) ← unicodeEscape? rest
          stringBody? fuel (c :: read) rest
      | '\\' :: c :: rest =>
          match c with
          | '"' => stringBody? fuel ('"' :: read) rest
          | '\\' => stringBody? fuel ('\\' :: read) rest
          | '/' => stringBody? fuel ('/' :: read) rest
          | 'b' => stringBody? fuel ('\x08' :: read) rest
          | 'f' => stringBody? fuel ('\x0c' :: read) rest
          | 'n' => stringBody? fuel ('\n' :: read) rest
          | 'r' => stringBody? fuel ('\r' :: read) rest
          | 't' => stringBody? fuel ('\t' :: read) rest
          | _ => none
      | [] => none
      | c :: rest => if c.toNat < 0x20 then none else stringBody? fuel (c :: read) rest

/-- The digits at the front of a text, and what follows them. -/
def digits (text : List Char) : List Char × List Char :=
  (text.takeWhile Char.isDigit, text.dropWhile Char.isDigit)

/-- Digits as a natural number. -/
def digitsValue (written : List Char) : Nat :=
  written.foldl (fun value c => value * 10 + (c.toNat - '0'.toNat)) 0

/-- The digits after a decimal point, if there is one. -/
def fractionPart? : List Char → Option (List Char × List Char)
  | '.' :: rest =>
      match digits rest with
      | ([], _) => none
      | found => some found
  | text => some ([], text)

/-- The exponent, if there is one. -/
def exponentPart? : List Char → Option (Option Int × List Char)
  | c :: rest =>
      if c = 'e' ∨ c = 'E' then
        let (negative, rest) :=
          match rest with
          | '-' :: rest => (true, rest)
          | '+' :: rest => (false, rest)
          | rest => (false, rest)
        match digits rest with
        | ([], _) => none
        | (written, rest) =>
            let size : Int := digitsValue written
            some (some (if negative then -size else size), rest)
      else some (none, c :: rest)
  | [] => some (none, [])

/-- A number at the front of a text. -/
def number? (text : List Char) : Option (Number × List Char) := do
  let (negative, text) :=
    match text with
    | '-' :: rest => (true, rest)
    | text => (false, text)
  let (whole, rest) := digits text
  if whole = [] ∨ (whole.head? = some '0' ∧ 1 < whole.length) then none
  else
    let (part, rest) ← fractionPart? rest
    let (power, rest) ← exponentPart? rest
    let magnitude := digitsValue whole
    let value : Int := if negative then -magnitude else magnitude
    let isInteger := part = [] ∧ power = none
    let exact := Int64.minValue.toInt ≤ value ∧ value < UInt64.size ∧ ¬(negative ∧ magnitude = 0)
    if isInteger ∧ exact then return (.integer value, rest)
    else
      let scale : Int := power.getD 0 - part.length
      return (.fraction (Decimal.nearest negative (digitsValue (whole ++ part)) scale), rest)

mutual

/-- A document at the front of a text. -/
def value? (fuel : Nat) (text : List Char) : Option (Json × List Char) :=
  match fuel with
  | 0 => none
  | fuel + 1 =>
      match skipSpace text with
      | 'n' :: 'u' :: 'l' :: 'l' :: rest => some (.null, rest)
      | 't' :: 'r' :: 'u' :: 'e' :: rest => some (.bool true, rest)
      | 'f' :: 'a' :: 'l' :: 's' :: 'e' :: rest => some (.bool false, rest)
      | '"' :: rest => (stringBody? (rest.length + 1) [] rest).map fun (text, rest) =>
          (.string text, rest)
      | '[' :: rest =>
          match skipSpace rest with
          | ']' :: rest => some (.array [], rest)
          | rest => items? fuel [] rest
      | '{' :: rest =>
          match skipSpace rest with
          | '}' :: rest => some (.object [], rest)
          | rest => members? fuel [] rest
      | text => (number? text).map fun (found, rest) => (.number found, rest)

/-- The items of an array up to its closing bracket. -/
def items? (fuel : Nat) (read : List Json) (text : List Char) : Option (Json × List Char) :=
  match fuel with
  | 0 => none
  | fuel + 1 =>
      match value? fuel text with
      | none => none
      | some (item, rest) =>
          match skipSpace rest with
          | ',' :: rest => items? fuel (item :: read) rest
          | ']' :: rest => some (.array (item :: read).reverse, rest)
          | _ => none

/-- The members of an object up to its closing brace. -/
def members? (fuel : Nat) (read : Table String Json) (text : List Char) :
    Option (Json × List Char) :=
  match fuel with
  | 0 => none
  | fuel + 1 =>
      match skipSpace text with
      | '"' :: rest =>
          match stringBody? (rest.length + 1) [] rest with
          | none => none
          | some (name, rest) =>
              match skipSpace rest with
              | ':' :: rest =>
                  match value? fuel rest with
                  | none => none
                  | some (value, rest) =>
                      let read := Table.insert name value read
                      match skipSpace rest with
                      | ',' :: rest => members? fuel read rest
                      | '}' :: rest => some (.object read, rest)
                      | _ => none
              | _ => none
      | _ => none

end

end Reader

/-- The document that a text holds, if it is JSON. -/
def read? (text : String) : Option Json :=
  let characters := text.toList
  match Reader.value? (characters.length + 1) characters with
  | some (document, rest) => if Reader.skipSpace rest = [] then some document else none
  | none => none

end GaleraControl.Json
