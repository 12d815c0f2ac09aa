import GaleraControl.Json

/-!
# Writing YAML

Documents in block style: members and items stand on lines of their own, the
items of a member's list at the indentation of the member, and empty lists and
objects in brackets.  A text is written plain where it reads back as the same
text, and between single quotes otherwise.
-/

namespace GaleraControl.Yaml

/-- The characters that a plain text cannot begin with. -/
def indicators : List Char :=
  ['#', ',', '[', ']', '\x7b', '\x7d', '&', '*', '!', '|', '>', '\'', '"', '%', '@', '`']

/-- The texts that stand for other values. -/
def reserved : List String :=
  ["", "~", "null", "Null", "NULL", "true", "True", "TRUE", "false", "False", "FALSE"]

/-- Whether a text begins like a number. -/
def looksNumeric : List Char → Bool
  | '+' :: rest | '-' :: rest => looksNumeric rest
  | '.' :: c :: _ => c.isDigit
  | c :: _ => c.isDigit
  | [] => false

/-- Whether a colon that ends a key, or a mark that begins a comment, stands in a text. -/
def hasSeparator : List Char → Bool
  | [] => false
  | [c] => c = ':'
  | ':' :: ' ' :: _ => true
  | ' ' :: '#' :: _ => true
  | _ :: rest => hasSeparator rest

/-- Whether the first character of a text has a meaning of its own. -/
def startsWithIndicator : List Char → Bool
  | [] => false
  | ['-'] | ['?'] => true
  | '-' :: ' ' :: _ | '?' :: ' ' :: _ | ' ' :: _ => true
  | c :: _ => c ∈ indicators

/-- Whether a text reads back as itself without quotes. -/
def isPlain (text : String) : Bool :=
  let characters := text.toList
  text ∉ reserved && !looksNumeric characters && !hasSeparator characters
    && !startsWithIndicator characters && characters.getLast? ≠ some ' '

/-- A text between single quotes, where a quote is written twice. -/
def singleQuoted (text : String) : String :=
  "'" ++ String.join (text.toList.map fun c => if c = '\'' then "''" else c.toString) ++ "'"

/-- A text. -/
def writeText (text : String) : String :=
  if isPlain text then text else singleQuoted text

/-- An indentation. -/
def indent (width : Nat) : String := String.ofList (List.replicate width ' ')

/-- What is written on the line of its key or mark, if the value fits there. -/
def inline? : Json → Option String
  | .null => some "null"
  | .bool value => some (if value then "true" else "false")
  | .number (.integer value) => some (toString value)
  | .number (.fraction value) => some value.text
  | .string value => some (writeText value)
  | .array [] => some "[]"
  | .object [] => some "\x7b\x7d"
  | .array _ | .object _ => none

/-- Lines that are indented by two more places, with a mark in front of the first. -/
def marked (width : Nat) : List String → List String
  | [] => []
  | first :: rest =>
      (indent width ++ "- " ++ String.ofList (first.toList.drop (width + 2))) :: rest

mutual

/-- The lines after the key of a member; the items of a list are not indented further. -/
def memberBlock (width : Nat) : Json → List String
  | .array items => itemLines width items
  | .object members => memberLines (width + 2) members
  | _ => []

/-- The lines of an item. -/
def itemBlock (width : Nat) : Json → List String
  | .array items => itemLines (width + 2) items
  | .object members => memberLines (width + 2) members
  | _ => []

/-- The lines of the items of a list. -/
def itemLines (width : Nat) : List Json → List String
  | [] => []
  | item :: items =>
      (match inline? item with
        | some text => [indent width ++ "- " ++ text]
        | none => marked width (itemBlock width item))
      ++ itemLines width items

/-- The lines of the members of an object. -/
def memberLines (width : Nat) : List (String × Json) → List String
  | [] => []
  | (name, value) :: members =>
      let key := indent width ++ writeText name ++ ":"
      (match inline? value with
        | some text => [key ++ " " ++ text]
        | none => key :: memberBlock width value)
      ++ memberLines width members

end

/-- The text of a document, which ends its last line. -/
def write (document : Json) : String :=
  let written :=
    match inline? document, document with
    | some text, _ => [text]
    | none, .array items => itemLines 0 items
    | none, .object members => memberLines 0 members
    | none, _ => []
  String.join (written.map (· ++ "\n"))

end GaleraControl.Yaml
