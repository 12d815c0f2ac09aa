import GaleraControl.Json
import GaleraControl.Text.Quoted

/-!
# Decoding JSON into typed values

A `Decoder` reads one value or says why it cannot.  A record is read by a
`RecordReader`, which is built from its fields in declaration order and accepts
two spellings: an object with the declared names, where unknown members are
ignored, and an array of the fields in declaration order.

In an object the first member that does not decode, in key order, is the
failure; only when all present members decode is the first missing field
reported.  In an array the fields are read one after another.
-/

namespace GaleraControl

/-- Why a document is not of the expected form. -/
inductive DecodeError where
  | missingField (name : String)
  /-- A value of another type than the expected one. -/
  | wrongType (found : Json) (expected : String)
  /-- An integer outside the range of the expected type. -/
  | outOfRange (value : Int) (expected : String)
  /-- A choice written as an object with other than one member. -/
  | notSingleKey
  /-- A choice that is not among the known ones. -/
  | unknownVariant (name : String) (known : List String)
  /-- A record written as an array that ends before a field without a default. -/
  | tooShort (present : Nat) (record : String) (fields : Nat)
  /-- A record written as an array with items after its last field. -/
  | tooLong (present : Nat)
deriving DecidableEq, Repr

namespace DecodeError

/-- A value as it is described in messages. -/
def describe : Json → String
  | .null => "null"
  | .bool value => "boolean `" ++ (if value then "true" else "false") ++ "`"
  | .number (.integer value) => "integer `" ++ toString value ++ "`"
  | .number (.fraction value) => "floating point `" ++ value.text ++ "`"
  | .string value => "string " ++ Text.quoted value
  | .array _ => "sequence"
  | .object _ => "map"

/-- The known choices as they are listed in messages. -/
def listed (known : List String) : String :=
  String.intercalate ", " (known.map fun name => "`" ++ name ++ "`")

/-- The explanation of a failure. -/
def message : DecodeError → String
  | .missingField name => "missing field `" ++ name ++ "`"
  | .wrongType found expected =>
      "invalid type: " ++ describe found ++ ", expected " ++ expected
  | .outOfRange value expected =>
      "invalid value: integer `" ++ toString value ++ "`, expected " ++ expected
  | .notSingleKey => "invalid value: map, expected map with a single key"
  | .unknownVariant name known =>
      "unknown variant `" ++ name ++ "`, expected one of " ++ listed known
  | .tooShort present record fields =>
      "invalid length " ++ toString present ++ ", expected struct " ++ record ++ " with "
        ++ toString fields ++ " elements"
  | .tooLong present =>
      "invalid length " ++ toString present ++ ", expected fewer elements in array"

end DecodeError

/-- A reader of one value. -/
abbrev Decoder (Value : Type) := Json → Except DecodeError Value

namespace Decoder

/-- A text. -/
def text : Decoder String
  | .string value => .ok value
  | found => .error (.wrongType found "a string")

/-- A truth value. -/
def bool : Decoder Bool
  | .bool value => .ok value
  | found => .error (.wrongType found "a boolean")

/-- An integer of 32 bits. -/
def int32 : Decoder Int32
  | .number (.integer value) =>
      if Int32.minValue.toInt ≤ value ∧ value ≤ Int32.maxValue.toInt then .ok (Int32.ofInt value)
      else .error (.outOfRange value "i32")
  | found => .error (.wrongType found "i32")

/-- An integer of 64 bits. -/
def int64 : Decoder Int64
  | .number (.integer value) =>
      if Int64.minValue.toInt ≤ value ∧ value ≤ Int64.maxValue.toInt then .ok (Int64.ofInt value)
      else .error (.outOfRange value "i64")
  | found => .error (.wrongType found "i64")

/-- A natural number of 16 bits. -/
def word16 : Decoder UInt16
  | .number (.integer value) =>
      if 0 ≤ value ∧ value < UInt16.size then .ok (UInt16.ofNat value.toNat)
      else .error (.outOfRange value "u16")
  | found => .error (.wrongType found "u16")

/-- A value that may be `null`. -/
def optional {Value : Type} (decode : Decoder Value) : Decoder (Option Value)
  | .null => .ok none
  | found => (decode found).map some

/-- A sequence of values. -/
def list {Value : Type} (decode : Decoder Value) : Decoder (List Value)
  | .array items => items.mapM decode
  | found => .error (.wrongType found "a sequence")

/-- Named values of one type. -/
def table {Value : Type} (decode : Decoder Value) : Decoder (Table String Value)
  | .object members => members.mapM fun member => (decode member.2).map (member.1, ·)
  | found => .error (.wrongType found "a map")

/--
A choice among named values: its name, or an object whose only member has that
name and the value `null`.
-/
def choice {Value : Type} (known : List (String × Value)) : Decoder Value
  | .string name => named name
  | .object [(name, content)] => do
      let value ← named name
      match content with
      | .null => return value
      | found => throw (.wrongType found "unit")
  | .object _ => .error .notSingleKey
  | found => .error (.wrongType found "string or map")
where
  named (name : String) : Except DecodeError Value :=
    match Table.get? known name with
    | some value => .ok value
    | none => .error (.unknownVariant name (known.map Prod.fst))

end Decoder

/-- What is left of an array while the fields of a record are read from it. -/
structure Items where
  rest : List Json
  present : Nat

/-- A reader of the fields of a record, in declaration order. -/
structure RecordReader (Value : Type) where
  /-- The declared names, each with the check of a present member. -/
  checks : List (String × (Json → Except DecodeError Unit))
  /-- Read the fields from the members of an object. -/
  ofMembers : List (String × Json) → Except DecodeError Value
  /-- Read the fields from the items of an array; the first argument tells what is too short. -/
  ofItems : (Nat → DecodeError) → Items → Except DecodeError (Value × Items)

namespace RecordReader

/-- A record without fields. -/
def done {Value : Type} (value : Value) : RecordReader Value where
  checks := []
  ofMembers _ := .ok value
  ofItems _ items := .ok (value, items)

/-- A field that takes the value `absent` when it is not present, or is required. -/
def fieldWith {Value : Type} (name : String) (decode : Decoder Value)
    (absent : Option Value) : RecordReader Value where
  checks := [(name, fun found => (decode found).map fun _ => ())]
  ofMembers members :=
    match Table.get? members name, absent with
    | some found, _ => decode found
    | none, some value => .ok value
    | none, none => .error (.missingField name)
  ofItems tooShort items :=
    match items.rest, absent with
    | found :: rest, _ => do return (← decode found, { items with rest })
    | [], some value => .ok (value, items)
    | [], none => .error (tooShort items.present)

/-- A field that must be present. -/
def required {Value : Type} (name : String) (decode : Decoder Value) : RecordReader Value :=
  fieldWith name decode none

/-- A field with a default. -/
def defaulted {Value : Type} (name : String) (decode : Decoder Value) (absent : Value) :
    RecordReader Value :=
  fieldWith name decode (some absent)

/-- A field that may be absent or `null`. -/
def optional {Value : Type} (name : String) (decode : Decoder Value) :
    RecordReader (Option Value) :=
  fieldWith name decode.optional (some none)

/-- A field that takes the value `absent` when it is not present or `null`. -/
def lenient {Value : Type} (name : String) (decode : Decoder Value) (absent : Value) :
    RecordReader Value :=
  defaulted name (fun found => (decode.optional found).map fun value => value.getD absent) absent

/-- A field that may be absent or `null` in an object, but has its place in an array. -/
def nullable {Value : Type} (name : String) (decode : Decoder Value) :
    RecordReader (Option Value) where
  checks := (optional name decode).checks
  ofMembers := (optional name decode).ofMembers
  ofItems := (required name decode.optional).ofItems

/-- Apply a function of the fields read so far to one more field. -/
def next {Value Field : Type} (reader : RecordReader (Field → Value))
    (field : RecordReader Field) : RecordReader Value where
  checks := reader.checks ++ field.checks
  ofMembers members := do return (← reader.ofMembers members) (← field.ofMembers members)
  ofItems tooShort items := do
    let (build, items) ← reader.ofItems tooShort items
    let (value, items) ← field.ofItems tooShort items
    return (build value, items)

/-- The first member, in the order of the object, that does not decode. -/
def firstFault? {Value : Type} (reader : RecordReader Value) (members : List (String × Json)) :
    Option DecodeError :=
  members.findSome? fun member =>
    match Table.get? reader.checks member.1 with
    | none => none
    | some check =>
        match check member.2 with
        | .ok _ => none
        | .error fault => some fault

/-- Read a record from the members of an object. -/
def object {Value : Type} (reader : RecordReader Value) (members : List (String × Json)) :
    Except DecodeError Value :=
  match reader.firstFault? members with
  | some fault => .error fault
  | none => reader.ofMembers members

end RecordReader

namespace Decoder

/-- A record, given its name, from an object or an array. -/
def record {Value : Type} (name : String) (reader : RecordReader Value) : Decoder Value
  | .object members => reader.object members
  | .array present => do
      let tooShort present := DecodeError.tooShort present name reader.checks.length
      let (value, left) ← reader.ofItems tooShort ⟨present, present.length⟩
      if left.rest = [] then return value else throw (.tooLong present.length)
  | found => .error (.wrongType found ("struct " ++ name))

/-- A record that is written as an object only, described as `expected`. -/
def objectOnly {Value : Type} (expected : String) (reader : RecordReader Value) :
    Decoder Value
  | .object members => reader.object members
  | found => .error (.wrongType found expected)

end Decoder

end GaleraControl
