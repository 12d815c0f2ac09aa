import GaleraControl.Json

/-!
# Patches

A patch is a list of operations on the members of a document.  It applies as a
whole or not at all: an operation on a place that does not exist, or a test
that finds another value, makes the whole patch fail.  Paths lead through
objects only.
-/

namespace GaleraControl

namespace Json

/-- The value at a path. -/
def get? : List String → Json → Option Json
  | [], document => some document
  | name :: rest, .object members => (Table.get? members name).bind (get? rest)
  | _ :: _, _ => none

/-- Write a value at a path whose parent exists, whether or not there is a value yet. -/
def add? (value : Json) : List String → Json → Option Json
  | [], _ => some value
  | [name], .object members => some (.object (Table.insert name value members))
  | name :: rest, .object members => do
      let inner ← Table.get? members name
      let changed ← add? value rest inner
      return .object (Table.insert name changed members)
  | _ :: _, _ => none

/-- Remove the value at a path. -/
def remove? : List String → Json → Option Json
  | [], _ => none
  | [name], .object members =>
      if Table.contains members name then some (.object (Table.erase name members)) else none
  | name :: rest, .object members => do
      let inner ← Table.get? members name
      let changed ← remove? rest inner
      return .object (Table.insert name changed members)
  | _ :: _, _ => none

end Json

/-- One operation of a patch. -/
inductive PatchOperation where
  /-- Write a value, over the old one if there is one. -/
  | add (path : List String) (value : Json)
  | remove (path : List String)
  /-- Fail unless the value is the given one. -/
  | test (path : List String) (value : Json)
deriving DecidableEq, Repr

namespace PatchOperation

/-- A name as it is written inside a path. -/
def pathToken (name : String) : String :=
  String.join <| name.toList.map fun c =>
    if c = '~' then "~0" else if c = '/' then "~1" else c.toString

/-- The text of a path. -/
def pathText (path : List String) : String :=
  String.join (path.map fun name => "/" ++ pathToken name)

/-- The document of an operation. -/
def toJson : PatchOperation → Json
  | .add path value =>
      .ofEntries [("op", .string "add"), ("path", .string (pathText path)), ("value", value)]
  | .remove path => .ofEntries [("op", .string "remove"), ("path", .string (pathText path))]
  | .test path value =>
      .ofEntries [("op", .string "test"), ("path", .string (pathText path)), ("value", value)]

/-- Apply one operation. -/
def perform? (document : Json) : PatchOperation → Option Json
  | .add path value => Json.add? value path document
  | .remove path => Json.remove? path document
  | .test path value => if Json.get? path document = some value then some document else none

end PatchOperation

/-- Apply the operations of a patch in order. -/
def Json.patch? (document : Json) (operations : List PatchOperation) : Option Json :=
  operations.foldlM PatchOperation.perform? document

@[simp]
theorem Json.patch?_nil (document : Json) : document.patch? [] = some document := rfl

@[simp]
theorem Json.patch?_cons (document : Json) (operation : PatchOperation)
    (operations : List PatchOperation) :
    document.patch? (operation :: operations) =
      (operation.perform? document).bind fun changed => changed.patch? operations := rfl

end GaleraControl
