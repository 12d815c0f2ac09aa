import GaleraControl.Json.Decode

/-!
# Object metadata

The part that every object of the API server has: its name, its namespace, the
labels, and the objects that own it.
-/

namespace GaleraControl

/-- A reference from an object to an owner of it. -/
structure OwnerReference where
  apiVersion : String
  kind : String
  name : String
  uid : String
  controller : Option Bool := none
deriving DecidableEq, Repr

namespace OwnerReference

/-- The document of a reference. -/
def toJson (owner : OwnerReference) : Json :=
  .ofMembers [
    ("apiVersion", some (.string owner.apiVersion)),
    ("controller", owner.controller.map .bool),
    ("kind", some (.string owner.kind)),
    ("name", some (.string owner.name)),
    ("uid", some (.string owner.uid))]

/-- The fields of a reference. -/
def reader : RecordReader OwnerReference :=
  (RecordReader.done OwnerReference.mk)
  |>.next (.lenient "apiVersion" Decoder.text "")
  |>.next (.lenient "kind" Decoder.text "")
  |>.next (.lenient "name" Decoder.text "")
  |>.next (.lenient "uid" Decoder.text "")
  |>.next (.optional "controller" Decoder.bool)

/-- Read a reference. -/
def decode : Decoder OwnerReference := .objectOnly "OwnerReference" reader

end OwnerReference

/-- The metadata of an object. -/
structure ObjectMeta where
  /-- The name, unique for its kind within the namespace. -/
  name : Option String := none
  /-- The start of a name that the server completes. -/
  generateName : Option String := none
  namespaceName : Option String := none
  /-- The unique identifier that the server gave the object. -/
  uid : Option String := none
  resourceVersion : Option String := none
  generation : Option Int64 := none
  labels : Option (Table String String) := none
  annotations : Option (Table String String) := none
  ownerReferences : Option (List OwnerReference) := none
deriving DecidableEq, Repr, Inhabited

namespace ObjectMeta

/-- The name of an object, or else the start of its name, or else the empty text. -/
def anyName (metadata : ObjectMeta) : String :=
  metadata.name.getD (metadata.generateName.getD "")

/-- The namespace of an object, empty if it has none. -/
def anyNamespace (metadata : ObjectMeta) : String :=
  metadata.namespaceName.getD ""

/-- The owners of an object. -/
def owners (metadata : ObjectMeta) : List OwnerReference :=
  metadata.ownerReferences.getD []

/-- The document of the metadata, with only the entries that are set. -/
def toJson (metadata : ObjectMeta) : Json :=
  .ofMembers [
    ("annotations", metadata.annotations.map .ofTexts),
    ("generateName", metadata.generateName.map .string),
    ("generation", metadata.generation.map fun count => .integer count.toInt),
    ("labels", metadata.labels.map .ofTexts),
    ("name", metadata.name.map .string),
    ("namespace", metadata.namespaceName.map .string),
    ("ownerReferences", metadata.ownerReferences.map fun owners =>
      .array (owners.map OwnerReference.toJson)),
    ("resourceVersion", metadata.resourceVersion.map .string),
    ("uid", metadata.uid.map .string)]

/-- The fields of metadata. -/
def reader : RecordReader ObjectMeta :=
  (RecordReader.done ObjectMeta.mk)
  |>.next (.optional "name" Decoder.text)
  |>.next (.optional "generateName" Decoder.text)
  |>.next (.optional "namespace" Decoder.text)
  |>.next (.optional "uid" Decoder.text)
  |>.next (.optional "resourceVersion" Decoder.text)
  |>.next (.optional "generation" Decoder.int64)
  |>.next (.optional "labels" (Decoder.table Decoder.text))
  |>.next (.optional "annotations" (Decoder.table Decoder.text))
  |>.next (.optional "ownerReferences" (Decoder.list OwnerReference.decode))

/-- Read metadata. -/
def decode : Decoder ObjectMeta := .objectOnly "ObjectMeta" reader

end ObjectMeta

/-- A reference to an object, as events carry it. -/
structure ObjectReference where
  apiVersion : String
  kind : String
  name : Option String
  namespaceName : Option String
  uid : Option String
deriving DecidableEq, Repr

namespace ObjectReference

/-- The document of a reference. -/
def toJson (reference : ObjectReference) : Json :=
  .ofMembers [
    ("apiVersion", some (.string reference.apiVersion)),
    ("kind", some (.string reference.kind)),
    ("name", reference.name.map .string),
    ("namespace", reference.namespaceName.map .string),
    ("uid", reference.uid.map .string)]

end ObjectReference

end GaleraControl
