import GaleraControl.Cluster

/-!
# The definition of the cluster resource

What the API server has to know in order to store clusters: the names of the
resource, the columns that listings show, and the schema of its documents.
-/

namespace GaleraControl.Cluster

/-- A schema with a description and further entries. -/
def describedSchema (description : String) (entries : List (String × Json)) : Json :=
  .ofEntries (("description", .string description) :: entries)

/-- The entries of a value that may be `null`. -/
def nullableEntries : List (String × Json) := [("nullable", .bool true)]

/-- The entries of a text. -/
def textEntries : List (String × Json) := [("type", .string "string")]

/-- The entries of an integer with the given number of bits. -/
def integerEntries (bits : Nat) : List (String × Json) :=
  [("format", .string ("int" ++ toString bits)), ("type", .string "integer")]

/-- The entries of one of several texts, the first of which is the default. -/
def choiceEntries (choices : List String) : List (String × Json) :=
  textEntries ++ [
    ("default", .string (choices.headD "")),
    ("enum", .array (choices.map .string))]

/-- The entries of an object. -/
def objectEntries (required : List String) (properties : List (String × Json)) :
    List (String × Json) :=
  [("type", .string "object"), ("properties", .ofEntries properties)]
    ++ if required = [] then [] else [("required", .array (required.map .string))]

/-- The schema of a snapshot section. -/
def snapshotSchema : Json :=
  describedSchema "Volume used to stage snapshots taken from the cluster" <|
    nullableEntries ++ objectEntries ["size"] [
      ("size", describedSchema "Requested size (e.g. \"20Gi\")" textEntries),
      ("storageClassName", describedSchema "Storage class for the snapshot claim"
        (nullableEntries ++ textEntries))]

/-- The schema of a specification. -/
def specSchema : Json :=
  describedSchema "Specification for a MariaDBCluster" <|
    objectEntries ["replicas"] [
      ("image", describedSchema "Server container image" (nullableEntries ++ textEntries)),
      ("replicas", describedSchema "Desired number of database replicas" (integerEntries 32)),
      ("snapshot", snapshotSchema),
      ("storageClassName", describedSchema "Storage class for replica data volumes"
        (nullableEntries ++ textEntries)),
      ("storageSize", describedSchema "Size of each replica's data volume (e.g. \"10Gi\")"
        (nullableEntries ++ textEntries))]

/-- The schema of a replication state. -/
def graStateSchema : Json :=
  describedSchema "Replication position of the replica" <|
    objectEntries ["seqno"] [
      ("safeToBootstrap",
        describedSchema "Whether the node considers itself safe to bootstrap from"
          (nullableEntries ++ [("type", .string "boolean")])),
      ("seqno", describedSchema "Last committed sequence number; `-1` when unknown"
        (integerEntries 64)),
      ("uuid", describedSchema "Cluster state UUID" (nullableEntries ++ textEntries))]

/-- The schema of a report. -/
def reportSchema : Json :=
  describedSchema "A replica's self-report during recovery" <|
    objectEntries ["graState", "hostname"] [
      ("graState", graStateSchema),
      ("hostname", describedSchema "Pod hostname of the reporting replica" textEntries)]

/-- The schema of a status. -/
def statusSchema : Json :=
  describedSchema "Status for a MariaDBCluster" <|
    nullableEntries ++ objectEntries [] [
      ("bootstrapFrom",
        describedSchema "Replica designated to re-seed the cluster during recovery"
          (nullableEntries ++ textEntries)),
      ("phase", describedSchema "Current lifecycle phase"
        (choiceEntries (Phase.all.map Phase.text))),
      ("stage", describedSchema "Qualifier within the phase"
        (choiceEntries (Stage.all.map Stage.text))),
      ("statefulSetObservedGeneration",
        describedSchema "Last StatefulSet generation the controller acted on"
          (("default", .integer 0) :: integerEntries 64)),
      ("statefulSetPodConditions",
        describedSchema "Per-replica replication reports collected during recovery"
          [("items", reportSchema), ("type", .string "array")])]

/-- The schema of a cluster. -/
def schema : Json :=
  describedSchema "Auto-generated derived type for MariaDBClusterSpec via `CustomResource`" <|
    ("title", .string kind) ::
      objectEntries ["spec"] [("spec", specSchema), ("status", statusSchema)]

/-- A column that listings show. -/
structure Column where
  name : String
  type : String
  /-- The place of the values in a document. -/
  path : String
deriving DecidableEq, Repr

/-- The document of a column. -/
def Column.toJson (column : Column) : Json :=
  .ofEntries [
    ("jsonPath", .string column.path),
    ("name", .string column.name),
    ("type", .string column.type)]

/-- The columns that listings show. -/
def columns : List Column := [
  ⟨"Phase", "string", ".status.phase"⟩,
  ⟨"Stage", "string", ".status.stage"⟩,
  ⟨"Replicas", "integer", ".spec.replicas"⟩,
  ⟨"Age", "date", ".metadata.creationTimestamp"⟩]

/-- The name of the definition. -/
def definitionName : String := plural ++ "." ++ group

/-- The names of the resource. -/
def resourceNames : Json :=
  .ofEntries [
    ("categories", .array []),
    ("kind", .string kind),
    ("plural", .string plural),
    ("shortNames", .array [.string "mdbc"]),
    ("singular", .string "mariadbcluster")]

/-- The only version of the resource, with its status as a part of its own. -/
def resourceVersion : Json :=
  .ofEntries [
    ("additionalPrinterColumns", .array (columns.map Column.toJson)),
    ("name", .string version),
    ("schema", .ofEntries [("openAPIV3Schema", schema)]),
    ("served", .bool true),
    ("storage", .bool true),
    ("subresources", .ofEntries [("status", .object [])])]

/-- The definition of the resource. -/
def definition : Json :=
  .ofEntries [
    ("apiVersion", .string "apiextensions.k8s.io/v1"),
    ("kind", .string "CustomResourceDefinition"),
    ("metadata", .ofEntries [("name", .string definitionName)]),
    ("spec", .ofEntries [
      ("group", .string group),
      ("names", resourceNames),
      ("scope", .string "Namespaced"),
      ("versions", .array [resourceVersion])])]

end GaleraControl.Cluster
