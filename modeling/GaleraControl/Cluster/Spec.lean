import GaleraControl.SyncError
import GaleraControl.Text.Blank

/-!
# Cluster specification

What a user asks for.
-/

namespace GaleraControl

/-- The volume that snapshots of a cluster are staged on. -/
structure SnapshotSpec where
  size : String := ""
  storageClassName : Option String := none
deriving DecidableEq, Repr, Inhabited

namespace SnapshotSpec

/-- The document of a snapshot section. -/
def toJson (snapshot : SnapshotSpec) : Json :=
  .ofMembers [
    ("size", some (.string snapshot.size)),
    ("storageClassName", snapshot.storageClassName.map .string)]

/-- The fields of a snapshot section. -/
def reader : RecordReader SnapshotSpec :=
  (RecordReader.done SnapshotSpec.mk)
  |>.next (.required "size" Decoder.text)
  |>.next (.optional "storageClassName" Decoder.text)

/-- Read a snapshot section. -/
def decode : Decoder SnapshotSpec := .record "SnapshotSpec" reader

end SnapshotSpec

/-- What a user asks of a cluster. -/
structure ClusterSpec where
  replicas : Int32
  image : Option String := none
  storageSize : Option String := none
  storageClassName : Option String := none
  snapshot : Option SnapshotSpec := none
deriving DecidableEq, Repr, Inhabited

namespace ClusterSpec

/-- The image of a cluster that asks for none. -/
def defaultImage : String := "mariadb:11.4"

/-- The size of the data volumes of a cluster that asks for none. -/
def defaultStorageSize : String := "10Gi"

/-- The image of the server container. -/
def serverImage (spec : ClusterSpec) : String := spec.image.getD defaultImage

/-- The size of each replica's data volume. -/
def volumeSize (spec : ClusterSpec) : String := spec.storageSize.getD defaultStorageSize

/-- Why a specification is refused. -/
inductive Fault where
  | tooFewReplicas (replicas : Int32)
  | blankSnapshotSize
deriving DecidableEq, Repr

/-- The explanation of a refusal. -/
def Fault.message : Fault → String
  | .tooFewReplicas replicas =>
      "replicas must be at least 1, got " ++ toString replicas.toInt
  | .blankSnapshotSize => "snapshot.size cannot be empty"

/-- The first reason to refuse a specification. -/
def fault? (spec : ClusterSpec) : Option Fault :=
  if spec.replicas < 1 then some (.tooFewReplicas spec.replicas)
  else
    match spec.snapshot with
    | some snapshot => if Text.isBlank snapshot.size then some .blankSnapshotSize else none
    | none => none

/-- Refuse a specification on behalf of a cluster. -/
def validate (cluster : String) (spec : ClusterSpec) : Except SyncError Unit :=
  match spec.fault? with
  | some fault => .error (.validation cluster fault.message)
  | none => .ok ()

/-- The document of a specification. -/
def toJson (spec : ClusterSpec) : Json :=
  .ofMembers [
    ("image", spec.image.map .string),
    ("replicas", some (.integer spec.replicas.toInt)),
    ("snapshot", spec.snapshot.map SnapshotSpec.toJson),
    ("storageClassName", spec.storageClassName.map .string),
    ("storageSize", spec.storageSize.map .string)]

/-- The fields of a specification. -/
def reader : RecordReader ClusterSpec :=
  (RecordReader.done ClusterSpec.mk)
  |>.next (.required "replicas" Decoder.int32)
  |>.next (.optional "image" Decoder.text)
  |>.next (.optional "storageSize" Decoder.text)
  |>.next (.optional "storageClassName" Decoder.text)
  |>.next (.optional "snapshot" SnapshotSpec.decode)

/-- Read a specification. -/
def decode : Decoder ClusterSpec := .record "MariaDBClusterSpec" reader

end ClusterSpec

end GaleraControl
