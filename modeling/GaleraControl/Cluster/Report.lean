import GaleraControl.Json.Decode

/-!
# Replica reports

During a recovery every replica writes its replication position into the
cluster's status.
-/

namespace GaleraControl

/-- The replication state of a node. -/
structure GraState where
  /-- The last committed sequence number, `-1` when unknown. -/
  seqNo : Int64 := 0
  uuid : Option String := none
  /-- Whether the node may be bootstrapped from, in its own opinion. -/
  safeToBootstrap : Option Bool := none
deriving DecidableEq, Repr, Inhabited

namespace GraState

/-- The document of a replication state. -/
def toJson (state : GraState) : Json :=
  .ofMembers [
    ("safeToBootstrap", state.safeToBootstrap.map .bool),
    ("seqno", some (.integer state.seqNo.toInt)),
    ("uuid", state.uuid.map .string)]

/-- The fields of a replication state. -/
def reader : RecordReader GraState :=
  (RecordReader.done GraState.mk)
  |>.next (.required "seqno" Decoder.int64)
  |>.next (.optional "uuid" Decoder.text)
  |>.next (.optional "safeToBootstrap" Decoder.bool)

/-- Read a replication state. -/
def decode : Decoder GraState := .record "GraState" reader

end GraState

/-- What a replica reports about itself. -/
structure ReplicaReport where
  hostname : String := ""
  graState : GraState := {}
deriving DecidableEq, Repr, Inhabited

namespace ReplicaReport

/-- The reported sequence number. -/
def seqNo (report : ReplicaReport) : Int64 := report.graState.seqNo

/-- The document of a report. -/
def toJson (report : ReplicaReport) : Json :=
  .ofMembers [
    ("graState", some report.graState.toJson),
    ("hostname", some (.string report.hostname))]

/-- The fields of a report. -/
def reader : RecordReader ReplicaReport :=
  (RecordReader.done ReplicaReport.mk)
  |>.next (.required "hostname" Decoder.text)
  |>.next (.required "graState" GraState.decode)

/-- Read a report. -/
def decode : Decoder ReplicaReport := .record "PodCondition" reader

end ReplicaReport

end GaleraControl
