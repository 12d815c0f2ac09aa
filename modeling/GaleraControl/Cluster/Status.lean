import GaleraControl.Cluster.Phase
import GaleraControl.Cluster.Report

/-!
# Cluster status

What the controller has recorded about a cluster.  Only the controller writes
the status, except for the reports, which the replicas replace during a
recovery.
-/

namespace GaleraControl

/-- The recorded state of a cluster. -/
structure ClusterStatus where
  phase : Phase := .fresh
  stage : Stage := .unqualified
  /-- The generation of the workload that the controller acted on last. -/
  recordedGeneration : Int64 := 0
  /-- The replica that recovery re-seeds the cluster from. -/
  bootstrapFrom : Option String := none
  reports : List ReplicaReport := []
deriving DecidableEq, Repr, Inhabited

/-- The step that a recovery has reached. -/
inductive RecoveryStep where
  /-- Waiting for every replica to report, then choosing a source. -/
  | selecting
  /-- A source is chosen and has to become ready. -/
  | verifying (source : String)
  /-- The source is primary and the other replicas have to join again. -/
  | reforming
deriving DecidableEq, Repr

namespace ClusterStatus

/-- The designated source of a recovery; an empty text designates none. -/
def bootstrapSource (status : ClusterStatus) : Option String :=
  status.bootstrapFrom.filter (· ≠ "")

/-- The step of a recovery; a designated source takes precedence over the stage. -/
def recoveryStep (status : ClusterStatus) : RecoveryStep :=
  match status.bootstrapSource with
  | some source => .verifying source
  | none => if status.stage = .primaryRecovered then .reforming else .selecting

/-- The members of the document of a status. -/
def members (status : ClusterStatus) : Table String Json :=
  Json.presentMembers [
    ("bootstrapFrom", status.bootstrapFrom.map .string),
    ("phase", some status.phase.toJson),
    ("stage", some status.stage.toJson),
    ("statefulSetObservedGeneration", some (.integer status.recordedGeneration.toInt)),
    ("statefulSetPodConditions",
      if status.reports = [] then none
      else some (.array (status.reports.map ReplicaReport.toJson)))]

/-- The document of a status. -/
def toJson (status : ClusterStatus) : Json := .object status.members

/-- The fields of a status. -/
def reader : RecordReader ClusterStatus :=
  (RecordReader.done ClusterStatus.mk)
  |>.next (.defaulted "phase" Phase.decode .fresh)
  |>.next (.defaulted "stage" Stage.decode .unqualified)
  |>.next (.defaulted "statefulSetObservedGeneration" Decoder.int64 0)
  |>.next (.optional "bootstrapFrom" Decoder.text)
  |>.next (.defaulted "statefulSetPodConditions" (Decoder.list ReplicaReport.decode) [])

/-- Read a status. -/
def decode : Decoder ClusterStatus := .record "MariaDBClusterStatus" reader

end ClusterStatus

end GaleraControl
