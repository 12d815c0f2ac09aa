import GaleraControl.Cluster.Report

/-!
# Choosing the source of a recovery

When the primary component is lost, only the most advanced replica is a safe
source.  The choice waits for exactly as many reports as there are replicas.  A
replica without a positive sequence number makes the comparison meaningless, so
then no source is chosen.  Of several replicas at the maximum the first report
wins.
-/

namespace GaleraControl.Quorum

/-- What the reports allow to decide. -/
inductive Decision where
  /-- The number of reports is not the number of replicas. -/
  | pending (reported : Nat) (desired : Int32)
  /-- The replica to re-seed from, with its sequence number. -/
  | selected (hostname : String) (seqNo : Int64)
  /-- The replicas without a positive sequence number, in report order. -/
  | invalidReport (hostnames : List String)
deriving DecidableEq, Repr

/-- The first report with the greatest sequence number among a report and those after it. -/
def mostAdvanced (best : ReplicaReport) (reports : List ReplicaReport) : ReplicaReport :=
  reports.foldl (fun best report => if best.seqNo < report.seqNo then report else best) best

/-- The replicas whose sequence number is not positive. -/
def unusable (reports : List ReplicaReport) : List String :=
  (reports.filter fun report => report.seqNo ≤ 0).map ReplicaReport.hostname

/-- Choose the replica to re-seed from. -/
def select (reports : List ReplicaReport) (desired : Int32) : Decision :=
  match reports with
  | [] => .pending 0 desired
  | first :: rest =>
      if (reports.length : Int) ≠ desired.toInt then .pending reports.length desired
      else if unusable reports ≠ [] then .invalidReport (unusable reports)
      else
        let best := mostAdvanced first rest
        .selected best.hostname best.seqNo

end GaleraControl.Quorum
