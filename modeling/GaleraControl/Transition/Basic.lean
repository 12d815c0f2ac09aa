import GaleraControl.Cluster
import GaleraControl.Workload

/-!
# Transitions

One pass moves a cluster's status by at most one transition.  A transition
holds the complete next status and says what happened; a pass that has nothing
to do keeps the status and says what it waits for.
-/

namespace GaleraControl

/-- What a pass saw of the cluster's dependents. -/
structure Observed where
  /-- The workload, when the phase looks at it and it exists. -/
  workload : Option WorkloadView := none
  /-- The designated source, while a recovery verifies it. -/
  bootstrapPod : Option PodView := none
deriving DecidableEq, Repr

/-- What a pass waits for. -/
inductive WaitReason where
  | workloadNotObserved
  /-- The cluster asks for fewer replicas than the bootstrap step is about. -/
  | tooFewReplicasRequested
  /-- The last change of the workload has not been acted on. -/
  | changeNotPickedUp
  /-- The nodes of the bootstrap step do not run yet. -/
  | nodeNotRunning
  | workloadNotReady
  /-- Some replicas of an operational cluster are not ready. -/
  | replicasRolling
  | reportsMissing
  | sourceNotReady
  | sourceNotObserved
  /-- The cluster is formed again and not all replicas have joined. -/
  | replicasRejoining
deriving DecidableEq, Repr

/-- The text of an unmet condition. -/
def WaitReason.message : WaitReason → String
  | .workloadNotObserved => "server statefulset not observed"
  | .tooFewReplicasRequested => "not enough replicas requested for this step"
  | .changeNotPickedUp => "statefulset has not picked up the last change"
  | .nodeNotRunning => "bootstrap node not running yet"
  | .workloadNotReady => "statefulset not ready"
  | .replicasRolling => "replicas still rolling"
  | .reportsMissing => "waiting for replica reports"
  | .sourceNotReady => "bootstrap replica not ready"
  | .sourceNotObserved => "bootstrap replica not observed"
  | .replicasRejoining => "replicas rejoining"

/-- What a pass decided. -/
inductive Outcome where
  | waiting (reason : WaitReason)
  | phaseChanged (before after : Phase)
  /-- The cluster is operational and every replica is ready. -/
  | synced
  | sourceSelected (hostname : String) (seqNo : Int64)
  /-- A recovery found reports that it cannot compare. -/
  | invalidReport (hostnames : List String)
  | primaryRecovered (hostname : String)
  /-- The cluster lost every replica again, and a source is chosen anew. -/
  | recoveryRestarted
deriving DecidableEq, Repr

/-- The result of a pass. -/
structure Transition where
  status : ClusterStatus
  outcome : Outcome
deriving DecidableEq, Repr

namespace Transition

/-- Keep the status and wait. -/
def wait (status : ClusterStatus) (reason : WaitReason) : Transition :=
  ⟨status, .waiting reason⟩

/-- Move from a phase to that of the next status. -/
def advance (before : Phase) (next : ClusterStatus) : Transition :=
  ⟨next, .phaseChanged before next.phase⟩

@[simp]
theorem wait_status (status : ClusterStatus) (reason : WaitReason) :
    (wait status reason).status = status := rfl

@[simp]
theorem advance_status (before : Phase) (next : ClusterStatus) :
    (advance before next).status = next := rfl

end Transition

end GaleraControl
