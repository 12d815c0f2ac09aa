import GaleraControl.Quorum
import GaleraControl.Transition.Basic

/-!
# Recovery

A cluster without its primary component is formed again in three steps: once
all replicas have reported, the most advanced one is chosen; the chosen replica
has to become ready; then the others join.  When the whole set goes down again
the choice starts over.
-/

namespace GaleraControl.Recovery

/-- Choose a source once every replica has reported. -/
def select (spec : ClusterSpec) (status : ClusterStatus) : Transition :=
  match Quorum.select status.reports spec.replicas with
  | .pending _ _ => .wait status .reportsMissing
  | .selected hostname seqNo =>
      let stage := if status.stage = .invalidReport then .unqualified else status.stage
      ⟨{ status with bootstrapFrom := some hostname, stage }, .sourceSelected hostname seqNo⟩
  | .invalidReport hostnames =>
      ⟨{ status with stage := .invalidReport }, .invalidReport hostnames⟩

/-- Wait until the source is ready. -/
def verify (status : ClusterStatus) (source : String) (pod : Option PodView) : Transition :=
  match pod with
  | none => .wait status .sourceNotObserved
  | some view =>
      if view.containersReady then
        ⟨{ status with stage := .primaryRecovered, bootstrapFrom := none },
          .primaryRecovered source⟩
      else .wait status .sourceNotReady

/-- Wait until the other replicas have joined. -/
def reform (status : ClusterStatus) (workload : Option WorkloadView) : Transition :=
  match workload with
  | none => .wait status .workloadNotObserved
  | some view =>
      if view.ready = 0 then ⟨{ status with stage := .unqualified }, .recoveryRestarted⟩
      else if view.isReady then
        .advance status.phase
          { status with
            phase := .operational
            stage := .degraded
            reports := []
            bootstrapFrom := none }
      else .wait status .replicasRejoining

/-- The pass of a cluster in recovery. -/
def step (spec : ClusterSpec) (status : ClusterStatus) (observed : Observed) : Transition :=
  match status.recoveryStep with
  | .selecting => select spec status
  | .verifying source => verify status source observed.bootstrapPod
  | .reforming => reform status observed.workload

end GaleraControl.Recovery
