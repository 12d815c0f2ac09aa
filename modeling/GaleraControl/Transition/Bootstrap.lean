import GaleraControl.Transition.Basic

/-!
# Bootstrapping

The first node forms a new cluster and restarts as an ordinary member, then the
second and the third node join.  Every step after the first waits until the
change that belongs to it has been acted on, so a step is never judged by the
rollout of the step before, and no step completes before the nodes that it is
about are asked for and run.
-/

namespace GaleraControl.Bootstrap

/-- A step completes only if the cluster asks for more replicas than this. -/
def replicasBelow : Phase → Int32
  | .bootstrapSecond | .bootstrapThird => 2
  | _ => 1

/-- The nodes that a step is about. -/
def nodes : Phase → Int32
  | .bootstrapSecond => 2
  | .bootstrapThird => 3
  | _ => 1

/-- The condition that keeps a bootstrap step from completing, if there is one. -/
def obstacle? (spec : ClusterSpec) (status : ClusterStatus) (workload : WorkloadView) :
    Option WaitReason :=
  if spec.replicas ≤ replicasBelow status.phase then some .tooFewReplicasRequested
  else if status.phase ≠ .bootstrapFirst ∧ !workload.isUpdated status.recordedGeneration then
    some .changeNotPickedUp
  else if workload.desired < nodes status.phase ∨ workload.ready < nodes status.phase then
    some .nodeNotRunning
  else if !workload.isReady then some .workloadNotReady
  else none

/-- The pass of a cluster that is being bootstrapped. -/
def step (spec : ClusterSpec) (status : ClusterStatus) (workload : Option WorkloadView) :
    Transition :=
  match workload with
  | none => .wait status .workloadNotObserved
  | some view =>
      match obstacle? spec status view with
      | some reason => .wait status reason
      | none =>
          .advance status.phase
            { status with
              phase := status.phase.successor
              recordedGeneration := view.observedGeneration }

end GaleraControl.Bootstrap
