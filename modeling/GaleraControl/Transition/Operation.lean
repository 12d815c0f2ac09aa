import GaleraControl.Transition.Basic

/-!
# Operation

A formed cluster is watched: it falls into recovery when no replica is ready any
more, and is marked synced when all of them are.
-/

namespace GaleraControl.Operation

/-- The pass of an operational cluster. -/
def step (status : ClusterStatus) (workload : Option WorkloadView) : Transition :=
  match workload with
  | none => .wait status .workloadNotObserved
  | some view =>
      if view.ready = 0 then
        .advance status.phase { status with phase := .recovery, stage := .unqualified }
      else if view.isReady then
        ⟨{ status with stage := .synced, reports := [], bootstrapFrom := none }, .synced⟩
      else .wait status .replicasRolling

end GaleraControl.Operation
