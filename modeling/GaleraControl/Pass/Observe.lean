import GaleraControl.Pass.Program

/-!
# Observing dependents

A pass looks only at what its phase judges.  A workload that does not exist is
no failure, because the phase then waits for it; a designated source that does
not exist is one, and the pass is tried again.
-/

namespace GaleraControl.Pass

variable {Reconciler : Type}

/-- Gather what the pass of a status looks at. -/
def observe (cluster : Cluster) (status : ClusterStatus) : Attempt Reconciler Observed := do
  match status.sight with
  | .nothing => return {}
  | .workload =>
      let workload ← Attempt.cachedStatefulSet ⟨cluster.namespaceName, cluster.serverName⟩
      return { workload := workload.map WorkloadView.ofStatefulSet }
  | .pod source =>
      let key : ResourceKey := ⟨cluster.namespaceName, source⟩
      match ← Attempt.pod key with
      | none => throw (.notFound "Pod" key.text)
      | some pod => return { bootstrapPod := some (PodView.ofPod pod) }

end GaleraControl.Pass
