import GaleraControl.Pass.Program

/-!
# Writing the status

A pass writes only what it changed, and only over the status that it started
from: the stored status must still be the one that was read, and the patch
begins with a test of the version that was compared.  Otherwise the pass fails
and is tried again from the new state.
-/

namespace GaleraControl.Pass

variable {Reconciler : Type}

/-- How the write of a status ended. -/
inductive WriteOutcome where
  /-- The status did not change, and nothing was written. -/
  | unchanged
  /-- The patch was applied, with this many operations beside the test of the version. -/
  | applied (operations : Nat)
  | gone
deriving DecidableEq, Repr

/-- The place of the version in the document of a cluster. -/
def versionPath : List String := ["metadata", "resourceVersion"]

/-- The operations, guarded by a test of the version. -/
def guarded (version : String) (operations : List PatchOperation) : List PatchOperation :=
  .test versionPath (.string version) :: operations

/-- Write a status, if it differs from the one that the cluster was read with. -/
def persist (cluster : Cluster) (changed : ClusterStatus) :
    Attempt Reconciler WriteOutcome := do
  let operations := ClusterStatus.diff cluster.status changed
  if operations = [] then return .unchanged
  match ← Attempt.latestCluster cluster.resourceKey with
  | none => return .gone
  | some latest =>
      if latest.status ≠ cluster.status then
        throw (.conflict cluster.queueKey "status changed since it was read")
      match latest.metadata.resourceVersion with
      | none => throw (.internal "patch" (cluster.queueKey ++ " has no resourceVersion"))
      | some version =>
          Attempt.patchStatus cluster.resourceKey (guarded version operations)
          return .applied operations.length

end GaleraControl.Pass
