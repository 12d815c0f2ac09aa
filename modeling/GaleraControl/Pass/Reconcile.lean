import GaleraControl.Pass.Program

/-!
# Reconciling dependents

All dependents are brought in line with the cluster, one after another.  A
failure does not keep the later ones from their turn; the first failure is the
result.
-/

namespace GaleraControl.Pass

variable {Reconciler : Type}

/-- The first of two results that is a failure. -/
def firstFailure (first second : Except SyncError Unit) : Except SyncError Unit :=
  match first with
  | .error error => .error error
  | .ok () => second

/-- Call every reconciler once, in order. -/
def reconcileAll (cluster : Cluster) : List Reconciler → Attempt Reconciler Unit
  | [] => return
  | reconciler :: rest => do
      let first ← (Attempt.reconcile reconciler cluster).result
      let later ← (reconcileAll cluster rest).result
      ofExcept (firstFailure first later)

end GaleraControl.Pass
