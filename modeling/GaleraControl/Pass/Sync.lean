import GaleraControl.Pass.Conflicts
import GaleraControl.Pass.Observe
import GaleraControl.Pass.Persist
import GaleraControl.Pass.Reconcile

/-!
# A sync pass

A pass reads the cluster from the cache, moves its status by at most one
transition, writes the change, announces it, and then brings the dependents in
line with the state that is stored now.  The dependents have their turn also
when the first half of the pass fails, so they keep converging while the write
is tried again.
-/

namespace GaleraControl.Pass

variable {Reconciler : Type}

/-- How a pass ended. -/
inductive SyncOutcome where
  | deleted
  /-- The cluster is in this phase, and its status was written or did not change. -/
  | synced (phase : Phase) (changed : Bool)
deriving DecidableEq, Repr

/-- How the first half of a pass ended. -/
inductive StateOutcome where
  | gone
  /-- The status as it is stored after the pass, and whether it was written. -/
  | persisted (status : ClusterStatus) (changed : Bool)
deriving DecidableEq, Repr

/-- Announce a transition that was written. -/
def announce (cluster : Cluster) (outcome : Outcome) : Attempt Reconciler Unit :=
  match Event.ofOutcome? cluster.objectReference outcome with
  | none => return
  | some event => Attempt.publish event

/-- Refuse a transition that does not follow the order of the phases. -/
def checkTransition (key : String) (before after : Phase) : Except SyncError Unit :=
  if before.canTransitionTo after then .ok ()
  else
    .error <| .internal "phases" <|
      key ++ ": illegal transition " ++ before.display ++ " -> " ++ after.display

/-- The first half of a pass: observe, decide, write and announce. -/
def runStateMachine (key : String) (cluster : Cluster) : Attempt Reconciler StateOutcome := do
  let status := cluster.statusOrDefault
  if status.phase = .preFlight then reportConflicts cluster
  let observed ← observe cluster status
  let transition := status.next cluster.spec observed
  ofExcept (checkTransition key status.phase transition.status.phase)
  match ← persist cluster transition.status with
  | .gone => return .gone
  | .unchanged => return .persisted transition.status false
  | .applied _ =>
      announce cluster transition.outcome
      return .persisted transition.status true

/-- The second half of a pass: reconcile the dependents with the state that is stored. -/
def finish (reconcilers : List Reconciler) (cluster : Cluster)
    (state : Except SyncError StateOutcome) : Attempt Reconciler SyncOutcome := do
  match state with
  | .ok .gone => return .deleted
  | .ok (.persisted status changed) =>
      reconcileAll { cluster with status := some status } reconcilers
      return .synced status.phase changed
  | .error error =>
      let _ ← (reconcileAll cluster reconcilers).result
      throw error

/-- The pass of the cluster that a queue key names. -/
def sync (reconcilers : List Reconciler) (text : String) :
    Attempt Reconciler SyncOutcome := do
  match ResourceKey.parse? text with
  | none => throw (.invalidKey text)
  | some key =>
      match ← Attempt.cachedCluster key with
      | none => return .deleted
      | some cluster =>
          ofExcept (cluster.spec.validate text)
          let state ← (runStateMachine text cluster).result
          finish reconcilers cluster state

end GaleraControl.Pass
