import GaleraControl.Pass.Sync
import GaleraControl.World.State

/-!
# What the world answers

Every request is recorded, then the failure that is due at its point happens,
and only then the request has an effect.
-/

namespace GaleraControl.World

/-- The failure that is due at a point; a failure with a limit is used up. -/
def strike (point : String) : StateM World (Except SyncError Unit) := fun world =>
  match Table.get? world.faults point with
  | none => (.ok (), world)
  | some fault =>
      match fault.left with
      | none => (.error fault.error, world)
      | some 0 => (.ok (), world)
      | some (times + 1) =>
          (.error fault.error, world.setFault point { fault with left := some times })

/-- A recorded lookup, if it does not fail. -/
def lookup {Value : Type} (point : LookupPoint) (key : ResourceKey)
    (found : World → Option Value) : StateM World (Except SyncError (Option Value)) := do
  modify (·.record (.lookup point key))
  match ← strike point.text with
  | .error error => return .error error
  | .ok () => return .ok (found (← get))

/-- The other writer, if one follows the read of a stored cluster. -/
def race (key : ResourceKey) : StateM World Unit :=
  modify fun world =>
    if world.raceArmed then { world with raceArmed := false }.touch key else world

/-- Apply a patch to the stored document of a cluster. -/
def patchCluster? (cluster : Cluster) (operations : List PatchOperation) : Option Cluster := do
  let document ← cluster.toJson.patch? operations
  (Cluster.decode document).toOption

/-- Apply a patch to a stored cluster, which then has the present version. -/
def applyPatch (key : ResourceKey) (operations : List PatchOperation) :
    StateM World (Except SyncError Unit) := fun world =>
  match Table.get? world.clusters key with
  | none => (.error (.notFound Cluster.kind key.path), world)
  | some cluster =>
      match patchCluster? cluster operations with
      | none => (.error (.conflict key.text "patch failed"), world)
      | some patched =>
          (.ok (),
            { world with clusters := Table.insert key patched world.clusters }.stamp key)

/-- The name of the point at which a reconciler fails. -/
def reconcilePoint (kind : String) : String := "reconcile:" ++ kind

/-- Answer a request. -/
def answer : (request : Request WorldReconciler) → StateM World (Reply request)
  | .cachedCluster key =>
      lookup .cachedCluster key fun world => Table.get? world.cachedClusters key
  | .cachedStatefulSet key =>
      lookup .cachedStatefulSet key fun world => Table.get? world.statefulSets key
  | .cachedConfigMap key =>
      lookup .cachedConfigMap key fun world => Table.get? world.configMaps key
  | .pod key => lookup .pod key fun world => Table.get? world.pods key
  | .latestCluster key => do
      let found ← lookup .latestCluster key fun world => Table.get? world.clusters key
      if found.toBool then race key
      return found
  | .patchStatus key operations => do
      modify (·.record (.patch key operations))
      match ← strike "apply" with
      | .error error => return .error error
      | .ok () =>
          modify nextVersion
          applyPatch key operations
  | .publish event =>
      modify fun world => if world.recordsEvents then world.record (.event event) else world
  | .reconcile reconciler cluster => do
      modify (·.record (.reconcile reconciler.kind cluster))
      match ← strike (reconcilePoint reconciler.kind) with
      | .error error => return .error error
      | .ok () =>
          if reconciler.applies then modify (·.apply cluster.workload)
          return .ok ()

/-- Run an attempt in the world. -/
def perform {Value : Type} (attempt : Attempt WorldReconciler Value) :
    StateM World (Except SyncError Value) :=
  attempt.run.run answer

end GaleraControl.World
