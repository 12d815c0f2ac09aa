import GaleraControl.Api.Http
import GaleraControl.Pass.Program

/-!
# A world in memory

The surroundings of the controller as one value: the stored clusters, what the
cache shows of the other objects, what was applied, the failures that are due,
and a record of all requests.

Every accepted or refused write of a status raises the version counter, and a
successful one gives the stored cluster that version.  A patch is applied as a
whole or not at all.
-/

namespace GaleraControl

/-- A failure that is due at some point. -/
structure Fault where
  error : SyncError
  /-- How often it still happens; without a number, always. -/
  left : Option Nat := none
deriving Repr

/-- A workload that was applied. -/
structure AppliedWorkload where
  metadata : ObjectMeta
  /-- How often the specification was applied with a change. -/
  generation : Nat
  spec : WorkloadSpec
deriving Repr

namespace AppliedWorkload

/-- The workload as the server shows it, with the status that it had. -/
def visible (applied : AppliedWorkload) (status : Option StatefulSetStatus) : StatefulSet where
  metadata := { applied.metadata with generation := some (Int64.ofNat applied.generation) }
  requested := some applied.spec.replicas
  status := status

end AppliedWorkload

/-- A reconciler of the world: it is recorded, and may apply the workload. -/
structure WorldReconciler where
  kind : String
  /-- Whether the reconciler applies the workload of the cluster. -/
  applies : Bool := false
deriving DecidableEq, Repr

/-- The points at which a lookup can fail. -/
inductive LookupPoint where
  | cachedCluster
  | cachedStatefulSet
  | cachedConfigMap
  | pod
  | latestCluster
deriving DecidableEq, Repr

/-- The name of a point. -/
def LookupPoint.text : LookupPoint → String
  | .cachedCluster => "get_cluster"
  | .cachedStatefulSet => "get_stateful_set"
  | .cachedConfigMap => "get_config_map"
  | .pod => "get_pod"
  | .latestCluster => "get_latest"

/-- A request as it is recorded. -/
inductive WorldRecord where
  | lookup (point : LookupPoint) (key : ResourceKey)
  | patch (key : ResourceKey) (operations : List PatchOperation)
  | event (event : Event)
  | reconcile (kind : String) (cluster : Cluster)
  | exchange (request : Api.HttpRequest)
deriving Repr

/-- The surroundings of the controller. -/
structure World where
  clusters : Table ResourceKey Cluster := []
  statefulSets : Table ResourceKey StatefulSet := []
  configMaps : Table ResourceKey ConfigMap := []
  pods : Table ResourceKey Pod := []
  /-- The clusters that the cache shows, when it does not follow the stored ones. -/
  frozen : Option (Table ResourceKey Cluster) := none
  applied : Table ResourceKey AppliedWorkload := []
  /-- The failures that are due, by the name of their point. -/
  faults : Table String Fault := []
  version : Nat := 100
  /-- Whether another writer follows the next read of a stored cluster. -/
  raceArmed : Bool := false
  recordsEvents : Bool := true
  /-- All requests, the latest first. -/
  records : List WorldRecord := []
deriving Repr

namespace World

/-- The clusters that the cache shows. -/
def cachedClusters (world : World) : Table ResourceKey Cluster :=
  world.frozen.getD world.clusters

/-- The key of an object. -/
def keyOf (metadata : ObjectMeta) : ResourceKey :=
  ⟨metadata.anyNamespace, metadata.name.getD ""⟩

/-- Store a cluster. -/
def putCluster (world : World) (cluster : Cluster) : World :=
  { world with clusters := Table.insert (keyOf cluster.metadata) cluster world.clusters }

/-- Show a workload. -/
def putStatefulSet (world : World) (workload : StatefulSet) : World :=
  { world with
    statefulSets := Table.insert (keyOf workload.metadata) workload world.statefulSets }

/-- Show a config map. -/
def putConfigMap (world : World) (configMap : ConfigMap) : World :=
  { world with configMaps := Table.insert (keyOf configMap.metadata) configMap world.configMaps }

/-- Add a pod. -/
def putPod (world : World) (pod : Pod) : World :=
  { world with pods := Table.insert (keyOf pod.metadata) pod world.pods }

/-- Let a failure be due at a point, in place of an earlier one. -/
def setFault (world : World) (point : String) (fault : Fault) : World :=
  { world with faults := Table.insert point fault world.faults }

/-- Record a request. -/
def record (world : World) (entry : WorldRecord) : World :=
  { world with records := entry :: world.records }

/-- Raise the version counter. -/
def nextVersion (world : World) : World := { world with version := world.version + 1 }

/-- Give a stored cluster the present version. -/
def stamp (world : World) (key : ResourceKey) : World :=
  { world with
    clusters := Table.modify key
      (fun cluster =>
        { cluster with
          metadata := { cluster.metadata with
            resourceVersion := some (toString world.version) } })
      world.clusters }

/-- Let another writer raise the version of a stored cluster. -/
def touch (world : World) (key : ResourceKey) : World := world.nextVersion.stamp key

/-- Replace the reports of a stored cluster, which gets a status if it has none. -/
def report (world : World) (key : ResourceKey) (reports : List ReplicaReport) : World :=
  { world with
    clusters := Table.modify key
      (fun cluster => { cluster with status := some { cluster.statusOrDefault with reports } })
      world.clusters }.touch key

/-- Change the number of replicas that a stored cluster asks for. -/
def setReplicas (world : World) (key : ResourceKey) (replicas : Int32) : World :=
  { world with
    clusters := Table.modify key
      (fun cluster => { cluster with spec := { cluster.spec with replicas } })
      world.clusters }

/-- Let the cache keep showing the clusters of now. -/
def freeze (world : World) : World := { world with frozen := some world.clusters }

/-- Let the cache show the stored clusters. -/
def thaw (world : World) : World := { world with frozen := none }

/-- Let the cache show an applied workload, with the status that it showed before. -/
def refresh (world : World) (key : ResourceKey) : World :=
  match Table.get? world.applied key with
  | none => world
  | some applied =>
      let status := (Table.get? world.statefulSets key).bind StatefulSet.status
      { world with statefulSets := Table.insert key (applied.visible status) world.statefulSets }

/-- The status of a workload whose rollout is complete, with some pods ready. -/
def rolledOut (workload : StatefulSet) (ready : Option Int32) : StatefulSetStatus :=
  let replicas := workload.requested.getD 1
  let revision := "rev-" ++ toString (workload.metadata.generation.getD 0).toInt
  { replicas
    currentReplicas := some replicas
    readyReplicas := some (ready.getD replicas)
    currentRevision := some revision
    updateRevision := some revision
    observedGeneration := workload.metadata.generation }

/-- Roll out what was applied, as far as the cache can show it. -/
def rollOut (world : World) (key : ResourceKey) (ready : Option Int32) : World :=
  let world := world.refresh key
  { world with
    statefulSets := Table.modify key
      (fun workload => { workload with status := some (rolledOut workload ready) })
      world.statefulSets }

/-- Apply a workload: a new one has generation one, a changed one the next generation. -/
def apply (world : World) (workload : WorkloadManifest) : World :=
  let key := keyOf workload.metadata
  let applied : AppliedWorkload :=
    match Table.get? world.applied key with
    | none => ⟨workload.metadata, 1, workload.spec⟩
    | some old =>
        if old.spec = workload.spec then old
        else { old with generation := old.generation + 1, spec := workload.spec }
  { world with applied := Table.insert key applied world.applied }

end World

end GaleraControl
