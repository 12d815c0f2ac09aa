import GaleraControl.Cluster
import GaleraControl.Duration
import GaleraControl.Watch.Reflector
import GaleraControl.Workload

/-!
# The cache

The controller reads what it watches from three reflected stores.  It does not
start before all of them are ready, because an existing cluster would look
deleted in a store that is filled in part.
-/

namespace GaleraControl.Watch

/-- The kinds that are watched. -/
inductive WatchedKind where
  | cluster
  | statefulSet
  | configMap
deriving DecidableEq, Repr

namespace WatchedKind

/-- The kinds in the order in which the cache waits for them. -/
def all : List WatchedKind := [.cluster, .statefulSet, .configMap]

/-- The objects of a kind. -/
def Object : WatchedKind → Type
  | .cluster => Cluster
  | .statefulSet => StatefulSet
  | .configMap => ConfigMap

/-- The metadata of an object of a kind. -/
def metadata : (kind : WatchedKind) → kind.Object → ObjectMeta
  | .cluster => Cluster.metadata
  | .statefulSet => StatefulSet.metadata
  | .configMap => ConfigMap.metadata

/-- Read an object of a kind. -/
def decode : (kind : WatchedKind) → Decoder kind.Object
  | .cluster => Cluster.decode
  | .statefulSet => StatefulSet.decode
  | .configMap => ConfigMap.decode

end WatchedKind

/-- The three stores. -/
structure Cache where
  clusters : Reflector Cluster := {}
  statefulSets : Reflector StatefulSet := {}
  configMaps : Reflector ConfigMap := {}
deriving Repr

namespace Cache

/-- The store of a kind. -/
def store (cache : Cache) : (kind : WatchedKind) → Reflector kind.Object
  | .cluster => cache.clusters
  | .statefulSet => cache.statefulSets
  | .configMap => cache.configMaps

/-- The cache after an event on a kind. -/
def receive (cache : Cache) : (kind : WatchedKind) → WatchEvent kind.Object → Cache
  | .cluster, event =>
      { cache with clusters := cache.clusters.receive Cluster.metadata event }
  | .statefulSet, event =>
      { cache with statefulSets := cache.statefulSets.receive StatefulSet.metadata event }
  | .configMap, event =>
      { cache with configMaps := cache.configMaps.receive ConfigMap.metadata event }

/-- Whether the cache shows a cluster. -/
def hasCluster (cache : Cache) (key : ResourceKey) : Bool :=
  (cache.clusters.lookup? key).isSome

/-- Why the cache cannot be waited for. -/
inductive SyncFailure where
  /-- The watch of a store ended before the store was ready. -/
  | watchEnded
  | timeout (limit : Duration)

/-- The failure as the controller reports it. -/
def SyncFailure.toError : SyncFailure → SyncError
  | .watchEnded =>
      .internal "cache" <| "watcher stopped before the cache synced: "
        ++ "writer was dropped before store became ready"
  | .timeout limit =>
      .internal "cache" ("caches not synced after " ++ toString limit.seconds ++ "s")

/--
Wait for one store after another, when nothing happens any more and the watches
of the kinds `ended` have ended.
-/
def waitForSync (cache : Cache) (ended : List WatchedKind) (limit : Duration) :
    Except SyncError Unit :=
  match WatchedKind.all.find? fun kind => !(cache.store kind).isReady with
  | none => .ok ()
  | some kind =>
      let failure : SyncFailure := if kind ∈ ended then .watchEnded else .timeout limit
      .error failure.toError

end Cache

end GaleraControl.Watch
