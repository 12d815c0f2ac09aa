import GaleraControl.Watch.Cache
import GaleraControl.Watch.Keys
import GaleraControl.WorkQueue

/-!
# Watching

One watch per kind keeps its store current and enqueues the cluster that each
object concerns, subject to the backoff of its key.  The store is updated before
the key is computed.
-/

namespace GaleraControl.Watch

/-- The path below which the objects of a kind are found. -/
def WatchedKind.basePath : WatchedKind → String
  | .cluster => "/apis/" ++ Cluster.apiVersion
  | .statefulSet => "/apis/apps/v1"
  | .configMap => "/api/v1"

/-- The plural name of a kind in paths. -/
def WatchedKind.plural : WatchedKind → String
  | .cluster => Cluster.plural
  | .statefulSet => "statefulsets"
  | .configMap => "configmaps"

/-- The path of the objects of a kind, in one namespace or in all. -/
def WatchedKind.path (kind : WatchedKind) (namespaceName : Option String) : String :=
  match namespaceName with
  | none => kind.basePath ++ "/" ++ kind.plural
  | some name => kind.basePath ++ "/namespaces/" ++ name ++ "/" ++ kind.plural

/-- A watch is renewed after this many seconds, before an idle connection is given up. -/
def watchSeconds : Nat := 25

/-- The number of objects that one request lists at most. -/
def pageSize : Nat := 500

/-- The request that lists the objects of a kind. -/
def listRequest (kind : WatchedKind) (namespaceName : Option String) : String :=
  "GET " ++ kind.path namespaceName ++ "?limit=" ++ toString pageSize

/-- The request that watches the objects of a kind from a version on. -/
def watchRequest (kind : WatchedKind) (namespaceName : Option String) (version : String) :
    String :=
  "GET " ++ kind.path namespaceName ++ "?allowWatchBookmarks=true&resourceVersion=" ++ version
    ++ "&timeoutSeconds=" ++ toString watchSeconds ++ "&watch=true"

/-- The requests by which the watches begin, when every list has the same version. -/
def openingRequests (namespaceName : Option String) (version : String) : List String :=
  WatchedKind.all.flatMap fun kind =>
    [listRequest kind namespaceName, watchRequest kind namespaceName version]

/-- The stores and the queue that they feed. -/
structure Session where
  cache : Cache := {}
  queue : WorkQueue
deriving Repr

namespace Session

/-- The queue key of the cluster that an object of a kind concerns. -/
def keyFor? (cache : Cache) : (kind : WatchedKind) → kind.Object → Option String
  | .cluster, cluster => some (Cluster.queueKey cluster)
  | .statefulSet, workload => dependentKey? cache.hasCluster (StatefulSet.metadata workload)
  | .configMap, configMap => dependentKey? cache.hasCluster (ConfigMap.metadata configMap)

/-- Follow an event. -/
def receive (session : Session) (kind : WatchedKind) (event : WatchEvent kind.Object) :
    Session :=
  let cache := session.cache.receive kind event
  match event.object?.bind (keyFor? cache kind) with
  | none => { session with cache }
  | some key => { cache, queue := session.queue.enqueue key }

/-- Follow a complete listing. -/
def receiveList (session : Session) (kind : WatchedKind) (objects : List kind.Object) :
    Session :=
  let events := WatchEvent.listing :: objects.map .listed ++ [.listedAll]
  events.foldl (fun session event => session.receive kind event) session

/-- The keys that will be handed out when time passes and nothing else happens. -/
def pendingKeys (session : Session) : List String :=
  (session.queue.ready ++ session.queue.delayed.map DelayedAddition.key).eraseDups

end Session

end GaleraControl.Watch
