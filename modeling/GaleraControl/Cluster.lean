import GaleraControl.Cluster.Spec
import GaleraControl.Cluster.Status
import GaleraControl.ObjectMeta
import GaleraControl.ResourceKey

/-!
# The cluster resource

A cluster is declared as one resource: its specification belongs to the user,
its status to the controller.  All names of managed objects, their labels and
the selector of the server pods derive from the cluster's name.
-/

namespace GaleraControl

/-- The name under which the controller writes. -/
def fieldManager : String := "galera-operator"

/-- The managed parts of a cluster. -/
inductive Component where
  | server
  | proxy
  | snapshot
deriving DecidableEq, Repr

/-- The name of a component in labels and object names. -/
def Component.text : Component → String
  | .server => "server"
  | .proxy => "proxy"
  | .snapshot => "snapshot"

/-- A declared cluster. -/
structure Cluster where
  metadata : ObjectMeta := {}
  spec : ClusterSpec
  /-- What the controller has recorded, if anything. -/
  status : Option ClusterStatus := none
deriving DecidableEq, Repr, Inhabited

namespace Cluster

/-- The API group of the resource. -/
def group : String := "galera.dev"

/-- The version of the resource within its group. -/
def version : String := "v1alpha1"

/-- The group and version of the resource. -/
def apiVersion : String := group ++ "/" ++ version

/-- The kind of the resource. -/
def kind : String := "MariaDBCluster"

/-- The plural name of the resource in request paths. -/
def plural : String := "mariadbclusters"

/-- The name of the cluster. -/
def name (cluster : Cluster) : String := cluster.metadata.anyName

/-- The namespace of the cluster, empty if it has none. -/
def namespaceName (cluster : Cluster) : String := cluster.metadata.anyNamespace

/-- The recorded status, or the initial one when nothing was recorded. -/
def statusOrDefault (cluster : Cluster) : ClusterStatus := cluster.status.getD {}

/-- The current phase. -/
def phase (cluster : Cluster) : Phase := cluster.statusOrDefault.phase

/-- The key of the cluster. -/
def resourceKey (cluster : Cluster) : ResourceKey := ⟨cluster.namespaceName, cluster.name⟩

/-- The queue key of the cluster. -/
def queueKey (cluster : Cluster) : String := cluster.resourceKey.text

/-- The name of the managed object of a component. -/
def componentName (cluster : Cluster) (component : Component) : String :=
  cluster.name ++ "-" ++ component.text

/-- The name of the workload, its service and its access rights. -/
def serverName (cluster : Cluster) : String := cluster.componentName .server

/-- The name of the service for clients. -/
def proxyName (cluster : Cluster) : String := cluster.componentName .proxy

/-- The name of the claim for the snapshot volume. -/
def snapshotClaimName (cluster : Cluster) : String := cluster.componentName .snapshot

/-- The label that carries the cluster's name. -/
def clusterLabel : String := "galera.dev/cluster"

/-- The label that carries the component. -/
def componentLabel : String := "galera.dev/component"

/-- The label that carries the managing program. -/
def managedByLabel : String := "app.kubernetes.io/managed-by"

/-- The labels of a managed object, given the text of its component. -/
def labelsFor (cluster : Cluster) (component : String) : Table String String :=
  .ofList [
    (clusterLabel, cluster.name),
    (componentLabel, component),
    (managedByLabel, fieldManager)]

/-- The labels of a managed object of a component. -/
def labels (cluster : Cluster) (component : Component) : Table String String :=
  cluster.labelsFor component.text

/-- The labels that select the server pods. -/
def serverSelector (cluster : Cluster) : Table String String :=
  .ofList [(clusterLabel, cluster.name), (componentLabel, Component.server.text)]

/-- The reference by which managed objects name the cluster as their owner. -/
def ownerReference (cluster : Cluster) : Option OwnerReference :=
  match cluster.metadata.name, cluster.metadata.uid with
  | some name, some uid => some { apiVersion, kind, name, uid, controller := some true }
  | _, _ => none

/-- The reference by which events name the cluster. -/
def objectReference (cluster : Cluster) : ObjectReference where
  apiVersion := apiVersion
  kind := kind
  name := cluster.metadata.name
  namespaceName := cluster.metadata.namespaceName
  uid := cluster.metadata.uid

/-- The document of a cluster. -/
def toJson (cluster : Cluster) : Json :=
  .ofMembers [
    ("apiVersion", some (.string apiVersion)),
    ("kind", some (.string kind)),
    ("metadata", some cluster.metadata.toJson),
    ("spec", some cluster.spec.toJson),
    ("status", cluster.status.map ClusterStatus.toJson)]

/-- The fields of a cluster. -/
def reader : RecordReader Cluster :=
  (RecordReader.done Cluster.mk)
  |>.next (.required "metadata" ObjectMeta.decode)
  |>.next (.required "spec" ClusterSpec.decode)
  |>.next (.nullable "status" ClusterStatus.decode)

/-- Read a cluster. -/
def decode : Decoder Cluster := .record kind reader

end Cluster

end GaleraControl
