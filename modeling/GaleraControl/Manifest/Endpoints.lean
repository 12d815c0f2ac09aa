import GaleraControl.Manifest.Basic

/-!
# Endpoints and access rights

The headless server service gives every replica a stable name for group
communication.  It publishes pods before they are ready, or else a recovering
replica could never reach its peers.  The proxy service is the entry point of
clients and leads to ready replicas only.  The server pods may read their
cluster and other pods, and report into the cluster's status.
-/

namespace GaleraControl.Cluster

/-- The metadata of a managed object. -/
def managedMetadata (cluster : Cluster) (name : String) (component : Component) :
    ObjectMeta where
  name := some name
  namespaceName := cluster.metadata.namespaceName
  labels := some (cluster.labels component)
  ownerReferences := cluster.ownerReference.map ([·])

/-- The port of the database protocol. -/
def databasePort : Port := ⟨"mysql", 3306⟩

/-- The port of group communication. -/
def groupPort : Port := ⟨"galera", 4567⟩

/-- The port of incremental state transfer. -/
def incrementalTransferPort : Port := ⟨"ist", 4568⟩

/-- The port of full state transfer. -/
def fullTransferPort : Port := ⟨"sst", 4444⟩

/-- The ports of a server. -/
def serverPorts : List Port :=
  [databasePort, groupPort, incrementalTransferPort, fullTransferPort]

/-- A port that leads to the container port of the same number. -/
def published (port : Port) : ServicePort := ⟨port, port.number⟩

/-- The headless service behind the names of the server pods. -/
def serverService (cluster : Cluster) : Service where
  metadata := cluster.managedMetadata cluster.serverName .server
  access := .headless
  selector := cluster.serverSelector
  ports := serverPorts.map published

/-- The service for clients. -/
def proxyService (cluster : Cluster) : Service where
  metadata := cluster.managedMetadata cluster.proxyName .proxy
  access := .clusterAddress
  selector := cluster.serverSelector
  ports := [published databasePort]

/-- The metadata of the identity that the server pods run as. -/
def serverAccount (cluster : Cluster) : ObjectMeta :=
  cluster.managedMetadata cluster.serverName .server

/-- The rights of the server pods. -/
def serverRole (cluster : Cluster) : Role where
  metadata := cluster.managedMetadata cluster.serverName .server
  rules := [
    ⟨group, [plural], ["get", "list", "watch"]⟩,
    ⟨group, [plural ++ "/status"], ["get", "patch", "update"]⟩,
    ⟨"", ["pods"], ["get", "list", "watch"]⟩]

/-- The assignment of the rights to the identity. -/
def serverRoleBinding (cluster : Cluster) : RoleBinding where
  metadata := cluster.managedMetadata cluster.serverName .server
  roleName := cluster.serverName
  accountName := cluster.serverName
  accountNamespace := cluster.metadata.namespaceName

end GaleraControl.Cluster
