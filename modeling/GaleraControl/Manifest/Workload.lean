import GaleraControl.Manifest.Endpoints

/-!
# The server workload

The number of pods follows the bootstrap phase, so nodes join one at a time.
Every bootstrap step changes the specification, either by the flag that forms a
new cluster or by the number of pods.  The phase itself stays out of the pod
template, so entering or leaving recovery rolls no pods.
-/

namespace GaleraControl

/-- The number of server pods in a phase: none at first, then one more in each step. -/
def Phase.replicas (phase : Phase) (requested : Int32) : Int32 :=
  match phase with
  | .fresh | .preFlight => 0
  | .bootstrapFirst | .bootstrapFirstRestart => 1
  | .bootstrapSecond => min requested 2
  | .bootstrapThird => min requested 3
  | .operational | .recovery => requested

namespace Cluster

/-- Whether the first node forms a new cluster. -/
def formsNewCluster (cluster : Cluster) : Bool := cluster.phase = .bootstrapFirst

/-- The name under which a replica finds one of its peers. -/
def peerName (cluster : Cluster) (index : Nat) : String :=
  cluster.serverName ++ "-" ++ toString index ++ "." ++ cluster.serverName ++ "."
    ++ cluster.namespaceName ++ ".svc"

/-- The peers of a replica. -/
def peers (cluster : Cluster) : List String :=
  (List.range cluster.spec.replicas.toInt.toNat).map cluster.peerName

/-- The address of the group: empty when a new cluster is formed, else all peers. -/
def groupAddress (cluster : Cluster) : String :=
  if cluster.formsNewCluster then "gcomm://"
  else "gcomm://" ++ String.intercalate "," cluster.peers

/-- The environment of the server container. -/
def serverEnvironment (cluster : Cluster) : List Variable :=
  [⟨"POD_NAME", .field "metadata.name"⟩,
    ⟨"POD_NAMESPACE", .field "metadata.namespace"⟩,
    ⟨"MARIADB_RANDOM_ROOT_PASSWORD", .text "1"⟩,
    ⟨"GALERA_CLUSTER_NAME", .text cluster.name⟩,
    ⟨"GALERA_CLUSTER_ADDRESS", .text cluster.groupAddress⟩,
    ⟨"GALERA_NEW_CLUSTER", .text (if cluster.formsNewCluster then "true" else "false")⟩]
  ++ (cluster.statusOrDefault.bootstrapSource.map fun source =>
    (⟨"GALERA_BOOTSTRAP_FROM", .text source⟩ : Variable)).toList

/-- The arguments of the server. -/
def serverArguments (cluster : Cluster) : List String :=
  ["--wsrep-on=ON",
    "--wsrep-provider=/usr/lib/galera/libgalera_smm.so",
    "--wsrep-cluster-name=$(GALERA_CLUSTER_NAME)",
    "--wsrep-cluster-address=$(GALERA_CLUSTER_ADDRESS)",
    "--wsrep-node-name=$(POD_NAME)",
    "--binlog-format=ROW",
    "--default-storage-engine=InnoDB",
    "--innodb-autoinc-lock-mode=2"]
  ++ if cluster.formsNewCluster then ["--wsrep-new-cluster"] else []

/-- The name of the data volume of each pod. -/
def dataVolume : String := "data"

/-- The name of the snapshot volume. -/
def snapshotVolume : String := "snapshot"

/-- The volumes that the server sees. -/
def serverMounts (cluster : Cluster) : List Mount :=
  ⟨dataVolume, "/var/lib/mysql"⟩ ::
    (cluster.spec.snapshot.map fun _ => (⟨snapshotVolume, "/snapshot"⟩ : Mount)).toList

/-- The server container. -/
def serverContainer (cluster : Cluster) : Container where
  name := "mariadb"
  image := cluster.spec.serverImage
  arguments := cluster.serverArguments
  environment := cluster.serverEnvironment
  ports := serverPorts
  readinessPort := databasePort.number
  mounts := cluster.serverMounts

/-- The claim that each server pod has for its data. -/
def dataClaim (cluster : Cluster) : VolumeClaim where
  metadata := { name := some dataVolume, labels := some (cluster.labels .server) }
  spec := ⟨cluster.spec.storageClassName, cluster.spec.volumeSize⟩

/-- The claim for the snapshot volume, when the cluster asks for one. -/
def snapshotClaim (cluster : Cluster) : Option VolumeClaim :=
  cluster.spec.snapshot.map fun snapshot =>
    { metadata := cluster.managedMetadata cluster.snapshotClaimName .snapshot
      spec := ⟨snapshot.storageClassName, snapshot.size⟩ }

/-- The template of the server pods. -/
def podTemplate (cluster : Cluster) : PodTemplate where
  labels := cluster.labels .server
  accountName := cluster.serverName
  container := cluster.serverContainer
  volumes := cluster.spec.snapshot.map fun _ => [⟨snapshotVolume, cluster.snapshotClaimName⟩]

/-- What the controller asks of the workload. -/
def workloadSpec (cluster : Cluster) : WorkloadSpec where
  replicas := cluster.phase.replicas cluster.spec.replicas
  serviceName := cluster.serverName
  selector := cluster.serverSelector
  template := cluster.podTemplate
  claimTemplates := [cluster.dataClaim]

/-- The workload of a cluster. -/
def workload (cluster : Cluster) : WorkloadManifest where
  metadata := cluster.managedMetadata cluster.serverName .server
  spec := cluster.workloadSpec

end Cluster

end GaleraControl
