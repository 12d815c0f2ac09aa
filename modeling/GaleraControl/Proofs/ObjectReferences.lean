import GaleraControl.Proofs.ManagedObjects
import GaleraControl.Proofs.PodTemplates
import Mathlib.Data.List.Nodup

/-!
# What managed objects refer to

Managed objects name each other: the workload names the service that governs its
pods, the identity that they run as and the claims behind their volumes, and the
binding names a role and an identity.  Each of these names is the `address` of an
object that is built for the same cluster, and of no other.

Within the workload, the names that a container mounts are those of the volumes and
of the claims that its pods have, the labels of the pods are those that the workload
and the services select, and the group address lists the names that the governing
service gives to the pods.
-/

namespace GaleraControl

/-! ## References -/

/-- Where the API server keeps an object. -/
structure ObjectAddress where
  kind : ManifestKind
  namespaceName : Option String
  name : Option String
deriving DecidableEq, Repr

namespace Manifest

def address (manifest : Manifest) : ObjectAddress :=
  ⟨manifest.kind, manifest.metadata.namespaceName, manifest.metadata.name⟩

/-- The objects that an object names; all but the identity of a binding are in its namespace. -/
def references : Manifest → List ObjectAddress
  | .statefulSet workload =>
      let nearby (kind : ManifestKind) (name : String) : ObjectAddress :=
        ⟨kind, workload.metadata.namespaceName, some name⟩
      [nearby .service workload.spec.serviceName,
        nearby .serviceAccount workload.spec.template.accountName]
      ++ (workload.spec.template.volumes.getD []).map fun volume =>
        nearby .volumeClaim volume.claimName
  | .roleBinding binding => [
      ⟨.role, binding.metadata.namespaceName, some binding.roleName⟩,
      ⟨.serviceAccount, binding.accountNamespace, some binding.accountName⟩]
  | .volumeClaim _ | .serviceAccount _ | .role _ | .service _ => []

end Manifest

namespace Cluster

theorem references_workload (cluster : Cluster) :
    (Manifest.statefulSet cluster.workload).references =
      [Manifest.address (.service cluster.serverService),
        Manifest.address (.serviceAccount cluster.serverAccount)]
      ++ (cluster.snapshotClaim.map fun claim =>
        Manifest.address (.volumeClaim claim)).toList := by
  simp only [Manifest.references, workload, workloadSpec, podTemplate, snapshotClaim]
  cases cluster.spec.snapshot <;> rfl

theorem references_roleBinding (cluster : Cluster) :
    (Manifest.roleBinding cluster.serverRoleBinding).references =
      [Manifest.address (.role cluster.serverRole),
        Manifest.address (.serviceAccount cluster.serverAccount)] := rfl

/-- What is referred to is the address of a managed object. -/
theorem exists_addressed {cluster : Cluster} {manifest : Manifest} {reference : ObjectAddress}
    (built : manifest ∈ cluster.managedObjects) (refers : reference ∈ manifest.references) :
    ∃ target ∈ cluster.managedObjects, target.address = reference := by
  rcases mem_managedObjects.mp built with ⟨dependent, built⟩
  cases dependent with
  | statefulSet =>
      cases built
      simp only [references_workload, List.mem_append, List.mem_cons, List.not_mem_nil, or_false,
        Option.mem_toList, Option.map_eq_some_iff] at refers
      rcases refers with (rfl | rfl) | ⟨claim, wanted, rfl⟩
      · exact ⟨_, mem_managedObjects.mpr ⟨.serverService, rfl⟩, rfl⟩
      · exact ⟨_, mem_managedObjects.mpr ⟨.serviceAccount, rfl⟩, rfl⟩
      · have claimed : Dependent.snapshotClaim.build cluster = some (.volumeClaim claim) :=
          Option.map_eq_some_iff.mpr ⟨claim, wanted, rfl⟩
        exact ⟨_, mem_managedObjects.mpr ⟨.snapshotClaim, claimed⟩, rfl⟩
  | roleBinding =>
      cases built
      simp only [references_roleBinding, List.mem_cons, List.not_mem_nil, or_false] at refers
      rcases refers with rfl | rfl
      · exact ⟨_, mem_managedObjects.mpr ⟨.role, rfl⟩, rfl⟩
      · exact ⟨_, mem_managedObjects.mpr ⟨.serviceAccount, rfl⟩, rfl⟩
  | snapshotClaim =>
      rcases Option.map_eq_some_iff.mp built with ⟨claim, _, rfl⟩
      contradiction
  | serviceAccount | role | serverService | proxyService =>
      cases built
      contradiction

theorem eq_of_address {cluster : Cluster} {one another : Manifest}
    (built : one ∈ cluster.managedObjects) (builtToo : another ∈ cluster.managedObjects)
    (same : one.address = another.address) : one = another := by
  rcases mem_managedObjects.mp built with ⟨dependent, built⟩
  rcases mem_managedObjects.mp builtToo with ⟨other, builtToo⟩
  have which := Dependent.eq_of_kind_of_name built builtToo
    (congrArg ObjectAddress.kind same) (congrArg ObjectAddress.name same)
  rw [which.2, builtToo] at built
  exact (Option.some.inj built).symm

end Cluster

/-! ## The pods of a workload -/

/-- The volumes that a pod of a workload has: those of all pods, and one for each of its claims. -/
def WorkloadSpec.volumeNames (spec : WorkloadSpec) : List String :=
  (spec.template.volumes.getD []).map Volume.name
    ++ spec.claimTemplates.filterMap fun claim => claim.metadata.name

/-- The name under which a pod is found, by the service that governs its workload. -/
def WorkloadManifest.podHost (workload : WorkloadManifest) (index : Nat) : String :=
  workload.podName index ++ "." ++ workload.spec.serviceName ++ "."
    ++ workload.metadata.anyNamespace ++ ".svc"

/-- Where a volume for snapshots shows. -/
inductive SnapshotPart where
  | volume
  | mount
  | claim
deriving DecidableEq, Repr

namespace Cluster

/-- Whether a cluster has a part of a volume for snapshots. -/
def HasSnapshotPart (cluster : Cluster) : SnapshotPart → Prop
  | .volume => ∃ volume ∈ cluster.workload.spec.template.volumes.getD [],
      volume.name = snapshotVolume
  | .mount => ∃ mount ∈ cluster.workload.spec.template.container.mounts,
      mount.name = snapshotVolume
  | .claim => ∃ claim, .volumeClaim claim ∈ cluster.managedObjects

theorem mem_managedObjects_volumeClaim {cluster : Cluster} {claim : VolumeClaim} :
    .volumeClaim claim ∈ cluster.managedObjects ↔ cluster.snapshotClaim = some claim := by
  constructor
  · intro built
    rcases mem_managedObjects.mp built with ⟨dependent, built⟩
    cases dependent <;> simp [Dependent.build] at built
    exact built
  · intro wanted
    exact mem_managedObjects.mpr ⟨.snapshotClaim, Option.map_eq_some_iff.mpr ⟨claim, wanted, rfl⟩⟩

theorem hasSnapshotPart_iff (cluster : Cluster) (part : SnapshotPart) :
    cluster.HasSnapshotPart part ↔ cluster.spec.snapshot.isSome := by
  cases part with
  | volume =>
      simp only [HasSnapshotPart, workload, workloadSpec, podTemplate]
      cases cluster.spec.snapshot <;> simp
  | mount =>
      simp only [HasSnapshotPart, workload, workloadSpec, podTemplate, serverContainer,
        serverMounts]
      cases cluster.spec.snapshot <;> simp [dataVolume, snapshotVolume]
  | claim =>
      simp only [HasSnapshotPart, mem_managedObjects_volumeClaim, snapshotClaim]
      cases cluster.spec.snapshot <;> simp

theorem volumeNames_workload (cluster : Cluster) :
    cluster.workload.spec.volumeNames =
      (cluster.spec.snapshot.map fun _ => snapshotVolume).toList ++ [dataVolume] := by
  simp only [WorkloadSpec.volumeNames, workload, workloadSpec, podTemplate]
  cases cluster.spec.snapshot <;> rfl

theorem mountNames_workload (cluster : Cluster) :
    cluster.workload.spec.template.container.mounts.map Mount.name =
      dataVolume :: (cluster.spec.snapshot.map fun _ => snapshotVolume).toList := by
  simp only [workload, workloadSpec, podTemplate, serverContainer, serverMounts]
  cases cluster.spec.snapshot <;> rfl

theorem nodup_volumeNames (cluster : Cluster) : cluster.workload.spec.volumeNames.Nodup := by
  rw [volumeNames_workload]
  cases cluster.spec.snapshot with
  | none => exact List.nodup_singleton dataVolume
  | some snapshot =>
      show [snapshotVolume, dataVolume].Nodup
      decide

/-- The containers mount all volumes of their pods, each of them once. -/
theorem mountNames_perm (cluster : Cluster) :
    (cluster.workload.spec.template.container.mounts.map Mount.name).Perm
      cluster.workload.spec.volumeNames := by
  rw [mountNames_workload, volumeNames_workload]
  exact (List.perm_append_singleton _ _).symm

theorem count_volumeNames {cluster : Cluster} {mount : Mount}
    (mounted : mount ∈ cluster.workload.spec.template.container.mounts) :
    cluster.workload.spec.volumeNames.count mount.name = 1 :=
  List.count_eq_one_of_mem cluster.nodup_volumeNames
    (cluster.mountNames_perm.mem_iff.mp (List.mem_map_of_mem mounted))

theorem mem_managedObjects_service {cluster : Cluster} {endpoint : Service}
    (built : .service endpoint ∈ cluster.managedObjects) :
    endpoint = cluster.serverService ∨ endpoint = cluster.proxyService := by
  rcases mem_managedObjects.mp built with ⟨dependent, built⟩
  cases dependent <;> simp [Dependent.build] at built
  case serverService => exact .inl built.symm
  case proxyService => exact .inr built.symm

/-- Every service leads to ports that the containers open. -/
theorem exists_port {cluster : Cluster} {endpoint : Service} {port : ServicePort}
    (built : .service endpoint ∈ cluster.managedObjects) (leads : port ∈ endpoint.ports) :
    ∃ opened ∈ cluster.workload.spec.template.container.ports, opened.number = port.target := by
  rcases mem_managedObjects_service built with rfl | rfl
  · rcases List.mem_map.mp leads with ⟨opened, member, rfl⟩
    exact ⟨opened, member, rfl⟩
  · cases List.mem_singleton.mp leads
    exact ⟨databasePort, List.mem_cons_self, rfl⟩

/-- Once the group is formed its address is the list of the names of all pods. -/
theorem groupAddress_of_formed {cluster : Cluster} (formed : cluster.phase ≠ .bootstrapFirst) :
    cluster.groupAddress = "gcomm://" ++ String.intercalate ","
      ((List.range cluster.spec.replicas.toInt.toNat).map cluster.workload.podHost) := by
  have joins : cluster.formsNewCluster = false := decide_eq_false formed
  rw [groupAddress, joins]
  rfl

end Cluster

/-! ## Integrity -/

/-- The managed objects of a cluster fit together. -/
structure Cluster.Integrity (cluster : Cluster) : Prop where
  placed : ∀ manifest ∈ cluster.managedObjects,
    manifest.metadata.namespaceName = cluster.metadata.namespaceName
  /-- The owner of all objects is the cluster, once the server has identified it. -/
  owned : ∀ manifest ∈ cluster.managedObjects,
    manifest.metadata.ownerReferences = cluster.ownerReference.map ([·])
  /-- A cluster that the server has identified is the one owner of each, and its controller. -/
  controlled : ∀ name uid, cluster.metadata.name = some name → cluster.metadata.uid = some uid →
    ∀ manifest ∈ cluster.managedObjects, manifest.metadata.ownerReferences =
      some [{ apiVersion := apiVersion, kind := kind, name, uid, controller := some true }]
  /-- The workload names the server service, the identity of its pods and the snapshot claim. -/
  workloadNames : (Manifest.statefulSet cluster.workload).references =
    [Manifest.address (.service cluster.serverService),
      Manifest.address (.serviceAccount cluster.serverAccount)]
    ++ (cluster.snapshotClaim.map fun claim => Manifest.address (.volumeClaim claim)).toList
  bindingNames : (Manifest.roleBinding cluster.serverRoleBinding).references =
    [Manifest.address (.role cluster.serverRole),
      Manifest.address (.serviceAccount cluster.serverAccount)]
  /-- No reference leads nowhere, or to two objects. -/
  resolved : ∀ manifest ∈ cluster.managedObjects, ∀ reference ∈ manifest.references,
    ∃! target, target ∈ cluster.managedObjects ∧ target.address = reference
  snapshot : ∀ part, cluster.HasSnapshotPart part ↔ cluster.spec.snapshot.isSome
  /-- A name that is mounted is the name of one volume or of one claim of a pod. -/
  mounted : ∀ mount ∈ cluster.workload.spec.template.container.mounts,
    cluster.workload.spec.volumeNames.count mount.name = 1
  selected : ∀ manifest ∈ cluster.managedObjects, ∀ selector,
    manifest.selector? = some selector → Selects selector cluster.workload.spec.template.labels
  opened : ∀ endpoint, .service endpoint ∈ cluster.managedObjects → ∀ port ∈ endpoint.ports,
    ∃ opened ∈ cluster.workload.spec.template.container.ports, opened.number = port.target
  /-- The group address lists the names of the requested pods in order. -/
  addressed : cluster.phase ≠ .bootstrapFirst → ∀ address,
    ⟨"GALERA_CLUSTER_ADDRESS", .text address⟩ ∈
        cluster.workload.spec.template.container.environment ↔
      address = "gcomm://" ++ String.intercalate ","
        ((List.range cluster.spec.replicas.toInt.toNat).map cluster.workload.podHost)

namespace Cluster

theorem managed_objects_fit (cluster : Cluster) : cluster.Integrity where
  placed manifest built := by
    rcases exists_metadata built with ⟨component, metadata⟩
    rw [metadata]
    rfl
  owned manifest built := by
    rcases exists_metadata built with ⟨component, metadata⟩
    rw [metadata]
    rfl
  controlled name uid named identified manifest built := by
    rcases exists_metadata built with ⟨component, metadata⟩
    rw [metadata, managedMetadata, ownerReference, named, identified]
    rfl
  workloadNames := cluster.references_workload
  bindingNames := cluster.references_roleBinding
  resolved manifest built reference refers := by
    rcases exists_addressed built refers with ⟨target, member, rfl⟩
    refine ⟨target, ⟨member, rfl⟩, ?_⟩
    rintro another ⟨memberToo, same⟩
    exact eq_of_address memberToo member same
  snapshot := cluster.hasSnapshotPart_iff
  mounted _ mounted := count_volumeNames mounted
  selected manifest built selector selecting := by
    rw [selector_of_mem built selecting]
    exact serverSelector_selects_iff.mpr ⟨rfl, rfl⟩
  opened _ built _ leads := exists_port built leads
  addressed formed address := by
    rw [← groupAddress_of_formed formed]
    exact (cluster.address_mem_serverEnvironment address).trans eq_comm

/-- A formed cluster with a volume for snapshots, which the server has identified. -/
def recoveringOrders : Cluster where
  metadata := { name := some "orders", namespaceName := some "prod", uid := some "7" }
  spec := { replicas := 3, snapshot := some { size := "10Gi" } }
  status := some { phase := .recovery }

theorem recoveringOrders_fit :
    let workload := Manifest.statefulSet recoveringOrders.workload
    let claim : ObjectAddress := ⟨.volumeClaim, some "prod", some "orders-snapshot"⟩
    let peers := "gcomm://orders-server-0.orders-server.prod.svc,"
      ++ "orders-server-1.orders-server.prod.svc,orders-server-2.orders-server.prod.svc"
    workload.metadata.namespaceName = some "prod" ∧
      workload.metadata.ownerReferences =
        some [⟨apiVersion, kind, "orders", "7", some true⟩] ∧
      claim ∈ workload.references ∧
      (∃! target, target ∈ recoveringOrders.managedObjects ∧ target.address = claim) ∧
      Selects recoveringOrders.serverSelector
        recoveringOrders.workload.spec.template.labels ∧
      (∀ port ∈ recoveringOrders.proxyService.ports,
        ∃ opened ∈ recoveringOrders.workload.spec.template.container.ports,
          opened.number = port.target) ∧
      (∀ mount ∈ recoveringOrders.workload.spec.template.container.mounts,
        recoveringOrders.workload.spec.volumeNames.count mount.name = 1) ∧
      recoveringOrders.phase ≠ .bootstrapFirst ∧
      ⟨"GALERA_CLUSTER_ADDRESS", .text peers⟩ ∈
        recoveringOrders.workload.spec.template.container.environment := by
  intro workload claim peers
  have fit := recoveringOrders.managed_objects_fit
  have built : workload ∈ recoveringOrders.managedObjects :=
    mem_managedObjects.mpr ⟨.statefulSet, rfl⟩
  have proxied : .service recoveringOrders.proxyService ∈ recoveringOrders.managedObjects :=
    mem_managedObjects.mpr ⟨.proxyService, rfl⟩
  have refers : claim ∈ workload.references := by decide
  have formed : recoveringOrders.phase ≠ .bootstrapFirst := by decide
  exact ⟨fit.placed workload built, fit.controlled "orders" "7" rfl rfl workload built, refers,
    fit.resolved workload built claim refers, fit.selected workload built _ rfl,
    fit.opened _ proxied, fit.mounted, formed, (fit.addressed formed peers).mpr (by decide)⟩

end Cluster

end GaleraControl
