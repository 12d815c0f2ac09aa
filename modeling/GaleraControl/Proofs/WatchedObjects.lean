import GaleraControl.Pass.Sync
import GaleraControl.Proofs.KeyTexts
import GaleraControl.Proofs.ManagedObjects
import GaleraControl.Watch.Session

/-!
# Whom watched objects wake

An event on a managed object is to wake the cluster that the object was built for.
The builders write an owner into the metadata, the watches look for an owner that
is a cluster and join a key from its name, and a pass reads the key and looks the
cluster up.  The server may complete the metadata in between, as long as it `Keeps`
the namespace and the owners.

An object without such an owner may still concern a cluster; whichever it is, the
cluster is in the namespace of the object.
-/

namespace GaleraControl

open Watch

/-- Metadata in which a server has kept the namespace and the owners that were applied. -/
structure ObjectMeta.Keeps (shown applied : ObjectMeta) : Prop where
  namespaceName : shown.namespaceName = applied.namespaceName
  ownerReferences : shown.ownerReferences = applied.ownerReferences

/-! ## The keys of objects -/

namespace Watch

theorem ownerKey?_of_placed {metadata : ObjectMeta} {namespaceName : String}
    (placed : metadata.namespaceName = some namespaceName) :
    ownerKey? metadata = (metadata.owners.find? namesCluster).map fun owner =>
      (ResourceKey.mk namespaceName owner.name).text := by
  rw [ownerKey?, placed]
  cases metadata.owners.find? namesCluster <;> rfl

/-- The name of the cluster that an object concerns: that of its owner, or else its own. -/
def concernedName (metadata : ObjectMeta) : String :=
  ((metadata.owners.find? namesCluster).map OwnerReference.name).getD metadata.anyName

/-- An object concerns a cluster of its own namespace, if it concerns one. -/
theorem eq_text_of_dependentKey? {clusterExists : ResourceKey → Bool} {metadata : ObjectMeta}
    {namespaceName key : String} (placed : metadata.namespaceName = some namespaceName)
    (concerns : dependentKey? clusterExists metadata = some key) :
    key = (ResourceKey.mk namespaceName (concernedName metadata)).text := by
  rw [dependentKey?, ownerKey?_of_placed placed] at concerns
  rw [concernedName]
  cases found : metadata.owners.find? namesCluster with
  | some owner =>
      rw [found] at concerns
      exact (Option.some.inj concerns).symm
  | none =>
      simp only [found, placed, Option.map_none, Option.bind_eq_bind, Option.bind_some] at concerns
      split at concerns
      · exact (Option.some.inj concerns).symm
      · contradiction

theorem Session.queue_receive {session : Session} {kind : WatchedKind}
    {event : WatchEvent kind.Object} {key : String}
    (concerns : event.object?.bind (keyFor? (session.cache.receive kind event) kind) = some key) :
    (session.receive kind event).queue = session.queue.enqueue key := by
  simp only [receive, concerns]

end Watch

/-! ## Managed objects -/

namespace Cluster

/-- A cluster that the server has identified, with a namespace and a name that a key can hold. -/
structure Identified (cluster : Cluster) : Prop where
  uid : cluster.metadata.uid.isSome
  name : cluster.metadata.name.isSome
  namespaceName : cluster.metadata.namespaceName.isSome
  legible : cluster.resourceKey.Legible

namespace Identified

variable {cluster : Cluster} {manifest : Manifest} {shown : ObjectMeta}

/-- The reference by which objects name their cluster is one that the watches look for. -/
theorem exists_ownerReference (identified : cluster.Identified) :
    ∃ owner, cluster.ownerReference = some owner ∧ namesCluster owner = true ∧
      owner.name = cluster.name := by
  rcases Option.isSome_iff_exists.mp identified.uid with ⟨uid, uidSet⟩
  rcases Option.isSome_iff_exists.mp identified.name with ⟨name, nameSet⟩
  refine ⟨_, by rw [ownerReference, nameSet, uidSet], by simp [namesCluster], ?_⟩
  simp [Cluster.name, ObjectMeta.anyName, nameSet]

theorem ownerKey?_eq (identified : cluster.Identified)
    (built : manifest ∈ cluster.managedObjects) (keeps : shown.Keeps manifest.metadata) :
    ownerKey? shown = some cluster.queueKey := by
  rcases exists_metadata built with ⟨component, metadata⟩
  rcases identified.exists_ownerReference with ⟨owner, owned, names, named⟩
  rcases Option.isSome_iff_exists.mp identified.namespaceName with ⟨namespaceName, placed⟩
  have shownPlace : shown.namespaceName = some namespaceName := by
    rw [keeps.namespaceName, metadata]
    exact placed
  have shownOwners : shown.owners = [owner] := by
    rw [ObjectMeta.owners, keeps.ownerReferences, metadata, managedMetadata, owned]
    rfl
  have place : cluster.namespaceName = namespaceName := by
    rw [Cluster.namespaceName, ObjectMeta.anyNamespace, placed]
    rfl
  rw [ownerKey?_of_placed shownPlace, shownOwners, List.find?_cons_of_pos names, Option.map_some,
    named, queueKey, resourceKey, place]

theorem dependentKey?_eq (identified : cluster.Identified)
    (built : manifest ∈ cluster.managedObjects) (keeps : shown.Keeps manifest.metadata)
    (clusterExists : ResourceKey → Bool) :
    dependentKey? clusterExists shown = some cluster.queueKey := by
  rw [dependentKey?, identified.ownerKey?_eq built keeps]

theorem queue_receive (identified : cluster.Identified) (session : Session)
    {event : WatchEvent StatefulSet} {workload : StatefulSet}
    (carries : event.object? = some workload)
    (keeps : workload.metadata.Keeps cluster.workload.metadata) :
    (session.receive .statefulSet event).queue = session.queue.enqueue cluster.queueKey := by
  have built : .statefulSet cluster.workload ∈ cluster.managedObjects :=
    mem_managedObjects.mpr ⟨.statefulSet, rfl⟩
  have key := identified.dependentKey?_eq built keeps
  exact Session.queue_receive (Option.bind_eq_some_iff.mpr ⟨workload, carries, key _⟩)

/-- The pass of a cluster's key begins with a look at that cluster. -/
theorem exists_sync_eq {Reconciler : Type} (identified : cluster.Identified)
    (reconcilers : List Reconciler) :
    ∃ next, Pass.sync reconcilers cluster.queueKey =
      Program.ask (.cachedCluster cluster.resourceKey) next := by
  have read : ResourceKey.parse? cluster.queueKey = some cluster.resourceKey :=
    identified.legible.parse?_text
  unfold Pass.sync
  rw [read]
  exact ⟨_, rfl⟩

end Identified

/-- What happens on the objects of a cluster comes back to it. -/
structure Woken (cluster : Cluster) : Prop where
  owner : ∀ manifest ∈ cluster.managedObjects, ∀ shown : ObjectMeta,
    shown.Keeps manifest.metadata → ownerKey? shown = some cluster.queueKey
  /-- Whether the cluster is known is not asked where an owner is named. -/
  dependent : ∀ manifest ∈ cluster.managedObjects, ∀ shown : ObjectMeta,
    shown.Keeps manifest.metadata → ∀ clusterExists,
      dependentKey? clusterExists shown = some cluster.queueKey
  /-- Every event on the workload puts the cluster in line for a pass. -/
  queued : ∀ (session : Session) (event : WatchEvent StatefulSet) (workload : StatefulSet),
    event.object? = some workload → workload.metadata.Keeps cluster.workload.metadata →
      (session.receive .statefulSet event).queue = session.queue.enqueue cluster.queueKey
  read : ResourceKey.parse? cluster.queueKey = some ⟨cluster.namespaceName, cluster.name⟩
  found : ∀ (Reconciler : Type) (reconcilers : List Reconciler),
    ∃ next, Pass.sync reconcilers cluster.queueKey =
      Program.ask (.cachedCluster ⟨cluster.namespaceName, cluster.name⟩) next

/--
Every event on a managed object wakes the cluster that the object was built for, and
the pass that it starts looks that cluster up.  Whatever cluster an object of any kind
concerns, a legible key of it names a cluster in the object's namespace.
-/
theorem events_wake_cluster :
    (∀ cluster : Cluster, cluster.Identified → cluster.Woken) ∧
      ∀ (metadata : ObjectMeta) (namespaceName : String),
        metadata.namespaceName = some namespaceName →
        (ResourceKey.mk namespaceName (concernedName metadata)).Legible →
        ∀ clusterExists key, dependentKey? clusterExists metadata = some key →
          ResourceKey.parse? key = some ⟨namespaceName, concernedName metadata⟩ := by
  constructor
  · intro cluster identified
    exact {
      owner := fun _ built _ keeps => identified.ownerKey?_eq built keeps
      dependent := fun _ built _ keeps => identified.dependentKey?_eq built keeps
      queued := fun session _ _ carries keeps => identified.queue_receive session carries keeps
      read := identified.legible.parse?_text
      found := fun _ reconcilers => identified.exists_sync_eq reconcilers }
  · intro metadata namespaceName placed legible clusterExists key concerns
    rw [eq_text_of_dependentKey? placed concerns]
    exact legible.parse?_text

/-- A cluster that the server has identified. -/
def storedOrders : Cluster where
  metadata := { name := some "orders", namespaceName := some "prod", uid := some "7" }
  spec := { replicas := 3 }

/-- A workload wakes its owner, and a config map that nobody owns the cluster of its name. -/
theorem storedOrders_woken :
    let configMap : ObjectMeta := { name := some "orders", namespaceName := some "prod" }
    storedOrders.Identified ∧ storedOrders.workload.metadata.Keeps storedOrders.workload.metadata ∧
      dependentKey? (fun _ => false) storedOrders.workload.metadata = some "prod/orders" ∧
      (ResourceKey.mk "prod" (concernedName configMap)).Legible ∧
      dependentKey? (fun _ => true) configMap = some "prod/orders" ∧
      ResourceKey.parse? "prod/orders" = some ⟨"prod", "orders"⟩ := by
  intro configMap
  have legible : (ResourceKey.mk "prod" "orders").Legible := ⟨⟨by decide, by decide⟩, by decide⟩
  have identified : storedOrders.Identified := ⟨rfl, rfl, rfl, legible⟩
  have keeps : storedOrders.workload.metadata.Keeps storedOrders.workload.metadata := ⟨rfl, rfl⟩
  have concerned : dependentKey? (fun _ => true) configMap = some "prod/orders" := by decide
  have built : .statefulSet storedOrders.workload ∈ storedOrders.managedObjects :=
    mem_managedObjects.mpr ⟨.statefulSet, rfl⟩
  exact ⟨identified, keeps,
    (events_wake_cluster.1 storedOrders identified).dependent _ built _ keeps _,
    legible, concerned,
    events_wake_cluster.2 configMap "prod" rfl legible (fun _ => true) _ concerned⟩

end Cluster

end GaleraControl
