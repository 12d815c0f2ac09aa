import GaleraControl.Manifest

/-!
# Managed objects

Every managed object belongs to one component of its cluster, by which it is
named, and its metadata says whose it is (`metadata_of_build`).  The API server
tells the objects of a namespace apart by their kinds and names; whether a pod
belongs to a workload or a service is told by its labels alone.

Both carry the name of the cluster.  Names are joined from it and from the text of
a component, so two names can only be equal when they end alike, and no two
components do; a selector asks for the label that holds the name itself.  So
clusters of different names share neither an object nor a pod, even where one is
named like an object of the other.
-/

namespace GaleraControl

/-! ## Names -/

/-- No two names end alike that are those of different components. -/
theorem Component.eq_of_appended {component other : Component} {first second : String}
    (same : first ++ "-" ++ component.text = second ++ "-" ++ other.text) :
    component = other := by
  -- The last letters of the three texts differ.
  have last := congrArg (fun name => name.toList.getLast?) same
  cases component <;> cases other <;> simp [text] at last ⊢

theorem Cluster.componentName_inj {first second : Cluster} {component other : Component} :
    first.componentName component = second.componentName other ↔
      first.name = second.name ∧ component = other := by
  constructor
  · intro same
    have component := Component.eq_of_appended same
    subst component
    rw [componentName, componentName, String.append_left_inj, String.append_left_inj] at same
    exact ⟨same, rfl⟩
  · rintro ⟨named, rfl⟩
    rw [componentName, componentName, named]

namespace Dependent

/-- The component that a managed object belongs to. -/
def component : Dependent → Component
  | .snapshotClaim => .snapshot
  | .proxyService => .proxy
  | .serviceAccount | .role | .roleBinding | .statefulSet | .serverService => .server

/-- In a component there is one object of a kind. -/
theorem eq_of_kind_of_component {dependent other : Dependent}
    (kind : dependent.kind = other.kind) (component : dependent.component = other.component) :
    dependent = other := by
  cases dependent <;> cases other <;> first | rfl | contradiction

theorem metadata_of_build {dependent : Dependent} {cluster : Cluster} {manifest : Manifest}
    (built : dependent.build cluster = some manifest) :
    manifest.metadata = cluster.managedMetadata (cluster.componentName dependent.component)
      dependent.component := by
  cases dependent <;> simp only [build, Option.some.injEq, Option.map_eq_some_iff] at built
  case snapshotClaim =>
    obtain ⟨claim, asked, rfl⟩ := built
    obtain ⟨snapshot, _, rfl⟩ := Option.map_eq_some_iff.mp asked
    rfl
  all_goals
    subst built
    rfl

/-- Objects of one kind and name are the same object of clusters of the same name. -/
theorem eq_of_kind_of_name {dependent other : Dependent} {first second : Cluster}
    {one another : Manifest} (built : dependent.build first = some one)
    (builtToo : other.build second = some another) (kind : one.kind = another.kind)
    (name : one.metadata.name = another.metadata.name) :
    first.name = second.name ∧ dependent = other := by
  rw [kind_of_build built, kind_of_build builtToo] at kind
  rw [metadata_of_build built, metadata_of_build builtToo] at name
  rcases Cluster.componentName_inj.mp (Option.some.inj name) with ⟨named, component⟩
  exact ⟨named, eq_of_kind_of_component kind component⟩

end Dependent

/-! ## Labels -/

/-- Whether a selector asks for nothing that the labels do not have. -/
def Selects (selector labels : Table String String) : Prop :=
  ∀ label value, Table.get? selector label = some value → Table.get? labels label = some value

namespace Cluster

theorem get?_labels (cluster : Cluster) (component : Component) (label : String) :
    Table.get? (cluster.labels component) label =
      if managedByLabel = label then some fieldManager
      else if componentLabel = label then some component.text
      else if clusterLabel = label then some cluster.name
      else none := by
  simp [labels, labelsFor, Table.ofList, Table.get?_insert]

theorem get?_serverSelector (cluster : Cluster) (label : String) :
    Table.get? cluster.serverSelector label =
      if componentLabel = label then some Component.server.text
      else if clusterLabel = label then some cluster.name
      else none := by
  simp [serverSelector, Table.ofList, Table.get?_insert]

/-- What is selected is what belongs to the servers of a cluster of that name. -/
theorem serverSelector_selects_iff {first second : Cluster} {component : Component} :
    Selects first.serverSelector (second.labels component) ↔
      first.name = second.name ∧ component = .server := by
  constructor
  · intro selects
    have named := selects clusterLabel first.name (first.get?_serverSelector _)
    have served := selects componentLabel Component.server.text (first.get?_serverSelector _)
    rw [get?_labels] at named served
    refine ⟨(Option.some.inj named).symm, ?_⟩
    cases component with
    | server => rfl
    | proxy | snapshot => exact absurd (Option.some.inj served) (by decide)
  · rintro ⟨named, rfl⟩ label value asked
    have other : managedByLabel ≠ label := by
      rintro rfl
      rw [get?_serverSelector] at asked
      exact absurd asked nofun
    rw [get?_labels, if_neg other, ← named, ← get?_serverSelector]
    exact asked

end Cluster

/-- The selector of an object that has one. -/
def Manifest.selector? : Manifest → Option (Table String String)
  | .statefulSet workload => some workload.spec.selector
  | .service endpoint => some endpoint.selector
  | .volumeClaim _ | .serviceAccount _ | .role _ | .roleBinding _ => none

/-- All objects that select pods select those of the servers. -/
theorem Dependent.selector_of_build {dependent : Dependent} {cluster : Cluster}
    {manifest : Manifest} {selector : Table String String}
    (built : dependent.build cluster = some manifest)
    (selecting : manifest.selector? = some selector) : selector = cluster.serverSelector := by
  cases dependent <;> simp only [build, Option.some.injEq, Option.map_eq_some_iff] at built
  case snapshotClaim =>
    obtain ⟨claim, _, rfl⟩ := built
    contradiction
  case serviceAccount | role | roleBinding =>
    subst built
    contradiction
  all_goals
    subst built
    exact (Option.some.inj selecting).symm

/-! ## The names of pods -/

/-- The name of a pod of a workload: workloads number their pods. -/
def WorkloadManifest.podName (workload : WorkloadManifest) (index : Nat) : String :=
  workload.metadata.anyName ++ "-" ++ toString index

theorem ne_dash_of_mem_digits (number : Nat) :
    ∀ character ∈ (toString number).toList.reverse, decide (character ≠ '-') = true := by
  intro character member
  rw [List.mem_reverse, Nat.toString_eq_repr, Nat.toList_repr] at member
  have digit := Nat.isDigit_of_mem_toDigits (by decide) (by decide) member
  apply decide_eq_true
  rintro rfl
  exact absurd digit (by decide)

/-- A number does not hold what divides it from the name before it. -/
theorem eq_of_numbered {first second : String} {index other : Nat}
    (same : first ++ "-" ++ toString index = second ++ "-" ++ toString other) :
    first = second ∧ index = other := by
  -- Read backwards, both names begin with their numbers, up to the first dash.
  have spelled : (toString index).toList.reverse ++ '-' :: first.toList.reverse =
      (toString other).toList.reverse ++ '-' :: second.toList.reverse := by
    simpa using congrArg (fun name => name.toList.reverse) same
  have digits := congrArg (List.takeWhile fun character => character ≠ '-') spelled
  rw [List.takeWhile_append_of_pos (ne_dash_of_mem_digits index),
    List.takeWhile_append_of_pos (ne_dash_of_mem_digits other)] at digits
  have written : Nat.toDigits 10 index = Nat.toDigits 10 other := by simpa using digits
  have number : index = other := by
    simpa using congrArg (fun digits => Nat.ofDigitChars 10 digits 0) written
  subst number
  rw [String.append_left_inj, String.append_left_inj] at same
  exact ⟨same, rfl⟩

namespace Cluster

/-- The managed objects of a cluster in the order in which they are applied. -/
def managedObjects (cluster : Cluster) : List Manifest :=
  Dependent.all.filterMap fun dependent => dependent.build cluster

theorem mem_managedObjects {cluster : Cluster} {manifest : Manifest} :
    manifest ∈ cluster.managedObjects ↔
      ∃ dependent : Dependent, dependent.build cluster = some manifest := by
  simp [managedObjects, Dependent.mem_all]

section

variable {cluster : Cluster} {manifest : Manifest}

theorem exists_metadata (built : manifest ∈ cluster.managedObjects) :
    ∃ component, manifest.metadata =
      cluster.managedMetadata (cluster.componentName component) component := by
  rcases mem_managedObjects.mp built with ⟨dependent, built⟩
  exact ⟨dependent.component, Dependent.metadata_of_build built⟩

theorem selector_of_mem {selector : Table String String} (built : manifest ∈ cluster.managedObjects)
    (selecting : manifest.selector? = some selector) : selector = cluster.serverSelector := by
  rcases mem_managedObjects.mp built with ⟨dependent, built⟩
  exact Dependent.selector_of_build built selecting

end

/-- Two clusters that share no object and no pod. -/
structure Apart (first second : Cluster) : Prop where
  objects : ∀ one ∈ first.managedObjects, ∀ another ∈ second.managedObjects,
    one.kind = another.kind → one.metadata.name ≠ another.metadata.name
  /-- Nothing of the first cluster selects what runs for the second. -/
  selectors : ∀ one ∈ first.managedObjects, ∀ selector, one.selector? = some selector →
    ¬ Selects selector second.workload.spec.template.labels
  pods : ∀ index other, first.workload.podName index ≠ second.workload.podName other

/--
Clusters of different names share no object and no pod, whatever the names are, and
the objects of one cluster differ in kind or name.
-/
theorem managed_objects_apart :
    (∀ first second : Cluster, first.name ≠ second.name → first.Apart second) ∧
      ∀ cluster : Cluster, cluster.managedObjects.Pairwise fun one another =>
        one.kind = another.kind → one.metadata.name ≠ another.metadata.name := by
  refine ⟨fun first second different => ⟨?_, ?_, ?_⟩, fun cluster => ?_⟩
  · intro one built another builtToo kind name
    rcases mem_managedObjects.mp built with ⟨dependent, built⟩
    rcases mem_managedObjects.mp builtToo with ⟨other, builtToo⟩
    exact different (Dependent.eq_of_kind_of_name built builtToo kind name).1
  · intro one built selector selecting selects
    rw [selector_of_mem built selecting] at selects
    exact different (serverSelector_selects_iff.mp selects).1
  · intro index other same
    have named : first.serverName = second.serverName := (eq_of_numbered same).1
    exact different (componentName_inj.mp named).1
  · rw [managedObjects, List.pairwise_filterMap]
    have distinct : Dependent.all.Nodup := by decide
    refine distinct.imp ?_
    intro dependent other different one built another builtToo kind name
    exact different (Dependent.eq_of_kind_of_name built builtToo kind name).2

/-- A cluster with a volume for snapshots. -/
def snapshotted (name : String) : Cluster where
  metadata := { name := some name, namespaceName := some "prod" }
  spec := { replicas := 3, snapshot := some { size := "10Gi" } }

/-- A cluster that is named like the workload of another has a workload of its own name. -/
theorem ordersServer_apart :
    let orders := snapshotted "orders"
    let ordersServer := snapshotted "orders-server"
    orders.workload.metadata.name = ordersServer.metadata.name ∧
      orders.name ≠ ordersServer.name ∧ orders.Apart ordersServer ∧
      orders.workload.metadata.name ≠ ordersServer.workload.metadata.name := by
  intro orders ordersServer
  have different : orders.name ≠ ordersServer.name := by decide
  have apart := managed_objects_apart.1 orders ordersServer different
  have built (cluster : Cluster) : .statefulSet cluster.workload ∈ cluster.managedObjects :=
    mem_managedObjects.mpr ⟨.statefulSet, rfl⟩
  exact ⟨rfl, different, apart, apart.objects _ (built orders) _ (built ordersServer) rfl⟩

end Cluster

end GaleraControl
