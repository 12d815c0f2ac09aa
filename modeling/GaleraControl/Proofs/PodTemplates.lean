import GaleraControl.Manifest
import GaleraControl.Proofs.Lifetime

/-!
# What rolls the pods

The workload of a cluster is generated from its specification and its status, and
a change of the pod template restarts every pod.  Of the status only two things
show in the template: whether the first node is to form a new cluster, and which
source a recovery has designated.  Beside the template nothing but the number of
pods follows the phase.

Each of the two is read back from the template by what is a member of its lists,
so that equal templates come from statuses that agree on both.  Losing the last
replica and having all of them again changes neither, and no number of pods.
-/

namespace GaleraControl

/-- Two statuses that a pod template cannot tell apart. -/
structure ClusterStatus.AlikeInPods (first second : ClusterStatus) : Prop where
  forming : first.phase = .bootstrapFirst ↔ second.phase = .bootstrapFirst
  source : first.bootstrapSource = second.bootstrapSource

/-- What tells a server to form a new cluster. -/
inductive FormationMark where
  /-- A variable that says so. -/
  | told
  /-- A group address without any peer. -/
  | bareAddress
  | argument
deriving DecidableEq, Repr

/-- Whether the pods of a template are told to form a new cluster, and how. -/
def PodTemplate.Bears (template : PodTemplate) : FormationMark → Prop
  | .told => ⟨"GALERA_NEW_CLUSTER", .text "true"⟩ ∈ template.container.environment
  | .bareAddress =>
      ⟨"GALERA_CLUSTER_ADDRESS", .text "gcomm://"⟩ ∈ template.container.environment
  | .argument => "--wsrep-new-cluster" ∈ template.container.arguments

namespace Cluster

/-- A cluster with another status. -/
def restated (cluster : Cluster) (status : Option ClusterStatus) : Cluster :=
  { cluster with status }

/-! ## What the lists of a template hold -/

/-- Only the first node is told to form a new cluster. -/
theorem newCluster_mem_serverArguments (cluster : Cluster) :
    "--wsrep-new-cluster" ∈ cluster.serverArguments ↔ cluster.phase = .bootstrapFirst := by
  unfold serverArguments formsNewCluster
  by_cases first : cluster.phase = .bootstrapFirst <;> simp [first]

theorem newCluster_mem_serverEnvironment (cluster : Cluster) :
    ⟨"GALERA_NEW_CLUSTER", .text "true"⟩ ∈ cluster.serverEnvironment ↔
      cluster.phase = .bootstrapFirst := by
  unfold serverEnvironment formsNewCluster
  by_cases first : cluster.phase = .bootstrapFirst <;> simp [first]

theorem address_mem_serverEnvironment (cluster : Cluster) (address : String) :
    ⟨"GALERA_CLUSTER_ADDRESS", .text address⟩ ∈ cluster.serverEnvironment ↔
      cluster.groupAddress = address := by
  unfold serverEnvironment
  simpa using eq_comm

theorem source_mem_serverEnvironment (cluster : Cluster) (source : String) :
    ⟨"GALERA_BOOTSTRAP_FROM", .text source⟩ ∈ cluster.serverEnvironment ↔
      cluster.statusOrDefault.bootstrapSource = some source := by
  unfold serverEnvironment
  simp

/-- A cluster that asks for a replica has a peer to name. -/
theorem exists_peers_eq_cons {cluster : Cluster} (admitted : 1 ≤ cluster.spec.replicas) :
    ∃ others, cluster.peers = cluster.peerName 0 :: others := by
  have one : (1 : Int32).toInt = 1 := rfl
  rw [Int32.le_iff_toInt_le, one] at admitted
  have positive : cluster.spec.replicas.toInt.toNat ≠ 0 := by omega
  rcases Nat.exists_eq_succ_of_ne_zero positive with ⟨count, counted⟩
  refine ⟨((List.range count).map Nat.succ).map cluster.peerName, ?_⟩
  rw [peers, counted, List.range_succ_eq_map, List.map_cons]

/-- The address of the group is bare exactly where the group has yet to be formed. -/
theorem groupAddress_eq_bare_iff {cluster : Cluster} (admitted : 1 ≤ cluster.spec.replicas) :
    cluster.groupAddress = "gcomm://" ↔ cluster.phase = .bootstrapFirst := by
  rcases exists_peers_eq_cons admitted with ⟨others, named⟩
  unfold groupAddress formsNewCluster
  by_cases first : cluster.phase = .bootstrapFirst
  · simp [first]
  · simp [first, named, peerName, String.append_assoc]

/-! ## Two statuses of one cluster -/

theorem podTemplate_restated_eq_iff (cluster : Cluster) (first second : Option ClusterStatus) :
    (cluster.restated first).podTemplate = (cluster.restated second).podTemplate ↔
      (first.getD {}).AlikeInPods (second.getD {}) := by
  constructor
  · intro same
    have arguments : (cluster.restated first).serverArguments =
        (cluster.restated second).serverArguments :=
      congrArg (fun template => template.container.arguments) same
    have environment : (cluster.restated first).serverEnvironment =
        (cluster.restated second).serverEnvironment :=
      congrArg (fun template => template.container.environment) same
    refine ⟨?_, Option.ext fun source => ?_⟩
    · have flag := newCluster_mem_serverArguments (cluster.restated first)
      rw [arguments, newCluster_mem_serverArguments] at flag
      exact flag.symm
    · have named := source_mem_serverEnvironment (cluster.restated first) source
      rw [environment, source_mem_serverEnvironment] at named
      exact named.symm
  · rintro ⟨forming, source⟩
    have forms : (cluster.restated first).formsNewCluster =
        (cluster.restated second).formsNewCluster := decide_eq_decide.mpr forming
    have arguments : (cluster.restated first).serverArguments =
        (cluster.restated second).serverArguments := by
      simp only [serverArguments, forms]
    have address : (cluster.restated first).groupAddress =
        (cluster.restated second).groupAddress := by
      simp only [groupAddress, forms]
      rfl
    have designated : (cluster.restated first).statusOrDefault.bootstrapSource =
        (cluster.restated second).statusOrDefault.bootstrapSource := source
    have environment : (cluster.restated first).serverEnvironment =
        (cluster.restated second).serverEnvironment := by
      simp only [serverEnvironment, forms, address, designated]
      rfl
    simp only [podTemplate, serverContainer, arguments, environment]
    rfl

/-- Beside its template, only the number of pods of a workload follows the status. -/
theorem workloadSpec_restated_eq_iff (cluster : Cluster) (first second : Option ClusterStatus) :
    (cluster.restated first).workloadSpec = (cluster.restated second).workloadSpec ↔
      (first.getD {}).AlikeInPods (second.getD {}) ∧
        (first.getD {}).phase.replicas cluster.spec.replicas =
          (second.getD {}).phase.replicas cluster.spec.replicas := by
  constructor
  · intro same
    exact ⟨(podTemplate_restated_eq_iff cluster first second).mp
      (congrArg WorkloadSpec.template same), congrArg WorkloadSpec.replicas same⟩
  · rintro ⟨alike, replicas⟩
    have template := (podTemplate_restated_eq_iff cluster first second).mpr alike
    have count : (cluster.restated first).phase.replicas (cluster.restated first).spec.replicas =
        (cluster.restated second).phase.replicas (cluster.restated second).spec.replicas := replicas
    simp only [workloadSpec, template, count]
    rfl

theorem bears_iff {cluster : Cluster} (admitted : 1 ≤ cluster.spec.replicas)
    (mark : FormationMark) :
    cluster.podTemplate.Bears mark ↔ cluster.phase = .bootstrapFirst := by
  cases mark with
  | told => exact newCluster_mem_serverEnvironment cluster
  | bareAddress =>
      exact (address_mem_serverEnvironment cluster _).trans (groupAddress_eq_bare_iff admitted)
  | argument => exact newCluster_mem_serverArguments cluster

end Cluster

namespace ClusterStatus

/-- Falling into recovery and leaving it shows neither in the pods nor in their number. -/
theorem Moves.alikeInPods {spec : ClusterSpec} {observed : Observed} {status : ClusterStatus}
    {transition : Transition} (moves : Moves spec observed status transition)
    (crosses : status.phase = .operational ∧ transition.status.phase = .recovery ∨
      status.phase = .recovery ∧ transition.status.phase = .operational) :
    status.AlikeInPods transition.status ∧
      ∀ requested, status.phase.replicas requested =
        transition.status.phase.replicas requested := by
  cases moves with
  | losesReplicas phase =>
      exact ⟨⟨by simp [phase], rfl⟩, fun requested => by rw [phase]; rfl⟩
  | reforms phase step =>
      have designated := bootstrapSource_of_recoveryStep status
      rw [step] at designated
      exact ⟨⟨by simp [phase], designated.1⟩, fun requested => by rw [phase]; rfl⟩
  | leavesFresh phase | leavesPreFlight phase => simp [phase] at crosses
  | completesStep bootstrapping =>
      rcases crosses with ⟨phase, _⟩ | ⟨phase, _⟩
      · simp [phase, Phase.isBootstrapping] at bootstrapping
      · simp [phase, Phase.isBootstrapping] at bootstrapping
  | _ =>
      -- The other rows keep the phase.
      rcases crosses with ⟨before, after⟩ | ⟨before, after⟩
      · exact absurd (before.symm.trans after) (by simp)
      · exact absurd (before.symm.trans after) (by simp)

end ClusterStatus

/-- What the status of a cluster does to its workload. -/
structure StatusInWorkload (cluster : Cluster) : Prop where
  /-- Another status leaves the pods alone when they cannot tell it apart, and only then. -/
  template : ∀ first second,
    (cluster.restated first).workload.spec.template =
        (cluster.restated second).workload.spec.template ↔
      (first.getD {}).AlikeInPods (second.getD {})
  spec : ∀ first second,
    (cluster.restated first).workload.spec = (cluster.restated second).workload.spec ↔
      (first.getD {}).AlikeInPods (second.getD {}) ∧
        (first.getD {}).phase.replicas cluster.spec.replicas =
          (second.getD {}).phase.replicas cluster.spec.replicas
  /-- The marks of a new cluster stand together, in the first phase of the formation only. -/
  marked : ∀ status mark,
    (cluster.restated status).workload.spec.template.Bears mark ↔
      (status.getD {}).phase = .bootstrapFirst
  /-- No two pods form a new cluster. -/
  alone : ∀ status mark, (cluster.restated status).workload.spec.template.Bears mark →
    (cluster.restated status).workload.spec.replicas = 1
  /-- A pass that falls into recovery or leaves it changes nothing of the workload. -/
  crossing : ∀ (status : ClusterStatus) (observed : Observed),
    status.phase = .operational ∧
          (status.next cluster.spec observed).status.phase = .recovery ∨
        status.phase = .recovery ∧
          (status.next cluster.spec observed).status.phase = .operational →
      (cluster.restated (some (status.next cluster.spec observed).status)).workload.spec =
        (cluster.restated (some status)).workload.spec

namespace Cluster

theorem status_in_workload (cluster : Cluster) (admitted : 1 ≤ cluster.spec.replicas) :
    StatusInWorkload cluster where
  template := cluster.podTemplate_restated_eq_iff
  spec := cluster.workloadSpec_restated_eq_iff
  marked status mark := @bears_iff (cluster.restated status) admitted mark
  alone status mark bears := by
    have first : (cluster.restated status).phase = .bootstrapFirst :=
      (@bears_iff (cluster.restated status) admitted mark).mp bears
    show (cluster.restated status).phase.replicas cluster.spec.replicas = 1
    rw [first]
    rfl
  crossing status observed crosses := by
    rcases (status.next_moves cluster.spec observed).alikeInPods crosses with ⟨alike, replicas⟩
    exact ((cluster.workloadSpec_restated_eq_iff (some status)
      (some (status.next cluster.spec observed).status)).mpr
        ⟨alike, replicas cluster.spec.replicas⟩).symm

/-- A cluster of three replicas. -/
def threeReplicas : Cluster where
  metadata := { name := some "orders", namespaceName := some "prod" }
  spec := { replicas := 3 }

/-- An empty source shows in no pod, and a source that is designated in all of them. -/
theorem threeReplicas_rolled_by_source :
    1 ≤ threeReplicas.spec.replicas ∧
      (threeReplicas.restated
          (some { phase := .recovery, bootstrapFrom := some "" })).workload.spec =
        (threeReplicas.restated (some { phase := .operational })).workload.spec ∧
      (threeReplicas.restated
          (some { phase := .recovery, bootstrapFrom := some "orders-server-1" })).workload.spec ≠
        (threeReplicas.restated (some { phase := .operational })).workload.spec := by
  have shows := threeReplicas.status_in_workload (by decide)
  refine ⟨by decide, (shows.spec _ _).mpr ⟨⟨by simp, by decide⟩, rfl⟩, ?_⟩
  intro same
  exact absurd ((shows.spec _ _).mp same).1.source (by decide)

end Cluster

end GaleraControl
