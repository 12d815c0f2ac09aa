import GaleraControl.Proofs.Formation
import GaleraControl.Proofs.StoredStatus

/-!
# A pass that nothing disturbs

No failure is due, the cache follows the stored clusters, and nobody else writes.
In such a world every request has exactly one answer, so a pass can be followed
from its first request to its last: it ends well, the transition that follows
from what the cache shows is stored, and the workload of the new status is
applied.
-/

namespace GaleraControl

namespace Cluster

open RecordReader

theorem get?_version (cluster : Cluster) :
    Json.get? Pass.versionPath cluster.toJson =
      cluster.metadata.resourceVersion.map .string := by
  have member : Json.get? ["resourceVersion"] cluster.metadata.toJson =
      cluster.metadata.resourceVersion.map .string := by
    simp [Json.get?, ObjectMeta.toJson, Json.ofMembers, Json.get?_presentMembers_cons]
  simpa [Pass.versionPath, Json.get?, toJson, Json.ofMembers, Table.get?] using member

theorem holdsStatus (cluster : Cluster) : HoldsStatus cluster.toJson cluster.status := by
  have shown : Table.get? (Json.presentMembers [
      ("apiVersion", some (.string apiVersion)), ("kind", some (.string kind)),
      ("metadata", some cluster.metadata.toJson), ("spec", some cluster.spec.toJson),
      ("status", cluster.status.map ClusterStatus.toJson)]) "status" =
        cluster.status.map ClusterStatus.toJson := by
    simp [Json.get?_presentMembers_cons, Table.get?]
  cases recorded : cluster.status with
  | none => exact .missing (shown.trans (congrArg _ recorded))
  | some status =>
      exact .object (shown.trans (congrArg _ recorded)) (ClusterStatus.inverts.reads status)

/-- A guarded difference applies to the document of the cluster that it was made for. -/
theorem patchCluster?_guarded {cluster : Cluster} {version : String} {changed : ClusterStatus}
    (versioned : cluster.metadata.resourceVersion = some version)
    (differs : ClusterStatus.diff cluster.status changed ≠ []) :
    World.patchCluster? cluster
        (Pass.guarded version (ClusterStatus.diff cluster.status changed)) =
      some { cluster with status := some changed } := by
  have found : Json.get? Pass.versionPath cluster.toJson = some (.string version) := by
    rw [get?_version, versioned]
    rfl
  have holds : HoldsStatus (.object _) cluster.status := cluster.holdsStatus
  rcases holds.exists_patched differs with ⟨patched, operations⟩
  have applied : cluster.toJson.patch?
      (Pass.guarded version (ClusterStatus.diff cluster.status changed)) = some patched := by
    rw [Pass.guarded, Json.patch?_cons, PatchOperation.perform?, if_pos found]
    exact operations
  rcases decode_patched (inverts.reads cluster) differs applied with ⟨_, _, _, _, reads, _⟩
  show (cluster.toJson.patch? _).bind (fun document => (decode document).toOption) = _
  rw [applied, Option.bind_some, reads]
  rfl

end Cluster

namespace World

open Pass Program Attempt

/-! ## Attempts in the world -/

section Perform

variable {Value Other : Type}

theorem perform_bind (attempt : Attempt WorldReconciler Value)
    (next : Value → Attempt WorldReconciler Other) (world : World) :
    perform (attempt >>= next) world =
      match perform attempt world with
      | (.ok value, after) => perform (next value) after
      | (.error error, after) => (.error error, after) := by
  refine (Attempt.perform_bind answer attempt next world).trans ?_
  show _ = match Attempt.perform answer attempt world with
    | (.ok value, after) => Attempt.perform answer (next value) after
    | (.error error, after) => (.error error, after)
  cases Attempt.perform answer attempt world with
  | mk result after => cases result <;> rfl

theorem perform_ofExcept (result : Except SyncError Value) (world : World) :
    perform (ofExcept result) world = (result, world) :=
  Attempt.perform_ofExcept answer result world

theorem perform_result (attempt : Attempt WorldReconciler Value) (world : World) :
    perform attempt.result world = (.ok (perform attempt world).1, (perform attempt world).2) :=
  Attempt.perform_result answer attempt world

/-- An attempt that an interpreter performs has come to its end. -/
theorem exists_performed (attempt : Attempt WorldReconciler Value) (world : World) :
    ∃ moments, attempt.Ends moments (perform attempt world).1 ∧
      Connects .reliable world moments (perform attempt world).2 :=
  exists_connects (reported_answer .reliable) attempt.run world

end Perform

/-! ## Worlds without disturbance -/

/-- No failure is due, the cache follows, and nobody else writes. -/
structure Calm (world : World) : Prop where
  faultless : world.faults = []
  thawed : world.frozen = none
  alone : world.raceArmed = false

section Answers

variable {world : World}

theorem strike_of_faultless (faultless : world.faults = []) (point : String) :
    strike point world = (.ok (), world) := by
  simp [strike, faultless]

theorem lookup_of_faultless {Value : Type} (faultless : world.faults = [])
    (point : LookupPoint) (key : ResourceKey) (found : World → Option Value) :
    World.lookup point key found world =
      (.ok (found (world.record (.lookup point key))), world.record (.lookup point key)) := by
  have recorded : (world.record (.lookup point key)).faults = [] := faultless
  rw [lookup_eq, strike_of_faultless recorded]

theorem faults_answer (faultless : world.faults = []) (request : Request WorldReconciler) :
    (answer request world).2.faults = [] := by
  have recorded (entry : WorldRecord) : (world.record entry).faults = [] := faultless
  cases request with
  | cachedCluster key | cachedStatefulSet key | cachedConfigMap key | pod key =>
      simp only [answer, lookup_of_faultless faultless]
      exact faultless
  | latestCluster key =>
      rw [answer_latestCluster, lookup_of_faultless faultless]
      dsimp only
      split <;> exact faultless
  | patchStatus key operations =>
      rw [answer_patchStatus, strike_of_faultless (recorded _)]
      simp only [applyPatch]
      split
      · exact faultless
      · split <;> exact faultless
  | publish event =>
      show (if world.recordsEvents then world.record (.event event) else world).faults = []
      split <;> exact faultless
  | reconcile reconciler cluster =>
      rw [answer_reconcile, strike_of_faultless (recorded _)]
      dsimp only
      split <;> exact faultless

theorem faults_run {Value : Type} (program : Program WorldReconciler Value)
    (faultless : world.faults = []) : (program.run answer world).2.faults = [] := by
  induction program generalizing world with
  | done value => exact faultless
  | ask question next ih =>
      exact ih (answer question world).1 (faults_answer faultless question)

namespace Calm

theorem of_alike {after : World} (calm : Calm world) (alike : Alike world after)
    (faultless : after.faults = []) : Calm after where
  faultless := faultless
  thawed := alike.frozen.trans calm.thawed
  alone := alike.raceArmed.trans calm.alone

theorem record (calm : Calm world) (entry : WorldRecord) : Calm (world.record entry) :=
  ⟨calm.faultless, calm.thawed, calm.alone⟩

/-- An attempt that neither writes nor reconciles leaves the objects alone. -/
theorem performs_quiet {Value : Type} {attempt : Attempt WorldReconciler Value} {value : Value}
    (calm : Calm world) (quiet : attempt.run.AsksOnly Request.Quiet)
    (result : (perform attempt world).1 = .ok value) :
    ∃ after, perform attempt world = (.ok value, after) ∧ Alike world after ∧ Calm after := by
  rcases exists_performed attempt world with ⟨moments, ends, connects⟩
  have alike := connects.alike calm.alone (Follows.permitted ends quiet)
  exact ⟨_, Prod.ext result rfl, alike,
    calm.of_alike alike (faults_run attempt.run calm.faultless)⟩

end Calm

end Answers

/-! ## The parts of a pass -/

/-- What a pass makes of a cluster, when it looks at its workload at all. -/
def shownTo (cluster : Cluster) (world : World) : Observed where
  workload := (Table.get? world.statefulSets
    ⟨cluster.namespaceName, cluster.serverName⟩).map WorkloadView.ofStatefulSet

/-- The transition that follows from what the cache shows. -/
def due (cluster : Cluster) (world : World) : Transition :=
  cluster.statusOrDefault.next cluster.spec (shownTo cluster world)

/-- The stored cluster is the given one, but for its version, with this status. -/
def Stores (cluster : Cluster) (status : ClusterStatus) (world : World) : Prop :=
  ∃ version recorded,
    Table.get? world.clusters cluster.resourceKey = some (cluster.revised version recorded) ∧
      recorded.getD {} = status

/-- The specification was applied, whatever was applied before. -/
def HasApplied (cluster : Cluster) (world : World) : Prop :=
  ∃ held, Table.get? world.applied (keyOf cluster.workload.metadata) = some held ∧
    held.spec = cluster.workload.spec

section Parts

variable {world : World} {cluster : Cluster}

/-- What a pass looks at before the cluster is in recovery leads to the transition that is due. -/
theorem Calm.observe (calm : Calm world) (cluster : Cluster)
    (forming : cluster.phase ≠ .recovery) :
    ∃ observed, (perform (observe cluster cluster.statusOrDefault) world).1 = .ok observed ∧
      transitionOf cluster observed = due cluster world := by
  have looked : (perform (Attempt.cachedStatefulSet
      ⟨cluster.namespaceName, cluster.serverName⟩) world).1 =
        .ok (Table.get? world.statefulSets ⟨cluster.namespaceName, cluster.serverName⟩) := by
    show (answer (.cachedStatefulSet _) world).1 = _
    simp only [answer, lookup_of_faultless calm.faultless]
    rfl
  have workloadSeen (sight : cluster.statusOrDefault.sight = .workload) :
      (perform (Pass.observe cluster cluster.statusOrDefault) world).1 =
        .ok (shownTo cluster world) := by
    simp only [Pass.observe, sight, perform_bind]
    cases read : perform (Attempt.cachedStatefulSet
        ⟨cluster.namespaceName, cluster.serverName⟩) world with
    | mk result after =>
        rw [read] at looked
        obtain rfl : result = _ := looked
        rfl
  cases phase : cluster.statusOrDefault.phase with
  | fresh | preFlight =>
      refine ⟨{}, ?_, ?_⟩
      · simp only [Pass.observe, ClusterStatus.sight, phase]
        rfl
      · simp only [transitionOf, due, ClusterStatus.next, phase]
  | recovery => exact absurd phase forming
  | _ => exact ⟨_, workloadSeen (by simp only [ClusterStatus.sight, phase]), rfl⟩

theorem Calm.answer_latestCluster (calm : Calm world) (key : ResourceKey) :
    answer (.latestCluster key) world =
      (.ok (Table.get? world.clusters key), world.record (.lookup .latestCluster key)) := by
  rw [World.answer_latestCluster, lookup_of_faultless calm.faultless]
  simp only [(calm.record _).alone, Bool.false_eq_true, if_false]
  rfl

/-- A patch for the stored cluster writes its new status and another version. -/
theorem Calm.answer_patchStatus (calm : Calm world) {version : String} {changed : ClusterStatus}
    (stored : Table.get? world.clusters cluster.resourceKey = some cluster)
    (versioned : cluster.metadata.resourceVersion = some version)
    (differs : ClusterStatus.diff cluster.status changed ≠ []) :
    ∃ after fresh,
      answer (.patchStatus cluster.resourceKey
        (guarded version (ClusterStatus.diff cluster.status changed))) world = (.ok (), after) ∧
      Calm after ∧ after.statefulSets = world.statefulSets ∧
      Table.get? after.clusters cluster.resourceKey =
        some (cluster.revised (some fresh) (some changed)) := by
  rw [World.answer_patchStatus, strike_of_faultless (calm.record _).faultless]
  have present (entry : WorldRecord) :
      Table.get? (world.record entry).nextVersion.clusters cluster.resourceKey = some cluster :=
    stored
  simp only [applyPatch, present, Cluster.patchCluster?_guarded versioned differs]
  refine ⟨_, toString (world.version + 1), rfl, ⟨calm.faultless, calm.thawed, calm.alone⟩, rfl,
    ?_⟩
  simp only [stamp, Table.get?_modify, if_true, Table.get?_insert_self, Option.map_some]
  rfl

/-- A write over the stored status succeeds, if it is needed at all. -/
theorem Calm.persist (calm : Calm world) {version : String}
    (stored : Table.get? world.clusters cluster.resourceKey = some cluster)
    (versioned : cluster.metadata.resourceVersion = some version) (changed : ClusterStatus) :
    ∃ outcome after, perform (persist cluster changed) world = (.ok outcome, after) ∧
      outcome ≠ .gone ∧ Calm after ∧ after.statefulSets = world.statefulSets ∧
      Stores cluster changed after := by
  by_cases same : ClusterStatus.diff cluster.status changed = []
  · refine ⟨.unchanged, world, ?_, by simp, calm, rfl, cluster.metadata.resourceVersion,
      cluster.status, stored, (ClusterStatus.eq_of_diff_eq_nil same).symm⟩
    simp only [perform, run_persist, if_pos same]
    rfl
  · have read := calm.answer_latestCluster cluster.resourceKey
    rcases (calm.record (.lookup .latestCluster cluster.resourceKey)).answer_patchStatus stored
        versioned same with
      ⟨after, fresh, written, calmAfter, statefulSets, shown⟩
    refine ⟨.applied (ClusterStatus.diff cluster.status changed).length, after, ?_, by simp,
      calmAfter, statefulSets, some fresh, some changed, shown, rfl⟩
    simp only [perform, run_persist, if_neg same]
    -- The read finds the cluster as the pass read it first, so the patch is sent.
    show ((afterRead cluster changed (answer (.latestCluster _) world).1).run answer)
      (answer (.latestCluster _) world).2 = _
    rw [read, stored]
    simp only [afterRead, ne_eq, not_true_eq_false, if_false, versioned, run_ask]
    show ((Program.done (Except.map _ (answer (.patchStatus _ _) _).1)).run answer)
      (answer (.patchStatus _ _) _).2 = _
    rw [written]
    rfl

theorem perform_settle_found {outcome : WriteOutcome} (found : outcome ≠ .gone)
    (cluster : Cluster) (transition : Transition) (world : World) :
    ∃ changed, (perform (settle cluster transition outcome) world).1 =
      .ok (.persisted transition.status changed) := by
  have result := perform_settle answer cluster transition outcome world
  cases outcome with
  | gone => exact absurd rfl found
  | unchanged => exact ⟨false, result⟩
  | applied operations => exact ⟨true, result⟩

theorem Calm.runStateMachine (calm : Calm world) {version : String} (key : String)
    (stored : Table.get? world.clusters cluster.resourceKey = some cluster)
    (versioned : cluster.metadata.resourceVersion = some version)
    (forming : cluster.phase ≠ .recovery) :
    ∃ changed after,
      perform (Pass.runStateMachine key cluster) world =
        (.ok (.persisted (due cluster world).status changed), after) ∧
      Calm after ∧ after.statefulSets = world.statefulSets ∧
      Stores cluster (due cluster world).status after := by
  rcases calm.performs_quiet (precede_quiet cluster) (perform_precede answer cluster world) with
    ⟨first, preceded, alikeFirst, calmFirst⟩
  rcases calmFirst.observe cluster forming with ⟨observed, seen, follows⟩
  rcases calmFirst.performs_quiet (observe_quiet cluster _) seen with
    ⟨second, observes, alikeSecond, calmSecond⟩
  have alike := alikeFirst.trans alikeSecond
  have transition : transitionOf cluster observed = due cluster world := by
    rw [follows, due, shownTo, alikeFirst.statefulSets, due, shownTo]
  rcases calmSecond.persist (by rw [alike.clusters, stored]) versioned
    (due cluster world).status with
    ⟨outcome, third, persists, found, calmThird, statefulSets, version, status, shown, written⟩
  rcases perform_settle_found found cluster (due cluster world) third with ⟨changed, result⟩
  rcases calmThird.performs_quiet (settle_quiet cluster _ outcome) result with
    ⟨last, settles, alikeLast, calmLast⟩
  refine ⟨changed, last, ?_, calmLast, ?_, version, status, ?_, written⟩
  · simp only [runStateMachine_eq, perform_bind, preceded, observes, conclude_eq, transition,
      persists]
    exact settles
  · rw [alikeLast.statefulSets, statefulSets, alike.statefulSets]
  · rw [alikeLast.clusters, shown]

/-- A reconciler applies the workload if it is about it, and takes no other back. -/
theorem Calm.answer_reconcile (calm : Calm world) (reconciler : WorldReconciler)
    (cluster : Cluster) :
    ∃ after, answer (.reconcile reconciler cluster) world = (.ok (), after) ∧
      Calm after ∧ after.clusters = world.clusters ∧ after.statefulSets = world.statefulSets ∧
      (HasApplied cluster world ∨ reconciler.applies = true → HasApplied cluster after) := by
  rw [World.answer_reconcile, strike_of_faultless (calm.record _).faultless]
  cases about : reconciler.applies with
  | false =>
      refine ⟨_, rfl, calm.record _, rfl, rfl, ?_⟩
      rintro (held | impossible)
      · exact held
      · exact absurd impossible (by simp)
  | true =>
      refine ⟨_, rfl, ⟨calm.faultless, calm.thawed, calm.alone⟩, rfl, rfl, fun _ => ?_⟩
      rcases apply_becomes (world.record (.reconcile reconciler.kind cluster))
        cluster.workload with ⟨held, shown, becomes⟩
      exact ⟨held, shown, becomes.spec_eq⟩

theorem Calm.reconcileAll (calm : Calm world) (cluster : Cluster)
    (reconcilers : List WorldReconciler) :
    ∃ after, perform (Pass.reconcileAll cluster reconcilers) world = (.ok (), after) ∧
      Calm after ∧ after.clusters = world.clusters ∧ after.statefulSets = world.statefulSets ∧
      (HasApplied cluster world ∨ (∃ reconciler ∈ reconcilers, reconciler.applies = true) →
        HasApplied cluster after) := by
  induction reconcilers generalizing world with
  | nil => exact ⟨world, rfl, calm, rfl, rfl, by simp⟩
  | cons reconciler rest ih =>
      rcases calm.answer_reconcile reconciler cluster with
        ⟨first, reconciled, calmFirst, clusters, statefulSets, applies⟩
      rcases ih calmFirst with ⟨last, later, calmLast, clusters', statefulSets', applies'⟩
      refine ⟨last, ?_, calmLast, clusters'.trans clusters, statefulSets'.trans statefulSets, ?_⟩
      · have asked : perform (Attempt.reconcile reconciler cluster) world = (.ok (), first) :=
          reconciled
        simp only [Pass.reconcileAll, perform_bind, perform_result, asked, later,
          perform_ofExcept, firstFailure]
      · intro source
        refine applies' ?_
        rcases source with held | ⟨chosen, listed, about⟩
        · exact Or.inl (applies (Or.inl held))
        · rcases List.mem_cons.mp listed with rfl | inRest
          · exact Or.inl (applies (Or.inr about))
          · exact Or.inr ⟨chosen, inRest, about⟩

theorem Calm.perform_cachedCluster (calm : Calm world)
    (stored : Table.get? world.clusters cluster.resourceKey = some cluster) :
    perform (Attempt.cachedCluster cluster.resourceKey) world =
      (.ok (some cluster), world.record (.lookup .cachedCluster cluster.resourceKey)) := by
  have found : Table.get? world.cachedClusters cluster.resourceKey = some cluster := by
    rw [cachedClusters, calm.thawed, Option.getD_none, stored]
  rw [← found]
  exact lookup_of_faultless calm.faultless _ _ _

/-- Only a valid specification gets through a pass. -/
theorem Calm.valid_of_sync (calm : Calm world) {text : String}
    {reconcilers : List WorldReconciler} {outcome : SyncOutcome}
    (parsed : ResourceKey.parse? text = some cluster.resourceKey)
    (stored : Table.get? world.clusters cluster.resourceKey = some cluster)
    (succeeds : (perform (Pass.sync reconcilers text) world).1 = .ok outcome) :
    cluster.spec.validate text = .ok () := by
  cases check : cluster.spec.validate text with
  | ok _ => rfl
  | error error =>
      simp only [Pass.sync, parsed, perform_bind, calm.perform_cachedCluster stored, check,
        perform_ofExcept] at succeeds
      exact absurd succeeds (by simp)

/-- A whole pass ends well, stores the transition that is due and applies its workload. -/
theorem Calm.sync (calm : Calm world) {text version : String}
    (parsed : ResourceKey.parse? text = some cluster.resourceKey)
    (stored : Table.get? world.clusters cluster.resourceKey = some cluster)
    (versioned : cluster.metadata.resourceVersion = some version)
    (valid : cluster.spec.validate text = .ok ()) (forming : cluster.phase ≠ .recovery)
    {reconcilers : List WorldReconciler}
    (applies : ∃ reconciler ∈ reconcilers, reconciler.applies = true) :
    ∃ outcome after, perform (Pass.sync reconcilers text) world = (.ok outcome, after) ∧
      Calm after ∧ after.statefulSets = world.statefulSets ∧
      HasApplied { cluster with status := some (due cluster world).status } after ∧
      Stores cluster (due cluster world).status after := by
  have read := calm.perform_cachedCluster stored
  have calmRead := calm.record (.lookup .cachedCluster cluster.resourceKey)
  -- What is due is the same after the request, which only leaves its record.
  have same : due cluster (world.record (.lookup .cachedCluster cluster.resourceKey)) =
      due cluster world := rfl
  rcases calmRead.runStateMachine text stored versioned forming with
    ⟨changed, middle, machine, calmMiddle, statefulSets, version', status, shown, written⟩
  rcases calmMiddle.reconcileAll
    { cluster with status := some (due cluster world).status } reconcilers with
    ⟨after, reconciles, calmAfter, clusters', statefulSets', applied⟩
  refine ⟨.synced (due cluster world).status.phase changed, after, ?_, calmAfter,
    statefulSets'.trans statefulSets, applied (Or.inr applies), version', status, ?_, written⟩
  · simp only [Pass.sync, parsed, perform_bind, read, valid, perform_ofExcept, perform_result,
      machine, finish, same, reconciles]
    rfl
  · rw [clusters', shown]

end Parts

end World

end GaleraControl
