import GaleraControl.Proofs.Coherence
import GaleraControl.Proofs.ReportedHosts
import GaleraControl.Proofs.SyncHistory

/-!
# Looking only at what is judged

A pass looks up at most one dependent.  Which one is decided before anything is
known about the dependents, and the transition is decided afterwards, each by its
own distinction of phase, stage and source.  The two agree for every status, also
one that names a source although its primary component has already recovered:
whoever looked at all dependents would come to the same transition.
-/

namespace GaleraControl

namespace ClusterStatus

variable {spec : ClusterSpec} {status : ClusterStatus}

/-! ## What a pass looks at -/

theorem sight_eq_workload_iff : status.sight = .workload ↔ status.JudgesWorkload := by
  unfold sight JudgesWorkload
  cases phase : status.phase with
  | recovery =>
      cases step : status.recoveryStep <;> simp [Phase.isBootstrapping]
  | _ => simp [Phase.isBootstrapping]

theorem sight_eq_pod_iff {source : String} :
    status.sight = .pod source ↔ status.Verifies source := by
  have parts : status.Verifies source ↔
      status.phase = .recovery ∧ status.recoveryStep = .verifying source :=
    ⟨fun verifies => ⟨verifies.phase, verifies.step⟩, fun both => ⟨both.1, both.2⟩⟩
  rw [parts]
  unfold sight
  cases phase : status.phase with
  | recovery => cases step : status.recoveryStep <;> simp
  | _ => simp

theorem sight_eq_nothing_iff :
    status.sight = .nothing ↔
      status.phase = .fresh ∨ status.phase = .preFlight ∨
        (status.phase = .recovery ∧ status.recoveryStep = .selecting) := by
  unfold sight
  cases phase : status.phase with
  | recovery => cases step : status.recoveryStep <;> simp
  | _ => simp

/-- A status is judged by nothing but what its pass looks at. -/
theorem next_congr {first second : Observed}
    (workload : status.sight = .workload → first.workload = second.workload)
    (pod : ∀ source, status.sight = .pod source → first.bootstrapPod = second.bootstrapPod) :
    status.next spec first = status.next spec second := by
  unfold next
  cases phase : status.phase with
  | fresh | preFlight => rfl
  | bootstrapFirst | bootstrapFirstRestart | bootstrapSecond | bootstrapThird =>
      have same := workload (sight_eq_workload_iff.mpr (Or.inl (by rw [phase]; rfl)))
      simp only [same]
  | operational =>
      have same := workload (sight_eq_workload_iff.mpr (Or.inr (Or.inl phase)))
      simp only [same]
  | recovery =>
      simp only [Recovery.step]
      cases step : status.recoveryStep with
      | selecting => rfl
      | verifying source =>
          have same := pod source (sight_eq_pod_iff.mpr ⟨phase, step⟩)
          simp only [same]
      | reforming =>
          have same := workload (sight_eq_workload_iff.mpr (Or.inr (Or.inr ⟨phase, step⟩)))
          simp only [same]

end ClusterStatus

/-! ## What there is to look at -/

/-- The dependents of clusters: the workloads as the cache shows them, and the pods. -/
structure Dependents where
  workloads : ResourceKey → Option StatefulSet
  pods : ResourceKey → Option Pod

namespace Dependents

variable {Reconciler State : Type}

/-- A lookup of a dependent fails, or it finds what is there. -/
def Answers (dependents : Dependents) : (request : Request Reconciler) → Reply request → Prop
  | .cachedStatefulSet key => fun (reply : Except SyncError (Option StatefulSet)) =>
      ∀ found, reply = .ok found → found = dependents.workloads key
  | .pod key => fun (reply : Except SyncError (Option Pod)) =>
      ∀ found, reply = .ok found → found = dependents.pods key
  | _ => fun _ => True

/--
What an observation would be that always looked at the workload.  Where no pod was
looked at, it holds some other view of a pod, or none.
-/
def lookedUp (dependents : Dependents) (cluster : Cluster) (observed : Observed)
    (other : Option PodView) : Observed where
  workload := (dependents.workloads ⟨cluster.namespaceName, cluster.serverName⟩).map
    WorkloadView.ofStatefulSet
  bootstrapPod := observed.bootstrapPod.or other

end Dependents

namespace Pass

variable {Reconciler State : Type}

/-- The one dependent that the pass of a status needs to look at. -/
def Needs (cluster : Cluster) (status : ClusterStatus) (request : Request Reconciler) : Prop :=
  (status.JudgesWorkload ∧
      request = .cachedStatefulSet ⟨cluster.namespaceName, cluster.serverName⟩) ∨
    ∃ source, status.Verifies source ∧ request = .pod ⟨cluster.namespaceName, source⟩

/-- A lookup fails with an error, or a pod that has to exist does not. -/
def Fails : (request : Request Reconciler) → Reply request → SyncError → Prop
  | .cachedStatefulSet _ => fun (reply : Except SyncError (Option StatefulSet)) error =>
      reply = .error error
  | .pod key => fun (reply : Except SyncError (Option Pod)) error =>
      reply = .error error ∨ (reply = .ok none ∧ error = .notFound "Pod" key.text)
  | _ => fun _ _ => False

theorem fails_workload_iff {key : ResourceKey} {reply : Except SyncError (Option StatefulSet)}
    {error : SyncError} {view : Option StatefulSet → Observed} :
    Fails (.cachedStatefulSet key : Request Reconciler) reply error ↔
      reply.map view = .error error := by
  show reply = .error error ↔ _
  cases reply <;> simp [Except.map]

theorem fails_pod_iff {key : ResourceKey} {reply : Except SyncError (Option Pod)}
    {error : SyncError} :
    Fails (.pod key : Request Reconciler) reply error ↔
      sightOfSource key reply = .error error := by
  show (reply = .error error ∨ (reply = .ok none ∧ error = .notFound "Pod" key.text)) ↔ _
  match reply with
  | .error failure => simp [sightOfSource]
  | .ok none => simp [sightOfSource, eq_comm]
  | .ok (some pod) => simp [sightOfSource]

/-- An observation looked at one needed dependent at most, and missed nothing by it. -/
structure Selective (dependents : Dependents) (cluster : Cluster) (status : ClusterStatus)
    (moments : List (Moment Reconciler State)) (result : Except SyncError Observed) : Prop where
  complete : ∀ observed, result = .ok observed → ∀ spec other,
    status.next spec observed = status.next spec (dependents.lookedUp cluster observed other)
  single : moments.length ≤ 1
  needed : ∀ moment ∈ moments, Needs cluster status moment.request
  idle : moments = [] ↔ status.phase = .fresh ∨ status.phase = .preFlight ∨
    (status.phase = .recovery ∧ status.recoveryStep = .selecting)
  failed : ∀ error, result = .error error ↔
    ∃ moment ∈ moments, Fails moment.request moment.reply error

namespace ObserveCall

variable {cluster : Cluster} {status : ClusterStatus}
  {moments : List (Moment Reconciler State)} {result : Except SyncError Observed}

theorem length_le (call : ObserveCall cluster status moments result) : moments.length ≤ 1 := by
  cases call <;> simp

theorem needed (call : ObserveCall cluster status moments result) :
    ∀ moment ∈ moments, Needs cluster status moment.request := by
  intro moment present
  cases call with
  | blind => simp at present
  | workload sees =>
      rw [List.mem_singleton.mp present]
      exact Or.inl ⟨ClusterStatus.sight_eq_workload_iff.mp sees, rfl⟩
  | source sees =>
      rw [List.mem_singleton.mp present]
      exact Or.inr ⟨_, ClusterStatus.sight_eq_pod_iff.mp sees, rfl⟩

theorem eq_nil_iff (call : ObserveCall cluster status moments result) :
    moments = [] ↔ status.sight = .nothing := by
  cases call with
  | blind sees => simp [sees]
  | workload sees => simp [sees]
  | source sees => simp [sees]

theorem eq_error_iff (call : ObserveCall cluster status moments result) (error : SyncError) :
    result = .error error ↔ ∃ moment ∈ moments, Fails moment.request moment.reply error := by
  cases call with
  | blind => simp
  | workload sees before after reply =>
      simp only [List.mem_singleton, exists_eq_left]
      exact fails_workload_iff.symm
  | source sees before after reply =>
      simp only [List.mem_singleton, exists_eq_left]
      exact fails_pod_iff.symm

/-- What was looked at is what there is; so nothing that was left out would have counted. -/
theorem next_eq (call : ObserveCall cluster status moments result) {dependents : Dependents}
    (answers : ∀ moment ∈ moments, dependents.Answers moment.request moment.reply)
    {observed : Observed} (succeeds : result = .ok observed) (spec : ClusterSpec)
    (other : Option PodView) :
    status.next spec observed = status.next spec (dependents.lookedUp cluster observed other) := by
  cases call with
  | blind sees => exact ClusterStatus.next_congr (by simp [sees]) (by simp [sees])
  | workload sees before after reply =>
      cases reply with
      | error failure => simp [Except.map] at succeeds
      | ok found =>
          have shown := answers _ List.mem_cons_self found rfl
          obtain rfl := Except.ok.inj succeeds
          refine ClusterStatus.next_congr (fun _ => ?_) (by simp [sees])
          rw [Dependents.lookedUp, ← shown]
  | source sees before after reply =>
      match reply with
      | .error failure => simp [sightOfSource] at succeeds
      | .ok none => simp [sightOfSource] at succeeds
      | .ok (some pod) =>
          obtain rfl := Except.ok.inj succeeds
          exact ClusterStatus.next_congr (by simp [sees]) fun _ _ => rfl

end ObserveCall

/--
Looking only at what the phase judges is as good as looking at everything, and it
fails only with the lookup that it needs.
-/
theorem observation_selective (dependents : Dependents) (cluster : Cluster)
    (status : ClusterStatus) {moments : List (Moment Reconciler State)}
    {result : Except SyncError Observed} (ends : (observe cluster status).Ends moments result)
    (answers : ∀ moment ∈ moments, dependents.Answers moment.request moment.reply) :
    Selective dependents cluster status moments result := by
  have call := observeCall_of_ends ends
  exact {
    complete := fun _ succeeds spec other => call.next_eq answers succeeds spec other
    single := call.length_le
    needed := call.needed
    idle := call.eq_nil_iff.trans ClusterStatus.sight_eq_nothing_iff
    failed := call.eq_error_iff }

/-- A status that still names a source after its primary component has recovered. -/
def renamedSource : ClusterStatus where
  phase := .recovery
  stage := .primaryRecovered
  bootstrapFrom := some "prod-server-1"

/-- A pod that is ready beside a workload that would end the recovery. -/
def readyDependents : Dependents where
  workloads _ := some
    { requested := some 1
      status := some { replicas := 1, currentReplicas := some 1, readyReplicas := some 1 } }
  pods key := some { metadata := { name := some key.name }, containersReady := [true] }

/-- Only the named pod is looked at, and the ready workload would not have counted. -/
theorem renamedSource_observed_selectively :
    let cluster : Cluster :=
      { metadata := { name := some "prod", namespaceName := some "db" }
        spec := { replicas := 3 }
        status := some renamedSource }
    let key : ResourceKey := ⟨"db", "prod-server-1"⟩
    let moments : List (Moment Empty Unit) := [⟨(), .pod key, .ok (readyDependents.pods key), ()⟩]
    let result : Except SyncError Observed := .ok { bootstrapPod := some ⟨"prod-server-1", true⟩ }
    (observe cluster renamedSource).Ends moments result ∧
      (∀ moment ∈ moments, readyDependents.Answers moment.request moment.reply) ∧
      Selective readyDependents cluster renamedSource moments result := by
  intro cluster key moments result
  have ends : (observe cluster renamedSource).Ends moments result :=
    .ask _ _ _ (.start _)
  have answers : ∀ moment ∈ moments, readyDependents.Answers moment.request moment.reply := by
    intro moment present
    rw [List.mem_singleton.mp present]
    exact fun found told => (Except.ok.inj told).symm
  exact ⟨ends, answers, observation_selective readyDependents cluster renamedSource ends answers⟩

end Pass

end GaleraControl
