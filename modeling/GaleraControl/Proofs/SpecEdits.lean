import GaleraControl.Proofs.FormationProgress
import Mathlib.Data.Nat.Init

/-!
# Bootstrap steps while the specification is edited

The specification of a cluster may be edited while it is bootstrapped, the passes
may fail at any request, and the answers to their writes may be lost.  Generations
then no longer count the bootstrap steps: between two steps the workload of the earlier one may be applied again with
another image.  What the restart of the first node is judged by is still a rollout
that happened after the first node was ready; but it may be one of a workload that
forms a new cluster, if nothing else was applied since.
-/

namespace GaleraControl

/-- The server pods are told to form a new cluster. -/
def WorkloadSpec.FormsNewCluster (spec : WorkloadSpec) : Prop :=
  "--wsrep-new-cluster" ∈ spec.template.container.arguments ∨
    ⟨"GALERA_NEW_CLUSTER", .text "true"⟩ ∈ spec.template.container.environment

instance (spec : WorkloadSpec) : Decidable spec.FormsNewCluster :=
  inferInstanceAs (Decidable (_ ∨ _))

/-- Only the workload of the first step forms a new cluster, by the flag and the variable. -/
theorem Cluster.formsNewCluster_workload (cluster : Cluster) :
    cluster.workload.spec.FormsNewCluster ↔ cluster.phase = .bootstrapFirst := by
  have flag := cluster.newCluster_mem_serverArguments
  have told := cluster.newCluster_mem_serverEnvironment
  exact or_iff_left_of_imp (fun present => flag.mpr (told.mp present)) |>.trans flag

namespace Rollout

open Pass World Formation

/-- Another writer gives a stored cluster another specification. -/
def edit (world : World) (key : ResourceKey) (spec : ClusterSpec) : World :=
  { world with
    clusters := Table.modify key (fun cluster => { cluster with spec }) world.clusters }.touch key

/-- What can happen around a cluster that is bootstrapped while it is edited. -/
inductive EditEvent where
  | event (event : Event)
  | edit (spec : ClusterSpec)
  /-- From now on these failures are due. -/
  | fail (faults : Table String Fault)

/-- What each event makes of the world. -/
inductive EditStep (reconcilers : List WorldReconciler) (text : String) (cluster : Cluster) :
    World → EditEvent → World → Prop where
  | event {before after : World} {event : Event}
      (step : Step reconcilers text cluster before event after) :
      EditStep reconcilers text cluster before (.event event) after
  | edit (world : World) (spec : ClusterSpec) :
      EditStep reconcilers text cluster world (.edit spec)
        (edit world cluster.resourceKey spec)
  | fail (world : World) (faults : Table String Fault) :
      EditStep reconcilers text cluster world (.fail faults) { world with faults }

/-- A run from a new cluster, with any edits and any failures. -/
structure EditedRun (reconcilers : List WorldReconciler) (text : String) (cluster : Cluster) where
  world : Nat → World
  event : Nat → EditEvent
  starts : Starts text cluster (world 0)
  steps : ∀ moment,
    EditStep reconcilers text cluster (world moment) (event moment) (world (moment + 1))

/-- The status of a rollout that the cache shows. -/
def stamp? (cluster : Cluster) (world : World) : Option StatefulSetStatus :=
  (Table.get? world.statefulSets (workloadKey cluster)).bind StatefulSet.status

/-- What holds of the world at every moment, whatever is edited. -/
structure Grounded (cluster : Cluster) (world : World) : Prop where
  stored : ∃ current, Table.get? world.clusters cluster.resourceKey = some current ∧
    current.resourceKey = cluster.resourceKey
  unseen : Table.get? world.applied (workloadKey cluster) = none →
    Table.get? world.statefulSets (workloadKey cluster) = none
  thawed : world.frozen = none
  alone : world.raceArmed = false

/--
What a pass does while the specification is edited: the stored status takes a row
of the table, and what is applied forms a new cluster only if the first step is
stored before or after the pass.
-/
structure PassedOver (cluster : Cluster) (before after : World) (current : Cluster)
    (observed : Observed) (transition : Transition) : Prop where
  saw : Saw before current observed
  named : current.resourceKey = cluster.resourceKey
  moves : ClusterStatus.Moves current.spec observed (storedStatus cluster before) transition
  status : storedStatus cluster after = transition.status
  stored : ∃ later, Table.get? after.clusters cluster.resourceKey = some later ∧
    later.resourceKey = cluster.resourceKey
  statefulSets : after.statefulSets = before.statefulSets
  frozen : after.frozen = before.frozen
  raceArmed : after.raceArmed = before.raceArmed
  applied : ∃ spec : WorkloadSpec,
    (spec.FormsNewCluster → (storedStatus cluster before).phase = .bootstrapFirst ∨
      transition.status.phase = .bootstrapFirst) ∧
      AppliedOnce spec (Table.get? before.applied (workloadKey cluster))
        (Table.get? after.applied (workloadKey cluster))

section Steps

variable {reconcilers : List WorldReconciler} {text : String} {cluster : Cluster}
  {before after : World}

theorem workloadKey_of_resourceKey {current : Cluster}
    (named : current.resourceKey = cluster.resourceKey) :
    workloadKey current = workloadKey cluster := by
  have place : current.namespaceName = cluster.namespaceName :=
    congrArg ResourceKey.namespaceName named
  have name : current.name = cluster.name := congrArg ResourceKey.name named
  simp only [workloadKey, Cluster.serverName, Cluster.componentName, place, name]

theorem Grounded.passedOver {channel : Channel} {moments : List (Moment WorldReconciler World)}
    {result : Except SyncError SyncOutcome} (grounded : Grounded cluster before)
    (parsed : ResourceKey.parse? text = some cluster.resourceKey)
    (ends : (sync reconcilers text).Ends moments result)
    (connects : Connects channel before moments after) :
    ∃ current observed transition,
      PassedOver cluster before after current observed transition := by
  rcases grounded.stored with ⟨current, stored, named⟩
  have present : Table.get? before.clusters current.resourceKey =
      some (current.revised current.metadata.resourceVersion current.status) := by
    rw [named, stored]
    rfl
  rw [← named] at parsed
  rcases passed_of_stored present grounded.thawed grounded.alone parsed ends connects with
    ⟨observed, transition, passed⟩
  have same (world : World) : storedStatus current world = storedStatus cluster world := by
    rw [storedStatus, storedStatus, named]
  have key : workloadKey current = workloadKey cluster := workloadKey_of_resourceKey named
  refine ⟨current, observed, transition, ?_⟩
  exact
    { saw := passed.saw
      named
      moves := by
        rw [← same]
        exact passed.moves
      status := (same after).symm.trans passed.status
      stored := by
        rcases passed.stored with ⟨version, status, later⟩
        rw [named] at later
        exact ⟨_, later, named⟩
      statefulSets := passed.statefulSets
      frozen := passed.frozen
      raceArmed := passed.raceArmed
      applied := by
        rcases passed.applied with ⟨believed, either, once⟩
        refine ⟨generated current believed, ?_, key ▸ once⟩
        intro forms
        have first : (storedStatus cluster believed).phase = .bootstrapFirst := by
          rw [← same]
          exact (Cluster.formsNewCluster_workload
            (current.restated (some (storedStatus current believed)))).mp forms
        rcases either with rfl | ⟨_, rfl⟩
        · rw [← passed.status, same]
          exact Or.inr first
        · exact Or.inl first }

/-! ## One step -/

theorem Starts.grounded (starts : Starts text cluster before) : Grounded cluster before where
  stored := ⟨cluster, starts.stored, rfl⟩
  unseen _ := starts.unseen
  thawed := starts.thawed
  alone := starts.alone

/-- What an edit leaves alone: everything of the stored cluster but its specification. -/
theorem get?_edit {current : Cluster} (world : World) (spec : ClusterSpec)
    (stored : Table.get? world.clusters cluster.resourceKey = some current) :
    ∃ version, Table.get? (edit world cluster.resourceKey spec).clusters cluster.resourceKey =
      some { current with
        spec, metadata := { current.metadata with resourceVersion := some version } } := by
  refine ⟨toString (world.version + 1), ?_⟩
  simp only [edit, World.touch, World.nextVersion, World.stamp, Table.get?_modify, if_true, stored,
    Option.map_some]

theorem storedStatus_edit (grounded : Grounded cluster before) (spec : ClusterSpec) :
    storedStatus cluster (edit before cluster.resourceKey spec) = storedStatus cluster before := by
  rcases grounded.stored with ⟨current, stored, _⟩
  rcases get?_edit before spec stored with ⟨version, edited⟩
  rw [storedStatus, storedStatus, edited, stored]
  rfl

theorem refresh_of_unapplied {world : World} {key : ResourceKey}
    (unapplied : Table.get? world.applied key = none) : world.refresh key = world := by
  simp only [World.refresh, unapplied]

/-- Every event keeps the ground on which the others happen. -/
theorem EditStep.grounded {event : EditEvent}
    (step : EditStep reconcilers text cluster before event after)
    (parsed : ResourceKey.parse? text = some cluster.resourceKey)
    (grounded : Grounded cluster before) : Grounded cluster after := by
  cases step with
  | fail faults => exact ⟨grounded.stored, grounded.unseen, grounded.thawed, grounded.alone⟩
  | edit spec =>
      rcases grounded.stored with ⟨current, stored, named⟩
      rcases get?_edit before spec stored with ⟨version, edited⟩
      exact ⟨⟨_, edited, named⟩, grounded.unseen, grounded.thawed, grounded.alone⟩
  | event step =>
      cases step with
      | pass ends connects =>
          rcases grounded.passedOver parsed ends connects with ⟨_, _, _, passed⟩
          refine ⟨passed.stored, ?_, passed.frozen.trans grounded.thawed,
            passed.raceArmed.trans grounded.alone⟩
          intro unapplied
          rw [passed.statefulSets]
          rcases passed.applied with ⟨_, _, same | ⟨now, shown, _⟩⟩
          · exact grounded.unseen (same.symm.trans unapplied)
          · rw [shown] at unapplied
            exact absurd unapplied (by simp)
      | refresh =>
          refine ⟨by rw [refresh_clusters]; exact grounded.stored, ?_,
            (refresh_frozen _ _).trans grounded.thawed,
            (refresh_raceArmed _ _).trans grounded.alone⟩
          intro unapplied
          rw [refresh_applied] at unapplied
          rw [refresh_of_unapplied unapplied, grounded.unseen unapplied]
      | rollOut =>
          refine ⟨(refresh_clusters before (workloadKey cluster)).symm ▸ grounded.stored, ?_,
            (refresh_frozen _ _).trans grounded.thawed,
            (refresh_raceArmed _ _).trans grounded.alone⟩
          intro unapplied
          have nothing : Table.get? before.applied (workloadKey cluster) = none := by
            rw [← unapplied]
            exact congrArg (Table.get? · _) (refresh_applied before _).symm
          rw [World.rollOut, Table.get?_modify, if_pos rfl, refresh_of_unapplied nothing,
            grounded.unseen nothing]
          rfl
      | losePods =>
          refine ⟨grounded.stored, ?_, grounded.thawed, grounded.alone⟩
          intro unapplied
          rw [losePods, Table.get?_modify, if_pos rfl, grounded.unseen unapplied]
          rfl

/-- Only passes change the stored status and what is applied. -/
theorem EditStep.kept {event : EditEvent}
    (step : EditStep reconcilers text cluster before event after)
    (grounded : Grounded cluster before) (other : event ≠ .event .pass) :
    storedStatus cluster after = storedStatus cluster before ∧ after.applied = before.applied := by
  cases step with
  | fail faults => exact ⟨rfl, rfl⟩
  | edit spec => exact ⟨storedStatus_edit grounded spec, rfl⟩
  | event step =>
      cases step with
      | pass ends connects => exact absurd rfl other
      | refresh => exact ⟨storedStatus_refresh cluster _ _, refresh_applied _ _⟩
      | rollOut => exact ⟨storedStatus_rollOut cluster _ _, refresh_applied _ _⟩
      | losePods => exact ⟨rfl, rfl⟩

/-- Between rollouts nothing happens to the status that the cache shows but a loss of pods. -/
theorem EditStep.stamp {event : EditEvent}
    (step : EditStep reconcilers text cluster before event after)
    (parsed : ResourceKey.parse? text = some cluster.resourceKey)
    (grounded : Grounded cluster before) (other : event ≠ .event .rollOut) :
    stamp? cluster after = stamp? cluster before ∨
      stamp? cluster after =
        (stamp? cluster before).map fun status => { status with readyReplicas := some 0 } := by
  cases step with
  | fail faults => exact Or.inl rfl
  | edit spec => exact Or.inl rfl
  | event step =>
      cases step with
      | pass ends connects =>
          rcases grounded.passedOver parsed ends connects with ⟨_, _, _, passed⟩
          exact Or.inl (by rw [stamp?, passed.statefulSets, stamp?])
      | refresh =>
          refine Or.inl ?_
          cases applied : Table.get? before.applied (workloadKey cluster) with
          | none => rw [refresh_of_unapplied applied]
          | some held =>
              rw [stamp?, get?_refresh applied]
              rfl
      | rollOut => exact absurd rfl other
      | losePods =>
          refine Or.inr ?_
          rw [stamp?, losePods, Table.get?_modify, if_pos rfl, stamp?]
          cases Table.get? before.statefulSets (workloadKey cluster) <;> rfl

/-- A rollout leaves the status of what is applied. -/
theorem EditStep.rolls (step : EditStep reconcilers text cluster before (.event .rollOut) after)
    (grounded : Grounded cluster before) (shows : stamp? cluster before ≠ none) :
    ∃ held, Table.get? before.applied (workloadKey cluster) = some held ∧
      stamp? cluster after = some (rolledOut (held.visible none) none) := by
  cases applied : Table.get? before.applied (workloadKey cluster) with
  | none =>
      rw [stamp?, grounded.unseen applied] at shows
      exact absurd rfl shows
  | some held =>
      refine ⟨held, rfl, ?_⟩
      cases step with
      | event step =>
          cases step with
          | rollOut =>
              rw [stamp?, World.rollOut, Table.get?_modify, if_pos rfl, get?_refresh applied]
              rfl

end Steps

/-! ## Whole runs -/

namespace EditedRun

variable {reconcilers : List WorldReconciler} {text : String} {cluster : Cluster}
  (run : EditedRun reconcilers text cluster)

/-- The stored status at a moment. -/
def status (moment : Nat) : ClusterStatus := storedStatus cluster (run.world moment)

/-- The workload that is applied at a moment. -/
def applied? (moment : Nat) : Option AppliedWorkload :=
  Table.get? (run.world moment).applied (workloadKey cluster)

theorem grounded (moment : Nat) : Grounded cluster (run.world moment) := by
  induction moment with
  | zero => exact run.starts.grounded
  | succ moment ih => exact (run.steps moment).grounded run.starts.parsed ih

theorem passedOver {moment : Nat} (passes : run.event moment = .event .pass) :
    ∃ current observed transition,
      PassedOver cluster (run.world moment) (run.world (moment + 1)) current observed
        transition := by
  have step := run.steps moment
  rw [passes] at step
  cases step with
  | event step =>
      cases step with
      | pass ends connects =>
          exact (run.grounded moment).passedOver run.starts.parsed ends connects

/-- A moment at which the stored status changes is that of a pass. -/
theorem passes_of_ne {moment : Nat} (changed : run.status (moment + 1) ≠ run.status moment) :
    run.event moment = .event .pass := by
  by_contra other
  exact changed ((run.steps moment).kept (run.grounded moment) other).1

theorem status_zero : run.status 0 = {} := run.starts.status_eq

/-- The pass of a moment judged the status of a rollout, as it completed a bootstrap step. -/
structure Completes (moment : Nat) (stamp : StatefulSetStatus) : Prop where
  passes : run.event moment = .event .pass
  shows : stamp? cluster (run.world moment) = some stamp
  kept : stamp? cluster (run.world (moment + 1)) = some stamp
  recorded : (run.status (moment + 1)).recordedGeneration = stamp.observedGeneration.getD 0
  updated : (run.status moment).phase = .bootstrapFirst ∨
    (run.status moment).recordedGeneration < stamp.observedGeneration.getD 0
  ready : stamp.readyReplicas.getD 0 ≠ 0

theorem successor_of_left {moment : Nat}
    (left : (run.status (moment + 1)).phase ≠ (run.status moment).phase) :
    (run.status moment).phase.successor = (run.status (moment + 1)).phase := by
  have passes := run.passes_of_ne fun same => left (by rw [same])
  rcases run.passedOver passes with ⟨_, _, _, passed⟩
  have after : run.status (moment + 1) = _ := passed.status
  rw [after] at left ⊢
  exact passed.moves.successor_of_ne left

/-- A bootstrap phase is left when its step completes. -/
theorem exists_completes {moment : Nat}
    (bootstrapping : (run.status moment).phase.isBootstrapping = true)
    (left : (run.status (moment + 1)).phase ≠ (run.status moment).phase) :
    ∃ stamp, run.Completes moment stamp := by
  have passes := run.passes_of_ne fun same => left (by rw [same])
  rcases run.passedOver passes with ⟨current, observed, transition, passed⟩
  have after : run.status (moment + 1) = transition.status := passed.status
  rw [after] at left
  rcases passed.moves.completes bootstrapping left with ⟨view, seen, clear, rfl⟩
  rcases Bootstrap.obstacle?_eq_none_iff.mp clear with ⟨_, updated, _, ready, _⟩
  rcases passed.saw view seen with ⟨workload, shown, rfl⟩
  have cached : Table.get? (run.world moment).statefulSets (workloadKey cluster) =
      some workload := by
    rw [← workloadKey_of_resourceKey passed.named]
    exact shown
  cases shows : workload.status with
  | none =>
      have none : (WorkloadView.ofStatefulSet workload).ready = 0 := by
        simp [WorkloadView.ofStatefulSet, shows]
      rw [none] at ready
      exact absurd ready (Bootstrap.not_nodes_le_zero _)
  | some stamp =>
      have generation : (WorkloadView.ofStatefulSet workload).observedGeneration =
          stamp.observedGeneration.getD 0 := by
        simp [WorkloadView.ofStatefulSet, shows]
      have pods : (WorkloadView.ofStatefulSet workload).ready = stamp.readyReplicas.getD 0 := by
        simp [WorkloadView.ofStatefulSet, shows]
      have stamped : stamp? cluster (run.world moment) = some stamp := by
        rw [stamp?, cached]
        exact shows
      refine ⟨stamp, passes, stamped, ?_, ?_, ?_, ?_⟩
      · rw [stamp?, passed.statefulSets]
        exact stamped
      · rw [after, ← generation]
        simp only [Bootstrap.step, clear, Transition.advance_status]
      · rw [← generation]
        exact updated.imp_right of_decide_eq_true
      · intro none
        rw [pods, none] at ready
        exact Bootstrap.not_nodes_le_zero _ ready

/-! ## From the first node to its restart -/

/-- The recorded generation stays as long as the phase does. -/
theorem recordedGeneration_of_lasts {first moment : Nat} (order : first ≤ moment)
    (lasts : ∀ time, first ≤ time → time ≤ moment →
      (run.status time).phase = (run.status moment).phase) :
    (run.status moment).recordedGeneration = (run.status first).recordedGeneration := by
  induction moment, order using Nat.le_induction with
  | base => rfl
  | succ moment order ih =>
      have stays : (run.status moment).phase = (run.status (moment + 1)).phase :=
        lasts moment order (Nat.le_succ moment)
      have earlier : ∀ time, first ≤ time → time ≤ moment →
          (run.status time).phase = (run.status moment).phase := by
        intro time above below
        rw [stays]
        exact lasts time above (Nat.le_succ_of_le below)
      rw [← ih earlier]
      by_cases same : run.status (moment + 1) = run.status moment
      · rw [same]
      · rcases run.passedOver (run.passes_of_ne same) with ⟨_, _, _, passed⟩
        have after : run.status (moment + 1) = _ := passed.status
        rw [after] at stays ⊢
        exact passed.moves.recordedGeneration_eq fun _ => stays.symm

/-- A rollout between two moments is the last one before the second. -/
structure LastRollOut (start moment rolled : Nat) (held : AppliedWorkload) : Prop where
  after : start < rolled
  before : rolled < moment
  rolls : run.event rolled = .event .rollOut
  last : ∀ time, rolled < time → time < moment → run.event time ≠ .event .rollOut
  applied : run.applied? rolled = some held

variable {run} in
/-- What was rolled out last stays so until the next rollout. -/
theorem LastRollOut.succ {start moment rolled : Nat} {held : AppliedWorkload}
    (last : run.LastRollOut start moment rolled held)
    (other : run.event moment ≠ .event .rollOut) :
    run.LastRollOut start (moment + 1) rolled held where
  after := last.after
  before := Nat.lt_succ_of_lt last.before
  rolls := last.rolls
  last time later earlier := by
    rcases Nat.lt_or_eq_of_le (Nat.le_of_lt_succ earlier) with before | rfl
    · exact last.last time later before
    · exact other
  applied := last.applied

/--
After a step has completed, the cache still shows the generation that was
recorded, or a status of the last rollout since then.
-/
theorem shown_since {start : Nat} {stamp : StatefulSetStatus}
    (completes : run.Completes start stamp) {moment : Nat} (later : start + 1 ≤ moment) :
    ∃ shown, stamp? cluster (run.world moment) = some shown ∧
      (shown.observedGeneration = stamp.observedGeneration ∨
        ∃ rolled held, run.LastRollOut start moment rolled held ∧ Stamped held shown) := by
  induction moment, later using Nat.le_induction with
  | base => exact ⟨stamp, completes.kept, Or.inl rfl⟩
  | succ moment later ih =>
      rcases ih with ⟨shown, shows, source⟩
      have grounded := run.grounded moment
      by_cases rolls : run.event moment = .event .rollOut
      · have step := run.steps moment
        rw [rolls] at step
        rcases step.rolls grounded (by rw [shows]; simp) with ⟨held, applied, stamped⟩
        refine ⟨_, stamped, Or.inr ⟨moment, held, ⟨later, Nat.lt_succ_self moment, rolls, ?_,
          applied⟩, Or.inl rfl⟩⟩
        intro time after before
        omega
      · rcases (run.steps moment).stamp run.starts.parsed grounded rolls with same | lost
        · refine ⟨shown, same.trans shows, source.imp_right ?_⟩
          rintro ⟨rolled, held, last, stamped⟩
          exact ⟨rolled, held, last.succ rolls, stamped⟩
        · rw [shows] at lost
          refine ⟨_, lost, source.imp_right ?_⟩
          rintro ⟨rolled, held, last, stamped⟩
          refine ⟨rolled, held, last.succ rolls, Or.inr ?_⟩
          rcases stamped with rfl | rfl <;> rfl

variable {run} in
/--
Of two steps that complete one after the other, the second is judged by the last
rollout, and this happened after the first.
-/
theorem Completes.exists_lastRollOut {start moment : Nat} {stamp judged : StatefulSetStatus}
    (completes : run.Completes start stamp) (judges : run.Completes moment judged)
    (order : start + 1 ≤ moment)
    (lasts : ∀ time, start < time → time ≤ moment →
      (run.status time).phase = (run.status moment).phase)
    (past : (run.status moment).phase ≠ .bootstrapFirst) :
    ∃ rolled held, run.LastRollOut start moment rolled held ∧
      stamp? cluster (run.world moment) = some (rolledOut (held.visible none) none) := by
  rcases run.shown_since completes order with ⟨shown, shows, source⟩
  obtain rfl : shown = judged := Option.some.inj (shows.symm.trans judges.shows)
  have newer : stamp.observedGeneration.getD 0 < shown.observedGeneration.getD 0 := by
    rw [← completes.recorded, ← run.recordedGeneration_of_lasts order lasts]
    exact judges.updated.resolve_left past
  rcases source with same | ⟨rolled, held, last, full | lost⟩
  · rw [same] at newer
    exact absurd newer Int64.lt_irrefl
  · exact ⟨rolled, held, last, full ▸ shows⟩
  · exact absurd (by rw [lost]; rfl) judges.ready

/-- Once the first node is ready, a workload without the flag stays without it. -/
theorem plain_of_plain {first moment : Nat} (order : first ≤ moment)
    (past : ∀ time, first ≤ time → time ≤ moment →
      (run.status time).phase ≠ .bootstrapFirst)
    {plain : AppliedWorkload} (applied : run.applied? first = some plain)
    (unflagged : ¬ plain.spec.FormsNewCluster) :
    ∃ held, run.applied? moment = some held ∧ ¬ held.spec.FormsNewCluster := by
  induction moment, order using Nat.le_induction with
  | base => exact ⟨plain, applied, unflagged⟩
  | succ moment order ih =>
      rcases ih fun time above below => past time above (Nat.le_succ_of_le below) with
        ⟨held, present, without⟩
      by_cases passes : run.event moment = .event .pass
      · rcases run.passedOver passes with ⟨_, _, _, passed⟩
        have own := past (moment + 1) (Nat.le_succ_of_le order) (Nat.le_refl _)
        have after : run.status (moment + 1) = _ := passed.status
        rw [after] at own
        rcases passed.applied with ⟨spec, flagged, same | ⟨now, shown, becomes⟩⟩
        · exact ⟨held, same.trans present, without⟩
        · refine ⟨now, shown, ?_⟩
          rw [becomes.spec_eq]
          intro forms
          rcases flagged forms with earlier | later
          · exact past moment order (Nat.le_succ moment) earlier
          · exact own later
      · refine ⟨held, ?_, without⟩
        rw [applied?, ((run.steps moment).kept (run.grounded moment) passes).2]
        exact present

/--
Whatever is edited and whatever fails, the pass that moves on from the restart of
the first node judges a rollout that happened after the first node was ready.  What
was rolled out forms no new cluster if, by then, anything was applied that does not.
-/
theorem restart_judged_since_first {moment : Nat}
    (before : (run.status moment).phase = .bootstrapFirstRestart)
    (after : (run.status (moment + 1)).phase = .bootstrapSecond) :
    ∃ completed rolled held,
      run.event completed = .event .pass ∧
        (run.status completed).phase = .bootstrapFirst ∧
        (∀ time, completed < time → time ≤ moment →
          (run.status time).phase = .bootstrapFirstRestart) ∧
        run.event moment = .event .pass ∧
        run.LastRollOut completed moment rolled held ∧
        stamp? cluster (run.world moment) = some (rolledOut (held.visible none) none) ∧
        ∀ time plain, completed < time → time ≤ rolled → run.applied? time = some plain →
          ¬ plain.spec.FormsNewCluster → ¬ held.spec.FormsNewCluster := by
  have other : (run.status moment).phase ≠ (run.status 0).phase := by
    rw [before, run.status_zero]
    decide
  rcases Phase.exists_entry (fun time => (run.status time).phase) other with
    ⟨completed, earlier, left, lasts⟩
  simp only [before] at left lasts
  have entered := lasts (completed + 1) (Nat.lt_succ_self _) earlier
  have follows := run.successor_of_left (by rw [entered]; exact Ne.symm left)
  rw [entered] at follows
  have first : (run.status completed).phase = .bootstrapFirst :=
    Phase.eq_of_successor_eq follows (by decide)
  rcases run.exists_completes (by rw [first]; rfl) (by rw [entered, first]; simp) with
    ⟨stamp, completes⟩
  rcases run.exists_completes (by rw [before]; rfl) (by rw [before, after]; simp) with
    ⟨judged, judges⟩
  rcases completes.exists_lastRollOut judges earlier (by rw [before]; exact lasts)
    (by rw [before]; decide) with ⟨rolled, held, last, shows⟩
  refine ⟨completed, rolled, held, completes.passes, first, lasts, judges.passes, last, shows, ?_⟩
  intro time plain late early applied unflagged
  have past : ∀ between, time ≤ between → between ≤ rolled →
      (run.status between).phase ≠ .bootstrapFirst := by
    intro between above below
    have inside := last.before
    rw [lasts between (by omega) (by omega)]
    simp
  rcases run.plain_of_plain early past applied unflagged with ⟨other, present, without⟩
  obtain rfl : held = other := Option.some.inj (last.applied.symm.trans present)
  exact without

/-! ## Edits at the wrong moment -/

/-- What the interpreter makes of a world when an event happens. -/
def happen (reconcilers : List WorldReconciler) (text : String) (cluster : Cluster) :
    EditEvent → World → World
  | .event event, world => Rollout.happen reconcilers text cluster event world
  | .edit spec, world => edit world cluster.resourceKey spec
  | .fail faults, world => { world with faults }

theorem step_happen (reconcilers : List WorldReconciler) (text : String) (cluster : Cluster)
    (event : EditEvent) (world : World) :
    EditStep reconcilers text cluster world event
      (happen reconcilers text cluster event world) := by
  cases event with
  | event event => exact .event (Rollout.step_happen reconcilers text cluster event world)
  | edit spec => exact .edit world spec
  | fail faults => exact .fail world faults

/-- Any sequence of events is that of a run. -/
def ofEvents {text : String} {cluster : Cluster} {first : World}
    (reconcilers : List WorldReconciler) (starts : Starts text cluster first)
    (events : Nat → EditEvent) : EditedRun reconcilers text cluster where
  world := stateAfter (happen reconcilers text cluster) first events
  event := events
  starts := starts
  steps _ := step_happen reconcilers text cluster _ _

/-- A failure that happens once. -/
def once (point : String) : EditEvent :=
  .fail [(point, { error := .internal point "unavailable", left := some 1 })]

/--
The image is edited when the first node is ready.  A pass that cannot observe
applies the workload of the first step once more; the next one moves on, but
cannot apply the workload of the restart, and the rollout is that of the former.
-/
def editedImage : Nat → EditEvent
  | 2 | 8 => .event .rollOut
  | 3 => .edit { replicas := 3, image := some "mariadb:11.8" }
  | 4 => once "get_stateful_set"
  | 6 => once "reconcile:StatefulSet"
  | _ => .event .pass

def editedRun : EditedRun [⟨"StatefulSet", true⟩] "ns/db" newCluster :=
  ofEvents [⟨"StatefulSet", true⟩] starts_newCluster editedImage

/-- The image is edited at the same moment, and nothing fails. -/
def editedInTurn : Nat → EditEvent
  | 2 | 5 => .event .rollOut
  | 3 => .edit { replicas := 3, image := some "mariadb:11.8" }
  | _ => .event .pass

def restartedRun : EditedRun [⟨"StatefulSet", true⟩] "ns/db" newCluster :=
  ofEvents [⟨"StatefulSet", true⟩] starts_newCluster editedInTurn

/--
When nothing fails, the restart of the first node is judged by a rollout without the
flag.  In the edited run it is judged after the first step as well.
-/
theorem editedRun_judged_since_first :
    (∃ completed held,
      (restartedRun.status completed).phase = .bootstrapFirst ∧
        restartedRun.LastRollOut completed 6 5 held ∧ ¬ held.spec.FormsNewCluster) ∧
      ∃ completed rolled held,
        (editedRun.status completed).phase = .bootstrapFirst ∧
          editedRun.LastRollOut completed 9 rolled held ∧
          stamp? newCluster (editedRun.world 9) = some (rolledOut (held.visible none) none) := by
  constructor
  · have restarting : (restartedRun.status 6).phase = .bootstrapFirstRestart := by
      decide +kernel
    have joining : (restartedRun.status 7).phase = .bootstrapSecond := by decide +kernel
    rcases restartedRun.restart_judged_since_first restarting joining with
      ⟨completed, rolled, held, _, first, _, _, last, _, unflagged⟩
    -- A rollout happens at this moment, and it is the last one before the pass.
    have fifth : rolled = 5 := by
      have before := last.before
      by_contra other
      exact last.last 5 (by omega) (by decide) rfl
    subst fifth
    have plain : (restartedRun.applied? 5).map (fun held =>
        decide held.spec.FormsNewCluster) = some false := by decide +kernel
    rcases Option.map_eq_some_iff.mp plain with ⟨applied, present, without⟩
    exact ⟨completed, held, first, last, unflagged 5 applied last.after (Nat.le_refl 5) present
      (of_decide_eq_false without)⟩
  · have restarting : (editedRun.status 9).phase = .bootstrapFirstRestart := by decide +kernel
    have joining : (editedRun.status 10).phase = .bootstrapSecond := by decide +kernel
    rcases editedRun.restart_judged_since_first restarting joining with
      ⟨completed, rolled, held, _, first, _, _, last, shows, _⟩
    exact ⟨completed, rolled, held, first, last, shows⟩

/-- A second node only joins a first one that was last started without the flag. -/
def JoinsRestarted {reconcilers : List WorldReconciler} {text : String} {cluster : Cluster}
    (run : EditedRun reconcilers text cluster) : Prop :=
  ∀ moment start rolled held, (run.status moment).phase = .bootstrapFirstRestart →
    (run.status (moment + 1)).phase = .bootstrapSecond →
    run.LastRollOut start moment rolled held → ¬ held.spec.FormsNewCluster

/-- The edited run lets a second node join one that was started as a new cluster. -/
theorem editedRun_joins_newCluster :
    (editedRun.status 9).phase = .bootstrapFirstRestart ∧
      (editedRun.status 10).phase = .bootstrapSecond ∧
      (∃ held, editedRun.LastRollOut 7 9 8 held ∧ held.spec.FormsNewCluster) ∧
      ¬ editedRun.JoinsRestarted := by
  have restarting : (editedRun.status 9).phase = .bootstrapFirstRestart := by decide +kernel
  have joining : (editedRun.status 10).phase = .bootstrapSecond := by decide +kernel
  have flags : (editedRun.applied? 8).map (fun held => decide held.spec.FormsNewCluster) =
      some true := by decide +kernel
  rcases Option.map_eq_some_iff.mp flags with ⟨held, applied, flagged⟩
  have last : editedRun.LastRollOut 7 9 8 held :=
    { after := by decide
      before := by decide
      rolls := rfl
      last := fun time later earlier => absurd earlier (Nat.not_lt_of_le later)
      applied }
  refine ⟨restarting, joining, ⟨held, last, of_decide_eq_true flagged⟩, ?_⟩
  intro joins
  exact joins 9 7 8 held restarting joining last (of_decide_eq_true flagged)

end EditedRun

end Rollout

end GaleraControl
