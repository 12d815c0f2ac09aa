import GaleraControl.Proofs.FormationProgress
import Mathlib.Data.Nat.Order.Lemmas

/-!
# What is ready when a cluster is synced

The cache may show a workload that was applied some time ago, with any status.  A
`LaggingRun` is a run from a new cluster in which the cache shows what was applied at
an earlier moment, its `source`, and never goes back behind what it has shown.

An operational cluster is marked synced as soon as the shown workload has all the
replicas that this workload asks for itself.  What is applied was generated for a
status that was stored at some earlier moment, and the third node was seen before
the cluster became operational.  So the shown workload asks for all replicas of the
cluster, or still for the three of the last bootstrap step.
-/

namespace GaleraControl

namespace Phase

/-- All bootstrap steps are done. -/
def IsFormed (phase : Phase) : Prop := phase = .operational ∨ phase = .recovery

theorem isFormed_iff_progress (phase : Phase) : phase.IsFormed ↔ 6 ≤ phase.progress := by
  cases phase <;> simp [IsFormed, progress]

/-- The last bootstrap step is the only one that forms a cluster. -/
theorem eq_third_of_successor {phase : Phase} (unformed : ¬ phase.IsFormed)
    (formed : phase.successor.IsFormed) : phase = .bootstrapThird := by
  cases phase <;> simp_all [IsFormed, successor]

theorem replicas_of_isFormed {phase : Phase} (formed : phase.IsFormed) (requested : Int32) :
    phase.replicas requested = requested := by
  rcases formed with rfl | rfl <;> rfl

section Replicas

variable {phase : Phase} {requested : Int32}

/-- No phase before the last bootstrap step asks for three replicas. -/
theorem third_le_of_replicas (three : 3 ≤ requested) (asked : 3 ≤ phase.replicas requested) :
    5 ≤ phase.progress := by
  cases phase with
  | bootstrapSecond =>
      rw [Bootstrap.replicas_eq_nodes three rfl] at asked
      exact absurd asked (by decide)
  | bootstrapThird | operational | recovery => simp [progress]
  | _ => simp [replicas] at asked

theorem formed_or_replicas_of_third_le (three : 3 ≤ requested) (late : 5 ≤ phase.progress) :
    phase.IsFormed ∨ phase.replicas requested = 3 := by
  cases phase with
  | bootstrapThird => exact Or.inr (Bootstrap.replicas_eq_nodes three rfl)
  | operational => exact Or.inl (Or.inl rfl)
  | recovery => exact Or.inl (Or.inr rfl)
  | _ => simp [progress] at late

end Replicas

end Phase

/-- Only an operational cluster whose workload is ready is marked synced. -/
theorem ClusterStatus.Moves.ready_of_synced {spec : ClusterSpec} {observed : Observed}
    {status : ClusterStatus} {transition : Transition} (wellFormed : status.WellFormed)
    (moves : Moves spec observed status transition) (changes : transition.status ≠ status)
    (synced : transition.status.stage = .synced) :
    status.phase = .operational ∧
      ∃ view, observed.workload = some view ∧ view.isReady = true := by
  have unsynced (other : status.phase ≠ .operational) : status.stage ≠ .synced :=
    fun stage => other (wellFormed.operating (Or.inl stage))
  cases moves with
  | waits reason => exact absurd rfl changes
  | synchronizes phase seen present ready => exact ⟨phase, _, seen, ready⟩
  | leavesFresh phase => exact absurd synced (unsynced (by simp [phase]))
  | leavesPreFlight phase => exact absurd synced (unsynced (by simp [phase]))
  | completesStep bootstrapping seen clear =>
      refine absurd synced (unsynced ?_)
      intro phase
      simp [phase, Phase.isBootstrapping] at bootstrapping
  | choosesSource phase step chosen =>
      have unsynced := unsynced (by simp [phase])
      simp only at synced
      split at synced
      · simp at synced
      · exact absurd synced unsynced
  | losesReplicas | refusesReports | recoversPrimary | restarts | reforms =>
      simp [Transition.advance] at synced

namespace Rollout

open Pass World

/-! ## Runs with a cache that lags behind -/

/-- What can happen around a cluster whose workload is shown late. -/
inductive LateEvent where
  | pass
  /-- The cache shows other workloads. -/
  | recache
  /-- The replicas replace their reports. -/
  | report (reports : List ReplicaReport)
  /-- Pods come and go, and become ready or not. -/
  | movePods

/--
What each event makes of the world.  A pass may have any of its requests fail, and
is told so.
-/
inductive LateStep (reconcilers : List WorldReconciler) (text : String) (cluster : Cluster) :
    World → LateEvent → World → Prop where
  | pass {before after : World} {moments : List (Moment WorldReconciler World)}
      {result : Except SyncError SyncOutcome}
      (ends : (sync reconcilers text).Ends moments result)
      (connects : Connects .reliable before moments after) :
      LateStep reconcilers text cluster before .pass after
  | recache (world : World) (statefulSets : Table ResourceKey StatefulSet) :
      LateStep reconcilers text cluster world .recache { world with statefulSets }
  | report (world : World) (reports : List ReplicaReport) :
      LateStep reconcilers text cluster world (.report reports)
        (world.report cluster.resourceKey reports)
  | movePods (world : World) (pods : Table ResourceKey Pod) :
      LateStep reconcilers text cluster world .movePods { world with pods }

/--
An unending run from a new cluster.  The cache of the workload shows what was applied
at the source of a moment, with some status.
-/
structure LaggingRun (reconcilers : List WorldReconciler) (text : String) (cluster : Cluster)
    where
  world : Nat → World
  event : Nat → LateEvent
  starts : Starts text cluster (world 0)
  steps : ∀ moment,
    LateStep reconcilers text cluster (world moment) (event moment) (world (moment + 1))
  source : Nat → Nat
  source_le : ∀ moment, source moment ≤ moment
  source_mono : Monotone source
  shown : ∀ moment workload,
    Table.get? (world moment).statefulSets (workloadKey cluster) = some workload →
    ∃ held status,
      Table.get? (world (source moment)).applied (workloadKey cluster) = some held ∧
        workload = held.visible status

/-- What holds of the world at every moment, whatever the cache shows. -/
structure Tended (cluster : Cluster) (world : World) : Prop where
  stored : ∃ version status,
    Table.get? world.clusters cluster.resourceKey = some (cluster.revised version status)
  wellFormed : (storedStatus cluster world).WellFormed
  thawed : world.frozen = none
  alone : world.raceArmed = false

section Steps

variable {reconcilers : List WorldReconciler} {text : String} {cluster : Cluster}
  {before after world : World}

theorem Starts.tended (starts : Starts text cluster world) : Tended cluster world where
  stored := ⟨cluster.metadata.resourceVersion, cluster.status, starts.stored⟩
  wellFormed := by
    rw [starts.status_eq]
    exact ClusterStatus.wellFormed_default
  thawed := starts.thawed
  alone := starts.alone

/-- A report changes nothing of the stored cluster but its reports and its version. -/
theorem get?_report {version : Option String} {status : Option ClusterStatus}
    (stored : Table.get? world.clusters cluster.resourceKey =
      some (cluster.revised version status)) (reports : List ReplicaReport) :
    ∃ newer, Table.get? (world.report cluster.resourceKey reports).clusters cluster.resourceKey =
      some (cluster.revised (some newer) (some { status.getD {} with reports })) := by
  refine ⟨toString (world.version + 1), ?_⟩
  simp only [World.report, World.touch, World.nextVersion, World.stamp, Table.get?_modify, if_true,
    stored, Option.map_some]
  rfl

theorem storedStatus_report (tended : Tended cluster world) (reports : List ReplicaReport) :
    storedStatus cluster (world.report cluster.resourceKey reports) =
      { storedStatus cluster world with reports } := by
  rcases tended.stored with ⟨version, status, stored⟩
  rcases get?_report stored reports with ⟨newer, reported⟩
  rw [storedStatus_of_stored reported, storedStatus_of_stored stored]
  rfl

theorem Tended.passed {moments : List (Moment WorldReconciler World)}
    {result : Except SyncError SyncOutcome} (tended : Tended cluster before)
    (parsed : ResourceKey.parse? text = some cluster.resourceKey)
    (ends : (sync reconcilers text).Ends moments result)
    (connects : Connects .reliable before moments after) :
    ∃ observed transition, Passed .reliable cluster before after observed transition := by
  rcases tended.stored with ⟨version, status, stored⟩
  exact passed_of_stored stored tended.thawed tended.alone parsed ends connects

theorem LateStep.tended {event : LateEvent}
    (step : LateStep reconcilers text cluster before event after)
    (parsed : ResourceKey.parse? text = some cluster.resourceKey)
    (tended : Tended cluster before) : Tended cluster after := by
  cases step with
  | pass ends connects =>
      rcases tended.passed parsed ends connects with ⟨observed, transition, passed⟩
      refine ⟨passed.stored, ?_, passed.frozen.trans tended.thawed,
        passed.raceArmed.trans tended.alone⟩
      rw [passed.status]
      exact tended.wellFormed.moves passed.moves
  | recache statefulSets => exact ⟨tended.stored, tended.wellFormed, tended.thawed, tended.alone⟩
  | report reports =>
      rcases tended.stored with ⟨version, status, stored⟩
      rcases get?_report stored reports with ⟨newer, reported⟩
      refine ⟨⟨_, _, reported⟩, ?_, tended.thawed, tended.alone⟩
      rw [storedStatus_report tended]
      exact tended.wellFormed.report reports
  | movePods pods => exact ⟨tended.stored, tended.wellFormed, tended.thawed, tended.alone⟩

/-- Only passes change the stored phase and what is applied. -/
theorem LateStep.kept {event : LateEvent}
    (step : LateStep reconcilers text cluster before event after)
    (tended : Tended cluster before) (other : event ≠ .pass) :
    (storedStatus cluster after).phase = (storedStatus cluster before).phase ∧
      after.applied = before.applied := by
  cases step with
  | pass ends connects => exact absurd rfl other
  | recache statefulSets => exact ⟨rfl, rfl⟩
  | report reports =>
      rw [storedStatus_report tended]
      exact ⟨rfl, rfl⟩
  | movePods pods => exact ⟨rfl, rfl⟩

end Steps

namespace LaggingRun

variable {reconcilers : List WorldReconciler} {text : String} {cluster : Cluster}
  (run : LaggingRun reconcilers text cluster)

/-- The stored status at a moment. -/
def status (moment : Nat) : ClusterStatus := storedStatus cluster (run.world moment)

/-- The workload that is applied at a moment. -/
def applied? (moment : Nat) : Option AppliedWorkload :=
  Table.get? (run.world moment).applied (workloadKey cluster)

/-- The workload that the cache shows at a moment. -/
def shown? (moment : Nat) : Option StatefulSet :=
  Table.get? (run.world moment).statefulSets (workloadKey cluster)

theorem tended (moment : Nat) : Tended cluster (run.world moment) := by
  induction moment with
  | zero => exact run.starts.tended
  | succ moment ih => exact (run.steps moment).tended run.starts.parsed ih

theorem passed {moment : Nat} (passes : run.event moment = .pass) :
    ∃ observed transition,
      Passed .reliable cluster (run.world moment) (run.world (moment + 1)) observed
        transition := by
  have step := run.steps moment
  rw [passes] at step
  cases step with
  | pass ends connects => exact (run.tended moment).passed run.starts.parsed ends connects

theorem status_zero : run.status 0 = {} := run.starts.status_eq

theorem passes_of_phase_ne {moment : Nat}
    (left : (run.status (moment + 1)).phase ≠ (run.status moment).phase) :
    run.event moment = .pass := by
  by_contra other
  exact left ((run.steps moment).kept (run.tended moment) other).1

theorem changes_of_synced {moment : Nat} (before : (run.status moment).stage ≠ .synced)
    (after : (run.status (moment + 1)).stage = .synced) :
    run.status (moment + 1) ≠ run.status moment :=
  fun same => before (same ▸ after)

theorem progress_mono : Monotone fun moment => (run.status moment).phase.progress := by
  apply monotone_nat_of_le_succ
  intro moment
  by_cases same : (run.status (moment + 1)).phase = (run.status moment).phase
  · rw [same]
  · rcases run.passed (run.passes_of_phase_ne same) with ⟨observed, transition, passed⟩
    have after : run.status (moment + 1) = transition.status := passed.status
    rw [after]
    exact passed.moves.progress_le

/-! ### What is applied -/

/-- At a moment the workload that is generated for the stored status is applied. -/
def UpToDate (moment : Nat) : Prop :=
  ∃ held, run.applied? moment = some held ∧ held.spec = generated cluster (run.world moment)

/-- What is applied was generated for the status that was stored at a moment. -/
structure Stems (moment earlier : Nat) (held : AppliedWorkload) : Prop where
  before : earlier ≤ moment
  upToDate : run.UpToDate earlier
  spec : held.spec = generated cluster (run.world earlier)

theorem applied_succ (moment : Nat) :
    run.applied? (moment + 1) = run.applied? moment ∨ run.UpToDate (moment + 1) := by
  by_cases passes : run.event moment = .pass
  · rcases run.passed passes with ⟨observed, transition, passed⟩
    rcases passed.applied_of_reliable with same | ⟨held, applied, becomes⟩
    · exact Or.inl same
    · exact Or.inr ⟨held, applied, becomes.spec_eq⟩
  · exact Or.inl
      (congrArg (Table.get? · _) ((run.steps moment).kept (run.tended moment) passes).2)

section Stemming

variable {run} {moment earlier : Nat} {held : AppliedWorkload}

theorem UpToDate.stems (fresh : run.UpToDate moment)
    (applied : run.applied? moment = some held) : run.Stems moment moment held where
  before := Nat.le_refl moment
  upToDate := fresh
  spec := by
    rcases fresh with ⟨now, present, spec⟩
    obtain rfl : now = held := Option.some.inj (present.symm.trans applied)
    exact spec

theorem Stems.succ (stems : run.Stems moment earlier held) :
    run.Stems (moment + 1) earlier held where
  before := Nat.le_succ_of_le stems.before
  upToDate := stems.upToDate
  spec := stems.spec

theorem Stems.replicas (stems : run.Stems moment earlier held) :
    held.spec.replicas = (run.status earlier).phase.replicas cluster.spec.replicas := by
  rw [stems.spec]
  rfl

end Stemming

/-- What is applied stems from some earlier moment. -/
theorem exists_stems {moment : Nat} {held : AppliedWorkload}
    (applied : run.applied? moment = some held) : ∃ earlier, run.Stems moment earlier held := by
  induction moment with
  | zero =>
      rw [applied?, run.starts.unapplied] at applied
      simp at applied
  | succ moment ih =>
      rcases run.applied_succ moment with same | fresh
      · rcases ih (same.symm.trans applied) with ⟨earlier, stems⟩
        exact ⟨earlier, stems.succ⟩
      · exact ⟨moment + 1, fresh.stems applied⟩

/-- Once what is applied was up to date, it stems from no moment before. -/
theorem exists_stems_since {start moment : Nat} (fresh : run.UpToDate start)
    (order : start ≤ moment) :
    ∃ held earlier, run.applied? moment = some held ∧ start ≤ earlier ∧
      run.Stems moment earlier held := by
  induction moment, order using Nat.le_induction with
  | base =>
      rcases fresh with ⟨held, applied, spec⟩
      exact ⟨held, start, applied, Nat.le_refl _, UpToDate.stems ⟨held, applied, spec⟩ applied⟩
  | succ moment order ih =>
      rcases run.applied_succ moment with same | fresh
      · rcases ih with ⟨held, earlier, applied, since, stems⟩
        exact ⟨held, earlier, same.trans applied, since, stems.succ⟩
      · rcases fresh with ⟨held, applied, spec⟩
        exact ⟨held, moment + 1, applied, Nat.le_succ_of_le order,
          UpToDate.stems ⟨held, applied, spec⟩ applied⟩

/-! ### What is shown -/

/-- The view of what the cache shows, and the workload that it shows. -/
structure Views (moment : Nat) (view : WorkloadView) (held : AppliedWorkload) : Prop where
  shown : ∃ workload, run.shown? moment = some workload ∧ view = .ofStatefulSet workload
  applied : run.applied? (run.source moment) = some held
  desired : view.desired = held.spec.replicas

theorem exists_views {moment : Nat} {observed : Observed} {view : WorkloadView}
    (saw : Saw (run.world moment) cluster observed) (seen : observed.workload = some view) :
    ∃ held, run.Views moment view held := by
  rcases saw view seen with ⟨workload, shown, rfl⟩
  rcases run.shown moment workload shown with ⟨held, status, applied, rfl⟩
  refine ⟨held, ⟨_, shown, rfl⟩, applied, ?_⟩
  cases status <;> rfl

/-- The cache shows a workload that asks for so many replicas, and all of them are ready. -/
def ShowsReady (moment : Nat) (count : Int32) : Prop :=
  ∃ workload, run.shown? moment = some workload ∧
    (WorkloadView.ofStatefulSet workload).desired = count ∧
    (WorkloadView.ofStatefulSet workload).current = count ∧
    (WorkloadView.ofStatefulSet workload).replicas = count ∧
    (WorkloadView.ofStatefulSet workload).ready = count

/-- What the cache shows was applied after the cluster was formed and its workload applied. -/
def ShowsFormed (moment : Nat) : Prop :=
  ∃ earlier ≤ run.source moment, (run.status earlier).phase.IsFormed ∧ run.UpToDate earlier

variable {run}

theorem Views.showsReady_iff {moment : Nat} {view : WorkloadView} {held : AppliedWorkload}
    (views : run.Views moment view held) (ready : view.isReady = true) (count : Int32) :
    run.ShowsReady moment count ↔ view.desired = count := by
  rcases views.shown with ⟨workload, shown, rfl⟩
  simp only [WorkloadView.isReady, Bool.and_eq_true, decide_eq_true_eq] at ready
  rcases ready with ⟨⟨⟨current, replicas⟩, pods⟩, _⟩
  constructor
  · rintro ⟨other, present, desired, _⟩
    obtain rfl : workload = other := Option.some.inj (shown.symm.trans present)
    exact desired
  · intro desired
    refine ⟨workload, shown, desired, ?_, ?_, ?_⟩
    · rw [← current, desired]
    · rw [← replicas, desired]
    · rw [← pods, desired]

/-- A workload that was applied since the cluster is formed asks for all replicas. -/
theorem Views.desired_of_showsFormed {moment : Nat} {view : WorkloadView}
    {held : AppliedWorkload} (views : run.Views moment view held)
    (shows : run.ShowsFormed moment) : view.desired = cluster.spec.replicas := by
  rcases shows with ⟨start, before, formed, fresh⟩
  rcases run.exists_stems_since fresh before with ⟨same, earlier, applied, since, stems⟩
  obtain rfl : same = held := Option.some.inj (applied.symm.trans views.applied)
  have still : (run.status earlier).phase.IsFormed := by
    rw [Phase.isFormed_iff_progress] at formed ⊢
    exact formed.trans (run.progress_mono since)
  rw [views.desired, stems.replicas, Phase.replicas_of_isFormed still]

variable (run)

/-! ### The third node -/

/-- Before a cluster is formed, the cache has shown the workload of the third node. -/
theorem exists_third {moment : Nat} (formed : (run.status moment).phase.IsFormed) :
    3 ≤ cluster.spec.replicas ∧
      ∃ completed ≤ moment, ∃ third ≤ run.source completed,
        run.UpToDate third ∧ 5 ≤ (run.status third).phase.progress := by
  have unformed : ¬ (run.status 0).phase.IsFormed := by
    rw [status_zero]
    simp [Phase.IsFormed]
  rcases Nat.exists_not_and_succ_of_not_zero_of_exists
      (p := fun time => (run.status time).phase.IsFormed) unformed ⟨moment, formed⟩ with
    ⟨completed, before, after⟩
  have order : completed ≤ moment := by
    by_contra late
    apply before
    rw [Phase.isFormed_iff_progress] at formed ⊢
    exact formed.trans (run.progress_mono (Nat.le_of_not_le late))
  -- The pass that forms the cluster completes the last bootstrap step.
  have left : (run.status (completed + 1)).phase ≠ (run.status completed).phase := by
    intro same
    rw [same] at after
    exact before after
  rcases run.passed (run.passes_of_phase_ne left) with ⟨observed, transition, passed⟩
  have status : run.status (completed + 1) = transition.status := passed.status
  rw [status] at left after
  rw [← passed.moves.successor_of_ne left] at after
  have last : (storedStatus cluster (run.world completed)).phase = .bootstrapThird :=
    Phase.eq_third_of_successor before after
  rcases passed.moves.completes (by rw [last]; rfl) left with ⟨view, seen, clear, _⟩
  rcases Bootstrap.obstacle?_eq_none_iff.mp clear with ⟨requested, _, desired, _, _⟩
  rw [last] at requested desired
  have three : 3 ≤ cluster.spec.replicas := by
    simp only [Bootstrap.replicasBelow, Int32.lt_iff_toInt_lt] at requested
    rw [Int32.le_iff_toInt_le]
    exact requested
  rcases run.exists_views passed.saw seen with ⟨held, views⟩
  rcases run.exists_stems views.applied with ⟨third, stems⟩
  refine ⟨three, completed, order, third, stems.before, stems.upToDate, ?_⟩
  apply Phase.third_le_of_replicas three
  rw [← stems.replicas, ← views.desired]
  exact desired

/--
A pass that marks a cluster as synced has been shown a workload all of whose replicas
are ready.  These are the replicas that the cluster asks for if it asks for three, or
if the shown workload was applied since the cluster is formed; otherwise there are
three of them, whatever the cluster asks for.
-/
theorem synced_as_shown {moment : Nat} (passes : run.event moment = .pass)
    (changes : run.status (moment + 1) ≠ run.status moment)
    (synced : (run.status (moment + 1)).stage = .synced) :
    3 ≤ cluster.spec.replicas ∧
      (run.ShowsReady moment cluster.spec.replicas ∨ run.ShowsReady moment 3) ∧
      (run.ShowsReady moment cluster.spec.replicas ↔
        cluster.spec.replicas = 3 ∨ run.ShowsFormed moment) := by
  rcases run.passed passes with ⟨observed, transition, passed⟩
  have after : run.status (moment + 1) = transition.status := passed.status
  rw [after] at changes synced
  rcases passed.moves.ready_of_synced (run.tended moment).wellFormed changes synced with
    ⟨phase, view, seen, ready⟩
  rcases run.exists_views passed.saw seen with ⟨held, views⟩
  rcases run.exists_third (Or.inl phase) with
    ⟨three, completed, before, third, below, fresh, late⟩
  -- The cache does not go back, so what it shows stems from no step before the third node.
  have order : third ≤ run.source moment := below.trans (run.source_mono before)
  rcases run.exists_stems_since fresh order with ⟨same, earlier, applied, since, stems⟩
  obtain rfl : same = held := Option.some.inj (applied.symm.trans views.applied)
  have asked : view.desired = (run.status earlier).phase.replicas cluster.spec.replicas :=
    views.desired.trans stems.replicas
  simp only [views.showsReady_iff ready]
  refine ⟨three, ?_⟩
  rcases Phase.formed_or_replicas_of_third_le three (late.trans (run.progress_mono since)) with
    formed | few
  · have all : view.desired = cluster.spec.replicas := by
      rw [asked, Phase.replicas_of_isFormed formed]
    have shows : run.ShowsFormed moment := ⟨earlier, stems.before, formed, stems.upToDate⟩
    exact ⟨Or.inl all, iff_of_true all (Or.inr shows)⟩
  · rw [few] at asked
    refine ⟨Or.inr asked, ?_, ?_⟩
    · intro all
      exact Or.inl (all.symm.trans asked)
    · rintro (exactly | shows)
      · rw [asked, exactly]
      · exact views.desired_of_showsFormed shows

end LaggingRun

/-! ## Runs whose cache is refreshed -/

section Refreshes

variable {reconcilers : List WorldReconciler} {text : String} {cluster : Cluster}
  {before after : World}

/-- What an event is to a cache that may lag behind. -/
def Event.late : Event → LateEvent
  | .pass => .pass
  | .refresh | .rollOut | .losePods => .recache

/-- Whether the cache is made to show what is applied. -/
def Event.refreshes : Event → Bool
  | .refresh | .rollOut => true
  | .pass | .losePods => false

theorem exists_recached (world : World) (key : ResourceKey) :
    ∃ statefulSets, world.refresh key = { world with statefulSets } := by
  unfold World.refresh
  split
  · exact ⟨world.statefulSets, rfl⟩
  · exact ⟨_, rfl⟩

theorem late_happen (event : Event) (world : World) :
    LateStep reconcilers text cluster world event.late
      (happen reconcilers text cluster event world) := by
  rcases exists_recached world (workloadKey cluster) with ⟨statefulSets, refreshed⟩
  cases event with
  | pass =>
      rcases exists_connects (reported_answer .reliable) (sync reconcilers text).run world with
        ⟨moments, ends, connects⟩
      exact .pass ends connects
  | refresh =>
      rw [happen, refreshed]
      exact .recache world statefulSets
  | rollOut =>
      rw [happen, World.rollOut, refreshed]
      exact .recache world _
  | losePods => exact .recache world _

theorem Holds.shown_refresh {origin : AppliedWorkload → Prop} {workload : StatefulSet}
    (holds : Holds origin cluster before)
    (shown : Table.get? (before.refresh (workloadKey cluster)).statefulSets (workloadKey cluster) =
      some workload) :
    ∃ held status, Table.get? before.applied (workloadKey cluster) = some held ∧
      workload = held.visible status := by
  cases applied : Table.get? before.applied (workloadKey cluster) with
  | none =>
      simp only [World.refresh, applied, holds.unseen applied] at shown
      simp at shown
  | some held =>
      rw [get?_refresh applied] at shown
      exact ⟨held, _, rfl, (Option.some.inj shown).symm⟩

/-- A refreshed cache shows what is applied, and any other what it showed, with a status. -/
theorem Step.shown {event : Event} {origin : AppliedWorkload → Prop} {workload : StatefulSet}
    (step : Step reconcilers text cluster before event after)
    (parsed : ResourceKey.parse? text = some cluster.resourceKey)
    (holds : Holds origin cluster before)
    (shown : Table.get? after.statefulSets (workloadKey cluster) = some workload) :
    if event.refreshes then
      ∃ held status, Table.get? before.applied (workloadKey cluster) = some held ∧
        workload = held.visible status
    else
      ∃ earlier status, Table.get? before.statefulSets (workloadKey cluster) = some earlier ∧
        workload = { earlier with status } := by
  cases step with
  | pass ends connects =>
      rcases holds.passed parsed ends connects with ⟨_, _, passed⟩
      rw [passed.statefulSets] at shown
      exact ⟨workload, workload.status, shown, rfl⟩
  | refresh => exact holds.shown_refresh shown
  | rollOut =>
      rw [World.rollOut, Table.get?_modify, if_pos rfl] at shown
      rcases Option.map_eq_some_iff.mp shown with ⟨cached, present, rfl⟩
      rcases holds.shown_refresh present with ⟨held, status, applied, rfl⟩
      exact ⟨held, _, applied, rfl⟩
  | losePods =>
      rw [Rollout.losePods, Table.get?_modify, if_pos rfl] at shown
      rcases Option.map_eq_some_iff.mp shown with ⟨cached, present, rfl⟩
      exact ⟨cached, _, present, rfl⟩

end Refreshes

namespace Run

variable {reconcilers : List WorldReconciler} {text : String} {cluster : Cluster}
  (run : Run reconcilers text cluster)

/-- The last moment at which the cache was made to show what is applied. -/
def refreshed : Nat → Nat
  | 0 => 0
  | moment + 1 => if (run.event moment).refreshes then moment else refreshed moment

theorem refreshed_le (moment : Nat) : run.refreshed moment ≤ moment := by
  induction moment with
  | zero => exact Nat.le_refl 0
  | succ moment ih =>
      unfold refreshed
      split
      · exact Nat.le_succ moment
      · exact Nat.le_succ_of_le ih

theorem refreshed_mono : Monotone run.refreshed := by
  apply monotone_nat_of_le_succ
  intro moment
  show run.refreshed moment ≤ if (run.event moment).refreshes then moment else run.refreshed moment
  split
  · exact run.refreshed_le moment
  · exact Nat.le_refl _

theorem shown {moment : Nat} {workload : StatefulSet}
    (present : Table.get? (run.world moment).statefulSets (workloadKey cluster) =
      some workload) :
    ∃ held status,
      Table.get? (run.world (run.refreshed moment)).applied (workloadKey cluster) = some held ∧
        workload = held.visible status := by
  induction moment generalizing workload with
  | zero =>
      rw [run.starts.unseen] at present
      simp at present
  | succ moment ih =>
      have step := (run.steps moment).shown run.starts.parsed (run.holds moment) present
      unfold refreshed
      split
      · next refreshes => rwa [if_pos refreshes] at step
      · next keeps =>
          rw [if_neg keeps] at step
          rcases step with ⟨earlier, status, before, rfl⟩
          rcases ih before with ⟨held, old, applied, rfl⟩
          exact ⟨held, status, applied, rfl⟩

/-- A cache that is refreshed now and then lags behind what is applied. -/
def lagging (happens : ∀ moment, run.world (moment + 1) =
      happen reconcilers text cluster (run.event moment) (run.world moment)) :
    LaggingRun reconcilers text cluster where
  world := run.world
  event moment := (run.event moment).late
  starts := run.starts
  steps moment := by
    rw [happens]
    exact late_happen (run.event moment) (run.world moment)
  source := run.refreshed
  source_le := run.refreshed_le
  source_mono := run.refreshed_mono
  shown _ _ := run.shown

end Run

/-! ## A cluster of four replicas -/

/-- A new cluster of four replicas. -/
def fourReplicas : Cluster where
  metadata := { name := some "db", namespaceName := some "ns", resourceVersion := some "1" }
  spec := { replicas := 4 }

theorem starts_fourReplicas :
    Starts "ns/db" fourReplicas (({} : World).putCluster fourReplicas) :=
  ⟨rfl, rfl, rfl, rfl, rfl, rfl, rfl⟩

/-- Each bootstrap step is rolled out, but not what is applied when they are done. -/
def fourthUnseen : Nat → Event
  | 2 | 4 | 6 | 8 => .rollOut
  | _ => .pass

def fourthUnseenRun : LaggingRun [⟨"StatefulSet", true⟩] "ns/db" fourReplicas :=
  (Run.ofEvents [⟨"StatefulSet", true⟩] starts_fourReplicas fourthUnseen).lagging fun _ => rfl

/-- The notes of the events that were recorded, the latest first. -/
def notes (world : World) : List String :=
  world.records.filterMap fun
    | .event event => some event.note
    | _ => none

/-- The last pass announces that the cluster is synced, and has been shown three replicas. -/
theorem fourthUnseenRun_announces :
    (fourthUnseenRun.status 10).stage ≠ .synced ∧
      (fourthUnseenRun.status 11).stage = .synced ∧
      notes (fourthUnseenRun.world 11) =
        "All replicas ready" :: notes (fourthUnseenRun.world 10) ∧
      (fourthUnseenRun.shown? 10).map (fun workload =>
        let view := WorkloadView.ofStatefulSet workload
        (view.desired, view.current, view.replicas, view.ready)) = some (3, 3, 3, 3) := by
  decide +kernel

theorem fourthUnseenRun_changes : fourthUnseenRun.status 11 ≠ fourthUnseenRun.status 10 :=
  fourthUnseenRun.changes_of_synced fourthUnseenRun_announces.1 fourthUnseenRun_announces.2.1

/-- Here the fourth replica is rolled out as well before the next pass. -/
def fourthSeen : Nat → Event
  | 2 | 4 | 6 | 8 | 10 => .rollOut
  | _ => .pass

def fourthSeenRun : LaggingRun [⟨"StatefulSet", true⟩] "ns/db" fourReplicas :=
  (Run.ofEvents [⟨"StatefulSet", true⟩] starts_fourReplicas fourthSeen).lagging fun _ => rfl

/-- What the last pass of this run is shown was applied since the cluster is formed. -/
theorem fourthSeenRun_showsFormed : fourthSeenRun.ShowsFormed 11 := by
  have formed : (fourthSeenRun.status 10).phase = .operational := by decide +kernel
  have applied : (fourthSeenRun.applied? 10).map AppliedWorkload.spec =
      some (generated fourReplicas (fourthSeenRun.world 10)) := by decide +kernel
  exact ⟨10, Nat.le_refl 10, Or.inl formed, Option.map_eq_some_iff.mp applied⟩

/--
A cluster that is marked synced after the rollout of all four replicas has them all
ready; marked before it, it has as many as it was shown.
-/
theorem fourthUnseenRun_synced_as_shown :
    (fourthSeenRun.event 11 = .pass ∧
      fourthSeenRun.status 12 ≠ fourthSeenRun.status 11 ∧
      (fourthSeenRun.status 12).stage = .synced ∧ fourthSeenRun.ShowsReady 11 4) ∧
    fourthUnseenRun.event 10 = .pass ∧
      fourthUnseenRun.status 11 ≠ fourthUnseenRun.status 10 ∧
      (fourthUnseenRun.status 11).stage = .synced ∧
      (fourthUnseenRun.ShowsReady 10 4 ∨ fourthUnseenRun.ShowsReady 10 3) ∧
      (fourthUnseenRun.ShowsReady 10 4 ↔
        (4 : Int32) = 3 ∨ fourthUnseenRun.ShowsFormed 10) := by
  constructor
  · have passes : fourthSeenRun.event 11 = .pass := rfl
    have stages : (fourthSeenRun.status 11).stage ≠ .synced ∧
        (fourthSeenRun.status 12).stage = .synced := by decide +kernel
    have changes := fourthSeenRun.changes_of_synced stages.1 stages.2
    have shown := (fourthSeenRun.synced_as_shown passes changes stages.2).2.2
    exact ⟨passes, changes, stages.2, shown.mpr (Or.inr fourthSeenRun_showsFormed)⟩
  · have passes : fourthUnseenRun.event 10 = .pass := rfl
    have synced := fourthUnseenRun_announces.2.1
    exact ⟨passes, fourthUnseenRun_changes, synced,
      (fourthUnseenRun.synced_as_shown passes fourthUnseenRun_changes synced).2⟩

/-- A cluster is marked synced only when all replicas that it asks for are ready. -/
def LaggingRun.SyncsComplete {reconcilers : List WorldReconciler} {text : String}
    {cluster : Cluster} (run : LaggingRun reconcilers text cluster) : Prop :=
  ∀ moment, run.event moment = .pass → run.status (moment + 1) ≠ run.status moment →
    (run.status (moment + 1)).stage = .synced → run.ShowsReady moment cluster.spec.replicas

/-- Three of four replicas are ready when the cluster is marked synced and announced so. -/
theorem fourthUnseenRun_synced_early :
    (fourthUnseenRun.status 10).stage ≠ .synced ∧
      (fourthUnseenRun.status 11).stage = .synced ∧
      notes (fourthUnseenRun.world 11) =
        "All replicas ready" :: notes (fourthUnseenRun.world 10) ∧
      fourthUnseenRun.ShowsReady 10 3 ∧ ¬ fourthUnseenRun.SyncsComplete := by
  rcases fourthUnseenRun_announces with ⟨before, synced, announced, counted⟩
  rcases Option.map_eq_some_iff.mp counted with ⟨workload, shown, counts⟩
  simp only [Prod.mk.injEq] at counts
  refine ⟨before, synced, announced, ⟨workload, shown, counts⟩, ?_⟩
  intro complete
  rcases complete 10 rfl fourthUnseenRun_changes synced with ⟨other, present, desired, _⟩
  obtain rfl : workload = other := Option.some.inj (shown.symm.trans present)
  rw [counts.1] at desired
  exact absurd desired (by decide)

end Rollout

end GaleraControl
