import GaleraControl.Proofs.Formation

/-!
# Bootstrap steps and rollouts

A new cluster is formed while its workload is rolled out.  Passes, refreshes of
the cache, rollouts and losses of all pods take turns in any order, any request
of a pass may fail, and a write that seems to have failed may have taken effect
all the same.  The cache of the workload mixes the specification
of its last refresh with the status of an older rollout, and the stored phase
may be ahead of what is applied; still no bootstrap step completes on another
rollout than one of its own specification.
-/

namespace GaleraControl

/-- The state after the first events of a sequence, by what each event makes of a state. -/
def stateAfter {Event State : Type} (happen : Event → State → State) (first : State)
    (events : Nat → Event) : Nat → State
  | 0 => first
  | moment + 1 => happen (events moment) (stateAfter happen first events moment)

namespace Rollout

open Pass World Formation

/-- The key of the workload of a cluster. -/
def workloadKey (cluster : Cluster) : ResourceKey := ⟨cluster.namespaceName, cluster.serverName⟩

/-- All ready pods of a workload are lost. -/
def losePods (world : World) (key : ResourceKey) : World :=
  { world with
    statefulSets := Table.modify key
      (fun workload => { workload with
        status := workload.status.map fun status => { status with readyReplicas := some 0 } })
      world.statefulSets }

/-- What can happen around a cluster that is being formed. -/
inductive Event where
  | pass
  | refresh
  | rollOut
  | losePods
deriving DecidableEq, Repr

/--
What each event makes of the world.  A pass may have any of its requests fail, and
the answers to its writes may be lost.
-/
inductive Step (reconcilers : List WorldReconciler) (text : String) (cluster : Cluster) :
    World → Event → World → Prop where
  | pass {before after : World} {moments : List (Moment WorldReconciler World)}
      {result : Except SyncError SyncOutcome}
      (ends : (sync reconcilers text).Ends moments result)
      (connects : Connects .lossy before moments after) :
      Step reconcilers text cluster before .pass after
  | refresh (world : World) :
      Step reconcilers text cluster world .refresh (world.refresh (workloadKey cluster))
  | rollOut (world : World) :
      Step reconcilers text cluster world .rollOut (world.rollOut (workloadKey cluster) none)
  | losePods (world : World) :
      Step reconcilers text cluster world .losePods (losePods world (workloadKey cluster))

/-- A world with a new cluster, whose workload does not exist yet. -/
structure Starts (text : String) (cluster : Cluster) (world : World) : Prop where
  parsed : ResourceKey.parse? text = some cluster.resourceKey
  stored : Table.get? world.clusters cluster.resourceKey = some cluster
  fresh : cluster.statusOrDefault = {}
  unapplied : Table.get? world.applied (workloadKey cluster) = none
  unseen : Table.get? world.statefulSets (workloadKey cluster) = none
  thawed : world.frozen = none
  alone : world.raceArmed = false

/-- An unending run from such a world; every finite one is the beginning of one. -/
structure Run (reconcilers : List WorldReconciler) (text : String) (cluster : Cluster) where
  world : Nat → World
  event : Nat → Event
  starts : Starts text cluster (world 0)
  steps : ∀ moment,
    Step reconcilers text cluster (world moment) (event moment) (world (moment + 1))

/-- What the interpreter makes of a world when an event happens; no answer is lost. -/
def happen (reconcilers : List WorldReconciler) (text : String) (cluster : Cluster) :
    Event → World → World
  | .pass, world => (World.perform (sync reconcilers text) world).2
  | .refresh, world => world.refresh (workloadKey cluster)
  | .rollOut, world => world.rollOut (workloadKey cluster) none
  | .losePods, world => losePods world (workloadKey cluster)

theorem step_happen (reconcilers : List WorldReconciler) (text : String) (cluster : Cluster)
    (event : Event) (world : World) :
    Step reconcilers text cluster world event (happen reconcilers text cluster event world) := by
  cases event with
  | pass =>
      rcases exists_connects (reported_answer .lossy) (sync reconcilers text).run world with
        ⟨moments, ends, connects⟩
      exact .pass ends connects
  | refresh => exact .refresh world
  | rollOut => exact .rollOut world
  | losePods => exact .losePods world

/-- Any sequence of events is that of a run. -/
def Run.ofEvents {text : String} {cluster : Cluster} {first : World}
    (reconcilers : List WorldReconciler) (starts : Starts text cluster first)
    (events : Nat → Event) : Run reconcilers text cluster where
  world := stateAfter (happen reconcilers text cluster) first events
  event := events
  starts := starts
  steps _ := step_happen reconcilers text cluster _ _

/-! ## What holds at every moment -/

/-- The stored status of a cluster, the default one if there is none. -/
def storedStatus (cluster : Cluster) (world : World) : ClusterStatus :=
  ((Table.get? world.clusters cluster.resourceKey).bind Cluster.status).getD {}

/-- The workload that the cache shows, as far as it has been rolled out. -/
def Shows (cluster : Cluster) (world : World) (workload : StatefulSet)
    (stamp : StatefulSetStatus) : Prop :=
  Table.get? world.statefulSets (workloadKey cluster) = some workload ∧
    workload.status = some stamp

/-- The cached workload has no other status than that of a rollout of an applied workload. -/
def Traced (origin : AppliedWorkload → Prop) (cluster : Cluster) (world : World) : Prop :=
  ∀ workload stamp, Shows cluster world workload stamp →
    ∃ earlier held, origin earlier ∧ Stamped earlier stamp ∧
      Table.get? world.applied (workloadKey cluster) = some held ∧
      Traces cluster (storedStatus cluster world) earlier held

/--
What holds of the world at every moment; `origin` are the workloads that were
applied when a rollout happened.
-/
structure Holds (origin : AppliedWorkload → Prop) (cluster : Cluster) (world : World) : Prop where
  stored : ∃ version status,
    Table.get? world.clusters cluster.resourceKey = some (cluster.revised version status)
  wellFormed : (storedStatus cluster world).WellFormed
  fits : Fits cluster (storedStatus cluster world)
    (Table.get? world.applied (workloadKey cluster))
  traced : Traced origin cluster world
  unseen : Table.get? world.applied (workloadKey cluster) = none →
    Table.get? world.statefulSets (workloadKey cluster) = none
  /-- What was written once has a version. -/
  versioned : (storedStatus cluster world).phase ≠ .fresh → ∃ version status,
    Table.get? world.clusters cluster.resourceKey =
      some (cluster.revised (some version) status)
  thawed : world.frozen = none
  alone : world.raceArmed = false

section Preservation

variable {origin : AppliedWorkload → Prop} {reconcilers : List WorldReconciler} {text : String}
  {cluster : Cluster} {world before after : World}

theorem Starts.status_eq (starts : Starts text cluster world) :
    storedStatus cluster world = {} := by
  rw [storedStatus, starts.stored]
  exact starts.fresh

theorem Starts.holds (starts : Starts text cluster world) : Holds origin cluster world := by
  have status := starts.status_eq
  refine ⟨⟨cluster.metadata.resourceVersion, cluster.status, starts.stored⟩, ?_, ?_, ?_, ?_, ?_,
    starts.thawed, starts.alone⟩
  · rw [status]
    exact ClusterStatus.wellFormed_default
  · rw [status, starts.unapplied]
    exact .early (Or.inl rfl) (by simp)
  · rintro workload stamp ⟨shown, _⟩
    rw [starts.unseen] at shown
    simp at shown
  · intro _
    exact starts.unseen
  · rw [status]
    exact fun written => absurd rfl written

theorem Holds.mono {wider : AppliedWorkload → Prop} (holds : Holds origin cluster world)
    (widen : ∀ applied, origin applied → wider applied) : Holds wider cluster world where
  stored := holds.stored
  wellFormed := holds.wellFormed
  fits := holds.fits
  traced workload stamp shows := by
    rcases holds.traced workload stamp shows with ⟨earlier, held, from_origin, rest⟩
    exact ⟨earlier, held, widen earlier from_origin, rest⟩
  unseen := holds.unseen
  versioned := holds.versioned
  thawed := holds.thawed
  alone := holds.alone

theorem Holds.recached {statefulSets : Table ResourceKey StatefulSet}
    (holds : Holds origin cluster world)
    (traced : Traced origin cluster { world with statefulSets })
    (unseen : Table.get? world.applied (workloadKey cluster) = none →
      Table.get? statefulSets (workloadKey cluster) = none) :
    Holds origin cluster { world with statefulSets } where
  stored := holds.stored
  wellFormed := holds.wellFormed
  fits := holds.fits
  traced := traced
  unseen := unseen
  versioned := holds.versioned
  thawed := holds.thawed
  alone := holds.alone

/-- A refresh keeps the status that the cache shows. -/
theorem Holds.refresh (holds : Holds origin cluster world) :
    Holds origin cluster (world.refresh (workloadKey cluster)) := by
  unfold World.refresh
  cases applied : Table.get? world.applied (workloadKey cluster) with
  | none => exact holds
  | some held =>
      refine holds.recached ?_ ?_
      · rintro workload stamp ⟨shown, status⟩
        rw [Table.get?_insert_self] at shown
        obtain rfl := Option.some.inj shown
        rcases Option.bind_eq_some_iff.mp status with ⟨old, present, status⟩
        exact holds.traced old stamp ⟨present, status⟩
      · intro unapplied
        rw [applied] at unapplied
        simp at unapplied

theorem refresh_applied (world : World) (key : ResourceKey) :
    (world.refresh key).applied = world.applied := by
  unfold World.refresh
  split <;> rfl

theorem refresh_clusters (world : World) (key : ResourceKey) :
    (world.refresh key).clusters = world.clusters := by
  unfold World.refresh
  split <;> rfl

theorem refresh_frozen (world : World) (key : ResourceKey) :
    (world.refresh key).frozen = world.frozen := by
  unfold World.refresh
  split <;> rfl

theorem refresh_raceArmed (world : World) (key : ResourceKey) :
    (world.refresh key).raceArmed = world.raceArmed := by
  unfold World.refresh
  split <;> rfl

theorem storedStatus_refresh (cluster : Cluster) (world : World) (key : ResourceKey) :
    storedStatus cluster (world.refresh key) = storedStatus cluster world := by
  rw [storedStatus, refresh_clusters, storedStatus]

theorem storedStatus_rollOut (cluster : Cluster) (world : World) (key : ResourceKey) :
    storedStatus cluster (world.rollOut key none) = storedStatus cluster world :=
  storedStatus_refresh cluster world key

theorem get?_refresh {key : ResourceKey} {held : AppliedWorkload}
    (applied : Table.get? world.applied key = some held) :
    Table.get? (world.refresh key).statefulSets key =
      some (held.visible ((Table.get? world.statefulSets key).bind StatefulSet.status)) := by
  simp only [World.refresh, applied, Table.get?_insert_self]

/-- A rollout shows the workload that is applied, with a status of its own. -/
theorem Holds.rollOut (holds : Holds origin cluster world)
    (rolls : ∀ held, Table.get? world.applied (workloadKey cluster) = some held → origin held) :
    Holds origin cluster (world.rollOut (workloadKey cluster) none) := by
  have refreshed := holds.refresh
  refine Holds.recached refreshed ?_ ?_
  · rintro workload stamp ⟨shown, status⟩
    rw [Table.get?_modify, if_pos rfl] at shown
    rcases Option.map_eq_some_iff.mp shown with ⟨cached, present, rfl⟩
    cases applied : Table.get? world.applied (workloadKey cluster) with
    -- Without an applied workload there is none in the cache whose status could change.
    | none =>
        have nothing := refreshed.unseen (by rw [refresh_applied, applied])
        rw [nothing] at present
        simp at present
    | some held =>
        rw [get?_refresh applied] at present
        obtain rfl := Option.some.inj present
        refine ⟨held, held, rolls held applied, Or.inl (Option.some.inj status).symm, ?_,
          Traces.refl cluster _ held⟩
        show Table.get? (world.refresh (workloadKey cluster)).applied (workloadKey cluster) =
          some held
        rw [refresh_applied, applied]
  · intro unapplied
    rw [Table.get?_modify, if_pos rfl, refreshed.unseen unapplied]
    rfl

theorem Holds.losePods (holds : Holds origin cluster world) :
    Holds origin cluster (losePods world (workloadKey cluster)) := by
  refine holds.recached ?_ ?_
  · rintro workload stamp ⟨shown, status⟩
    rw [Table.get?_modify, if_pos rfl] at shown
    rcases Option.map_eq_some_iff.mp shown with ⟨old, present, rfl⟩
    rcases Option.map_eq_some_iff.mp status with ⟨full, shows, rfl⟩
    rcases holds.traced old full ⟨present, shows⟩ with
      ⟨earlier, held, from_origin, stamped, traces⟩
    refine ⟨earlier, held, from_origin, Or.inr ?_, traces⟩
    rcases stamped with rfl | rfl
    · rfl
    · rfl
  · intro unapplied
    rw [Table.get?_modify, if_pos rfl, holds.unseen unapplied]
    rfl

/-- The specification that the builder generates for the stored status. -/
def generated (cluster : Cluster) (world : World) : WorkloadSpec :=
  (cluster.restated (some (storedStatus cluster world))).workloadSpec

theorem generated_of_undesignated
    (undesignated : (storedStatus cluster world).bootstrapFrom = none) :
    generated cluster world = cluster.formationSpec (storedStatus cluster world).phase :=
  cluster.workloadSpec_revised cluster.metadata.resourceVersion undesignated

/--
What a pass does to such a world: the stored status takes a row of the table, by
what the cache shows, and the workload of the status that is stored then is
applied or not.  A pass that has lost the answer to its write applies that of the
status before.
-/
structure Passed (channel : Channel) (cluster : Cluster) (before after : World)
    (observed : Observed) (transition : Transition) : Prop where
  saw : Saw before cluster observed
  moves : ClusterStatus.Moves cluster.spec observed (storedStatus cluster before) transition
  stored : ∃ version status,
    Table.get? after.clusters cluster.resourceKey = some (cluster.revised version status)
  status : storedStatus cluster after = transition.status
  written : Table.get? after.clusters cluster.resourceKey =
      Table.get? before.clusters cluster.resourceKey ∨
    ∃ version status, Table.get? after.clusters cluster.resourceKey =
      some (cluster.revised (some version) status)
  statefulSets : after.statefulSets = before.statefulSets
  frozen : after.frozen = before.frozen
  raceArmed : after.raceArmed = before.raceArmed
  applied : ∃ believed, (believed = after ∨ channel = .lossy ∧ believed = before) ∧
    AppliedOnce (generated cluster believed) (Table.get? before.applied (workloadKey cluster))
      (Table.get? after.applied (workloadKey cluster))

theorem storedStatus_of_stored {version : Option String} {status : Option ClusterStatus}
    (stored : Table.get? world.clusters cluster.resourceKey =
      some (cluster.revised version status)) :
    storedStatus cluster world = status.getD {} := by
  rw [storedStatus, stored]
  rfl

/-- The status of a cluster after a pass is that of one row of the table. -/
theorem persists_moves {version : Option String} {status : Option ClusterStatus} {written : Cluster}
    (persists : Persists before (cluster.revised version status) written) :
    ∃ observed transition newVersion newStatus, Saw before cluster observed ∧
      ClusterStatus.Moves cluster.spec observed (status.getD {}) transition ∧
      written = cluster.revised newVersion newStatus ∧
      newStatus.getD {} = transition.status ∧
      (newVersion = version ∧ newStatus = status ∨ ∃ fresh, newVersion = some fresh) := by
  cases persists with
  | keeps =>
      refine ⟨{}, .wait (status.getD {}) .workloadNotObserved, version, status, ?_, .waits _,
        rfl, rfl, Or.inl ⟨rfl, rfl⟩⟩
      intro view seen
      simp at seen
  | @takes observed saw newVersion =>
      exact ⟨observed, (status.getD {}).next cluster.spec observed, some newVersion,
        some ((status.getD {}).next cluster.spec observed).status, saw,
        ClusterStatus.next_moves _ _ _, rfl, rfl, Or.inr ⟨newVersion, rfl⟩⟩

/-- A pass applies nothing but what is generated for the status before or after it. -/
theorem passed_of_stored {channel : Channel} {moments : List (Moment WorldReconciler World)}
    {result : Except SyncError SyncOutcome} {version : Option String}
    {status : Option ClusterStatus}
    (stored : Table.get? before.clusters cluster.resourceKey =
      some (cluster.revised version status))
    (thawed : before.frozen = none) (alone : before.raceArmed = false)
    (parsed : ResourceKey.parse? text = some cluster.resourceKey)
    (ends : (sync reconcilers text).Ends moments result)
    (connects : Connects channel before moments after) :
    ∃ observed transition, Passed channel cluster before after observed transition := by
  have parsedRevised :
    ResourceKey.parse? text = some (cluster.revised version status).resourceKey := parsed
  rcases sync_effect parsedRevised connects (syncHistory_of_ends ends) thawed alone stored with
    ⟨written, target, effect⟩
  rcases persists_moves effect.persists with
    ⟨observed, transition, newVersion, newStatus, saw, moves, rfl, result_eq, versions⟩
  have status_eq : storedStatus cluster after = transition.status :=
    (storedStatus_of_stored effect.stored).trans result_eq
  have target_eq : target = cluster.revised version target.status := effect.target_eq
  have own {world : World}
      (same : target.status.getD {} = storedStatus cluster world) :
      target.workload.spec = generated cluster world := by
    rw [target_eq]
    apply (cluster.workloadSpec_restated_eq_iff target.status
      (some (storedStatus cluster world))).mpr
    rw [same]
    exact ⟨⟨Iff.rfl, rfl⟩, rfl⟩
  have once := effect.applied
  rw [target_eq] at once
  refine ⟨observed, transition, ?_⟩
  exact
    { saw
      moves := by
        rw [storedStatus_of_stored stored]
        exact moves
      stored := ⟨newVersion, newStatus, effect.stored⟩
      status := status_eq
      written := by
        rcases versions with ⟨rfl, rfl⟩ | ⟨fresh, rfl⟩
        · exact Or.inl (effect.stored.trans stored.symm)
        · exact Or.inr ⟨fresh, newStatus, effect.stored⟩
      statefulSets := effect.statefulSets
      frozen := effect.frozen
      raceArmed := effect.raceArmed
      applied := by
        rcases effect.target_status with same | ⟨lossy, same⟩
        · refine ⟨after, Or.inl rfl, ?_⟩
          rw [← own (same.trans (storedStatus_of_stored effect.stored).symm), target_eq]
          exact once
        · refine ⟨before, Or.inr ⟨lossy, rfl⟩, ?_⟩
          rw [← own (same.trans (storedStatus_of_stored stored).symm), target_eq]
          exact once }

/-- When no answer is lost, a pass applies what is generated for the status that it leaves. -/
theorem Passed.applied_of_reliable {observed : Observed} {transition : Transition}
    (passed : Passed .reliable cluster before after observed transition) :
    AppliedOnce (generated cluster after) (Table.get? before.applied (workloadKey cluster))
      (Table.get? after.applied (workloadKey cluster)) := by
  rcases passed.applied with ⟨believed, rfl | ⟨impossible, _⟩, once⟩
  · exact once
  · cases impossible

theorem Holds.passed {channel : Channel} {moments : List (Moment WorldReconciler World)}
    {result : Except SyncError SyncOutcome} (holds : Holds origin cluster before)
    (parsed : ResourceKey.parse? text = some cluster.resourceKey)
    (ends : (sync reconcilers text).Ends moments result)
    (connects : Connects channel before moments after) :
    ∃ observed transition, Passed channel cluster before after observed transition := by
  rcases holds.stored with ⟨version, status, stored⟩
  exact passed_of_stored stored holds.thawed holds.alone parsed ends connects

/-! ## Steps that complete -/

/-- A workload with ready nodes has the status of a rollout that happened before. -/
theorem Holds.exists_stamped {observed : Observed} {view : WorkloadView}
    (holds : Holds origin cluster world) (saw : Saw world cluster observed)
    (seen : observed.workload = some view)
    (clear : Bootstrap.obstacle? cluster.spec (storedStatus cluster world) view = none) :
    ∃ workload stamp earlier held,
      Table.get? world.statefulSets (workloadKey cluster) = some workload ∧
      view = WorkloadView.ofStatefulSet workload ∧ workload.status = some stamp ∧
      origin earlier ∧ Stamped earlier stamp ∧
      Table.get? world.applied (workloadKey cluster) = some held ∧
      Traces cluster (storedStatus cluster world) earlier held := by
  rcases saw view seen with ⟨workload, shown, rfl⟩
  cases status : workload.status with
  | none =>
      rcases Bootstrap.obstacle?_eq_none_iff.mp clear with ⟨_, _, _, ready, _⟩
      have none : (WorkloadView.ofStatefulSet workload).ready = 0 := by
        simp [WorkloadView.ofStatefulSet, status]
      rw [none] at ready
      exact absurd ready (Bootstrap.not_nodes_le_zero _)
  | some stamp =>
      rcases holds.traced workload stamp ⟨shown, status⟩ with
        ⟨earlier, held, from_origin, stamped, applied, traces⟩
      exact ⟨workload, stamp, earlier, held, shown, rfl, status, from_origin, stamped, applied,
        traces⟩

/-- A step that completes is judged by a rollout of its own specification. -/
theorem Holds.judged {observed : Observed} {view : WorkloadView}
    (holds : Holds origin cluster world) (saw : Saw world cluster observed)
    (seen : observed.workload = some view)
    (bootstrapping : (storedStatus cluster world).phase.isBootstrapping = true)
    (clear : Bootstrap.obstacle? cluster.spec (storedStatus cluster world) view = none) :
    ∃ workload earlier held,
      Table.get? world.statefulSets (workloadKey cluster) = some workload ∧
      view = WorkloadView.ofStatefulSet workload ∧
      workload.status = some (rolledOut (earlier.visible none) none) ∧
      origin earlier ∧
      earlier.spec = cluster.formationSpec (storedStatus cluster world).phase ∧
      Table.get? world.applied (workloadKey cluster) = some held ∧
      earlier.generation = held.generation ∧
      held.generation ≤ number (storedStatus cluster world).phase + 1 := by
  rcases holds.exists_stamped saw seen clear with
    ⟨workload, stamp, earlier, held, shown, rfl, status, from_origin, stamped, applied, traces⟩
  have fits := holds.fits
  rw [applied] at fits
  rcases own_rollout fits traces stamped status bootstrapping clear with
    ⟨full, spec, generation, few⟩
  exact ⟨workload, earlier, held, shown, rfl, by rw [status, full], from_origin, spec, applied,
    generation, few⟩

/-- When a step completes, what is applied is the specification that it was judged by. -/
theorem Holds.applied_of_clear {observed : Observed} {view : WorkloadView}
    (holds : Holds origin cluster world) (saw : Saw world cluster observed)
    (seen : observed.workload = some view)
    (bootstrapping : (storedStatus cluster world).phase.isBootstrapping = true)
    (clear : Bootstrap.obstacle? cluster.spec (storedStatus cluster world) view = none) :
    ∃ held, Table.get? world.applied (workloadKey cluster) = some held ∧
      view.observedGeneration = Int64.ofNat held.generation ∧
      held.generation ≤ number (storedStatus cluster world).phase + 1 ∧
      held.spec = cluster.formationSpec (storedStatus cluster world).phase := by
  rcases holds.exists_stamped saw seen clear with
    ⟨workload, stamp, earlier, held, _, rfl, status, _, stamped, applied, traces⟩
  have fits := holds.fits
  rw [applied] at fits
  rcases own_rollout fits traces stamped status bootstrapping clear with
    ⟨full, spec, generation, few⟩
  refine ⟨held, applied, ?_, few, (traces.unique generation).symm.trans spec⟩
  rw [(ready_of_stamped (status.trans (congrArg some full))).2, generation]

/-! ## The two halves of a pass -/

theorem Holds.of_alike (holds : Holds origin cluster before) (alike : Alike before after) :
    Holds origin cluster after := by
  have status : storedStatus cluster after = storedStatus cluster before := by
    rw [storedStatus, alike.clusters, storedStatus]
  exact
    { stored := by
        rw [alike.clusters]
        exact holds.stored
      wellFormed := by
        rw [status]
        exact holds.wellFormed
      fits := by
        rw [status, alike.applied]
        exact holds.fits
      traced := by
        rintro workload stamp ⟨shown, shows⟩
        rw [alike.statefulSets] at shown
        rw [status, alike.applied]
        exact holds.traced workload stamp ⟨shown, shows⟩
      unseen := by
        rw [alike.applied, alike.statefulSets]
        exact holds.unseen
      versioned := by
        rw [status, alike.clusters]
        exact holds.versioned
      thawed := alike.frozen.trans holds.thawed
      alone := alike.raceArmed.trans holds.alone }

/-- The stored status takes its row of the table, whatever is applied meanwhile. -/
theorem Holds.moves {channel : Channel} {observed : Observed} {transition : Transition}
    {applied : Table ResourceKey AppliedWorkload}
    (holds : Holds origin cluster { before with applied })
    (passed : Passed channel cluster before after observed transition) :
    Holds origin cluster { before with clusters := after.clusters, applied } := by
  have status : storedStatus cluster { before with clusters := after.clusters, applied } =
    transition.status := passed.status
  refine ⟨passed.stored, ?_, ?_, ?_, holds.unseen, ?_, holds.thawed, holds.alone⟩
  · rw [status]
    exact holds.wellFormed.moves passed.moves
  · rw [status]
    exact holds.fits.moves passed.moves fun view seen bootstrapping clear =>
      holds.applied_of_clear passed.saw seen bootstrapping clear
  · intro workload stamp shows
    rcases holds.traced workload stamp shows with
      ⟨earlier, held, from_origin, stamped, present, traces⟩
    rw [status]
    exact ⟨earlier, held, from_origin, stamped, present, traces.moves passed.moves⟩
  · intro written
    rcases passed.written with same | versioned
    · have unchanged : storedStatus cluster after = storedStatus cluster before := by
        rw [storedStatus, same, storedStatus]
      have earlier : (storedStatus cluster before).phase ≠ .fresh := by
        rw [← unchanged]
        exact written
      rw [same]
      exact holds.versioned earlier
    · exact versioned

/-- The workload of the stored status is applied. -/
theorem Holds.applies {applied : Table ResourceKey AppliedWorkload}
    (holds : Holds origin cluster world)
    (once : AppliedOnce (generated cluster world) (Table.get? world.applied (workloadKey cluster))
      (Table.get? applied (workloadKey cluster))) :
    Holds origin cluster { world with applied } := by
  have own : (storedStatus cluster world).phase ≠ .operational →
      (storedStatus cluster world).phase ≠ .recovery →
      generated cluster world = cluster.formationSpec (storedStatus cluster world).phase :=
    fun operating recovering =>
      generated_of_undesignated (holds.wellFormed.forming operating recovering).2
  refine ⟨holds.stored, holds.wellFormed, holds.fits.applies own once, ?_, ?_, holds.versioned,
    holds.thawed, holds.alone⟩
  · intro workload stamp shows
    rcases holds.traced workload stamp shows with
      ⟨earlier, held, from_origin, stamped, present, traces⟩
    have fits := holds.fits
    rw [present] at fits once
    rcases once with same | ⟨now, shown, becomes⟩
    · exact ⟨earlier, held, from_origin, stamped, same, traces⟩
    · exact ⟨earlier, now, from_origin, stamped, shown, traces.applies fits own becomes⟩
  · intro unapplied
    rcases once with same | ⟨now, shown, _⟩
    · exact holds.unseen (same.symm.trans unapplied)
    · exact absurd (shown.symm.trans unapplied) (by simp)

theorem Holds.pass {channel : Channel} {observed : Observed} {transition : Transition}
    (holds : Holds origin cluster before)
    (passed : Passed channel cluster before after observed transition) :
    Holds origin cluster after := by
  have reached : Alike { before with clusters := after.clusters, applied := after.applied }
    after := ⟨rfl, passed.statefulSets, rfl, passed.frozen, passed.raceArmed⟩
  refine Holds.of_alike ?_ reached
  rcases passed.applied with ⟨believed, same | ⟨_, same⟩, once⟩
  · rw [same] at once
    have moved : Holds origin cluster { before with clusters := after.clusters } :=
      Holds.moves holds passed
    exact moved.applies once
  -- Without the answer to its write, the pass applies as if the status had not moved yet.
  · rw [same] at once
    exact (holds.applies once).moves passed

/-- Every event keeps what holds, and only a rollout adds to the origins. -/
theorem Step.holds {event : Event} (step : Step reconcilers text cluster before event after)
    (parsed : ResourceKey.parse? text = some cluster.resourceKey)
    (holds : Holds origin cluster before)
    (rolls : event = .rollOut → ∀ held,
      Table.get? before.applied (workloadKey cluster) = some held → origin held) :
    Holds origin cluster after := by
  cases step with
  | pass ends connects =>
      rcases holds.passed parsed ends connects with ⟨_, _, passed⟩
      exact holds.pass passed
  | refresh => exact holds.refresh
  | rollOut => exact holds.rollOut (rolls rfl)
  | losePods => exact holds.losePods

/-- Only passes change the stored status. -/
theorem Step.passed {event : Event} (step : Step reconcilers text cluster before event after)
    (parsed : ResourceKey.parse? text = some cluster.resourceKey)
    (holds : Holds origin cluster before)
    (changed : storedStatus cluster after ≠ storedStatus cluster before) :
    event = .pass ∧
      ∃ observed transition, Passed .lossy cluster before after observed transition := by
  cases step with
  | pass ends connects => exact ⟨rfl, holds.passed parsed ends connects⟩
  | refresh => exact absurd (storedStatus_refresh cluster before _) changed
  | rollOut => exact absurd (storedStatus_rollOut cluster before _) changed
  | losePods => exact absurd rfl changed

theorem successor_ne {phase : Phase} (bootstrapping : phase.isBootstrapping = true) :
    phase.successor ≠ phase := by
  cases phase <;> simp_all [Phase.successor, Phase.isBootstrapping]

/-- A phase moves on from a bootstrap step only when the step completes. -/
theorem step_of_successor {spec : ClusterSpec} {status : ClusterStatus} {observed : Observed}
    {transition : Transition} (bootstrapping : status.phase.isBootstrapping = true)
    (moves : ClusterStatus.Moves spec observed status transition)
    (moved : transition.status.phase = status.phase.successor) :
    ∃ view, observed.workload = some view ∧
      Bootstrap.obstacle? spec status view = none ∧
      transition = Bootstrap.step spec status (some view) := by
  refine moves.completes bootstrapping ?_
  rw [moved]
  exact successor_ne bootstrapping

end Preservation

namespace Run

variable {reconcilers : List WorldReconciler} {text : String} {cluster : Cluster}

/-- Before a moment a rollout happened while this was the applied workload. -/
def RolledOut (run : Run reconcilers text cluster) (moment : Nat) (applied : AppliedWorkload) :
    Prop :=
  ∃ earlier < moment, run.event earlier = .rollOut ∧
    Table.get? (run.world earlier).applied (workloadKey cluster) = some applied

theorem holds (run : Run reconcilers text cluster) (moment : Nat) :
    Holds (run.RolledOut moment) cluster (run.world moment) := by
  induction moment with
  | zero => exact run.starts.holds
  | succ moment ih =>
      refine (run.steps moment).holds run.starts.parsed (ih.mono ?_) ?_
      · rintro applied ⟨earlier, before, rolls, held⟩
        exact ⟨earlier, Nat.lt_succ_of_lt before, rolls, held⟩
      · intro rolls applied held
        exact ⟨moment, Nat.lt_succ_self moment, rolls, held⟩

/--
The pass at a moment judged the cached workload, whose status stems from an
earlier rollout of what was applied then.  This has the specification that the
builder generates for the stored cluster, and with it the pass recorded the
generation and found all replicas of the phase ready.
-/
structure Judges (run : Run reconcilers text cluster) (moment : Nat) (stored : Cluster)
    (workload : StatefulSet) (applied : AppliedWorkload) : Prop where
  passes : run.event moment = .pass
  present : Table.get? (run.world moment).clusters cluster.resourceKey = some stored
  shown : Table.get? (run.world moment).statefulSets (workloadKey cluster) = some workload
  judged : storedStatus cluster (run.world (moment + 1)) =
    (Bootstrap.step cluster.spec (storedStatus cluster (run.world moment))
      (some (WorkloadView.ofStatefulSet workload))).status
  earlier : run.RolledOut moment applied
  status : workload.status = some (rolledOut (applied.visible none) none)
  own : applied.spec = stored.workload.spec
  recorded : (storedStatus cluster (run.world (moment + 1))).recordedGeneration.toInt =
    applied.generation
  ready : (WorkloadView.ofStatefulSet workload).ready =
    (storedStatus cluster (run.world moment)).phase.replicas cluster.spec.replicas

/-- Whenever the phase moves on from a bootstrap step, this step was judged on its own rollout. -/
theorem step_judged_by_own_rollout (run : Run reconcilers text cluster) (moment : Nat)
    (bootstrapping : (storedStatus cluster (run.world moment)).phase.isBootstrapping = true)
    (moved : (storedStatus cluster (run.world (moment + 1))).phase =
      (storedStatus cluster (run.world moment)).phase.successor) :
    ∃ stored workload applied, run.Judges moment stored workload applied := by
  have holds := run.holds moment
  have changed : storedStatus cluster (run.world (moment + 1)) ≠
      storedStatus cluster (run.world moment) := by
    intro same
    rw [same] at moved
    exact absurd moved.symm (successor_ne bootstrapping)
  rcases (run.steps moment).passed run.starts.parsed holds changed with
    ⟨event, observed, transition, passed⟩
  have status := passed.status
  rw [status] at moved
  rcases step_of_successor bootstrapping passed.moves moved with ⟨view, seen, clear, rfl⟩
  rcases holds.judged passed.saw seen bootstrapping clear with
    ⟨workload, applied, held, shown, rfl, stamped, rolls, spec_eq, _, generation, few⟩
  rcases holds.stored with ⟨version, stored_status, present⟩
  refine ⟨_, workload, applied, event, present, shown, status, rolls, stamped, ?_, ?_, ?_⟩
  · have forming := holds.wellFormed.forming_of_bootstrapping bootstrapping
    rw [storedStatus_of_stored present] at spec_eq forming
    rw [spec_eq]
    exact (Cluster.workloadSpec_revised cluster version forming.2).symm
  · have bound := number_le (storedStatus cluster (run.world moment)).phase
    rw [status]
    simp only [Bootstrap.step, clear, Transition.advance]
    rw [(ready_of_stamped stamped).2, Int64.toInt_ofNat_of_lt (by omega)]
  · rw [(ready_of_stamped stamped).1, spec_eq, Cluster.formationSpec_replicas]

end Run

/-! ## The first node of a new cluster -/

section FirstNode

/-- A new cluster of three replicas. -/
def newCluster : Cluster where
  metadata := { name := some "db", namespaceName := some "ns", resourceVersion := some "1" }
  spec := { replicas := 3 }

theorem starts_newCluster : Starts "ns/db" newCluster (({} : World).putCluster newCluster) :=
  ⟨rfl, rfl, rfl, rfl, rfl, rfl, rfl⟩

/--
The empty workload is rolled out before the one of the first node, which loses
its pod once, so that the last pass is the first one to find it ready.
-/
def firstNode : Nat → Event
  | 0 | 2 | 4 | 7 | 9 => .pass
  | 1 | 5 | 8 => .rollOut
  | 6 => .losePods
  | _ => .refresh

theorem firstNode_judged_by_own_rollout :
    let run := Run.ofEvents [⟨"StatefulSet", true⟩] starts_newCluster firstNode
    (storedStatus newCluster (run.world 9)).phase.isBootstrapping = true ∧
      (storedStatus newCluster (run.world 10)).phase =
        (storedStatus newCluster (run.world 9)).phase.successor ∧
      ∃ stored workload applied, run.Judges 9 stored workload applied := by
  intro run
  have bootstrapping : (storedStatus newCluster (run.world 9)).phase.isBootstrapping = true := by
    decide +kernel
  have moved : (storedStatus newCluster (run.world 10)).phase =
      (storedStatus newCluster (run.world 9)).phase.successor := by
    decide +kernel
  exact ⟨bootstrapping, moved, run.step_judged_by_own_rollout 9 bootstrapping moved⟩

/--
The second pass may instead lose the answer to its write.  Then the first step is
stored, while the empty workload stays applied.
-/
theorem firstNode_loses_answer :
    let run := Run.ofEvents [⟨"StatefulSet", true⟩] starts_newCluster firstNode
    ∃ after, Step [⟨"StatefulSet", true⟩] "ns/db" newCluster (run.world 2) .pass after ∧
      (storedStatus newCluster after).phase = .bootstrapFirst ∧
      (Table.get? after.applied (workloadKey newCluster)).map AppliedWorkload.spec =
        some (newCluster.formationSpec .preFlight) := by
  intro run
  let lost : SyncError := .internal "apply" "timed out"
  rcases exists_connects (reported_answerLosing lost)
    (sync [⟨"StatefulSet", true⟩] "ns/db").run (run.world 2) with ⟨moments, ends, connects⟩
  exact ⟨_, .pass ends connects, by decide +kernel⟩

end FirstNode

end Rollout

end GaleraControl
