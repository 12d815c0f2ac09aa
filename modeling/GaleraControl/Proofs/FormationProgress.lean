import GaleraControl.Proofs.CalmPass
import GaleraControl.Proofs.Rollout

/-!
# The progress of a formation

When nothing fails, a new cluster of three replicas or more is formed step by
step: after a pass that leaves it in a bootstrap phase, the workload of that phase
is applied, a rollout brings up as many nodes as the step is about, and the next
pass moves on.  The generation of the workload changes with every step, because
the specification does.
-/

namespace GaleraControl

namespace Bootstrap

theorem min_eq_of_lt {first second : Int32} (less : second < first) :
    min first second = second := by
  show (if first ≤ second then first else second) = second
  rw [if_neg (Int32.not_le.mpr less)]

theorem lt_replicas {count requested : Int32} (few : count < 3) (three : 3 ≤ requested) :
    count < requested := by
  rw [Int32.lt_iff_toInt_lt] at few ⊢
  rw [Int32.le_iff_toInt_le] at three
  omega

theorem replicasBelow_lt (phase : Phase) : replicasBelow phase < 3 := by
  cases phase <;> decide

/-- A step waits for as many nodes as its workload has. -/
theorem replicas_eq_nodes {phase : Phase} {requested : Int32} (three : 3 ≤ requested)
    (bootstrapping : phase.isBootstrapping = true) : phase.replicas requested = nodes phase := by
  have second : min requested 2 = 2 := min_eq_of_lt (lt_replicas (by decide) three)
  have third : min requested 3 = 3 := by
    rcases Int32.lt_or_eq_of_le three with more | rfl
    · exact min_eq_of_lt more
    · rfl
  cases phase with
  | bootstrapSecond => exact second
  | bootstrapThird => exact third
  | bootstrapFirst | bootstrapFirstRestart => rfl
  | _ => simp [Phase.isBootstrapping] at bootstrapping

end Bootstrap

namespace Cluster

/-- Every bootstrap step changes the specification of the workload. -/
theorem workloadSpec_ne_of_successor {cluster : Cluster} (three : 3 ≤ cluster.spec.replicas)
    {earlier later : ClusterStatus} (next : later.phase = earlier.phase.successor)
    (bootstrapping : later.phase.isBootstrapping = true) (first second : Option String) :
    (cluster.revised first (some earlier)).workloadSpec ≠
      (cluster.revised second (some later)).workloadSpec := by
  intro same
  have replicas : earlier.phase.replicas cluster.spec.replicas =
      later.phase.replicas cluster.spec.replicas := congrArg WorkloadSpec.replicas same
  rw [Bootstrap.replicas_eq_nodes three bootstrapping, next] at replicas
  have arguments : (cluster.revised first (some earlier)).serverArguments =
      (cluster.revised second (some later)).serverArguments :=
    congrArg (fun spec => spec.template.container.arguments) same
  have flag := (newCluster_mem_serverArguments (cluster.revised first (some earlier))).symm
  rw [arguments, newCluster_mem_serverArguments] at flag
  have flagged : earlier.phase = .bootstrapFirst ↔ earlier.phase.successor = .bootstrapFirst := by
    rw [← next]
    exact flag
  -- The flag tells the first two steps apart, and the number of nodes the others.
  cases phase : earlier.phase with
  | preFlight =>
      rw [phase] at replicas
      simp [Phase.replicas, Phase.successor, Bootstrap.nodes] at replicas
  | bootstrapFirst => simp [phase, Phase.successor] at flagged
  | bootstrapFirstRestart =>
      rw [phase] at replicas
      simp [Phase.replicas, Phase.successor, Bootstrap.nodes] at replicas
  | bootstrapSecond =>
      rw [phase, Bootstrap.replicas_eq_nodes three rfl] at replicas
      exact absurd replicas (by decide)
  | _ => simp [next, phase, Phase.successor, Phase.isBootstrapping] at bootstrapping

theorem formationSpec_ne {cluster : Cluster} (three : 3 ≤ cluster.spec.replicas)
    {earlier later : Phase} (next : later = earlier.successor)
    (bootstrapping : later.isBootstrapping = true) :
    cluster.formationSpec earlier ≠ cluster.formationSpec later := by
  have apart : (cluster.revised none (some { phase := earlier })).workloadSpec ≠
      (cluster.revised none (some { phase := later })).workloadSpec :=
    workloadSpec_ne_of_successor three next bootstrapping none none
  rwa [workloadSpec_revised cluster none rfl, workloadSpec_revised cluster none rfl] at apart

end Cluster

namespace Rollout

open Pass World Formation

variable {reconcilers : List WorldReconciler} {text : String} {cluster : Cluster}

/-! ## One step -/

/-- A bootstrap step whose workload is applied, and has not been judged yet. -/
structure Prepared (cluster : Cluster) (world : World) (held : AppliedWorkload) : Prop where
  bootstrapping : (storedStatus cluster world).phase.isBootstrapping = true
  applied : Table.get? world.applied (workloadKey cluster) = some held
  own : held.spec = cluster.formationSpec (storedStatus cluster world).phase
  few : held.generation ≤ 5
  newer : (storedStatus cluster world).phase = .bootstrapFirst ∨
    (storedStatus cluster world).recordedGeneration < Int64.ofNat held.generation

/-- When the workload of a step is applied, its generation is newer than the recorded one. -/
theorem Holds.prepared {origin : AppliedWorkload → Prop} {world : World} {held : AppliedWorkload}
    (holds : Holds origin cluster world) (three : 3 ≤ cluster.spec.replicas)
    (bootstrapping : (storedStatus cluster world).phase.isBootstrapping = true)
    (applied : Table.get? world.applied (workloadKey cluster) = some held)
    (own : held.spec = cluster.formationSpec (storedStatus cluster world).phase) :
    Prepared cluster world held := by
  have fits := holds.fits
  rw [applied] at fits
  have bound := number_le (storedStatus cluster world).phase
  cases fits with
  | early phase _ =>
      rcases phase with phase | phase <;> simp [phase, Phase.isBootstrapping] at bootstrapping
  | formed phase =>
      rcases phase with phase | phase <;> simp [phase, Phase.isBootstrapping] at bootstrapping
  | first phase empty_or_first =>
      refine ⟨bootstrapping, applied, own, ?_, Or.inl phase⟩
      rcases empty_or_first held rfl with ⟨one, _⟩ | ⟨two, _⟩ <;> omega
  | @joining _ recorded _ later records few generations =>
      -- The recorded generation belongs to the specification of the step before, which differs.
      rcases generations with ⟨_, before, next, spec⟩ | ⟨next, _⟩
      · exact absurd (spec.symm.trans own) (Cluster.formationSpec_ne three next.symm bootstrapping)
      · refine ⟨bootstrapping, applied, own, by omega, Or.inr ?_⟩
        rw [records, next, Int64.lt_iff_toInt_lt, Int64.toInt_ofNat_of_lt (by omega),
          Int64.toInt_ofNat_of_lt (by omega)]
        omega

/-- What the cache shows of an applied workload once it has been rolled out. -/
theorem shown_rollOut {world : World} {held : AppliedWorkload}
    (applied : Table.get? world.applied (workloadKey cluster) = some held) :
    ∃ view,
      (shownTo cluster (world.rollOut (workloadKey cluster) none)).workload = some view ∧
      view.desired = held.spec.replicas ∧ view.ready = held.spec.replicas ∧
      view.isReady = true ∧ view.observedGeneration = Int64.ofNat held.generation := by
  let seen : StatefulSet := held.visible
    ((Table.get? world.statefulSets (workloadKey cluster)).bind StatefulSet.status)
  have shown : Table.get? (world.rollOut (workloadKey cluster) none).statefulSets
      (workloadKey cluster) = some { seen with status := some (rolledOut seen none) } := by
    rw [World.rollOut, Table.get?_modify, if_pos rfl, get?_refresh applied]
    rfl
  refine ⟨_, congrArg (Option.map WorkloadView.ofStatefulSet) shown, rfl, rfl, ?_, rfl⟩
  simp [WorkloadView.isReady, WorkloadView.ofStatefulSet, rolledOut]

/-- A rollout of a prepared step shows all that the step waits for. -/
theorem Prepared.clear {world : World} {held : AppliedWorkload}
    (prepared : Prepared cluster world held) (three : 3 ≤ cluster.spec.replicas) :
    ∃ view,
      (shownTo cluster (world.rollOut (workloadKey cluster) none)).workload = some view ∧
      view.observedGeneration = Int64.ofNat held.generation ∧
      Bootstrap.obstacle? cluster.spec (storedStatus cluster world) view = none := by
  rcases shown_rollOut prepared.applied with ⟨view, shown, desired, ready, isReady, generation⟩
  have nodes : held.spec.replicas = Bootstrap.nodes (storedStatus cluster world).phase := by
    rw [prepared.own, Cluster.formationSpec_replicas]
    exact Bootstrap.replicas_eq_nodes three prepared.bootstrapping
  refine ⟨view, shown, generation, Bootstrap.obstacle?_eq_none_iff.mpr ⟨?_, ?_, ?_, ?_, isReady⟩⟩
  · exact Bootstrap.lt_replicas (Bootstrap.replicasBelow_lt _) three
  · rcases prepared.newer with first | newer
    · exact Or.inl first
    · exact Or.inr (by simpa [WorkloadView.isUpdated, generation] using newer)
  · rw [desired, nodes]
    exact Int32.le_refl _
  · rw [ready, nodes]
    exact Int32.le_refl _

/-! ## Runs in which nothing fails -/

theorem apart_of_bootstrapping {phase : Phase} (bootstrapping : phase.isBootstrapping = true) :
    phase ≠ .fresh ∧ phase ≠ .recovery := by
  cases phase <;> simp_all [Phase.isBootstrapping]

/-- A pass leads to a bootstrap phase neither from a fresh status nor from a recovery. -/
theorem apart_of_moves {spec : ClusterSpec} {status : ClusterStatus} {observed : Observed}
    {transition : Transition} (moves : ClusterStatus.Moves spec observed status transition)
    (bootstrapping : transition.status.phase.isBootstrapping = true) :
    status.phase ≠ .fresh ∧ status.phase ≠ .recovery := by
  cases moves with
  | waits reason => exact apart_of_bootstrapping bootstrapping
  | leavesPreFlight phase => simp [phase]
  | completesStep before seen clear => exact apart_of_bootstrapping before
  | leavesFresh | losesReplicas | reforms => simp [Phase.isBootstrapping] at bootstrapping
  | synchronizes phase => simp [phase, Phase.isBootstrapping] at bootstrapping
  | choosesSource phase => simp [phase, Phase.isBootstrapping] at bootstrapping
  | refusesReports phase => simp [phase, Phase.isBootstrapping] at bootstrapping
  | recoversPrimary phase => simp [phase, Phase.isBootstrapping] at bootstrapping
  | restarts phase => simp [phase, Phase.isBootstrapping] at bootstrapping

theorem next_of_bootstrapping {spec : ClusterSpec} {status : ClusterStatus} {observed : Observed}
    (bootstrapping : status.phase.isBootstrapping = true) :
    status.next spec observed = Bootstrap.step spec status observed.workload := by
  unfold ClusterStatus.next
  split <;> simp_all [Phase.isBootstrapping]

theorem faults_happen {world : World} (faultless : world.faults = []) (event : Event) :
    (happen reconcilers text cluster event world).faults = [] := by
  have refreshed : (world.refresh (workloadKey cluster)).faults = [] := by
    unfold World.refresh
    split <;> exact faultless
  cases event with
  | pass => exact faults_run _ faultless
  | refresh => exact refreshed
  | rollOut => exact refreshed
  | losePods => exact faultless

namespace Run

/-- Nothing fails, so every event has just one outcome. -/
structure Calm (run : Run reconcilers text cluster) : Prop where
  faultless : (run.world 0).faults = []
  happens : ∀ moment, run.world (moment + 1) =
    happen reconcilers text cluster (run.event moment) (run.world moment)

/-- The pass at a moment ends well and leaves the cluster in a phase. -/
structure Completes (run : Run reconcilers text cluster) (moment : Nat) (phase : Phase) :
    Prop where
  passes : run.event moment = .pass
  succeeds : ∃ outcome,
    (World.perform (sync reconcilers text) (run.world moment)).1 = .ok outcome
  leaves : (storedStatus cluster (run.world (moment + 1))).phase = phase

variable {run : Run reconcilers text cluster} {moment : Nat}

theorem Calm.world (calm : run.Calm) (moment : Nat) : World.Calm (run.world moment) where
  faultless := by
    induction moment with
    | zero => exact calm.faultless
    | succ moment ih =>
        rw [calm.happens]
        exact faults_happen ih _
  thawed := (run.holds moment).thawed
  alone := (run.holds moment).alone

/-- A pass over a cluster with a version stores what is due, and applies its workload. -/
theorem Calm.passes (calm : run.Calm) (passes : run.event moment = .pass)
    (applies : ∃ reconciler ∈ reconcilers, reconciler.applies = true)
    (valid : cluster.spec.validate text = .ok ())
    (versioned : ∃ version status,
      Table.get? (run.world moment).clusters cluster.resourceKey =
        some (cluster.revised (some version) status))
    (forming : (storedStatus cluster (run.world moment)).phase ≠ .recovery) :
    (∃ outcome, (World.perform (sync reconcilers text) (run.world moment)).1 = .ok outcome) ∧
      storedStatus cluster (run.world (moment + 1)) =
        ((storedStatus cluster (run.world moment)).next cluster.spec
          (shownTo cluster (run.world moment))).status ∧
      ∃ held, Table.get? (run.world (moment + 1)).applied (workloadKey cluster) = some held ∧
        ((storedStatus cluster (run.world (moment + 1))).bootstrapFrom = none →
          held.spec =
            cluster.formationSpec (storedStatus cluster (run.world (moment + 1))).phase) := by
  rcases versioned with ⟨version, status, stored⟩
  have recorded := storedStatus_of_stored stored
  rw [recorded] at forming
  have parsed : ResourceKey.parse? text =
    some (cluster.revised (some version) status).resourceKey := run.starts.parsed
  have held : (cluster.revised (some version) status).metadata.resourceVersion = some version := rfl
  rcases (calm.world moment).sync parsed stored held valid forming applies with
    ⟨outcome, after, performed, _, _, applied, newVersion, newStatus, shown, result⟩
  have reached : run.world (moment + 1) = after := by
    rw [calm.happens, passes]
    exact congrArg Prod.snd performed
  have next : due (cluster.revised (some version) status) (run.world moment) =
      (storedStatus cluster (run.world moment)).next cluster.spec
        (shownTo cluster (run.world moment)) := by
    rw [recorded]
    rfl
  have becomes : storedStatus cluster after = _ := (storedStatus_of_stored shown).trans result
  rw [reached, becomes, ← next]
  refine ⟨⟨outcome, congrArg Prod.fst performed⟩, rfl, ?_⟩
  rcases applied with ⟨applied, found, spec⟩
  refine ⟨applied, found, fun undesignated => spec.trans ?_⟩
  exact Cluster.workloadSpec_revised cluster (some version) undesignated

theorem Calm.valid (calm : run.Calm) {phase : Phase} (completes : run.Completes moment phase) :
    cluster.spec.validate text = .ok () := by
  rcases completes.succeeds with ⟨outcome, succeeds⟩
  rcases (run.holds moment).stored with ⟨version, status, stored⟩
  have parsed : ResourceKey.parse? text =
    some (cluster.revised version status).resourceKey := run.starts.parsed
  exact @World.Calm.valid_of_sync _ (cluster.revised version status) (calm.world moment) _ _ _
    parsed stored succeeds

/-- A pass that completes in a bootstrap phase has applied the workload of that phase. -/
theorem Calm.prepared (calm : run.Calm) (three : 3 ≤ cluster.spec.replicas)
    (applies : ∃ reconciler ∈ reconcilers, reconciler.applies = true) {phase : Phase}
    (bootstrapping : phase.isBootstrapping = true) (completes : run.Completes moment phase) :
    ∃ held, Prepared cluster (run.world (moment + 1)) held := by
  have later := run.holds (moment + 1)
  have leaves := completes.leaves
  rw [← leaves] at bootstrapping
  have before : (storedStatus cluster (run.world moment)).phase ≠ .fresh ∧
      (storedStatus cluster (run.world moment)).phase ≠ .recovery := by
    have step := run.steps moment
    rw [completes.passes] at step
    cases step with
    | pass ends connects =>
        rcases (run.holds moment).passed run.starts.parsed ends connects with ⟨_, _, passed⟩
        rw [passed.status] at bootstrapping
        exact apart_of_moves passed.moves bootstrapping
  rcases calm.passes completes.passes applies (calm.valid completes)
    ((run.holds moment).versioned before.1) before.2 with
    ⟨_, _, held, applied, own⟩
  exact ⟨held, later.prepared three bootstrapping applied
    (own (later.wellFormed.forming_of_bootstrapping bootstrapping).2)⟩

/-- A rollout and one pass move a completed bootstrap step on. -/
theorem Calm.round (calm : run.Calm) (three : 3 ≤ cluster.spec.replicas)
    (applies : ∃ reconciler ∈ reconcilers, reconciler.applies = true) {phase : Phase}
    (bootstrapping : phase.isBootstrapping = true) (completes : run.Completes moment phase)
    (rolls : run.event (moment + 1) = .rollOut) (passes : run.event (moment + 2) = .pass) :
    run.Completes (moment + 2) phase.successor ∧
      ∃ held, Table.get? (run.world (moment + 1)).applied (workloadKey cluster) = some held ∧
        (storedStatus cluster (run.world (moment + 3))).recordedGeneration.toInt =
          held.generation := by
  rcases calm.prepared three applies bootstrapping completes with ⟨held, prepared⟩
  rcases prepared.clear three with ⟨view, shown, generation, clear⟩
  -- A rollout changes what the cache shows of the workload, and not the status.
  have rolled : run.world (moment + 2) =
      (run.world (moment + 1)).rollOut (workloadKey cluster) none := by
    have next := calm.happens (moment + 1)
    rw [rolls] at next
    exact next
  have status : storedStatus cluster (run.world (moment + 2)) =
      storedStatus cluster (run.world (moment + 1)) := by
    rw [rolled, storedStatus_rollOut]
  have here := completes.leaves
  rw [← here] at bootstrapping
  have shows : (shownTo cluster (run.world (moment + 2))).workload = some view := by
    rw [rolled, shown]
  have moves : ((storedStatus cluster (run.world (moment + 2))).next cluster.spec
      (shownTo cluster (run.world (moment + 2)))).status =
        { storedStatus cluster (run.world (moment + 1)) with
          phase := phase.successor
          recordedGeneration := view.observedGeneration } := by
    rw [status, next_of_bootstrapping bootstrapping, shows]
    simp only [Bootstrap.step, clear, Transition.advance_status, here]
  have apart := apart_of_bootstrapping bootstrapping
  rw [← status] at apart
  rcases calm.passes passes applies (calm.valid completes)
    ((run.holds (moment + 2)).versioned apart.1) apart.2 with ⟨succeeds, result, _⟩
  rw [moves] at result
  refine ⟨⟨passes, succeeds, ?_⟩, held, prepared.applied, ?_⟩
  · rw [result]
  · rw [result, generation]
    exact Int64.toInt_ofNat_of_lt (by have few := prepared.few; omega)

theorem Calm.starts (calm : run.Calm)
    (applies : ∃ reconciler ∈ reconcilers, reconciler.applies = true)
    (valid : cluster.spec.validate text = .ok ())
    (versioned : cluster.metadata.resourceVersion ≠ none)
    (first : run.event 0 = .pass) (second : run.event 1 = .pass) :
    run.Completes 1 .bootstrapFirst := by
  rcases Option.ne_none_iff_exists'.mp versioned with ⟨version, held⟩
  have stored : Table.get? (run.world 0).clusters cluster.resourceKey =
      some (cluster.revised (some version) cluster.status) := by
    rw [run.starts.stored, ← held]
    rfl
  have fresh := run.starts.status_eq
  rcases calm.passes first applies valid ⟨version, _, stored⟩ (by simp [fresh]) with
    ⟨_, checked, _⟩
  rw [fresh] at checked
  have preFlight : (storedStatus cluster (run.world 1)).phase = .preFlight :=
    congrArg ClusterStatus.phase checked
  rcases calm.passes second applies valid ((run.holds 1).versioned (by simp [preFlight]))
    (by simp [preFlight]) with ⟨succeeds, leaves, _⟩
  refine ⟨second, succeeds, ?_⟩
  rw [leaves]
  simp [ClusterStatus.next, preFlight]

/--
Bootstrap does not get stuck.  Two passes over a new cluster lead to the first
step, each step that a pass has left the cluster in is completed by a rollout and
one more pass, which records the generation of the workload that was applied, and
four of these rounds lead to operation.  The workload of a step always differs
from that of the step before, and has as many nodes as the step waits for.
-/
theorem Calm.bootstrap_progresses (calm : run.Calm) (three : 3 ≤ cluster.spec.replicas)
    (applies : ∃ reconciler ∈ reconcilers, reconciler.applies = true) :
    (cluster.spec.validate text = .ok () → cluster.metadata.resourceVersion ≠ none →
      run.event 0 = .pass → run.event 1 = .pass → run.Completes 1 .bootstrapFirst) ∧
    (∀ (moment : Nat) (phase : Phase), phase.isBootstrapping = true →
      run.Completes moment phase →
      run.event (moment + 1) = .rollOut → run.event (moment + 2) = .pass →
      run.Completes (moment + 2) phase.successor ∧
        ∃ held, Table.get? (run.world (moment + 1)).applied (workloadKey cluster) = some held ∧
          (storedStatus cluster (run.world (moment + 3))).recordedGeneration.toInt =
            held.generation) ∧
    (∀ moment : Nat, run.Completes moment .bootstrapFirst →
      (∀ round < 4, run.event (moment + 2 * round + 1) = .rollOut ∧
        run.event (moment + 2 * round + 2) = .pass) →
      run.Completes (moment + 8) .operational) ∧
    (∀ (earlier later : ClusterStatus) (first second : Option String),
      later.phase = earlier.phase.successor → later.phase.isBootstrapping = true →
      (cluster.revised first (some earlier)).workload.spec ≠
        (cluster.revised second (some later)).workload.spec) ∧
    ∀ phase : Phase, phase.isBootstrapping = true →
      Bootstrap.nodes phase ≤ phase.replicas cluster.spec.replicas := by
  refine ⟨calm.starts applies, ?_, ?_, ?_, ?_⟩
  · intro moment phase bootstrapping completes rolls passes
    exact calm.round three applies bootstrapping completes rolls passes
  · intro moment completes rounds
    have first := (calm.round three applies rfl completes (rounds 0 (by omega)).1
      (rounds 0 (by omega)).2).1
    have second := (calm.round three applies rfl first (rounds 1 (by omega)).1
      (rounds 1 (by omega)).2).1
    have third := (calm.round three applies rfl second (rounds 2 (by omega)).1
      (rounds 2 (by omega)).2).1
    exact (calm.round three applies rfl third (rounds 3 (by omega)).1
      (rounds 3 (by omega)).2).1
  · intro earlier later first second next bootstrapping
    exact Cluster.workloadSpec_ne_of_successor three next bootstrapping first second
  · intro phase bootstrapping
    rw [Bootstrap.replicas_eq_nodes three bootstrapping]
    exact Int32.le_refl _

end Run

/-- Two passes over a new cluster, and then rollouts and passes in turn. -/
def rolledOutInTurn (moment : Nat) : Event :=
  if moment = 0 ∨ moment % 2 = 1 then .pass else .rollOut

theorem newCluster_bootstraps :
    let run := Run.ofEvents [⟨"StatefulSet", true⟩] starts_newCluster rolledOutInTurn
    run.Calm ∧ run.Completes 1 .bootstrapFirst ∧ run.Completes 9 .operational := by
  intro run
  have calm : run.Calm := ⟨rfl, fun _ => rfl⟩
  have progresses := calm.bootstrap_progresses (by decide) ⟨_, List.mem_cons_self, rfl⟩
  have first : run.Completes 1 .bootstrapFirst := progresses.1 rfl (by decide) rfl rfl
  have turns : ∀ round < 4, run.event (1 + 2 * round + 1) = .rollOut ∧
      run.event (1 + 2 * round + 2) = .pass := by decide
  exact ⟨calm, first, progresses.2.2.1 1 first turns⟩

end Rollout

end GaleraControl
