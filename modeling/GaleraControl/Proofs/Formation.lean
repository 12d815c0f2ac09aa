import GaleraControl.Proofs.PodTemplates
import GaleraControl.Proofs.WorldPass

/-!
# The generations of a cluster that is being formed

While a cluster is formed, its workload is applied once for every specification
of a bootstrap step, and each change raises the generation by one.  `Fits` says
which generation and which specification can be applied while a status is
stored, and `Traces` what a workload that was applied earlier has to do with the
one that is applied now.  From both it follows that a step that completes is
judged by a rollout of its own specification.
-/

namespace GaleraControl

namespace Cluster

/-- A cluster as it is stored later, with another version and another status. -/
def revised (cluster : Cluster) (version : Option String) (status : Option ClusterStatus) :
    Cluster :=
  { cluster with
    metadata := { cluster.metadata with resourceVersion := version }
    status }

/-- The specification of the workload in a phase of the formation. -/
def formationSpec (cluster : Cluster) (phase : Phase) : WorkloadSpec :=
  workloadSpec { cluster with status := some { phase } }

@[simp]
theorem formationSpec_replicas (cluster : Cluster) (phase : Phase) :
    (cluster.formationSpec phase).replicas = phase.replicas cluster.spec.replicas := rfl

theorem formationSpec_fresh (cluster : Cluster) :
    cluster.formationSpec .fresh = cluster.formationSpec .preFlight := rfl

/-- Without a designated source, only the phase of the status matters for the workload. -/
theorem workloadSpec_revised (cluster : Cluster) (version : Option String)
    {status : Option ClusterStatus} (undesignated : (status.getD {}).bootstrapFrom = none) :
    (cluster.revised version status).workloadSpec =
      cluster.formationSpec (status.getD {}).phase := by
  have source : (status.getD {}).bootstrapSource = none :=
    ClusterStatus.bootstrapSource_of_none undesignated
  exact (cluster.workloadSpec_restated_eq_iff status
    (some { phase := (status.getD {}).phase })).mpr ⟨⟨Iff.rfl, source⟩, rfl⟩

end Cluster

namespace Formation

open World

/-- The number of the bootstrap step of a phase. -/
def number : Phase → Nat
  | .bootstrapFirst => 1
  | .bootstrapFirstRestart => 2
  | .bootstrapSecond => 3
  | .bootstrapThird => 4
  | _ => 0

/--
What can be applied while a status is stored.  Before the first node nothing but
the empty workload is; with the first node its own specification may be applied
too; and from then on the applied workload has the recorded generation and the
specification of the phase before, or the next generation and the specification
of the phase.
-/
inductive Fits (cluster : Cluster) (status : ClusterStatus) :
    Option AppliedWorkload → Prop where
  | early {applied : Option AppliedWorkload}
      (phase : status.phase = .fresh ∨ status.phase = .preFlight)
      (empty : ∀ held, applied = some held →
        held.generation = 1 ∧ held.spec = cluster.formationSpec .preFlight) :
      Fits cluster status applied
  | first {applied : Option AppliedWorkload} (phase : status.phase = .bootstrapFirst)
      (empty_or_first : ∀ held, applied = some held →
        (held.generation = 1 ∧ held.spec = cluster.formationSpec .preFlight) ∨
          (held.generation ≤ 2 ∧ held.spec = cluster.formationSpec .bootstrapFirst)) :
      Fits cluster status applied
  | joining {held : AppliedWorkload} {recorded : Nat}
      (bootstrapping : status.phase.isBootstrapping = true)
      (later : status.phase ≠ .bootstrapFirst)
      (records : status.recordedGeneration = Int64.ofNat recorded)
      (few : recorded ≤ number status.phase)
      (own : (held.generation = recorded ∧
          ∃ before : Phase, before.successor = status.phase ∧
            held.spec = cluster.formationSpec before) ∨
        (held.generation = recorded + 1 ∧ held.spec = cluster.formationSpec status.phase)) :
      Fits cluster status (some held)
  | formed {applied : Option AppliedWorkload}
      (phase : status.phase = .operational ∨ status.phase = .recovery) :
      Fits cluster status applied

/-- The phases in which a step is not yet judged by its generation. -/
def Ungenerated (phase : Phase) : Prop :=
  phase = .fresh ∨ phase = .preFlight ∨ phase = .bootstrapFirst

/--
What a workload that was applied earlier has to do with the one that is applied
now: the generations grow, one generation has one specification, and until the
first node runs the earlier workload is the empty one or that of now.
-/
structure Traces (cluster : Cluster) (status : ClusterStatus)
    (earlier now : AppliedWorkload) : Prop where
  grows : earlier.generation ≤ now.generation
  unique : earlier.generation = now.generation → earlier.spec = now.spec
  empty : Ungenerated status.phase →
    earlier.spec = cluster.formationSpec .preFlight ∨ earlier.generation = now.generation

/-- A status that a rollout of a workload left behind, or what is left of it without its pods. -/
def Stamped (applied : AppliedWorkload) (status : StatefulSetStatus) : Prop :=
  status = rolledOut (applied.visible none) none ∨
    status = { rolledOut (applied.visible none) none with readyReplicas := some 0 }

theorem Traces.refl (cluster : Cluster) (status : ClusterStatus) (applied : AppliedWorkload) :
    Traces cluster status applied applied where
  grows := Nat.le_refl _
  unique _ := rfl
  empty _ := Or.inr rfl

/-- A phase that is left for the next one was ungenerated if the next one is. -/
theorem ungenerated_of_moves {spec : ClusterSpec} {status : ClusterStatus}
    {observed : Observed} {transition : Transition}
    (moves : ClusterStatus.Moves spec observed status transition)
    (ungenerated : Ungenerated transition.status.phase) : Ungenerated status.phase := by
  cases moves with
  | leavesFresh phase => exact Or.inl phase
  | leavesPreFlight phase => exact Or.inr (Or.inl phase)
  | completesStep bootstrapping seen clear =>
      cases phase : status.phase <;>
        simp_all [Ungenerated, Phase.successor, Phase.isBootstrapping]
  | losesReplicas phase seen lost => simp [Ungenerated] at ungenerated
  | reforms phase step seen present ready => simp [Ungenerated] at ungenerated
  | _ => exact ungenerated

theorem lt_of_ofNat_lt {first second : Nat} (few : first ≤ 4) (fewer : second ≤ 5)
    (less : Int64.ofNat first < Int64.ofNat second) : first < second := by
  rw [Int64.lt_iff_toInt_lt, Int64.toInt_ofNat_of_lt (by omega),
    Int64.toInt_ofNat_of_lt (by omega)] at less
  omega

theorem number_le (phase : Phase) : number phase ≤ 4 := by
  cases phase <;> decide

theorem ready_of_stamped {workload : StatefulSet} {applied : AppliedWorkload}
    (shows : workload.status = some (rolledOut (applied.visible none) none)) :
    (WorkloadView.ofStatefulSet workload).ready = applied.spec.replicas ∧
      (WorkloadView.ofStatefulSet workload).observedGeneration =
        Int64.ofNat applied.generation := by
  simp [WorkloadView.ofStatefulSet, shows, rolledOut, AppliedWorkload.visible]

section Judgement

variable {cluster : Cluster} {status : ClusterStatus} {held earlier : AppliedWorkload}
  {stamp : StatefulSetStatus} {workload : StatefulSet}

/-- A workload with enough ready nodes for a step has the status of a rollout. -/
theorem rolledOut_of_ready (stamped : Stamped earlier stamp)
    (shows : workload.status = some stamp) {phase : Phase}
    (ready : Bootstrap.nodes phase ≤ (WorkloadView.ofStatefulSet workload).ready) :
    stamp = rolledOut (earlier.visible none) none := by
  rcases stamped with full | lost
  · exact full
  · have none : (WorkloadView.ofStatefulSet workload).ready = 0 := by
      simp [WorkloadView.ofStatefulSet, shows, lost]
    rw [none] at ready
    exact absurd ready (Bootstrap.not_nodes_le_zero phase)

/-- Nothing of the empty workload is ready. -/
theorem spec_ne_empty {phase : Phase} (enough : Bootstrap.nodes phase ≤ earlier.spec.replicas) :
    earlier.spec ≠ cluster.formationSpec .preFlight := by
  intro empty
  have none : (cluster.formationSpec .preFlight).replicas = 0 := rfl
  rw [empty, none] at enough
  exact absurd enough (Bootstrap.not_nodes_le_zero phase)

/-- A bootstrap step that completes is judged by a rollout of its own specification. -/
theorem own_rollout (fits : Fits cluster status (some held))
    (traces : Traces cluster status earlier held) (stamped : Stamped earlier stamp)
    (shows : workload.status = some stamp) (bootstrapping : status.phase.isBootstrapping = true)
    (clear : Bootstrap.obstacle? cluster.spec status (WorkloadView.ofStatefulSet workload) =
      none) :
    stamp = rolledOut (earlier.visible none) none ∧
      earlier.spec = cluster.formationSpec status.phase ∧
      earlier.generation = held.generation ∧
      held.generation ≤ number status.phase + 1 := by
  rcases Bootstrap.obstacle?_eq_none_iff.mp clear with ⟨_, updated, _, ready, _⟩
  have full := rolledOut_of_ready stamped shows ready
  rw [full] at shows
  rcases ready_of_stamped shows with ⟨nodes, generation⟩
  rw [nodes] at ready
  have present : earlier.spec ≠ cluster.formationSpec .preFlight := spec_ne_empty ready
  refine ⟨full, ?_⟩
  cases fits with
  | early phase _ =>
      rcases phase with phase | phase <;> simp [phase, Phase.isBootstrapping] at bootstrapping
  | formed phase =>
      rcases phase with phase | phase <;> simp [phase, Phase.isBootstrapping] at bootstrapping
  -- The first step does not look at the generation; its ready node rules the empty workload out.
  | first phase empty_or_first =>
      rcases traces.empty (Or.inr (Or.inr phase)) with empty | same
      · exact absurd empty present
      · have spec := traces.unique same
        rcases empty_or_first held rfl with ⟨_, empty⟩ | ⟨few, own⟩
        · exact absurd (spec.trans empty) present
        · rw [phase]
          exact ⟨spec.trans own, same, few⟩
  | @joining _ recorded _ later records few own =>
      have newer : status.recordedGeneration < Int64.ofNat earlier.generation := by
        rcases updated with first | updated
        · exact absurd first later
        · rw [← generation]
          simpa [WorkloadView.isUpdated] using updated
      rw [records] at newer
      have bound := number_le status.phase
      have grows := traces.grows
      have raised : held.generation ≤ recorded + 1 := by
        rcases own with ⟨same, _⟩ | ⟨next, _⟩
        · exact Nat.le_succ_of_le (Nat.le_of_eq same)
        · exact Nat.le_of_eq next
      -- Nothing is more than one generation ahead, so what is newer is what is applied now.
      have less := lt_of_ofNat_lt (by omega) (by omega) newer
      rcases own with ⟨same, _⟩ | ⟨next, own⟩
      · omega
      · have same : earlier.generation = held.generation := by omega
        exact ⟨(traces.unique same).trans own, same, by omega⟩

end Judgement

section Steps

variable {cluster : Cluster} {status : ClusterStatus} {old new : Option AppliedWorkload}
  {earlier held : AppliedWorkload}

theorem number_successor {phase : Phase} (bootstrapping : phase.isBootstrapping = true)
    (joins : phase.successor.isBootstrapping = true) :
    number phase.successor = number phase + 1 := by
  cases phase <;> simp_all [Phase.isBootstrapping, Phase.successor, number]

/-- A status that moves on still fits, if a completed step records what is applied. -/
theorem Fits.moves {observed : Observed} {transition : Transition}
    (fits : Fits cluster status old)
    (moves : ClusterStatus.Moves cluster.spec observed status transition)
    (judged : ∀ view, observed.workload = some view → status.phase.isBootstrapping = true →
      Bootstrap.obstacle? cluster.spec status view = none →
      ∃ held, old = some held ∧ view.observedGeneration = Int64.ofNat held.generation ∧
        held.generation ≤ number status.phase + 1 ∧
        held.spec = cluster.formationSpec status.phase) :
    Fits cluster transition.status old := by
  cases moves with
  | waits reason => exact fits
  | leavesFresh phase =>
      cases fits with
      | early _ empty => exact .early (Or.inr rfl) empty
      | first other _ => simp [phase] at other
      | joining bootstrapping => simp [phase, Phase.isBootstrapping] at bootstrapping
      | formed other => simp [phase] at other
  | leavesPreFlight phase =>
      cases fits with
      | early _ empty => exact .first rfl fun held applied => Or.inl (empty held applied)
      | first other _ => simp [phase] at other
      | joining bootstrapping => simp [phase, Phase.isBootstrapping] at bootstrapping
      | formed other => simp [phase] at other
  | @completesStep view bootstrapping seen clear =>
      rcases judged view seen bootstrapping clear with ⟨held, rfl, generation, few, own⟩
      by_cases joins : status.phase.successor.isBootstrapping = true
      · have later : status.phase.successor ≠ .bootstrapFirst := by
          cases phase : status.phase <;>
            simp_all [Phase.successor, Phase.isBootstrapping]
        refine .joining joins later generation ?_ (Or.inl ⟨rfl, status.phase, rfl, own⟩)
        show held.generation ≤ number status.phase.successor
        rw [number_successor bootstrapping joins]
        exact few
      · refine .formed (Or.inl ?_)
        show status.phase.successor = .operational
        cases phase : status.phase <;> simp_all [Phase.successor, Phase.isBootstrapping]
  | losesReplicas phase seen lost => exact .formed (Or.inr rfl)
  | synchronizes phase seen present ready => exact .formed (Or.inl phase)
  | choosesSource phase step chosen => exact .formed (Or.inr phase)
  | refusesReports phase step refused => exact .formed (Or.inr phase)
  | recoversPrimary phase step seen ready => exact .formed (Or.inr phase)
  | restarts phase step seen lost => exact .formed (Or.inr phase)
  | reforms phase step seen present ready => exact .formed (Or.inl rfl)

theorem formationSpec_of_early (phase : status.phase = .fresh ∨ status.phase = .preFlight) :
    cluster.formationSpec status.phase = cluster.formationSpec .preFlight := by
  rcases phase with phase | phase
  · rw [phase, Cluster.formationSpec_fresh]
  · rw [phase]

/-- A status still fits when the workload of its own phase is applied. -/
theorem Fits.applies {spec : WorkloadSpec} (fits : Fits cluster status old)
    (own : status.phase ≠ .operational → status.phase ≠ .recovery →
      spec = cluster.formationSpec status.phase)
    (once : AppliedOnce spec old new) : Fits cluster status new := by
  by_cases formed : status.phase = .operational ∨ status.phase = .recovery
  · exact .formed formed
  obtain rfl := own (fun phase => formed (Or.inl phase)) fun phase => formed (Or.inr phase)
  rcases once with rfl | ⟨applied, rfl, becomes⟩
  · exact fits
  cases fits with
  | early phase empty =>
      rw [formationSpec_of_early phase] at becomes
      refine .early phase ?_
      rintro held ⟨⟩
      cases becomes with
      | created generation holds => exact ⟨generation, holds⟩
      | kept holds => exact empty applied rfl
      | raised differs _ _ => exact absurd (empty _ rfl).2 differs
  | first phase empty_or_first =>
      rw [phase] at becomes
      refine .first phase ?_
      rintro held ⟨⟩
      cases becomes with
      | created generation holds => exact Or.inr ⟨by omega, holds⟩
      | kept holds => exact empty_or_first applied rfl
      | raised differs generation holds =>
          rcases empty_or_first _ rfl with ⟨one, _⟩ | ⟨_, same⟩
          · exact Or.inr ⟨by omega, holds⟩
          · exact absurd same differs
  | joining bootstrapping later records few matches_step =>
      cases becomes with
      | kept holds => exact .joining bootstrapping later records few matches_step
      | raised differs generation holds =>
          refine .joining bootstrapping later records few (Or.inr ⟨?_, holds⟩)
          rcases matches_step with ⟨same, _⟩ | ⟨_, same⟩
          · rw [generation, same]
          · exact absurd same differs
  | formed phase => exact absurd phase formed

/-- An earlier workload is traced to what its successor becomes in the phase. -/
theorem Traces.applies {spec : WorkloadSpec} {applied : AppliedWorkload}
    (traces : Traces cluster status earlier held) (fits : Fits cluster status (some held))
    (own : status.phase ≠ .operational → status.phase ≠ .recovery →
      spec = cluster.formationSpec status.phase)
    (becomes : AppliedWorkload.Becomes spec (some held) applied) :
    Traces cluster status earlier applied := by
  cases becomes with
  | kept _ => exact traces
  | raised differs generation holds =>
      have grows := traces.grows
      refine ⟨by omega, fun same => absurd same (by omega), ?_⟩
      intro ungenerated
      have held_empty : held.spec = cluster.formationSpec .preFlight := by
        cases fits with
        | early phase empty => exact (empty held rfl).2
        | first phase empty_or_first =>
            rcases empty_or_first held rfl with ⟨_, empty⟩ | ⟨_, same⟩
            · exact empty
            · have spec_eq := own (by simp [phase]) (by simp [phase])
              rw [phase] at spec_eq
              exact absurd (same.trans spec_eq.symm) differs
        | joining bootstrapping later =>
            rcases ungenerated with phase | phase | phase
            · simp [phase, Phase.isBootstrapping] at bootstrapping
            · simp [phase, Phase.isBootstrapping] at bootstrapping
            · exact absurd phase later
        | formed phase =>
            rcases phase with phase | phase <;> simp [Ungenerated, phase] at ungenerated
      rcases traces.empty ungenerated with empty | same
      · exact Or.inl empty
      · exact Or.inl ((traces.unique same).trans held_empty)

theorem Traces.moves {observed : Observed} {transition : Transition}
    (traces : Traces cluster status earlier held)
    (moves : ClusterStatus.Moves cluster.spec observed status transition) :
    Traces cluster transition.status earlier held where
  grows := traces.grows
  unique := traces.unique
  empty ungenerated := traces.empty (ungenerated_of_moves moves ungenerated)

end Steps

end Formation

end GaleraControl
