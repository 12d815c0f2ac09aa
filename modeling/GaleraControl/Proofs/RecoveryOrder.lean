import GaleraControl.Proofs.Lifetime
import GaleraControl.Proofs.SourceChoice

/-!
# The order of a recovery

A recovery has no step of its own in the status: which step is reached follows
from the stage and the designated source.  `Trail` reads the past off the
present: a designated source was chosen earlier in the same recovery, and a
primary component was formed by a source that was chosen before.  Passes and
reports keep the trail, so a recovery that ends has taken all its steps in order.
-/

namespace GaleraControl.Lifetime

/-- What the pass of a moment decided, if the moment is that of a pass. -/
def outcome? (life : Lifetime) (moment : Nat) : Option Outcome :=
  match life moment with
  | .pass spec observed => some ((life.status moment).next spec observed).outcome
  | .report _ => none

/-- A recovery that began after one moment has not ended at another. -/
def InRecoverySince (life : Lifetime) (start moment : Nat) : Prop :=
  start < moment ∧ (life.status start).phase = .operational ∧
    ∀ time, start < time → time ≤ moment → (life.status time).phase = .recovery

/-- A pass chooses a source that no replica is ahead of, once every replica has reported. -/
def Chooses (life : Lifetime) (moment : Nat) (source : String) : Prop :=
  ∃ spec observed seqNo,
    life moment = .pass spec observed ∧
      life.outcome? moment = some (.sourceSelected source seqNo) ∧
      ((life.status moment).reports.length : Int) = spec.replicas.toInt ∧
      (∀ report ∈ (life.status moment).reports, 0 < report.seqNo) ∧
      (∃ best ∈ (life.status moment).reports,
        best.hostname = source ∧ best.seqNo = seqNo) ∧
      ∀ report ∈ (life.status moment).reports, report.seqNo ≤ seqNo

/-- A pass finds the pod of the designated source ready. -/
def Recovers (life : Lifetime) (moment : Nat) (source : String) : Prop :=
  ∃ spec observed pod,
    life moment = .pass spec observed ∧
      life.outcome? moment = some (.primaryRecovered source) ∧
      (life.status moment).bootstrapFrom = some source ∧
      observed.bootstrapPod = some pod ∧ pod.containersReady = true

/-- Of all choices of a source until a moment this one is the last. -/
def ChosenSince (life : Lifetime) (start moment : Nat) (source : String) : Prop :=
  ∃ choice, start < choice ∧ choice < moment ∧ life.Chooses choice source ∧
    ∀ time, choice < time → time < moment → ∀ other seqNo,
      life.outcome? time ≠ some (.sourceSelected other seqNo)

/-- A chosen source has formed a primary component, and nothing has started over since. -/
def RecoveredSince (life : Lifetime) (start moment : Nat) : Prop :=
  ∃ source recovered, recovered < moment ∧
    life.ChosenSince start recovered source ∧ life.Recovers recovered source ∧
    ∀ time, recovered < time → time < moment →
      life.outcome? time ≠ some .recoveryRestarted

/-- What the status of a recovering cluster tells about its past. -/
structure Trail (life : Lifetime) (start moment : Nat) : Prop where
  recovering : life.InRecoverySince start moment
  chosen : ∀ source, (life.status moment).bootstrapSource = some source →
    life.ChosenSince start moment source
  recovered : (life.status moment).stage = .primaryRecovered →
    life.RecoveredSince start moment

section Extension

variable {life : Lifetime} {start moment : Nat}

theorem InRecoverySince.succ (since : life.InRecoverySince start moment)
    (phase : (life.status (moment + 1)).phase = .recovery) :
    life.InRecoverySince start (moment + 1) := by
  rcases since with ⟨before, operational, recovering⟩
  refine ⟨Nat.lt_succ_of_lt before, operational, ?_⟩
  intro time later reached
  rcases Nat.lt_or_eq_of_le reached with earlier | same
  · exact recovering time later (Nat.le_of_lt_succ earlier)
  · rw [same]
    exact phase

theorem inRecoverySince_begin
    (operational : (life.status moment).phase = .operational)
    (phase : (life.status (moment + 1)).phase = .recovery) :
    life.InRecoverySince moment (moment + 1) := by
  refine ⟨Nat.lt_succ_self moment, operational, ?_⟩
  intro time later reached
  rw [Nat.le_antisymm reached later]
  exact phase

theorem ChosenSince.succ {source : String} (chosen : life.ChosenSince start moment source)
    (unchosen : ∀ other seqNo, life.outcome? moment ≠ some (.sourceSelected other seqNo)) :
    life.ChosenSince start (moment + 1) source := by
  rcases chosen with ⟨choice, after, before, chooses, last⟩
  refine ⟨choice, after, Nat.lt_succ_of_lt before, chooses, ?_⟩
  intro time later reached
  rcases Nat.lt_succ_iff_lt_or_eq.mp reached with earlier | same
  · exact last time later earlier
  · rw [same]
    exact unchosen

theorem RecoveredSince.succ (recovered : life.RecoveredSince start moment)
    (kept : life.outcome? moment ≠ some .recoveryRestarted) :
    life.RecoveredSince start (moment + 1) := by
  rcases recovered with ⟨source, formed, before, chosen, recovers, unbroken⟩
  refine ⟨source, formed, Nat.lt_succ_of_lt before, chosen, recovers, ?_⟩
  intro time later reached
  rcases Nat.lt_succ_iff_lt_or_eq.mp reached with earlier | same
  · exact unbroken time later earlier
  · rw [same]
    exact kept

/-- An event that keeps phase, stage and source, and neither chooses nor restarts. -/
theorem Trail.keep (trail : life.Trail start moment)
    (phase : (life.status (moment + 1)).phase = .recovery)
    (stage : (life.status (moment + 1)).stage = (life.status moment).stage)
    (source : (life.status (moment + 1)).bootstrapSource =
      (life.status moment).bootstrapSource)
    (unchosen : ∀ other seqNo, life.outcome? moment ≠ some (.sourceSelected other seqNo))
    (unbroken : life.outcome? moment ≠ some .recoveryRestarted) :
    life.Trail start (moment + 1) where
  recovering := trail.recovering.succ phase
  chosen designated present :=
    (trail.chosen designated (source ▸ present)).succ unchosen
  recovered recovered := (trail.recovered (stage ▸ recovered)).succ unbroken

end Extension

section Passes

variable {life : Lifetime} {moment : Nat} {spec : ClusterSpec} {observed : Observed}
  {transition : Transition}

theorem status_succ_of_pass (event : life moment = .pass spec observed)
    (computed : (life.status moment).next spec observed = transition) :
    life.status (moment + 1) = transition.status := by
  rw [status_succ, event]
  exact congrArg Transition.status computed

theorem outcome?_of_pass (event : life moment = .pass spec observed)
    (computed : (life.status moment).next spec observed = transition) :
    life.outcome? moment = some transition.outcome := by
  simp [outcome?, event, computed]

theorem chooses_of_selected {hostname : String} {seqNo : Int64}
    (event : life moment = .pass spec observed)
    (decided : life.outcome? moment = some (.sourceSelected hostname seqNo))
    (chosen : Quorum.select (life.status moment).reports spec.replicas =
      .selected hostname seqNo) :
    life.Chooses moment hostname := by
  rcases Quorum.select_eq_selected chosen with ⟨complete, usable, best, first, named, counted⟩
  refine ⟨spec, observed, seqNo, event, decided, complete, usable,
    ⟨best, first.mem, named, counted⟩, ?_⟩
  intro report member
  rw [← counted]
  exact first.le member

theorem chosenSince_succ_self {start : Nat} {source : String}
    (since : life.InRecoverySince start moment) (chooses : life.Chooses moment source) :
    life.ChosenSince start (moment + 1) source := by
  refine ⟨moment, since.1, Nat.lt_succ_self moment, chooses, ?_⟩
  intro time later earlier
  exact absurd later (Nat.not_lt_of_le (Nat.le_of_lt_succ earlier))

theorem recoveredSince_succ_self {start : Nat} {source : String}
    (chosen : life.ChosenSince start moment source) (recovers : life.Recovers moment source) :
    life.RecoveredSince start (moment + 1) := by
  refine ⟨source, moment, Nat.lt_succ_self moment, chosen, recovers, ?_⟩
  intro time later earlier
  exact absurd later (Nat.not_lt_of_le (Nat.le_of_lt_succ earlier))

/-- A pass that leaves the cluster in recovery leaves a trail of how it got there. -/
theorem trail_succ_of_pass
    (past : (life.status moment).phase = .recovery → ∃ start, life.Trail start moment)
    (event : life moment = .pass spec observed)
    (phase : (life.status (moment + 1)).phase = .recovery) :
    ∃ start, life.Trail start (moment + 1) := by
  have moves := ClusterStatus.next_moves spec (life.status moment) observed
  generalize computed : (life.status moment).next spec observed = transition at moves
  have reached := status_succ_of_pass event computed
  have decided := outcome?_of_pass event computed
  have fits := life.wellFormed_status moment
  have step := (life.status moment).bootstrapSource_of_recoveryStep
  have current := phase
  rw [reached] at current
  cases moves with
  | waits reason =>
      rcases past current with ⟨start, trail⟩
      exact ⟨start, trail.keep phase (by rw [reached]; rfl) (by rw [reached]; rfl)
        (by simp [decided, Transition.wait]) (by simp [decided, Transition.wait])⟩
  | leavesFresh before => simp at current
  | leavesPreFlight before => simp at current
  | completesStep bootstrapping seen clear =>
      cases before : (life.status moment).phase <;>
        simp_all [Phase.isBootstrapping, Phase.successor]
  | losesReplicas before seen lost =>
      have undesignated : (life.status moment).bootstrapFrom = none :=
        fits.undesignated (by simp [before])
      refine ⟨moment, inRecoverySince_begin before phase, ?_, ?_⟩ <;> rw [reached]
      · intro source present
        simp [ClusterStatus.bootstrapSource, undesignated] at present
      · intro recovered
        simp at recovered
  | synchronizes before seen present ready => simp [before] at current
  | @choosesSource hostname seqNo before selecting chosen =>
      rw [selecting] at step
      rcases past before with ⟨start, trail⟩
      refine ⟨start, trail.recovering.succ phase, ?_, ?_⟩ <;> rw [reached]
      · intro source present
        rcases Option.filter_eq_some_iff.mp present with ⟨designated, _⟩
        rw [← Option.some.inj designated]
        exact chosenSince_succ_self trail.recovering (chooses_of_selected event decided chosen)
      · intro recovered
        simp only at recovered
        split at recovered
        · exact absurd recovered (by simp)
        · exact absurd recovered step.2
  | refusesReports before selecting refused =>
      rw [selecting] at step
      rcases past before with ⟨start, trail⟩
      refine ⟨start, trail.recovering.succ phase, ?_, ?_⟩ <;> rw [reached]
      · intro source present
        exact absurd (step.1.symm.trans present) (by simp)
      · intro recovered
        simp at recovered
  | @recoversPrimary source pod before verifying seen ready =>
      rw [verifying] at step
      rcases past before with ⟨start, trail⟩
      refine ⟨start, trail.recovering.succ phase, ?_, ?_⟩
      · rw [reached]
        intro other present
        simp [ClusterStatus.bootstrapSource] at present
      · intro _
        have designated := (Option.filter_eq_some_iff.mp step).1
        exact recoveredSince_succ_self (trail.chosen source step)
          ⟨spec, observed, pod, event, decided, designated, seen, ready⟩
  | restarts before reforming seen lost =>
      rw [reforming] at step
      rcases past before with ⟨start, trail⟩
      refine ⟨start, trail.recovering.succ phase, ?_, ?_⟩ <;> rw [reached]
      · intro source present
        exact absurd (step.1.symm.trans present) (by simp)
      · intro recovered
        simp at recovered
  | reforms before reforming seen present ready => simp at current

end Passes

/-- A recovering status has a trail at every moment of every lifetime. -/
theorem exists_trail (life : Lifetime) (moment : Nat)
    (phase : (life.status moment).phase = .recovery) :
    ∃ start, life.Trail start moment := by
  -- The trail cannot be found backwards from the status alone, so every event carries it along.
  induction moment with
  | zero => simp at phase
  | succ moment past =>
      cases event : life moment with
      | pass spec observed => exact trail_succ_of_pass past event phase
      | report reports =>
          have reached :
              life.status (moment + 1) = { life.status moment with reports } := by
            rw [status_succ, event]
            rfl
          have silent : life.outcome? moment = none := by simp [outcome?, event]
          rw [reached] at phase
          rcases past phase with ⟨start, trail⟩
          exact ⟨start, trail.keep (by rw [reached]; exact phase) (by rw [reached])
            (by rw [reached]; rfl) (by simp [silent]) (by simp [silent])⟩

/--
A pass that ends a recovery ends one that has taken every step in order.  Since
the recovery began, a source that no replica is ahead of was chosen from one
usable report for each replica; its own pod was found ready while it was still
the designated source; nothing has started over since; and now every replica is
ready, of which there is at least one.
-/
theorem recovery_ends_in_order (life : Lifetime) {moment : Nat}
    {spec : ClusterSpec} {observed : Observed}
    (event : life moment = .pass spec observed)
    (before : (life.status moment).phase = .recovery)
    (after : (life.status (moment + 1)).phase = .operational) :
    ∃ start choice recovered source,
      start < choice ∧ choice < recovered ∧ recovered < moment ∧
        life.InRecoverySince start moment ∧
        life.Chooses choice source ∧
        life.Recovers recovered source ∧
        (∀ time, choice < time → time < recovered → ∀ other seqNo,
          life.outcome? time ≠ some (.sourceSelected other seqNo)) ∧
        (∀ time, recovered < time → time < moment →
          life.outcome? time ≠ some .recoveryRestarted) ∧
        ∃ view, observed.workload = some view ∧ view.isReady = true ∧ view.ready ≠ 0 := by
  have moves := ClusterStatus.next_moves spec (life.status moment) observed
  generalize computed : (life.status moment).next spec observed = transition at moves
  rw [status_succ_of_pass event computed] at after
  have step := (life.status moment).bootstrapSource_of_recoveryStep
  cases moves with
  | reforms phase reforming seen present ready =>
      rw [reforming] at step
      rcases life.exists_trail moment before with ⟨start, trail⟩
      rcases trail.recovered step.2 with ⟨source, recovered, past, chosen, recovers, unbroken⟩
      rcases chosen with ⟨choice, begun, earlier, chooses, last⟩
      exact ⟨start, choice, recovered, source, begun, earlier, past, trail.recovering,
        chooses, recovers, last, unbroken, _, seen, ready, present⟩
  | completesStep bootstrapping seen clear =>
      simp [before, Phase.isBootstrapping] at bootstrapping
  | waits reason => exact absurd (before.symm.trans after) (by simp)
  | leavesFresh phase => simp at after
  | leavesPreFlight phase => simp at after
  | losesReplicas phase seen lost => simp at after
  | synchronizes phase seen present ready => exact absurd (before.symm.trans after) (by simp)
  | choosesSource phase selecting chosen => exact absurd (before.symm.trans after) (by simp)
  | refusesReports phase selecting refused => exact absurd (before.symm.trans after) (by simp)
  | recoversPrimary phase verifying seen ready =>
      exact absurd (before.symm.trans after) (by simp)
  | restarts phase reforming seen lost => exact absurd (before.symm.trans after) (by simp)

/-- A workload of some size that is fully ready. -/
def settledView (replicas : Int32) (generation : Int64) : WorkloadView where
  desired := replicas
  current := replicas
  replicas := replicas
  ready := replicas
  observedGeneration := generation

/--
A cluster of three replicas that is bootstrapped, loses all of them, restarts its
recovery once with the reports that it has, and is operational again at last.
-/
def restartedRecovery : Lifetime := fun moment =>
  let pass (observed : Observed) : LifeEvent := .pass { replicas := 3 } observed
  let rollout (replicas : Int32) (generation : Int64) : LifeEvent :=
    pass { workload := some (settledView replicas generation) }
  let lost : LifeEvent := pass { workload := some { settledView 3 4 with ready := 0 } }
  let pod : LifeEvent := pass { bootstrapPod := some ⟨"prod-server-1", true⟩ }
  match moment with
  | 0 | 1 | 8 | 11 => pass {}
  | 2 => rollout 1 1
  | 3 => rollout 1 2
  | 4 => rollout 2 3
  | 5 => rollout 3 4
  | 6 | 10 => lost
  | 7 => .report [⟨"prod-server-0", { seqNo := 5 }⟩, ⟨"prod-server-1", { seqNo := 9 }⟩,
      ⟨"prod-server-2", { seqNo := 9 }⟩]
  | 9 | 12 => pod
  | _ => rollout 3 5

theorem restartedRecovery_ends :
    (restartedRecovery.status 13).phase = .recovery ∧
      (restartedRecovery.status 14).phase = .operational ∧
      ∃ start choice recovered source,
        start < choice ∧ choice < recovered ∧ recovered < 13 ∧
          restartedRecovery.InRecoverySince start 13 ∧
          restartedRecovery.Chooses choice source ∧
          restartedRecovery.Recovers recovered source ∧
          (∀ time, choice < time → time < recovered → ∀ other seqNo,
            restartedRecovery.outcome? time ≠ some (.sourceSelected other seqNo)) ∧
          (∀ time, recovered < time → time < 13 →
            restartedRecovery.outcome? time ≠ some .recoveryRestarted) ∧
          ∃ view, some (settledView 3 5) = some view ∧
            view.isReady = true ∧ view.ready ≠ 0 := by
  have before : (restartedRecovery.status 13).phase = .recovery := by decide
  have after : (restartedRecovery.status 14).phase = .operational := by decide
  exact ⟨before, after, recovery_ends_in_order restartedRecovery rfl before after⟩

end GaleraControl.Lifetime
