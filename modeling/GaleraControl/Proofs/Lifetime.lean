import GaleraControl.Proofs.Moves
import Mathlib.Tactic.ByContra

/-!
# Lifetimes of a status

A status starts as the default one.  From then on passes move it, each with the
specification and the observation of its own moment, and the replicas replace
their reports whenever they like.  A `Lifetime` is an unending sequence of such
events; every finite run is the beginning of one.

`WellFormed` collects what phase, stage and designated source have to do with
each other.  It holds of the default status and is kept by every row of the
transition table, so it holds at every moment of every lifetime.
-/

namespace GaleraControl

/-- What can happen to a status: a pass, or the replicas replacing their reports. -/
inductive LifeEvent where
  | pass (spec : ClusterSpec) (observed : Observed)
  | report (reports : List ReplicaReport)
deriving DecidableEq, Repr

/-- The events of a status, one for every moment. -/
abbrev Lifetime := Nat → LifeEvent

namespace ClusterStatus

/-- The status after an event. -/
def after (status : ClusterStatus) : LifeEvent → ClusterStatus
  | .pass spec observed => (status.next spec observed).status
  | .report reports => { status with reports }

/--
What phase, stage and designated source have to do with each other.  A source
is designated in recovery only, and before any stage of it; the stages of
operation and of recovery occur in these phases only; and before the cluster is
formed there is neither a stage nor a source.
-/
structure WellFormed (status : ClusterStatus) : Prop where
  source : status.bootstrapSource ≠ none →
    status.phase = .recovery ∧ status.stage = .unqualified
  designated : status.bootstrapFrom ≠ none → status.phase = .recovery
  operating : status.stage = .synced ∨ status.stage = .degraded →
    status.phase = .operational
  recovering : status.stage = .primaryRecovered ∨ status.stage = .invalidReport →
    status.phase = .recovery
  forming : status.phase ≠ .operational → status.phase ≠ .recovery →
    status.stage = .unqualified ∧ status.bootstrapFrom = none

theorem wellFormed_default : WellFormed {} where
  source := by simp [bootstrapSource]
  designated := by simp
  operating := by simp
  recovering := by simp
  forming := by simp

section Steps

variable {spec : ClusterSpec} {observed : Observed} {status : ClusterStatus}

/-- A recovery that chooses or verifies knows which source it has. -/
theorem bootstrapSource_of_recoveryStep (status : ClusterStatus) :
    match status.recoveryStep with
    | .selecting => status.bootstrapSource = none ∧ status.stage ≠ .primaryRecovered
    | .verifying source => status.bootstrapSource = some source
    | .reforming => status.bootstrapSource = none ∧ status.stage = .primaryRecovered := by
  unfold recoveryStep
  cases designated : status.bootstrapSource with
  | some source => rfl
  | none =>
      by_cases recovered : status.stage = .primaryRecovered
      · simp [recovered]
      · simp [recovered]

theorem bootstrapSource_of_none (none : status.bootstrapFrom = none) :
    status.bootstrapSource = .none := by
  simp [bootstrapSource, none]

/-- Without a stage and a designated source only the phase is left to be right. -/
theorem wellFormed_of_unqualified
    (stage : status.stage = .unqualified) (designated : status.bootstrapFrom = none) :
    WellFormed status where
  source present := absurd (bootstrapSource_of_none designated) present
  designated present := absurd designated present
  operating stages := by simp [stage] at stages
  recovering stages := by simp [stage] at stages
  forming _ _ := ⟨stage, designated⟩

/-- In recovery a source waits for a primary component, and nothing is in operation. -/
theorem wellFormed_of_recovery (phase : status.phase = .recovery)
    (source : status.bootstrapSource ≠ none → status.stage = .unqualified)
    (idle : status.stage ≠ .synced ∧ status.stage ≠ .degraded) : WellFormed status where
  source present := ⟨phase, source present⟩
  designated _ := phase
  operating stages := by
    rcases stages with synced | degraded
    · exact absurd synced idle.1
    · exact absurd degraded idle.2
  recovering _ := phase
  forming _ other := absurd phase other

/-- In operation there is no source, and nothing is recovering. -/
theorem wellFormed_of_operation (phase : status.phase = .operational)
    (designated : status.bootstrapFrom = none)
    (formed : status.stage ≠ .primaryRecovered ∧ status.stage ≠ .invalidReport) :
    WellFormed status where
  source present := absurd (bootstrapSource_of_none designated) present
  designated present := absurd designated present
  operating _ := phase
  recovering stages := by
    rcases stages with recovered | invalid
    · exact absurd recovered formed.1
    · exact absurd invalid formed.2
  forming other _ := absurd phase other

theorem WellFormed.forming_of_bootstrapping (holds : WellFormed status)
    (bootstrapping : status.phase.isBootstrapping = true) :
    status.stage = .unqualified ∧ status.bootstrapFrom = none := by
  apply holds.forming
  · intro phase
    simp [phase, Phase.isBootstrapping] at bootstrapping
  · intro phase
    simp [phase, Phase.isBootstrapping] at bootstrapping

theorem WellFormed.undesignated (holds : WellFormed status) (phase : status.phase ≠ .recovery) :
    status.bootstrapFrom = none := by
  by_contra present
  exact phase (holds.designated present)

/-- A recovery that is choosing its source has refused the reports before, or has no stage. -/
theorem WellFormed.stage_of_selecting (holds : WellFormed status)
    (phase : status.phase = .recovery) (selecting : status.recoveryStep = .selecting) :
    status.stage = .unqualified ∨ status.stage = .invalidReport := by
  have step := bootstrapSource_of_recoveryStep status
  rw [selecting] at step
  cases stage : status.stage with
  | unqualified => exact Or.inl rfl
  | invalidReport => exact Or.inr rfl
  | synced => simpa [phase] using holds.operating (Or.inl stage)
  | degraded => simpa [phase] using holds.operating (Or.inr stage)
  | primaryRecovered => exact absurd stage step.2

/-- Every row of the transition table keeps a status well-formed. -/
theorem WellFormed.moves {transition : Transition} (holds : WellFormed status)
    (moves : Moves spec observed status transition) : WellFormed transition.status := by
  cases moves with
  | waits reason => exact holds
  | leavesFresh phase =>
      have forming := holds.forming (by simp [phase]) (by simp [phase])
      exact wellFormed_of_unqualified forming.1 forming.2
  | leavesPreFlight phase =>
      have forming := holds.forming (by simp [phase]) (by simp [phase])
      exact wellFormed_of_unqualified forming.1 forming.2
  | completesStep bootstrapping seen clear =>
      have forming := holds.forming_of_bootstrapping bootstrapping
      exact wellFormed_of_unqualified forming.1 forming.2
  | losesReplicas phase seen lost =>
      exact wellFormed_of_unqualified rfl (holds.undesignated (by simp [phase]))
  | synchronizes phase seen present ready => exact wellFormed_of_operation phase rfl (by simp)
  | @choosesSource hostname seqNo phase step chosen =>
      have stage :
          (if status.stage = .invalidReport then .unqualified else status.stage) =
            Stage.unqualified := by
        rcases holds.stage_of_selecting phase step with stage | stage <;> simp [stage]
      exact wellFormed_of_recovery phase (fun _ => stage) (by simp [stage])
  | refusesReports phase step refused =>
      have selecting := bootstrapSource_of_recoveryStep status
      rw [step] at selecting
      exact wellFormed_of_recovery phase (fun present => absurd selecting.1 present) (by simp)
  | recoversPrimary phase step seen ready =>
      exact wellFormed_of_recovery phase (fun present => absurd rfl present) (by simp)
  | restarts phase step seen lost => exact wellFormed_of_recovery phase (fun _ => rfl) (by simp)
  | reforms phase step seen present ready => exact wellFormed_of_operation rfl rfl (by simp)

theorem WellFormed.report (holds : WellFormed status) (reports : List ReplicaReport) :
    WellFormed { status with reports } where
  source := holds.source
  designated := holds.designated
  operating := holds.operating
  recovering := holds.recovering
  forming := holds.forming

theorem WellFormed.after (holds : WellFormed status) (event : LifeEvent) :
    WellFormed (status.after event) := by
  cases event with
  | pass spec observed => exact holds.moves (next_moves spec status observed)
  | report reports => exact holds.report reports

/-- The reports of a status belong to a recovery. -/
def ReportsBelong (status : ClusterStatus) : Prop :=
  status.reports ≠ [] → status.phase = .recovery

/-- A pass leaves no report behind when it leaves the recovery, and adds none. -/
theorem ReportsBelong.moves {transition : Transition} (holds : ReportsBelong status)
    (moves : Moves spec observed status transition) : ReportsBelong transition.status := by
  cases moves with
  | waits reason => exact holds
  | leavesFresh phase => exact fun present => by simpa [phase] using holds present
  | leavesPreFlight phase => exact fun present => by simpa [phase] using holds present
  | completesStep bootstrapping seen clear =>
      exact fun present => by
        simp [holds present, Phase.isBootstrapping] at bootstrapping
  | losesReplicas phase seen lost => exact fun _ => rfl
  | synchronizes phase seen present ready => exact fun reported => absurd rfl reported
  | choosesSource phase step chosen => exact fun _ => phase
  | refusesReports phase step refused => exact fun _ => phase
  | recoversPrimary phase step seen ready => exact fun _ => phase
  | restarts phase step seen lost => exact fun _ => phase
  | reforms phase step seen present ready => exact fun reported => absurd rfl reported

/-- A pass that starts a recovery starts it with the reports of the status before. -/
theorem reports_of_entersRecovery {transition : Transition}
    (moves : Moves spec observed status transition)
    (outside : status.phase ≠ .recovery) (enters : transition.status.phase = .recovery) :
    status.phase = .operational ∧ transition.status.reports = status.reports := by
  cases moves with
  | losesReplicas phase seen lost => exact ⟨phase, rfl⟩
  | completesStep bootstrapping seen clear =>
      cases phase : status.phase <;>
        simp_all [Phase.isBootstrapping, Phase.successor]
  | waits reason => exact absurd enters outside
  | leavesFresh phase => simp at enters
  | leavesPreFlight phase => simp at enters
  | synchronizes phase seen present ready => exact absurd enters outside
  | choosesSource phase step chosen => exact absurd phase outside
  | refusesReports phase step refused => exact absurd phase outside
  | recoversPrimary phase step seen ready => exact absurd phase outside
  | restarts phase step seen lost => exact absurd phase outside
  | reforms phase step seen present ready => exact absurd phase outside

end Steps

end ClusterStatus

namespace Lifetime

/-- The status at a moment of a lifetime. -/
def status (life : Lifetime) : Nat → ClusterStatus
  | 0 => {}
  | moment + 1 => (life.status moment).after (life moment)

@[simp]
theorem status_zero (life : Lifetime) : life.status 0 = {} := rfl

theorem status_succ (life : Lifetime) (moment : Nat) :
    life.status (moment + 1) = (life.status moment).after (life moment) := rfl

/-- The status is well-formed at every moment. -/
theorem wellFormed_status (life : Lifetime) (moment : Nat) :
    (life.status moment).WellFormed := by
  induction moment with
  | zero => exact ClusterStatus.wellFormed_default
  | succ moment ih => exact ih.after (life moment)

/-- Until a moment, the replicas replace their reports only during a recovery. -/
def ReportsInRecovery (life : Lifetime) (moment : Nat) : Prop :=
  ∀ earlier < moment, ∀ reports, life earlier = .report reports →
    (life.status earlier).phase = .recovery

theorem ReportsInRecovery.before {life : Lifetime} {moment : Nat}
    (disciplined : life.ReportsInRecovery (moment + 1)) : life.ReportsInRecovery moment :=
  fun earlier before => disciplined earlier (Nat.lt_succ_of_lt before)

/-- As long as only recovering replicas report, reports belong to a recovery. -/
theorem reportsBelong_status {life : Lifetime} {moment : Nat}
    (disciplined : life.ReportsInRecovery moment) :
    (life.status moment).ReportsBelong := by
  induction moment with
  | zero => exact fun present => absurd rfl present
  | succ moment ih =>
      have holds := ih disciplined.before
      rw [status_succ]
      cases event : life moment with
      | pass spec observed =>
          exact holds.moves (ClusterStatus.next_moves spec (life.status moment) observed)
      | report reports =>
          exact fun _ => disciplined moment (Nat.lt_succ_self moment) reports event

/-- A recovery that begins finds no reports of an earlier one. -/
theorem reports_of_recovery_begins {life : Lifetime} {moment : Nat}
    (disciplined : life.ReportsInRecovery (moment + 1))
    (outside : (life.status moment).phase ≠ .recovery)
    (begins : (life.status (moment + 1)).phase = .recovery) :
    (life.status (moment + 1)).reports = [] := by
  rw [status_succ] at begins ⊢
  cases event : life moment with
  | pass spec observed =>
      rw [event] at begins
      have kept := ClusterStatus.reports_of_entersRecovery
        (ClusterStatus.next_moves spec (life.status moment) observed) outside begins
      have nothing : (life.status moment).reports = [] := by
        by_contra present
        exact outside (reportsBelong_status disciplined.before present)
      exact kept.2.trans nothing
  | report reports =>
      exact absurd (disciplined moment (Nat.lt_succ_self moment) reports event) outside

/--
At every moment of every lifetime phase, stage and designated source fit
together.  If the replicas report only during recoveries, then reports are held
only during recoveries, and every recovery begins without any.
-/
theorem status_fits (life : Lifetime) (moment : Nat) :
    (life.status moment).WellFormed ∧
      (life.ReportsInRecovery moment →
        ((life.status moment).reports ≠ [] → (life.status moment).phase = .recovery)) ∧
      (life.ReportsInRecovery (moment + 1) →
        (life.status moment).phase ≠ .recovery →
        (life.status (moment + 1)).phase = .recovery →
        (life.status (moment + 1)).reports = []) :=
  ⟨life.wellFormed_status moment, reportsBelong_status, reports_of_recovery_begins⟩

end Lifetime

end GaleraControl
