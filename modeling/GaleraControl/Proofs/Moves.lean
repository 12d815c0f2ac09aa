import GaleraControl.Transition
import Mathlib.Tactic.SplitIfs

/-!
# The table of transitions

`ClusterStatus.Moves` lists what one pass can make of a status, one constructor
for each row of the transition table, with the observation that the row rests on.
`next_moves` says that the transition function only takes rows of that table, so
a fact about every pass is proved by one case for every row.

`Phase.progress` numbers the phases in the order of the formation.  No row of the
table leads back in that order.
-/

namespace GaleraControl

namespace Phase

/-- The place of a phase in the formation; operation and recovery share the last place. -/
def progress : Phase → Nat
  | .fresh => 0
  | .preFlight => 1
  | .bootstrapFirst => 2
  | .bootstrapFirstRestart => 3
  | .bootstrapSecond => 4
  | .bootstrapThird => 5
  | .operational | .recovery => 6

theorem successor_ne_self (phase : Phase) : phase.successor ≠ phase := by
  cases phase <;> decide

theorem successor_ne_fresh (phase : Phase) : phase.successor ≠ .fresh := by
  cases phase <;> decide

/-- Only operation follows more than one phase. -/
theorem eq_of_successor_eq {phase other : Phase} (same : other.successor = phase.successor)
    (forming : phase.successor ≠ .operational) : other = phase := by
  cases phase <;> cases other <;> simp_all [successor]

theorem progress_successor_of_bootstrapping {phase : Phase}
    (bootstrapping : phase.isBootstrapping = true) :
    phase.successor.progress = phase.progress + 1 := by
  cases phase <;> simp_all [isBootstrapping, successor, progress]

theorem isBootstrapping_iff_progress (phase : Phase) :
    phase.isBootstrapping = true ↔ 2 ≤ phase.progress ∧ phase.progress ≤ 5 := by
  cases phase <;> decide

theorem progress_le_of_canTransitionTo {phase next : Phase}
    (legal : phase.canTransitionTo next = true) : phase.progress ≤ next.progress := by
  rw [canTransitionTo, Bool.or_eq_true, decide_eq_true_iff, decide_eq_true_iff] at legal
  rcases legal with same | follows
  · exact Nat.le_of_eq (congrArg progress same)
  · rw [← follows]
    cases phase <;> decide

/-- In a sequence of phases, one other than the first was entered, and has lasted since. -/
theorem exists_entry (phase : Nat → Phase) {moment : Nat} (other : phase moment ≠ phase 0) :
    ∃ entry < moment, phase entry ≠ phase moment ∧
      ∀ time, entry < time → time ≤ moment → phase time = phase moment := by
  induction moment with
  | zero => exact absurd rfl other
  | succ moment ih =>
      by_cases stays : phase (moment + 1) = phase moment
      · rw [stays] at other ⊢
        rcases ih other with ⟨entry, before, left, lasts⟩
        refine ⟨entry, Nat.lt_succ_of_lt before, left, ?_⟩
        intro time above below
        rcases Nat.lt_or_eq_of_le below with earlier | rfl
        · exact lasts time above (Nat.le_of_lt_succ earlier)
        · exact stays
      · refine ⟨moment, Nat.lt_succ_self moment, Ne.symm stays, ?_⟩
        intro time above below
        rw [Nat.le_antisymm below above]

end Phase

namespace Bootstrap

theorem not_nodes_le_zero (phase : Phase) : ¬ nodes phase ≤ 0 := by
  cases phase <;> decide

/-- A bootstrap step completes exactly when each of its four conditions is met. -/
theorem obstacle?_eq_none_iff
    {spec : ClusterSpec} {status : ClusterStatus} {view : WorkloadView} :
    obstacle? spec status view = none ↔
      replicasBelow status.phase < spec.replicas ∧
        (status.phase = .bootstrapFirst ∨
          view.isUpdated status.recordedGeneration = true) ∧
        nodes status.phase ≤ view.desired ∧
        nodes status.phase ≤ view.ready ∧
        view.isReady = true := by
  unfold obstacle?
  split_ifs with few stale missing unready
  · simpa using fun requested => absurd few (Int32.not_le.mpr requested)
  · rcases stale with ⟨later, stale⟩
    have notUpdated : view.isUpdated status.recordedGeneration = false := by
      simpa using stale
    simp [later, notUpdated]
  · simp only [false_iff, not_and]
    intro _ _ desired ready
    rcases missing with few | few
    · exact absurd desired (Int32.not_le.mpr few)
    · exact absurd ready (Int32.not_le.mpr few)
  · have notReady : view.isReady = false := by simpa using unready
    simp [notReady]
  · have updated :
        status.phase = .bootstrapFirst ∨
          view.isUpdated status.recordedGeneration = true := by
      by_cases first : status.phase = .bootstrapFirst
      · exact Or.inl first
      · exact Or.inr (by simpa [first] using stale)
    simp only [not_or, Int32.not_lt] at missing
    have ready : view.isReady = true := by simpa using unready
    simp only [true_iff]
    exact ⟨Int32.not_le.mp few, updated, missing.1, missing.2, ready⟩

end Bootstrap

namespace ClusterStatus

/--
What one pass can make of a status: the rows of the transition table.  Beside
waiting, a fresh cluster is checked, a checked one gets its first node, a
bootstrap step completes, operation is lost or synchronized, and a recovery
chooses a source or refuses the reports, finds the source ready, starts over, or
ends.
-/
inductive Moves (spec : ClusterSpec) (observed : Observed) (status : ClusterStatus) :
    Transition → Prop where
  | waits (reason : WaitReason) : Moves spec observed status (.wait status reason)
  | leavesFresh (phase : status.phase = .fresh) :
      Moves spec observed status (.advance .fresh { status with phase := .preFlight })
  | leavesPreFlight (phase : status.phase = .preFlight) :
      Moves spec observed status
        (.advance .preFlight { status with phase := .bootstrapFirst })
  | completesStep {view : WorkloadView}
      (bootstrapping : status.phase.isBootstrapping = true)
      (seen : observed.workload = some view)
      (clear : Bootstrap.obstacle? spec status view = none) :
      Moves spec observed status
        (.advance status.phase
          { status with
            phase := status.phase.successor
            recordedGeneration := view.observedGeneration })
  | losesReplicas {view : WorkloadView}
      (phase : status.phase = .operational)
      (seen : observed.workload = some view)
      (lost : view.ready = 0) :
      Moves spec observed status
        (.advance .operational { status with phase := .recovery, stage := .unqualified })
  | synchronizes {view : WorkloadView}
      (phase : status.phase = .operational)
      (seen : observed.workload = some view)
      (present : view.ready ≠ 0)
      (ready : view.isReady = true) :
      Moves spec observed status
        ⟨{ status with stage := .synced, reports := [], bootstrapFrom := none }, .synced⟩
  | choosesSource {hostname : String} {seqNo : Int64}
      (phase : status.phase = .recovery)
      (step : status.recoveryStep = .selecting)
      (chosen : Quorum.select status.reports spec.replicas = .selected hostname seqNo) :
      Moves spec observed status
        ⟨{ status with
            bootstrapFrom := some hostname
            stage := if status.stage = .invalidReport then .unqualified else status.stage },
          .sourceSelected hostname seqNo⟩
  | refusesReports {hostnames : List String}
      (phase : status.phase = .recovery)
      (step : status.recoveryStep = .selecting)
      (refused : Quorum.select status.reports spec.replicas = .invalidReport hostnames) :
      Moves spec observed status
        ⟨{ status with stage := .invalidReport }, .invalidReport hostnames⟩
  | recoversPrimary {source : String} {pod : PodView}
      (phase : status.phase = .recovery)
      (step : status.recoveryStep = .verifying source)
      (seen : observed.bootstrapPod = some pod)
      (ready : pod.containersReady = true) :
      Moves spec observed status
        ⟨{ status with stage := .primaryRecovered, bootstrapFrom := none },
          .primaryRecovered source⟩
  | restarts {view : WorkloadView}
      (phase : status.phase = .recovery)
      (step : status.recoveryStep = .reforming)
      (seen : observed.workload = some view)
      (lost : view.ready = 0) :
      Moves spec observed status
        ⟨{ status with stage := .unqualified }, .recoveryRestarted⟩
  | reforms {view : WorkloadView}
      (phase : status.phase = .recovery)
      (step : status.recoveryStep = .reforming)
      (seen : observed.workload = some view)
      (present : view.ready ≠ 0)
      (ready : view.isReady = true) :
      Moves spec observed status
        (.advance .recovery
          { status with
            phase := .operational
            stage := .degraded
            reports := []
            bootstrapFrom := none })

section Rows

variable {spec : ClusterSpec} {status : ClusterStatus} {observed : Observed}

theorem bootstrap_moves (bootstrapping : status.phase.isBootstrapping = true) :
    Moves spec observed status (Bootstrap.step spec status observed.workload) := by
  unfold Bootstrap.step
  split
  · exact .waits _
  · next seen =>
      split
      · exact .waits _
      · next clear => exact .completesStep bootstrapping seen clear

theorem operation_moves (phase : status.phase = .operational) :
    Moves spec observed status (Operation.step status observed.workload) := by
  unfold Operation.step
  split
  · exact .waits _
  · next seen =>
      split_ifs with lost ready
      · rw [phase]
        exact .losesReplicas phase seen lost
      · exact .synchronizes phase seen lost ready
      · exact .waits _

theorem recovery_moves (phase : status.phase = .recovery) :
    Moves spec observed status (Recovery.step spec status observed) := by
  unfold Recovery.step
  split
  · next step =>
      unfold Recovery.select
      split
      · exact .waits _
      · next chosen => exact .choosesSource phase step chosen
      · next refused => exact .refusesReports phase step refused
  · next source step =>
      unfold Recovery.verify
      split
      · exact .waits _
      · next seen =>
          split_ifs with ready
          · exact .recoversPrimary phase step seen ready
          · exact .waits _
  · next step =>
      unfold Recovery.reform
      split
      · exact .waits _
      · next seen =>
          split_ifs with lost ready
          · exact .restarts phase step seen lost
          · rw [phase]
            exact .reforms phase step seen lost ready
          · exact .waits _

/-- Every pass takes a row of the table. -/
theorem next_moves (spec : ClusterSpec) (status : ClusterStatus) (observed : Observed) :
    Moves spec observed status (status.next spec observed) := by
  unfold next
  split
  · next phase => exact .leavesFresh phase
  · next phase => exact .leavesPreFlight phase
  · next phase => exact bootstrap_moves (by rw [phase]; rfl)
  · next phase => exact bootstrap_moves (by rw [phase]; rfl)
  · next phase => exact bootstrap_moves (by rw [phase]; rfl)
  · next phase => exact bootstrap_moves (by rw [phase]; rfl)
  · next phase => exact operation_moves phase
  · next phase => exact recovery_moves phase

/-- Every row keeps the phase, or leads to its successor. -/
theorem Moves.legal {transition : Transition} (moves : Moves spec observed status transition) :
    status.phase.canTransitionTo transition.status.phase = true := by
  cases moves with
  | completesStep bootstrapping seen clear => simp [Phase.canTransitionTo]
  | leavesFresh phase | leavesPreFlight phase | losesReplicas phase =>
      simp [phase, Phase.canTransitionTo, Phase.successor]
  | reforms phase => simp [phase, Phase.canTransitionTo, Phase.successor]
  | _ => simp [Phase.canTransitionTo]

theorem Moves.progress_le {transition : Transition}
    (moves : Moves spec observed status transition) :
    status.phase.progress ≤ transition.status.phase.progress :=
  Phase.progress_le_of_canTransitionTo moves.legal

/-- A phase that is left gives way to its successor. -/
theorem Moves.successor_of_ne {transition : Transition}
    (moves : Moves spec observed status transition)
    (left : transition.status.phase ≠ status.phase) :
    status.phase.successor = transition.status.phase := by
  have legal := moves.legal
  rw [Phase.canTransitionTo, Bool.or_eq_true, decide_eq_true_iff, decide_eq_true_iff] at legal
  exact legal.resolve_left (Ne.symm left)

/-- A bootstrap phase is left only by a step that completes, which records what it judged. -/
theorem Moves.completes {transition : Transition}
    (moves : Moves spec observed status transition)
    (bootstrapping : status.phase.isBootstrapping = true)
    (left : transition.status.phase ≠ status.phase) :
    ∃ view, observed.workload = some view ∧ Bootstrap.obstacle? spec status view = none ∧
      transition = Bootstrap.step spec status (some view) := by
  cases moves with
  | completesStep _ seen clear =>
      exact ⟨_, seen, clear, by simp only [Bootstrap.step, clear]⟩
  | waits reason => exact absurd rfl left
  | leavesFresh phase => simp [phase, Phase.isBootstrapping] at bootstrapping
  | leavesPreFlight phase => simp [phase, Phase.isBootstrapping] at bootstrapping
  | losesReplicas phase => simp [phase, Phase.isBootstrapping] at bootstrapping
  | synchronizes phase => simp [phase, Phase.isBootstrapping] at bootstrapping
  | choosesSource phase => simp [phase, Phase.isBootstrapping] at bootstrapping
  | refusesReports phase => simp [phase, Phase.isBootstrapping] at bootstrapping
  | recoversPrimary phase => simp [phase, Phase.isBootstrapping] at bootstrapping
  | restarts phase => simp [phase, Phase.isBootstrapping] at bootstrapping
  | reforms phase => simp [phase, Phase.isBootstrapping] at bootstrapping

/-- The recorded generation changes only when a bootstrap step completes. -/
theorem Moves.recordedGeneration_eq {transition : Transition}
    (moves : Moves spec observed status transition)
    (stays : status.phase.isBootstrapping = true →
      transition.status.phase = status.phase) :
    transition.status.recordedGeneration = status.recordedGeneration := by
  cases moves with
  | completesStep bootstrapping seen clear =>
      exact absurd (stays bootstrapping) status.phase.successor_ne_self
  | _ => rfl

/-- A pass that waits keeps the status. -/
theorem Moves.status_of_waiting {transition : Transition} {reason : WaitReason}
    (moves : Moves spec observed status transition)
    (waits : transition.outcome = .waiting reason) : transition.status = status := by
  cases moves with
  | waits reason => rfl
  | _ => simp [Transition.advance] at waits

/-- A change of phase that is told is the one that was made. -/
theorem Moves.phases_of_phaseChanged {transition : Transition} {before after : Phase}
    (moves : Moves spec observed status transition)
    (changed : transition.outcome = .phaseChanged before after) :
    before = status.phase ∧ after = transition.status.phase ∧ before ≠ after := by
  cases moves with
  | completesStep bootstrapping seen clear =>
      rcases Outcome.phaseChanged.inj changed with ⟨rfl, rfl⟩
      exact ⟨rfl, rfl, status.phase.successor_ne_self.symm⟩
  | leavesFresh phase | leavesPreFlight phase | losesReplicas phase =>
      rcases Outcome.phaseChanged.inj changed with ⟨rfl, rfl⟩
      simp [phase]
  | reforms phase =>
      rcases Outcome.phaseChanged.inj changed with ⟨rfl, rfl⟩
      simp [phase]
  | _ => simp [Transition.wait] at changed

/-- A phase is changed only with an outcome that tells so. -/
theorem Moves.phase_eq_of_outcome {transition : Transition}
    (moves : Moves spec observed status transition)
    (kept : ∀ before after, transition.outcome ≠ .phaseChanged before after) :
    transition.status.phase = status.phase := by
  cases moves with
  | leavesFresh | leavesPreFlight | completesStep | losesReplicas | reforms =>
      exact absurd rfl (kept _ _)
  | _ => rfl

end Rows

end ClusterStatus

end GaleraControl
