import GaleraControl.Proofs.ReportedHosts
import Mathlib.Data.Nat.Prime.Basic
import Mathlib.Dynamics.PeriodicPts.Lemmas

/-!
# Settling

Passes that see the same again and again come to rest: after four of them at most
the status does not change any more.  There is one exception.  When every replica is
lost while the pod of the source is ready, a recovery whose reports name a source
starts over for ever, in rounds of three passes.

The passes that one observation allows form a graph with few edges, so the bound is
proved backwards along it, from the steps that rest to those that lead there.
-/

namespace GaleraControl

open Function (IsFixedPt IsPeriodicPt minimalPeriod iterate_succ_apply iterate_add_apply)

/-- The workload is seen, and none of its replicas is ready. -/
def Observed.AllLost (observed : Observed) : Prop :=
  ∃ view, observed.workload = some view ∧ view.ready = 0

/-- The reports decide for a source, and this one has a name. -/
def Quorum.Names (reports : List ReplicaReport) (desired : Int32) (source : String) : Prop :=
  source ≠ "" ∧ ∃ seqNo, Quorum.select reports desired = .selected source seqNo

/-- After a bootstrap phase comes operation, or a phase that waits for a change. -/
theorem Phase.successor_of_bootstrapping (phase : Phase)
    (bootstrapping : phase.isBootstrapping = true) :
    phase.successor = .operational ∨
      (phase.successor.isBootstrapping = true ∧ phase.successor ≠ .bootstrapFirst) := by
  cases phase <;> simp_all [isBootstrapping, successor]

namespace ClusterStatus

/-- The status after one more pass that sees the same. -/
def again (spec : ClusterSpec) (observed : Observed) (status : ClusterStatus) : ClusterStatus :=
  (status.next spec observed).status

/-- Passes that see the same leave the status at rest after so many of them. -/
def SettlesWithin (spec : ClusterSpec) (observed : Observed) (passes : Nat)
    (status : ClusterStatus) : Prop :=
  IsFixedPt (again spec observed) ((again spec observed)^[passes] status)

namespace SettlesWithin

variable {spec : ClusterSpec} {observed : Observed} {status : ClusterStatus} {passes more : Nat}

theorem of_rest (rests : status.again spec observed = status) :
    SettlesWithin spec observed passes status := by
  have fixed : IsFixedPt (again spec observed) status := rests
  rw [SettlesWithin, Function.iterate_fixed rests]
  exact fixed

theorem of_again (settles : SettlesWithin spec observed passes (status.again spec observed)) :
    SettlesWithin spec observed (passes + 1) status := by
  rw [SettlesWithin, iterate_succ_apply]
  exact settles

theorem mono (settles : SettlesWithin spec observed passes status) (le : passes ≤ more) :
    SettlesWithin spec observed more status := by
  rcases Nat.exists_eq_add_of_le' le with ⟨rest, rfl⟩
  rw [SettlesWithin, iterate_add_apply, Function.iterate_fixed settles]
  exact settles

end SettlesWithin

/-! ## One more pass -/

/-- A formed cluster that has lost its replicas. -/
def fallen (status : ClusterStatus) : ClusterStatus :=
  { status with phase := .recovery, stage := .unqualified }

/-- The status once the source is ready. -/
def recovered (status : ClusterStatus) : ClusterStatus :=
  { status with stage := .primaryRecovered, bootstrapFrom := none }

/-- The status of a recovery that starts over. -/
def restarted (status : ClusterStatus) : ClusterStatus :=
  { status with stage := .unqualified }

section Rows

variable {spec : ClusterSpec} {observed : Observed} {status : ClusterStatus} {source : String}

theorem recoveryStep_recovered (status : ClusterStatus) :
    status.recovered.recoveryStep = .reforming := rfl

theorem recoveryStep_restarted (step : status.recoveryStep = .reforming) :
    status.restarted.recoveryStep = .selecting := by
  have before := bootstrapSource_of_recoveryStep status
  rw [step] at before
  exact recoveryStep_eq_selecting before.1 (by simp [restarted])

theorem again_of_bootstrapping (bootstrapping : status.phase.isBootstrapping = true) :
    status.again spec observed = (Bootstrap.step spec status observed.workload).status := by
  cases phase : status.phase <;> simp_all [again, next, Phase.isBootstrapping]

theorem again_of_operational (phase : status.phase = .operational) :
    status.again spec observed = (Operation.step status observed.workload).status := by
  simp only [again, next, phase]

theorem again_of_selecting (phase : status.phase = .recovery)
    (step : status.recoveryStep = .selecting) :
    status.again spec observed = (Recovery.select spec status).status := by
  simp only [again, next, phase, Recovery.step, step]

theorem again_of_reforming (phase : status.phase = .recovery)
    (step : status.recoveryStep = .reforming) :
    status.again spec observed = (Recovery.reform status observed.workload).status := by
  simp only [again, next, phase, Recovery.step, step]

theorem again_of_lost (phase : status.phase = .operational) (lost : observed.AllLost) :
    status.again spec observed = status.fallen := by
  rcases lost with ⟨view, seen, none⟩
  rw [again_of_operational phase, seen, Operation.step, if_pos none]
  rfl

theorem again_of_selected {seqNo : Int64} (phase : status.phase = .recovery)
    (step : status.recoveryStep = .selecting)
    (chosen : Quorum.select status.reports spec.replicas = .selected source seqNo) :
    status.again spec observed = status.withSource source := by
  rw [again, next_of_selected phase step chosen]

theorem again_of_ready (verifies : status.Verifies source) (ready : observed.SourceReady) :
    status.again spec observed = status.recovered := by
  rcases ready with ⟨pod, seen, containers⟩
  rw [again, verifies.next_eq, seen, Recovery.verify, if_pos containers]
  rfl

theorem again_of_restarted (phase : status.phase = .recovery)
    (step : status.recoveryStep = .reforming) (lost : observed.AllLost) :
    status.again spec observed = status.restarted := by
  rcases lost with ⟨view, seen, none⟩
  rw [again_of_reforming phase step, seen, Recovery.reform, if_pos none]
  rfl

/-- A source that is ready while every replica is lost brings the recovery to its start. -/
theorem again_again_of_ready (verifies : status.Verifies source) (ready : observed.SourceReady)
    (lost : observed.AllLost) :
    (status.again spec observed).again spec observed = status.recovered.restarted := by
  rw [again_of_ready verifies ready]
  exact again_of_restarted verifies.phase status.recoveryStep_recovered lost

/-- A formed cluster with some replica ready is synchronized at once, or waits. -/
theorem operation_settles (phase : status.phase = .operational) (present : ¬ observed.AllLost) :
    SettlesWithin spec observed 1 status := by
  cases seen : observed.workload with
  | none =>
      refine .of_rest ?_
      rw [again_of_operational phase, seen]
      rfl
  | some view =>
      have some : view.ready ≠ 0 := fun none => present ⟨view, seen, none⟩
      by_cases ready : view.isReady = true
      · have synced {before : ClusterStatus} (operational : before.phase = .operational) :
            before.again spec observed =
              { before with stage := .synced, reports := [], bootstrapFrom := none } := by
          rw [again_of_operational operational, seen, Operation.step, if_neg some, if_pos ready]
        refine .of_again (.of_rest ?_)
        rw [synced phase]
        exact synced phase
      · refine .of_rest ?_
        rw [again_of_operational phase, seen, Operation.step, if_neg some, if_neg ready]
        rfl

theorem reforming_settles (phase : status.phase = .recovery)
    (step : status.recoveryStep = .reforming) (present : ¬ observed.AllLost) :
    SettlesWithin spec observed 2 status := by
  cases seen : observed.workload with
  | none =>
      refine .of_rest ?_
      rw [again_of_reforming phase step, seen]
      rfl
  | some view =>
      have some : view.ready ≠ 0 := fun none => present ⟨view, seen, none⟩
      by_cases ready : view.isReady = true
      · refine .of_again (operation_settles ?_ present)
        rw [again_of_reforming phase step, seen, Recovery.reform, if_neg some, if_pos ready]
        rfl
      · refine .of_rest ?_
        rw [again_of_reforming phase step, seen, Recovery.reform, if_neg some, if_neg ready]
        rfl

/-- A source is verified for ever, or the recovery goes on to form the cluster again. -/
theorem verifying_settles {passes : Nat} (verifies : status.Verifies source)
    (further : SettlesWithin spec observed passes status.recovered) :
    SettlesWithin spec observed (passes + 1) status := by
  by_cases ready : observed.SourceReady
  · refine .of_again ?_
    rw [again_of_ready verifies ready]
    exact further
  · exact .of_rest (verifies.next_of_unready ready)

/-- A choice that names no source rests after one pass. -/
theorem selecting_settles {passes : Nat} (phase : status.phase = .recovery)
    (step : status.recoveryStep = .selecting)
    (further : ∀ source, Quorum.Names status.reports spec.replicas source →
      SettlesWithin spec observed passes (status.withSource source)) :
    SettlesWithin spec observed (passes + 1) status := by
  cases decided : Quorum.select status.reports spec.replicas with
  | pending reported desired =>
      refine .of_rest ?_
      rw [again_of_selecting phase step, Recovery.select, decided]
      rfl
  | invalidReport hostnames =>
      have refused {before : ClusterStatus} (same : before.reports = status.reports)
          (recovering : before.phase = .recovery)
          (selecting : before.recoveryStep = .selecting) :
          before.again spec observed = { before with stage := .invalidReport } := by
        rw [again_of_selecting recovering selecting, Recovery.select, same, decided]
      have undesignated := bootstrapSource_of_recoveryStep status
      rw [step] at undesignated
      refine .of_again (.of_rest ?_)
      rw [refused rfl phase step]
      exact refused rfl phase (recoveryStep_eq_selecting undesignated.1 (by simp))
  | selected source seqNo =>
      refine .of_again ?_
      rw [again_of_selected phase step decided]
      by_cases named : source = ""
      · rw [named] at decided ⊢
        exact .of_rest (congrArg Transition.status (next_withSource_empty phase step decided))
      · exact further source ⟨named, seqNo, decided⟩

/-- With some replica ready a recovery ends or waits. -/
theorem recovery_settles (phase : status.phase = .recovery) (present : ¬ observed.AllLost) :
    SettlesWithin spec observed 4 status := by
  have verifying {before : ClusterStatus} {source : String} (verifies : before.Verifies source) :
      SettlesWithin spec observed 3 before :=
    verifying_settles verifies
      (reforming_settles verifies.phase (recoveryStep_recovered before) present)
  cases step : status.recoveryStep with
  | reforming => exact (reforming_settles phase step present).mono (by decide)
  | verifying source => exact (verifying ⟨phase, step⟩).mono (by decide)
  | selecting =>
      refine selecting_settles phase step fun source names => ?_
      exact verifying (verifies_withSource phase names.1)

/-- With every replica lost a recovery waits for its source, or for reports that name one. -/
theorem lost_recovery_settles (phase : status.phase = .recovery) (lost : observed.AllLost)
    (stuck : ∀ source, Quorum.Names status.reports spec.replicas source →
      ¬ observed.SourceReady) :
    SettlesWithin spec observed 3 status := by
  have selecting {before : ClusterStatus} (same : before.reports = status.reports)
      (recovering : before.phase = .recovery) (step : before.recoveryStep = .selecting) :
      SettlesWithin spec observed 1 before := by
    refine selecting_settles recovering step fun source names => .of_rest ?_
    rw [same] at names
    exact (verifies_withSource recovering names.1).next_of_unready (stuck source names)
  have reforming {before : ClusterStatus} (same : before.reports = status.reports)
      (recovering : before.phase = .recovery) (step : before.recoveryStep = .reforming) :
      SettlesWithin spec observed 2 before := by
    refine .of_again ?_
    rw [again_of_restarted recovering step lost]
    exact selecting same recovering (recoveryStep_restarted step)
  cases step : status.recoveryStep with
  | selecting => exact (selecting rfl phase step).mono (by decide)
  | reforming => exact (reforming rfl phase step).mono (by decide)
  | verifying source =>
      exact verifying_settles ⟨phase, step⟩
        (reforming rfl phase (recoveryStep_recovered status))

/-- A completed bootstrap step has recorded what the next one would have to exceed. -/
theorem completed_settles {view : WorkloadView}
    (bootstrapping : status.phase.isBootstrapping = true)
    (seen : observed.workload = some view)
    (clear : Bootstrap.obstacle? spec status view = none) :
    SettlesWithin spec observed 1
      { status with
        phase := status.phase.successor
        recordedGeneration := view.observedGeneration } := by
  rcases status.phase.successor_of_bootstrapping bootstrapping with formed | ⟨forming, later⟩
  · refine operation_settles formed ?_
    rintro ⟨other, same, none⟩
    obtain rfl := Option.some.inj (seen.symm.trans same)
    have running := (Bootstrap.obstacle?_eq_none_iff.mp clear).2.2.2.1
    rw [none] at running
    exact Bootstrap.not_nodes_le_zero status.phase running
  · refine .of_rest ?_
    rw [again_of_bootstrapping forming, seen, Bootstrap.step]
    split
    · rfl
    · next unblocked =>
        rcases (Bootstrap.obstacle?_eq_none_iff.mp unblocked).2.1 with first | updated
        · exact absurd first later
        · exact absurd (of_decide_eq_true updated) (Int64.lt_irrefl)

/-- A bootstrap step that completes leaves the next one waiting, or forms the cluster. -/
theorem bootstrapping_settles (bootstrapping : status.phase.isBootstrapping = true) :
    SettlesWithin spec observed 2 status := by
  cases seen : observed.workload with
  | none =>
      refine .of_rest ?_
      rw [again_of_bootstrapping bootstrapping, seen]
      rfl
  | some view =>
      cases blocked : Bootstrap.obstacle? spec status view with
      | some reason =>
          refine .of_rest ?_
          rw [again_of_bootstrapping bootstrapping, seen, Bootstrap.step, blocked]
          rfl
      | none =>
          refine .of_again ?_
          rw [again_of_bootstrapping bootstrapping, seen, Bootstrap.step, blocked]
          exact completed_settles bootstrapping seen blocked

end Rows

/-! ## Coming to rest, or starting over for ever -/

/-- Every replica is lost, the pod of the source is ready, and the reports name a source. -/
structure Restless (spec : ClusterSpec) (observed : Observed) (status : ClusterStatus) : Prop where
  formed : status.phase = .operational ∨ status.phase = .recovery
  lost : observed.AllLost
  ready : observed.SourceReady
  named : ∃ source, Quorum.Names status.reports spec.replicas source

section Rest

variable {spec : ClusterSpec} {observed : Observed} {status : ClusterStatus} {source : String}

/-- A formed cluster comes to rest unless it is restless. -/
theorem formed_settles (formed : status.phase = .operational ∨ status.phase = .recovery)
    (calm : ¬ Restless spec observed status) : SettlesWithin spec observed 4 status := by
  by_cases lost : observed.AllLost
  · have stuck : ∀ source, Quorum.Names status.reports spec.replicas source →
        ¬ observed.SourceReady := fun source names ready => calm ⟨formed, lost, ready, source, names⟩
    rcases formed with phase | phase
    · refine .of_again ?_
      rw [again_of_lost phase lost]
      exact lost_recovery_settles rfl lost stuck
    · exact (lost_recovery_settles phase lost stuck).mono (by decide)
  · rcases formed with phase | phase
    · exact (operation_settles phase lost).mono (by decide)
    · exact recovery_settles phase lost

/-- Everything that is not restless comes to rest within four passes. -/
theorem settles_of_calm (calm : ¬ Restless spec observed status) :
    SettlesWithin spec observed 4 status := by
  have checked {before : ClusterStatus} (phase : before.phase = .preFlight) :
      SettlesWithin spec observed 3 before := by
    refine .of_again (bootstrapping_settles ?_)
    simp only [again, next, phase]
    rfl
  cases phase : status.phase with
  | fresh =>
      refine .of_again (checked ?_)
      simp only [again, next, phase]
      rfl
  | preFlight => exact (checked phase).mono (by decide)
  | bootstrapFirst | bootstrapFirstRestart | bootstrapSecond | bootstrapThird =>
      exact (bootstrapping_settles (by rw [phase]; rfl)).mono (by decide)
  | operational => exact formed_settles (Or.inl phase) calm
  | recovery => exact formed_settles (Or.inr phase) calm

/-- A recovery that chooses, and of which nothing is left from before. -/
structure Begins (spec : ClusterSpec) (observed : Observed) (status : ClusterStatus) : Prop where
  restless : Restless spec observed status
  phase : status.phase = .recovery
  stage : status.stage = .unqualified
  undesignated : status.bootstrapFrom = none

/-- What a pass makes of a restless status; none of its turns touches the reports. -/
inductive Turn (spec : ClusterSpec) (status : ClusterStatus) : ClusterStatus → Prop where
  | falls (phase : status.phase = .operational) : Turn spec status status.fallen
  | chooses {source : String} (phase : status.phase = .recovery)
      (step : status.recoveryStep = .selecting)
      (names : Quorum.Names status.reports spec.replicas source) :
      Turn spec status (status.withSource source)
  | recovers {source : String} (verifies : status.Verifies source) :
      Turn spec status status.recovered
  | restarts (phase : status.phase = .recovery) (step : status.recoveryStep = .reforming) :
      Turn spec status status.restarted

namespace Restless

theorem turn (restless : Restless spec observed status) :
    Turn spec status (status.again spec observed) := by
  rcases restless.formed with phase | phase
  · rw [again_of_lost phase restless.lost]
    exact .falls phase
  · cases step : status.recoveryStep with
    | selecting =>
        rcases restless.named with ⟨source, named, seqNo, chosen⟩
        rw [again_of_selected phase step chosen]
        exact .chooses phase step ⟨named, seqNo, chosen⟩
    | verifying source =>
        have verifies : status.Verifies source := ⟨phase, step⟩
        rw [again_of_ready verifies restless.ready]
        exact .recovers verifies
    | reforming =>
        rw [again_of_restarted phase step restless.lost]
        exact .restarts phase step

theorem again (restless : Restless spec observed status) :
    Restless spec observed (status.again spec observed) := by
  have turn := restless.turn
  generalize status.again spec observed = after at turn ⊢
  cases turn with
  | falls phase => exact ⟨Or.inr rfl, restless.lost, restless.ready, restless.named⟩
  | chooses phase step names =>
      exact ⟨Or.inr phase, restless.lost, restless.ready, restless.named⟩
  | recovers verifies =>
      exact ⟨Or.inr verifies.phase, restless.lost, restless.ready, restless.named⟩
  | restarts phase step => exact ⟨Or.inr phase, restless.lost, restless.ready, restless.named⟩

theorem iterate (restless : Restless spec observed status) (passes : Nat) :
    Restless spec observed ((ClusterStatus.again spec observed)^[passes] status) := by
  induction passes generalizing status with
  | zero => exact restless
  | succ passes ih => exact ih restless.again

/-- Every turn changes the phase or the step of the recovery. -/
theorem not_isFixedPt (restless : Restless spec observed status) :
    ¬ IsFixedPt (ClusterStatus.again spec observed) status := by
  intro rests
  have turn := restless.turn
  have same : status.again spec observed = status := rests
  generalize status.again spec observed = after at turn same
  cases turn with
  | falls phase =>
      have fell : status.fallen.phase = .recovery := rfl
      rw [same, phase] at fell
      exact absurd fell (by simp)
  | chooses phase step names =>
      have verifies := (verifies_withSource phase names.1).step
      rw [same, step] at verifies
      exact absurd verifies (by simp)
  | recovers verifies =>
      have reforms := status.recoveryStep_recovered
      rw [same, verifies.step] at reforms
      exact absurd reforms (by simp)
  | restarts phase step =>
      have selects := recoveryStep_restarted step
      rw [same, step] at selects
      exact absurd selects (by simp)

/-- The next two passes of a recovery that verifies its source bring it to a new beginning. -/
theorem begins_of_verifies (restless : Restless spec observed status)
    (verifies : status.Verifies source) :
    Begins spec observed ((ClusterStatus.again spec observed)^[2] status) := by
  have reached : (ClusterStatus.again spec observed)^[2] status = status.recovered.restarted :=
    again_again_of_ready verifies restless.ready restless.lost
  refine ⟨restless.iterate 2, ?_, ?_, ?_⟩ <;> rw [reached]
  · exact verifies.phase
  · rfl
  · rfl

theorem begins_of_selecting (restless : Restless spec observed status)
    (phase : status.phase = .recovery) (step : status.recoveryStep = .selecting) :
    Begins spec observed ((ClusterStatus.again spec observed)^[3] status) := by
  rcases restless.named with ⟨source, named, seqNo, chosen⟩
  have verifies : (status.again spec observed).Verifies source := by
    rw [again_of_selected phase step chosen]
    exact verifies_withSource phase named
  rw [iterate_succ_apply]
  exact restless.again.begins_of_verifies verifies

/-- Every restless status comes to such a beginning. -/
theorem exists_begins (restless : Restless spec observed status) :
    ∃ start ≤ 4, Begins spec observed ((ClusterStatus.again spec observed)^[start] status) := by
  -- The pass that loses the cluster may leave a source of an earlier recovery designated.
  have choosing {before : ClusterStatus} (holds : Restless spec observed before)
      (phase : before.phase = .recovery) (unformed : before.stage ≠ .primaryRecovered) :
      ∃ start ≤ 3, Begins spec observed ((ClusterStatus.again spec observed)^[start] before) := by
    cases step : before.recoveryStep with
    | selecting => exact ⟨3, Nat.le_refl 3, holds.begins_of_selecting phase step⟩
    | verifying source => exact ⟨2, by decide, holds.begins_of_verifies ⟨phase, step⟩⟩
    | reforming =>
        have formed := bootstrapSource_of_recoveryStep before
        rw [step] at formed
        exact absurd formed.2 unformed
  have later (phase : (status.again spec observed).phase = .recovery)
      (unformed : (status.again spec observed).stage ≠ .primaryRecovered) :
      ∃ start ≤ 4, Begins spec observed
        ((ClusterStatus.again spec observed)^[start] status) := by
    rcases choosing restless.again phase unformed with ⟨start, few, begins⟩
    exact ⟨start + 1, Nat.succ_le_succ few, begins⟩
  have turn := restless.turn
  generalize computed : status.again spec observed = after at turn
  cases turn with
  | falls phase => exact later (by rw [computed]; rfl) (by rw [computed]; simp [fallen])
  | chooses phase step names => exact ⟨3, by decide, restless.begins_of_selecting phase step⟩
  | recovers verifies => exact ⟨2, by decide, restless.begins_of_verifies verifies⟩
  | restarts phase step =>
      exact later (by rw [computed]; exact phase) (by rw [computed]; simp [restarted])

end Restless

/-- Three passes in a row choose a source, find it ready, and start over. -/
structure Round (spec : ClusterSpec) (observed : Observed) (source : String)
    (status : ClusterStatus) : Prop where
  recovering : status.phase = .recovery
  selecting : status.recoveryStep = .selecting
  verifying : (status.again spec observed).Verifies source
  reforming : ((status.again spec observed).again spec observed).recoveryStep = .reforming
  returns : IsPeriodicPt (again spec observed) 3 status

theorem Begins.round (begins : Begins spec observed status)
    (names : Quorum.Names status.reports spec.replicas source) :
    Round spec observed source status := by
  rcases names with ⟨named, seqNo, chosen⟩
  have selecting : status.recoveryStep = .selecting :=
    recoveryStep_eq_selecting (bootstrapSource_of_none begins.undesignated)
      (by simp [begins.stage])
  have verifies := verifies_withSource begins.phase named
  have selected : status.again spec observed = status.withSource source :=
    again_of_selected begins.phase selecting chosen
  have closed : (status.withSource source).recovered.restarted = status := by
    have stage := begins.stage
    have undesignated := begins.undesignated
    cases status
    simp_all [withSource, recovered, restarted]
  refine ⟨begins.phase, selecting, ?_, ?_, ?_⟩
  · rw [selected]
    exact verifies
  · rw [selected, again_of_ready verifies begins.restless.ready]
    exact recoveryStep_recovered _
  · have cycle : ((status.withSource source).again spec observed).again spec observed =
        (status.withSource source).recovered.restarted :=
      again_again_of_ready verifies begins.restless.ready begins.restless.lost
    rw [closed, ← selected] at cycle
    exact cycle

/-- A round is as long as the least period of the sequence. -/
theorem Round.minimalPeriod_eq (round : Round spec observed source status)
    (restless : Restless spec observed status) :
    minimalPeriod (again spec observed) status = 3 :=
  Function.minimalPeriod_eq_prime round.returns restless.not_isFixedPt

end Rest

/--
Under one specification and one observation every status comes to rest after at
most four passes, unless it is restless.  A restless one never does: from the
fourth pass at the latest the sequence has the least period three, and each of its
rounds chooses the same source, finds it ready, and starts over.
-/
theorem settles_or_starts_over (spec : ClusterSpec) (observed : Observed)
    (status : ClusterStatus) :
    ((∃ passes ≤ 4, IsFixedPt (again spec observed) ((again spec observed)^[passes] status)) ↔
        ¬ Restless spec observed status) ∧
      (Restless spec observed status →
        (∀ passes, ¬ IsFixedPt (again spec observed)
          ((again spec observed)^[passes] status)) ∧
        ∃ start ≤ 4, ∃ source ≠ "",
          minimalPeriod (again spec observed) ((again spec observed)^[start] status) = 3 ∧
            ∀ rounds, Round spec observed source
              ((again spec observed)^[3 * rounds + start] status)) := by
  refine ⟨⟨?_, fun calm => ⟨4, Nat.le_refl 4, settles_of_calm calm⟩⟩, fun restless => ⟨?_, ?_⟩⟩
  · rintro ⟨passes, _, rests⟩ restless
    exact (restless.iterate passes).not_isFixedPt rests
  · exact fun passes => (restless.iterate passes).not_isFixedPt
  · rcases restless.exists_begins with ⟨start, few, begins⟩
    rcases begins.restless.named with ⟨source, names⟩
    have round := begins.round names
    refine ⟨start, few, source, names.1, round.minimalPeriod_eq begins.restless, ?_⟩
    intro rounds
    have returns := round.returns.const_mul rounds
    rw [Nat.mul_comm] at returns
    rw [iterate_add_apply, returns.eq]
    exact round

/-- A recovery whose replicas are all ready chooses, verifies, ends and is synchronized. -/
example :
    let observed : Observed :=
      { workload := some { desired := 1, current := 1, replicas := 1, ready := 1 }
        bootstrapPod := some ⟨"prod-server-0", true⟩ }
    let status : ClusterStatus :=
      { phase := .recovery, reports := [⟨"prod-server-0", { seqNo := 5 }⟩] }
    (again { replicas := 1 } observed)^[3] status ≠
      (again { replicas := 1 } observed)^[4] status := by
  decide

end ClusterStatus

end GaleraControl
