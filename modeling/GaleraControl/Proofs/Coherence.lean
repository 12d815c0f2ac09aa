import GaleraControl.Pass.Sync
import GaleraControl.Proofs.Lifetime
import GaleraControl.Proofs.SourceChoice

/-!
# What a transition may change

The status of a transition goes to the store and its outcome to the event, so the
two have to say the same; and whatever the outcome does not speak of has to stay.
`Coherent` collects what holds of one transition from any status at all, also one
that nobody but an editor would write.  Each part is read off the table of
transitions.
-/

namespace GaleraControl

namespace ClusterStatus

/-- The status is in a phase, or in a step of a recovery, that is judged by the workload. -/
def JudgesWorkload (status : ClusterStatus) : Prop :=
  status.phase.isBootstrapping = true ∨ status.phase = .operational ∨
    (status.phase = .recovery ∧ status.recoveryStep = .reforming)

/-- What a transition from a status may change, and what it tells about it. -/
structure Coherent (observed : Observed) (status : ClusterStatus) (transition : Transition) :
    Prop where
  legal : status.phase.canTransitionTo transition.status.phase = true
  unrefused : ∀ key, Pass.checkTransition key status.phase transition.status.phase = .ok ()
  told : ∀ before after, transition.outcome = .phaseChanged before after ↔
    before = status.phase ∧ after = transition.status.phase ∧ before ≠ after
  waiting : ∀ reason, transition.outcome = .waiting reason → transition.status = status
  recorded : transition.status.recordedGeneration ≠ status.recordedGeneration →
    status.phase.isBootstrapping = true ∧ transition.status.phase ≠ status.phase
  judged : status.phase.isBootstrapping = true → transition.status.phase ≠ status.phase →
    ∃ view, observed.workload = some view ∧
      transition.status.recordedGeneration = view.observedGeneration
  reports : transition.status.reports = status.reports ∨
    (transition.status.reports = [] ∧ transition.status.phase = .operational)
  chosen : ∀ hostname seqNo, transition.outcome = .sourceSelected hostname seqNo →
    transition.status.bootstrapFrom = some hostname ∧
      ∃ report ∈ status.reports, report.hostname = hostname ∧ report.seqNo = seqNo
  designated : (∀ hostname seqNo, transition.outcome ≠ .sourceSelected hostname seqNo) →
    transition.status.bootstrapFrom = status.bootstrapFrom ∨
      transition.status.bootstrapFrom = none
  recovered : ∀ source, transition.outcome = .primaryRecovered source →
    status.bootstrapFrom = some source
  unobserved : observed.workload = none → status.JudgesWorkload → transition.status = status

namespace Moves

variable {spec : ClusterSpec} {observed : Observed} {status : ClusterStatus}
  {transition : Transition}

theorem outcome_of_ne (moves : Moves spec observed status transition)
    (left : transition.status.phase ≠ status.phase) :
    transition.outcome = .phaseChanged status.phase transition.status.phase := by
  cases moves with
  | completesStep bootstrapping seen clear => rfl
  | leavesFresh phase | leavesPreFlight phase | losesReplicas phase | reforms phase =>
      rw [phase]
      rfl
  | _ => exact absurd rfl left

theorem outcome_eq_phaseChanged_iff (moves : Moves spec observed status transition)
    (before after : Phase) :
    transition.outcome = .phaseChanged before after ↔
      before = status.phase ∧ after = transition.status.phase ∧ before ≠ after := by
  constructor
  · exact moves.phases_of_phaseChanged
  · rintro ⟨rfl, rfl, differ⟩
    exact moves.outcome_of_ne (Ne.symm differ)

/-- Only a bootstrap step that completes records another generation. -/
theorem left_of_recordedGeneration_ne (moves : Moves spec observed status transition)
    (recorded : transition.status.recordedGeneration ≠ status.recordedGeneration) :
    status.phase.isBootstrapping = true ∧ transition.status.phase ≠ status.phase := by
  refine Decidable.byContradiction fun stays => recorded (moves.recordedGeneration_eq ?_)
  intro bootstrapping
  exact Decidable.byContradiction fun left => stays ⟨bootstrapping, left⟩

theorem recordedGeneration_of_left (moves : Moves spec observed status transition)
    (bootstrapping : status.phase.isBootstrapping = true)
    (left : transition.status.phase ≠ status.phase) :
    ∃ view, observed.workload = some view ∧
      transition.status.recordedGeneration = view.observedGeneration := by
  rcases moves.completes bootstrapping left with ⟨view, seen, clear, computed⟩
  refine ⟨view, seen, ?_⟩
  rw [computed, Bootstrap.step, clear]
  rfl

/-- Reports are dropped as a whole, and only by a pass that ends in operation. -/
theorem reports_eq_or (moves : Moves spec observed status transition) :
    transition.status.reports = status.reports ∨
      (transition.status.reports = [] ∧ transition.status.phase = .operational) := by
  cases moves with
  | synchronizes phase => exact Or.inr ⟨rfl, phase⟩
  | reforms => exact Or.inr ⟨rfl, rfl⟩
  | _ => exact Or.inl rfl

/-- A source that is told to be chosen is designated, and has reported what is told. -/
theorem reported_of_sourceSelected (moves : Moves spec observed status transition)
    {hostname : String} {seqNo : Int64}
    (told : transition.outcome = .sourceSelected hostname seqNo) :
    transition.status.bootstrapFrom = some hostname ∧
      ∃ report ∈ status.reports, report.hostname = hostname ∧ report.seqNo = seqNo := by
  cases moves with
  | choosesSource phase step chosen =>
      rcases Outcome.sourceSelected.inj told with ⟨rfl, rfl⟩
      rcases Quorum.select_eq_selected chosen with ⟨_, _, best, first, named, counted⟩
      exact ⟨rfl, best, first.mem, named, counted⟩
  | _ => simp [Transition.wait, Transition.advance] at told

/-- No other pass designates a source. -/
theorem bootstrapFrom_eq_or (moves : Moves spec observed status transition)
    (unchosen : ∀ hostname seqNo, transition.outcome ≠ .sourceSelected hostname seqNo) :
    transition.status.bootstrapFrom = status.bootstrapFrom ∨
      transition.status.bootstrapFrom = none := by
  cases moves with
  | choosesSource => exact absurd rfl (unchosen _ _)
  | synchronizes | recoversPrimary | reforms => exact Or.inr rfl
  | _ => exact Or.inl rfl

/-- A primary component is told to be formed by the source that was designated. -/
theorem designated_of_primaryRecovered (moves : Moves spec observed status transition)
    {source : String} (told : transition.outcome = .primaryRecovered source) :
    status.bootstrapFrom = some source := by
  cases moves with
  | recoversPrimary phase step =>
      obtain rfl := Outcome.primaryRecovered.inj told
      have source := bootstrapSource_of_recoveryStep status
      rw [step] at source
      exact (Option.filter_eq_some_iff.mp source).1
  | _ => simp [Transition.wait, Transition.advance] at told

/-- A workload that is not seen changes nothing where it is judged. -/
theorem status_of_unobserved (moves : Moves spec observed status transition)
    (unseen : observed.workload = none) (judges : status.JudgesWorkload) :
    transition.status = status := by
  cases moves with
  | waits reason => rfl
  | completesStep _ seen | losesReplicas _ seen | synchronizes _ seen | restarts _ _ seen
  | reforms _ _ seen => exact absurd (unseen.symm.trans seen) (by simp)
  | leavesFresh phase | leavesPreFlight phase =>
      simp [JudgesWorkload, phase, Phase.isBootstrapping] at judges
  | choosesSource phase step | refusesReports phase step | recoversPrimary phase step =>
      simp [JudgesWorkload, phase, step, Phase.isBootstrapping] at judges

end Moves

/--
Whatever the specification, the status and the observation are, the transition is
coherent.  Its phase is one that may follow, so no pass refuses it; a change of phase
is told if and only if there is one; a pass that waits changes nothing; the recorded
generation is that of the workload that completed a bootstrap step; reports are kept
or dropped as a whole, the latter in operation; a source is designated by a choice
only, and from the reports; and an unseen workload changes nothing where it is judged.
-/
theorem next_coherent (spec : ClusterSpec) (status : ClusterStatus) (observed : Observed) :
    Coherent observed status (status.next spec observed) := by
  have moves := next_moves spec status observed
  exact
    { legal := moves.legal
      unrefused := fun _ => if_pos moves.legal
      told := moves.outcome_eq_phaseChanged_iff
      waiting := fun _ waits => moves.status_of_waiting waits
      recorded := moves.left_of_recordedGeneration_ne
      judged := moves.recordedGeneration_of_left
      reports := moves.reports_eq_or
      chosen := fun _ _ told => moves.reported_of_sourceSelected told
      designated := moves.bootstrapFrom_eq_or
      recovered := fun _ told => moves.designated_of_primaryRecovered told
      unobserved := moves.status_of_unobserved }

end ClusterStatus

end GaleraControl
