import GaleraControl.Proofs.Lifetime
import GaleraControl.Proofs.SourceChoice
import Mathlib.Data.Finset.Card

/-!
# The hosts behind the reports

A choice counts reports and compares their sequence numbers, and takes their
hostnames as they are.  Two of its promises rest on these.

As many reports as replicas are desired come from every replica only if no
hostname is reported twice; otherwise some replica was not compared, and it may be
ahead of the chosen one.

A chosen hostname designates a source only if it is not empty.  A named source
stays designated, whatever passes and replicas do, until its pod is found ready.
An unnamed one leaves the recovery where it was, and every pass chooses it again.
-/

namespace GaleraControl

/-! ## Reports and replicas -/

namespace Quorum

/-- The hostnames of reports, as often as they are reported. -/
def hostnames (reports : List ReplicaReport) : List String :=
  reports.map ReplicaReport.hostname

theorem mem_hostnames {reports : List ReplicaReport} {host : String} :
    host ∈ hostnames reports ↔ ∃ report ∈ reports, report.hostname = host :=
  List.mem_map

/-- There are reports of as many different hosts as replicas are desired. -/
def HeardFromAll (reports : List ReplicaReport) (desired : Int32) : Prop :=
  ∃ hosts : Finset String, (hosts.card : Int) = desired.toInt ∧
    ∀ host ∈ hosts, host ∈ hostnames reports

section Heard

variable {reports : List ReplicaReport} {desired : Int32}

/-- The reported hosts are as many as the reports exactly if none of them is repeated. -/
theorem card_hosts_eq_iff :
    (hostnames reports).toFinset.card = reports.length ↔ (hostnames reports).Nodup := by
  have counted : (hostnames reports).length = reports.length := List.length_map _
  rw [← counted]
  exact Multiset.toFinset_card_eq_card_iff_nodup (m := (hostnames reports : Multiset String))

/-- Hosts that have all reported are at most as many as the reports, and then all that did. -/
theorem nodup_of_reported {hosts : Finset String} (enough : reports.length ≤ hosts.card)
    (reported : ∀ host ∈ hosts, host ∈ hostnames reports) : (hostnames reports).Nodup := by
  have within : hosts ⊆ (hostnames reports).toFinset := by
    intro host member
    exact List.mem_toFinset.mpr (reported host member)
  have most : (hostnames reports).toFinset.card ≤ reports.length := by
    simpa [hostnames] using (hostnames reports).toFinset_card_le
  have least : hosts.card ≤ (hostnames reports).toFinset.card := Finset.card_le_card within
  exact card_hosts_eq_iff.mp (Nat.le_antisymm most (Nat.le_trans enough least))

/-- Distinct reports leave out none of the hosts that they may come from. -/
theorem reported_of_nodup {hosts : Finset String} (few : hosts.card ≤ reports.length)
    (among : ∀ report ∈ reports, report.hostname ∈ hosts) (distinct : (hostnames reports).Nodup) :
    ∀ host ∈ hosts, host ∈ hostnames reports := by
  have within : (hostnames reports).toFinset ⊆ hosts := by
    intro host member
    rcases mem_hostnames.mp (List.mem_toFinset.mp member) with ⟨report, present, rfl⟩
    exact among report present
  have same : (hostnames reports).toFinset = hosts := by
    refine Finset.eq_of_subset_of_card_le within ?_
    rw [card_hosts_eq_iff.mpr distinct]
    exact few
  intro host member
  rw [← same] at member
  exact List.mem_toFinset.mp member

theorem heardFromAll_iff_nodup (complete : (reports.length : Int) = desired.toInt) :
    HeardFromAll reports desired ↔ (hostnames reports).Nodup := by
  constructor
  · rintro ⟨hosts, counted, reported⟩
    exact nodup_of_reported (by omega) reported
  · intro distinct
    refine ⟨(hostnames reports).toFinset, ?_, fun host member => List.mem_toFinset.mp member⟩
    rw [card_hosts_eq_iff.mpr distinct]
    exact complete

end Heard

/--
A source is chosen from reports of all desired replicas exactly if no hostname is
reported twice.  Whatever hosts the replicas are, as long as they are as many as
desired and nobody else reports, each of them was compared with the chosen one, and
found not to be ahead of it, under the same condition.
-/
theorem selected_from_all_iff_nodup {reports : List ReplicaReport} {desired : Int32}
    {hostname : String} {seqNo : Int64}
    (chosen : select reports desired = .selected hostname seqNo) :
    (HeardFromAll reports desired ↔ (hostnames reports).Nodup) ∧
      ∀ replicas : Finset String, (replicas.card : Int) = desired.toInt →
        (∀ report ∈ reports, report.hostname ∈ replicas) →
          ((∀ replica ∈ replicas, ∃ report ∈ reports,
              report.hostname = replica ∧ report.seqNo ≤ seqNo) ↔
            (hostnames reports).Nodup) := by
  rcases select_eq_selected chosen with ⟨complete, _, best, first, _, rfl⟩
  refine ⟨heardFromAll_iff_nodup complete, ?_⟩
  intro replicas counted among
  constructor
  · intro compared
    have enough : reports.length ≤ replicas.card := by omega
    refine nodup_of_reported enough fun replica member => ?_
    rcases compared replica member with ⟨report, present, named, _⟩
    exact mem_hostnames.mpr ⟨report, present, named⟩
  · intro distinct replica member
    have reported := reported_of_nodup (by omega) among distinct replica member
    rcases mem_hostnames.mp reported with ⟨report, present, named⟩
    exact ⟨report, present, named, first.le present⟩

/-- Reports of three replicas, two of which have come equally far. -/
def distinctReports : List ReplicaReport :=
  [⟨"prod-server-0", { seqNo := 5 }⟩, ⟨"prod-server-1", { seqNo := 9 }⟩,
    ⟨"prod-server-2", { seqNo := 9 }⟩]

theorem distinctReports_selected_from_all :
    select distinctReports 3 = .selected "prod-server-1" 9 ∧ HeardFromAll distinctReports 3 := by
  have chosen : select distinctReports 3 = .selected "prod-server-1" 9 := by decide
  exact ⟨chosen, (selected_from_all_iff_nodup chosen).1.mpr (by decide)⟩

/-- Three reports of two replicas: the first has reported again, the third not at all. -/
def repeatedReports : List ReplicaReport :=
  [⟨"prod-server-0", { seqNo := 5 }⟩, ⟨"prod-server-1", { seqNo := 7 }⟩,
    ⟨"prod-server-0", { seqNo := 6 }⟩]

/-- A source is chosen although a replica has not reported. -/
theorem repeatedReports_selected_unheard :
    select repeatedReports 3 = .selected "prod-server-1" 7 ∧
      "prod-server-2" ∉ hostnames repeatedReports ∧
      ¬ ∀ reports desired hostname seqNo, select reports desired = .selected hostname seqNo →
        HeardFromAll reports desired := by
  have chosen : select repeatedReports 3 = .selected "prod-server-1" 7 := by decide
  refine ⟨chosen, by decide, ?_⟩
  intro promised
  have heard := promised repeatedReports 3 "prod-server-1" 7 chosen
  have distinct := (heardFromAll_iff_nodup (by decide)).mp heard
  exact absurd distinct (by decide)

end Quorum

/-! ## Chosen and designated sources -/

/-- The pod of the designated source is seen, and is ready. -/
def Observed.SourceReady (observed : Observed) : Prop :=
  ∃ pod, observed.bootstrapPod = some pod ∧ pod.containersReady = true

namespace LifeEvent

/-- The event is a pass that finds the pod of the source ready. -/
def FindsSource : LifeEvent → Prop
  | .pass _ observed => observed.SourceReady
  | .report _ => False

/-- The event is a pass, and so many replicas are asked for. -/
def PassesFor (replicas : Int32) : LifeEvent → Prop
  | .pass spec _ => spec.replicas = replicas
  | .report _ => False

end LifeEvent

namespace ClusterStatus

/-- The status after events, one after the other. -/
def afterAll (status : ClusterStatus) (events : List LifeEvent) : ClusterStatus :=
  events.foldl after status

@[simp]
theorem afterAll_nil (status : ClusterStatus) : status.afterAll [] = status := rfl

@[simp]
theorem afterAll_cons (status : ClusterStatus) (event : LifeEvent) (events : List LifeEvent) :
    status.afterAll (event :: events) = (status.after event).afterAll events := rfl

theorem next_of_recovery {spec : ClusterSpec} {status : ClusterStatus} {observed : Observed}
    (phase : status.phase = .recovery) :
    status.next spec observed = Recovery.step spec status observed := by
  simp only [next, phase]

/-- The cluster is in recovery, and this source has to become ready. -/
structure Verifies (status : ClusterStatus) (source : String) : Prop where
  phase : status.phase = .recovery
  step : status.recoveryStep = .verifying source

namespace Verifies

variable {spec : ClusterSpec} {observed : Observed} {status : ClusterStatus} {source : String}

theorem next_eq (verifies : status.Verifies source) :
    status.next spec observed = Recovery.verify status source observed.bootstrapPod := by
  rw [next_of_recovery verifies.phase]
  simp only [Recovery.step, verifies.step]

theorem outcome_ne (verifies : status.Verifies source) (other : String) (seqNo : Int64) :
    (status.next spec observed).outcome ≠ .sourceSelected other seqNo := by
  rw [verifies.next_eq]
  unfold Recovery.verify
  split
  · simp [Transition.wait]
  · split <;> simp [Transition.wait]

theorem next_of_unready (verifies : status.Verifies source) (unready : ¬ observed.SourceReady) :
    (status.next spec observed).status = status := by
  rw [verifies.next_eq]
  unfold Recovery.verify
  split
  · rfl
  · next pod seen =>
      rw [if_neg fun ready => unready ⟨pod, seen, ready⟩]
      rfl

theorem after (verifies : status.Verifies source) {event : LifeEvent}
    (unready : ¬ event.FindsSource) : (status.after event).Verifies source := by
  cases event with
  | report reports => exact ⟨verifies.phase, verifies.step⟩
  | pass spec observed =>
      rw [ClusterStatus.after, verifies.next_of_unready unready]
      exact verifies

/-- A designated source stays designated until it is ready. -/
theorem afterAll (verifies : status.Verifies source) {events : List LifeEvent}
    (unready : ∀ event ∈ events, ¬ event.FindsSource) :
    (status.afterAll events).Verifies source := by
  induction events generalizing status with
  | nil => exact verifies
  | cons event events ih =>
      have first := verifies.after (unready event List.mem_cons_self)
      exact ih first fun other member => unready other (List.mem_cons_of_mem event member)

end Verifies

/-- A recovery chooses when neither a source is designated nor a primary component formed. -/
theorem recoveryStep_eq_selecting {status : ClusterStatus}
    (undesignated : status.bootstrapSource = none) (unformed : status.stage ≠ .primaryRecovered) :
    status.recoveryStep = .selecting := by
  simp only [recoveryStep, undesignated, if_neg unformed]

/-- A choice has moved a recovery on: the status tells that this source is to be verified. -/
structure Advances (before : ClusterStatus) (source : String) (after : ClusterStatus) : Prop where
  changed : after ≠ before
  designated : after.bootstrapFrom = some source
  verifies : after.Verifies source
  regarded : after.stage ≠ .invalidReport

section Choice

variable {spec : ClusterSpec} {observed : Observed} {status : ClusterStatus}
  {hostname : String} {seqNo : Int64}

/-- The status once a source is chosen. -/
def withSource (status : ClusterStatus) (hostname : String) : ClusterStatus :=
  { status with
    bootstrapFrom := some hostname
    stage := if status.stage = .invalidReport then .unqualified else status.stage }

theorem stage_withSource_ne (status : ClusterStatus) (hostname : String) :
    (status.withSource hostname).stage ≠ .invalidReport := by
  unfold withSource
  split <;> simp_all

/-- A source is told to be chosen by a pass that has chosen it from the reports. -/
theorem next_of_sourceSelected
    (chosen : (status.next spec observed).outcome = .sourceSelected hostname seqNo) :
    Quorum.select status.reports spec.replicas = .selected hostname seqNo ∧
      status.next spec observed =
        ⟨status.withSource hostname, .sourceSelected hostname seqNo⟩ := by
  have moves := next_moves spec status observed
  generalize computed : status.next spec observed = transition at moves chosen
  cases moves with
  | choosesSource _ _ found =>
      rcases Outcome.sourceSelected.inj chosen with ⟨rfl, rfl⟩
      exact ⟨found, rfl⟩
  | _ => simp [Transition.wait, Transition.advance] at chosen

theorem next_of_selected (phase : status.phase = .recovery)
    (selecting : status.recoveryStep = .selecting)
    (chosen : Quorum.select status.reports spec.replicas = .selected hostname seqNo) :
    status.next spec observed =
      ⟨status.withSource hostname, .sourceSelected hostname seqNo⟩ := by
  rw [next_of_recovery phase]
  simp only [Recovery.step, selecting, Recovery.select, chosen]
  rfl

theorem verifies_withSource (phase : status.phase = .recovery) (named : hostname ≠ "") :
    (status.withSource hostname).Verifies hostname where
  phase := phase
  step := by
    have designated : (status.withSource hostname).bootstrapSource = some hostname := by
      simp [bootstrapSource, withSource, Option.filter_some, named]
    simp only [recoveryStep, designated]

theorem advances_withSource (phase : status.phase = .recovery)
    (selecting : status.recoveryStep = .selecting) (named : hostname ≠ "") :
    status.Advances hostname (status.withSource hostname) where
  changed same := by
    have step := (verifies_withSource phase named).step
    rw [same, selecting] at step
    exact absurd step (by simp)
  designated := rfl
  verifies := verifies_withSource phase named
  regarded := status.stage_withSource_ne hostname

/-- An empty hostname leaves a recovery choosing. -/
theorem recoveryStep_withSource_empty (selecting : status.recoveryStep = .selecting) :
    (status.withSource "").recoveryStep = .selecting := by
  have before := bootstrapSource_of_recoveryStep status
  rw [selecting] at before
  refine recoveryStep_eq_selecting (by simp [bootstrapSource, withSource]) ?_
  unfold withSource
  split
  · simp
  · exact before.2

theorem withSource_withSource (status : ClusterStatus) (hostname : String) :
    (status.withSource hostname).withSource hostname = status.withSource hostname := by
  have kept :
      (if (status.withSource hostname).stage = .invalidReport then .unqualified
        else (status.withSource hostname).stage) = (status.withSource hostname).stage :=
    if_neg (status.stage_withSource_ne hostname)
  rw [withSource, kept]
  rfl

/-- The choice of an empty hostname is made again, and changes nothing more. -/
theorem next_withSource_empty (phase : status.phase = .recovery)
    (selecting : status.recoveryStep = .selecting)
    (chosen : Quorum.select status.reports spec.replicas = .selected "" seqNo) :
    (status.withSource "").next spec observed =
      ⟨status.withSource "", .sourceSelected "" seqNo⟩ := by
  have again : (status.withSource "").next spec observed =
      ⟨(status.withSource "").withSource "", .sourceSelected "" seqNo⟩ :=
    next_of_selected phase (recoveryStep_withSource_empty selecting) chosen
  rw [withSource_withSource] at again
  exact again

theorem afterAll_withSource_empty (phase : status.phase = .recovery)
    (selecting : status.recoveryStep = .selecting)
    (chosen : Quorum.select status.reports spec.replicas = .selected "" seqNo)
    {events : List LifeEvent} (passes : ∀ event ∈ events, event.PassesFor spec.replicas) :
    (status.withSource "").afterAll events = status.withSource "" := by
  induction events with
  | nil => rfl
  | cons event events ih =>
      have kept : (status.withSource "").after event = status.withSource "" := by
        cases event with
        | report reports => exact absurd (passes _ List.mem_cons_self) id
        | pass later observed =>
            have same : later.replicas = spec.replicas := passes _ List.mem_cons_self
            rw [← same] at chosen
            exact congrArg Transition.status (next_withSource_empty phase selecting chosen)
      rw [afterAll_cons, kept]
      exact ih fun other member => passes other (List.mem_cons_of_mem event member)

end Choice

/--
A choice moves the recovery on exactly if the chosen hostname is not empty.  Then
the source is verified by every pass, and no other one is chosen, until its pod is
found ready.  With an empty hostname every further pass for as many replicas makes
the same choice and leaves the status as the first one did.
-/
theorem choice_advances_iff_named {spec : ClusterSpec} {observed : Observed}
    {status : ClusterStatus} {hostname : String} {seqNo : Int64}
    (phase : status.phase = .recovery) (selecting : status.recoveryStep = .selecting)
    (chosen : (status.next spec observed).outcome = .sourceSelected hostname seqNo) :
    (status.Advances hostname (status.next spec observed).status ↔ hostname ≠ "") ∧
      (hostname ≠ "" → ∀ events : List LifeEvent, (∀ event ∈ events, ¬ event.FindsSource) →
        ((status.next spec observed).status.afterAll events).Verifies hostname ∧
          ∀ later seen other reached,
            (((status.next spec observed).status.afterAll events).next later seen).outcome ≠
              .sourceSelected other reached) ∧
      (hostname = "" → ∀ events : List LifeEvent,
        (∀ event ∈ events, event.PassesFor spec.replicas) →
          ∀ later : ClusterSpec, later.replicas = spec.replicas → ∀ seen,
            ((status.next spec observed).status.afterAll events).next later seen =
              ⟨(status.next spec observed).status, .sourceSelected "" seqNo⟩) := by
  rcases next_of_sourceSelected chosen with ⟨selected, computed⟩
  rw [computed]
  refine ⟨⟨?_, advances_withSource phase selecting⟩, ?_, ?_⟩
  · rintro advances rfl
    have step := advances.verifies.step
    rw [recoveryStep_withSource_empty selecting] at step
    exact absurd step (by simp)
  · intro named events unready
    have verifies := (verifies_withSource phase named).afterAll unready
    exact ⟨verifies, fun later seen other reached => verifies.outcome_ne other reached⟩
  · rintro rfl events passes later same seen
    rw [afterAll_withSource_empty phase selecting selected passes]
    rw [← same] at selected
    exact next_withSource_empty phase selecting selected

/-- A recovery in which all replicas have reported, one of them after an unusable report. -/
def reportedRecovery : ClusterStatus :=
  { phase := .recovery, stage := .invalidReport, reports := Quorum.distinctReports }

/-- Its choice is to be verified, and still is when the pod was not ready and replicas report. -/
theorem reportedRecovery_advances :
    reportedRecovery.recoveryStep = .selecting ∧
      (reportedRecovery.next { replicas := 3 } {}).outcome = .sourceSelected "prod-server-1" 9 ∧
      reportedRecovery.Advances "prod-server-1"
        (reportedRecovery.next { replicas := 3 } {}).status ∧
      ((reportedRecovery.next { replicas := 3 } {}).status.afterAll
        [.pass { replicas := 3 } { bootstrapPod := some ⟨"prod-server-1", false⟩ },
          .report []]).Verifies "prod-server-1" := by
  have selecting : reportedRecovery.recoveryStep = .selecting := by decide
  have chosen : (reportedRecovery.next { replicas := 3 } {}).outcome =
      .sourceSelected "prod-server-1" 9 := by decide
  have advances := choice_advances_iff_named rfl selecting chosen
  refine ⟨selecting, chosen, advances.1.mpr (by decide), (advances.2.1 (by decide) _ ?_).1⟩
  intro event member
  rcases List.mem_cons.mp member with rfl | last
  · simp [LifeEvent.FindsSource, Observed.SourceReady]
  · rw [List.mem_singleton.mp last]
    exact id

/-- The only replica of a cluster has reported under an empty hostname. -/
def unnamedRecovery : ClusterStatus :=
  { phase := .recovery, reports := [⟨"", { seqNo := 5 }⟩] }

/-- It is told to be chosen, while the recovery goes on choosing. -/
theorem unnamedRecovery_stays :
    unnamedRecovery.recoveryStep = .selecting ∧
      (unnamedRecovery.next { replicas := 1 } {}).outcome = .sourceSelected "" 5 ∧
      (unnamedRecovery.next { replicas := 1 } {}).status.recoveryStep = .selecting ∧
      ¬ ∀ (spec : ClusterSpec) (observed : Observed) (status : ClusterStatus) hostname seqNo,
        status.phase = .recovery → status.recoveryStep = .selecting →
          (status.next spec observed).outcome = .sourceSelected hostname seqNo →
            status.Advances hostname (status.next spec observed).status := by
  refine ⟨by decide, by decide, by decide, ?_⟩
  intro promised
  have advances := promised { replicas := 1 } {} unnamedRecovery "" 5 rfl (by decide) (by decide)
  exact absurd advances.verifies.step (by decide)

end ClusterStatus

end GaleraControl
