import GaleraControl.Transition

/-!
# Events

What the controller announces about a cluster.  Every transition that was
written is announced by one event; a pass that waits announces nothing.
-/

namespace GaleraControl

/-- How serious an event is. -/
inductive Severity where
  | normal
  | warning
deriving DecidableEq, Repr

/-- The name of a severity. -/
def Severity.text : Severity → String
  | .normal => "Normal"
  | .warning => "Warning"

/-- Why an event is published. -/
inductive EventReason where
  | phaseTransition
  /-- The cluster is operational and every replica is ready. -/
  | clusterSynced
  /-- No replica is ready, and a recovery started. -/
  | recoveryStarted
  | bootstrapSourceSelected
  | invalidReport
  | primaryRecovered
  | recoveryRestarted
  | conflictingResources
deriving DecidableEq, Repr

/-- The word of a reason. -/
def EventReason.text : EventReason → String
  | .phaseTransition => "PhaseTransition"
  | .clusterSynced => "ClusterSynced"
  | .recoveryStarted => "RecoveryStarted"
  | .bootstrapSourceSelected => "BootstrapSourceSelected"
  | .invalidReport => "InvalidReport"
  | .primaryRecovered => "PrimaryRecovered"
  | .recoveryRestarted => "RecoveryRestarted"
  | .conflictingResources => "ConflictingResources"

/-- What the controller was doing. -/
inductive EventAction where
  | reconcile
  | bootstrap
  | recover
  | preFlight
deriving DecidableEq, Repr

/-- The word of an action. -/
def EventAction.text : EventAction → String
  | .reconcile => "Reconcile"
  | .bootstrap => "Bootstrap"
  | .recover => "Recover"
  | .preFlight => "PreFlight"

/-- An announcement about an object. -/
structure Event where
  severity : Severity
  reason : EventReason
  action : EventAction
  note : String
  regarding : ObjectReference
deriving DecidableEq, Repr

namespace Event

/-- The event of a change of phase. -/
def ofPhaseChange (regarding : ObjectReference) (before after : Phase) : Event where
  severity := if after = .recovery then .warning else .normal
  reason := if before = .operational ∧ after = .recovery then .recoveryStarted
    else .phaseTransition
  action :=
    if before = .operational ∧ after = .recovery then .recover
    else if after.isBootstrapping then .bootstrap
    else .reconcile
  note := "Phase " ++ before.display ++ " -> " ++ after.display
  regarding := regarding

/-- The event that announces what a pass decided, if there is something to announce. -/
def ofOutcome? (regarding : ObjectReference) : Outcome → Option Event
  | .waiting _ => none
  | .phaseChanged before after => some (ofPhaseChange regarding before after)
  | .synced => some ⟨.normal, .clusterSynced, .reconcile, "All replicas ready", regarding⟩
  | .sourceSelected hostname seqNo =>
      let note := "Bootstrapping from " ++ hostname ++ " (seqno " ++ toString seqNo.toInt ++ ")"
      some ⟨.normal, .bootstrapSourceSelected, .recover, note, regarding⟩
  | .invalidReport hostnames =>
      let note := "Non-positive sequence numbers from " ++ String.intercalate ", " hostnames
        ++ "; manual intervention required"
      some ⟨.warning, .invalidReport, .recover, note, regarding⟩
  | .primaryRecovered hostname =>
      let note := hostname ++ " formed a new primary component"
      some ⟨.normal, .primaryRecovered, .recover, note, regarding⟩
  | .recoveryRestarted =>
      let note := "No replica ready after recovery; selecting a new source"
      some ⟨.warning, .recoveryRestarted, .recover, note, regarding⟩

/-- The warning that resources with the cluster's name exist, given the list of their kinds. -/
def ofConflicts (regarding : ObjectReference) (kinds : String) : Event where
  severity := .warning
  reason := .conflictingResources
  action := .preFlight
  note := "Existing resources share the cluster name: " ++ kinds
  regarding := regarding

/-- Exactly the passes that wait announce nothing. -/
theorem ofOutcome?_eq_none_iff (regarding : ObjectReference) (outcome : Outcome) :
    ofOutcome? regarding outcome = none ↔ ∃ reason, outcome = .waiting reason := by
  cases outcome <;> simp [ofOutcome?]

end Event

end GaleraControl
