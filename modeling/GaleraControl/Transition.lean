import GaleraControl.Transition.Bootstrap
import GaleraControl.Transition.Operation
import GaleraControl.Transition.Recovery

/-!
# The state machine of a cluster

`ClusterStatus.next` is a function of the specification, the status and what was
observed.  It never fails and never produces half of a change.
-/

namespace GaleraControl

namespace ClusterStatus

/-- The transition of one pass. -/
def next (spec : ClusterSpec) (status : ClusterStatus) (observed : Observed) : Transition :=
  match status.phase with
  | .fresh => .advance .fresh { status with phase := .preFlight }
  | .preFlight => .advance .preFlight { status with phase := .bootstrapFirst }
  | .bootstrapFirst | .bootstrapFirstRestart | .bootstrapSecond | .bootstrapThird =>
      Bootstrap.step spec status observed.workload
  | .operational => Operation.step status observed.workload
  | .recovery => Recovery.step spec status observed

/-- What a pass has to look at before it can decide. -/
inductive Sight where
  | nothing
  | workload
  | pod (source : String)
deriving DecidableEq, Repr

/-- What the pass of a status looks at. -/
def sight (status : ClusterStatus) : Sight :=
  match status.phase with
  | .fresh | .preFlight => .nothing
  | .bootstrapFirst | .bootstrapFirstRestart | .bootstrapSecond | .bootstrapThird
  | .operational => .workload
  | .recovery =>
      match status.recoveryStep with
      | .selecting => .nothing
      | .verifying source => .pod source
      | .reforming => .workload

end ClusterStatus

end GaleraControl
