import GaleraControl.Json.Decode

/-!
# Phases and stages

A cluster starts fresh, is bootstrapped node by node, and from then on moves
between operation and recovery.  Each phase has exactly one successor, so no
phase can be skipped.  A stage qualifies the phase.
-/

namespace GaleraControl

/-- The position of a cluster in its life. -/
inductive Phase where
  | fresh
  | preFlight
  | bootstrapFirst
  /-- The first node restarts as an ordinary member. -/
  | bootstrapFirstRestart
  | bootstrapSecond
  | bootstrapThird
  /-- The cluster is formed and its readiness is watched. -/
  | operational
  /-- The primary component is lost and has to be formed again. -/
  | recovery
deriving DecidableEq, Repr, Inhabited

namespace Phase

/-- All phases in the order of a cluster's life. -/
def all : List Phase :=
  [.fresh, .preFlight, .bootstrapFirst, .bootstrapFirstRestart, .bootstrapSecond,
    .bootstrapThird, .operational, .recovery]

/-- The text that a stored status holds. -/
def text : Phase → String
  | .fresh => ""
  | .preFlight => "PreFlight"
  | .bootstrapFirst => "BootstrapFirst"
  | .bootstrapFirstRestart => "BootstrapFirstRestart"
  | .bootstrapSecond => "BootstrapSecond"
  | .bootstrapThird => "BootstrapThird"
  | .operational => "Operational"
  | .recovery => "Recovery"

/-- The text for people. -/
def display (phase : Phase) : String :=
  if phase = .fresh then "<new>" else phase.text

/-- The only other phase that may follow. -/
def successor : Phase → Phase
  | .fresh => .preFlight
  | .preFlight => .bootstrapFirst
  | .bootstrapFirst => .bootstrapFirstRestart
  | .bootstrapFirstRestart => .bootstrapSecond
  | .bootstrapSecond => .bootstrapThird
  | .bootstrapThird => .operational
  | .operational => .recovery
  | .recovery => .operational

/-- A phase may stay, or give way to its successor. -/
def canTransitionTo (phase next : Phase) : Bool :=
  phase = next || phase.successor = next

/-- Whether the phase is a step of the initial formation. -/
def isBootstrapping : Phase → Bool
  | .bootstrapFirst | .bootstrapFirstRestart | .bootstrapSecond | .bootstrapThird => true
  | _ => false

/-- The phases by their stored text. -/
def known : List (String × Phase) := all.map fun phase => (phase.text, phase)

/-- Read a phase. -/
def decode : Decoder Phase := .choice known

/-- The document of a phase. -/
def toJson (phase : Phase) : Json := .string phase.text

theorem mem_all (phase : Phase) : phase ∈ all := by
  cases phase <;> decide

@[simp]
theorem decode_toJson (phase : Phase) : decode phase.toJson = .ok phase := by
  cases phase <;> rfl

end Phase

/-- A qualifier within a phase. -/
inductive Stage where
  | unqualified
  /-- Operational, and every replica is ready. -/
  | synced
  /-- Operational again after a recovery, not yet fully synced. -/
  | degraded
  /-- In recovery, the designated replica formed a new primary component. -/
  | primaryRecovered
  /-- In recovery, a replica reported an unusable sequence number. -/
  | invalidReport
deriving DecidableEq, Repr, Inhabited

namespace Stage

/-- All stages. -/
def all : List Stage := [.unqualified, .synced, .degraded, .primaryRecovered, .invalidReport]

/-- The text that a stored status holds. -/
def text : Stage → String
  | .unqualified => ""
  | .synced => "Synced"
  | .degraded => "Degraded"
  | .primaryRecovered => "PrimaryRecovered"
  | .invalidReport => "InvalidReport"

/-- The text for people. -/
def display (stage : Stage) : String :=
  if stage = .unqualified then "<none>" else stage.text

/-- The stages by their stored text. -/
def known : List (String × Stage) := all.map fun stage => (stage.text, stage)

/-- Read a stage. -/
def decode : Decoder Stage := .choice known

/-- The document of a stage. -/
def toJson (stage : Stage) : Json := .string stage.text

theorem mem_all (stage : Stage) : stage ∈ all := by
  cases stage <;> decide

@[simp]
theorem decode_toJson (stage : Stage) : decode stage.toJson = .ok stage := by
  cases stage <;> rfl

end Stage

end GaleraControl
