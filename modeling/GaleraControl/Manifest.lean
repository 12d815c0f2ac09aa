import GaleraControl.Manifest.Workload

/-!
# The objects of a cluster

The seven managed objects of a cluster, in the order in which they are applied.
All but the snapshot claim exist for every cluster.
-/

namespace GaleraControl

/-- The managed objects of a cluster. -/
inductive Dependent where
  | snapshotClaim
  | serviceAccount
  | role
  | roleBinding
  | statefulSet
  /-- The service behind the names of the server pods. -/
  | serverService
  | proxyService
deriving DecidableEq, Repr

namespace Dependent

/-- The managed objects in the order in which they are applied. -/
def all : List Dependent :=
  [.snapshotClaim, .serviceAccount, .role, .roleBinding, .statefulSet, .serverService,
    .proxyService]

/-- The kind of a managed object. -/
def kind : Dependent → ManifestKind
  | .snapshotClaim => .volumeClaim
  | .serviceAccount => .serviceAccount
  | .role => .role
  | .roleBinding => .roleBinding
  | .statefulSet => .statefulSet
  | .serverService | .proxyService => .service

/-- The object that a cluster wants, if it wants one. -/
def build (dependent : Dependent) (cluster : Cluster) : Option Manifest :=
  match dependent with
  | .snapshotClaim => cluster.snapshotClaim.map .volumeClaim
  | .serviceAccount => some (.serviceAccount cluster.serverAccount)
  | .role => some (.role cluster.serverRole)
  | .roleBinding => some (.roleBinding cluster.serverRoleBinding)
  | .statefulSet => some (.statefulSet cluster.workload)
  | .serverService => some (.service cluster.serverService)
  | .proxyService => some (.service cluster.proxyService)

theorem mem_all (dependent : Dependent) : dependent ∈ all := by
  cases dependent <;> decide

/-- A managed object has the kind that is announced for it. -/
theorem kind_of_build {dependent : Dependent} {cluster : Cluster} {manifest : Manifest}
    (built : dependent.build cluster = some manifest) : manifest.kind = dependent.kind := by
  cases dependent <;> simp only [build, Option.some.injEq, Option.map_eq_some_iff] at built
  case snapshotClaim =>
    obtain ⟨claim, _, rfl⟩ := built
    rfl
  all_goals
    subst built
    rfl

end Dependent

end GaleraControl
