import GaleraControl.Pass.Program

/-!
# Name collisions

Before the first node is provisioned, a pass looks for a workload or a config
map that carries the cluster's own name without being owned by the cluster.  The
finding is advice: it is published and changes nothing else.
-/

namespace GaleraControl.Pass

variable {Reconciler : Type}

/-- The kinds that may collide with a cluster's name. -/
inductive ConflictKind where
  | statefulSet
  | configMap
deriving DecidableEq, Repr

/-- The name of a kind. -/
def ConflictKind.text : ConflictKind → String
  | .statefulSet => "StatefulSet"
  | .configMap => "ConfigMap"

/-- The colliding kinds, in the order in which they are checked. -/
abbrev ConflictReport := List ConflictKind

/-- The text of a report. -/
def ConflictReport.text (report : ConflictReport) : String :=
  String.intercalate ", " (report.map ConflictKind.text)

/-- Whether an object is owned by a cluster; a cluster without an identifier owns nothing. -/
def isOwnedBy (metadata : ObjectMeta) (cluster : Cluster) : Bool :=
  match cluster.metadata.uid with
  | none => false
  | some uid => metadata.owners.any fun owner => owner.uid = uid

/-- The report on one object, if there is such an object. -/
def conflictOf (kind : ConflictKind) (cluster : Cluster) (found : Option ObjectMeta) :
    ConflictReport :=
  match found with
  | none => []
  | some metadata => if isOwnedBy metadata cluster then [] else [kind]

/-- Check every kind that may collide with the cluster's name. -/
def checkConflicts (cluster : Cluster) : Attempt Reconciler ConflictReport := do
  let workload ← Attempt.cachedStatefulSet cluster.resourceKey
  let configMap ← Attempt.cachedConfigMap cluster.resourceKey
  return conflictOf .statefulSet cluster (workload.map StatefulSet.metadata)
    ++ conflictOf .configMap cluster (configMap.map ConfigMap.metadata)

/-- Publish what collides; a check that fails is passed over. -/
def reportConflicts (cluster : Cluster) : Attempt Reconciler Unit := do
  match ← (checkConflicts cluster).result with
  | .error _ => return
  | .ok report =>
      if report = [] then return
      else Attempt.publish (Event.ofConflicts cluster.objectReference report.text)

end GaleraControl.Pass
