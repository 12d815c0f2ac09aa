import GaleraControl.Proofs.SyncHistory
import GaleraControl.Proofs.TwoRuns

/-!
# The check of names

In its pre-flight phase a pass looks for a workload and a config map with the
cluster's own name.  The check has no result.  It publishes one warning if both of its
lookups succeed and one of the objects that they find is not the cluster's own, and
otherwise nothing, so that a lookup that fails silences it.
-/

namespace GaleraControl

/-! ## What belongs to the check -/

/-- The lookups of the objects that could collide, and the warning about a collision. -/
def Request.ChecksNames {Reconciler : Type} : Request Reconciler → Prop
  | .cachedStatefulSet _ | .cachedConfigMap _ => True
  | .publish event => event.reason = .conflictingResources
  | _ => False

/-- The check calls neither the writer nor a reconciler. -/
theorem Request.calls_of_checksNames {Reconciler : Type} {request : Request Reconciler}
    (checks : request.ChecksNames) :
    request.callsWriter = false ∧ request.callsReconciler = false := by
  cases request <;>
    simp [Request.ChecksNames, Request.callsWriter, Request.callsReconciler] at checks ⊢

theorem Request.event?_of_callsWriter {Reconciler : Type} {request : Request Reconciler}
    (calls : request.callsWriter = true) : request.event? = none := by
  cases request <;> simp [Request.callsWriter, Request.event?] at calls ⊢

/-- An owner of the object has the identifier of the cluster. -/
def ObjectMeta.OwnedBy (metadata : ObjectMeta) (cluster : Cluster) : Prop :=
  ∃ owner ∈ metadata.owners, cluster.metadata.uid = some owner.uid

namespace Pass

open Program

variable {Reconciler State : Type}

theorem isOwnedBy_iff {metadata : ObjectMeta} {cluster : Cluster} :
    isOwnedBy metadata cluster = true ↔ metadata.OwnedBy cluster := by
  unfold isOwnedBy ObjectMeta.OwnedBy
  cases cluster.metadata.uid with
  | none => simp
  | some uid =>
      simp only [List.any_eq_true, decide_eq_true_eq, Option.some.injEq]
      exact exists_congr fun owner => and_congr_right' eq_comm

theorem mem_conflictOf {kind about : ConflictKind} {cluster : Cluster}
    {found : Option ObjectMeta} :
    kind ∈ conflictOf about cluster found ↔
      kind = about ∧ ∃ metadata, found = some metadata ∧ ¬ metadata.OwnedBy cluster := by
  unfold conflictOf
  cases found with
  | none => simp
  | some metadata =>
      by_cases owned : isOwnedBy metadata cluster = true
      · simp [owned, isOwnedBy_iff.mp owned]
      · have foreign : ¬ metadata.OwnedBy cluster := fun owns => owned (isOwnedBy_iff.mpr owns)
        simp [owned, foreign]

theorem conflictOf_sublist (about : ConflictKind) (cluster : Cluster)
    (found : Option ObjectMeta) : (conflictOf about cluster found).Sublist [about] := by
  unfold conflictOf
  cases found with
  | none => exact List.nil_sublist _
  | some metadata =>
      dsimp only
      split
      · exact List.nil_sublist _
      · exact List.Sublist.refl _

/-! ## The check as a program -/

/-- The report on what both lookups have found. -/
def reportOn (cluster : Cluster) (workload : Option StatefulSet)
    (configMap : Option ConfigMap) : ConflictReport :=
  conflictOf .statefulSet cluster (workload.map StatefulSet.metadata)
    ++ conflictOf .configMap cluster (configMap.map ConfigMap.metadata)

/-- The last part of the check: a report that is not empty is published. -/
def warn (cluster : Cluster) (report : ConflictReport) : Program Reconciler Unit :=
  if report = [] then .done ()
  else .ask (.publish (.ofConflicts cluster.objectReference report.text)) .done

/-- The check once the lookup of a config map was answered. -/
def afterConfigMap (cluster : Cluster) (workload : Option StatefulSet) :
    Except SyncError (Option ConfigMap) → Program Reconciler Unit
  | .error _ => .done ()
  | .ok configMap => warn cluster (reportOn cluster workload configMap)

/-- The check once the lookup of a workload was answered. -/
def afterWorkload (cluster : Cluster) :
    Except SyncError (Option StatefulSet) → Program Reconciler Unit
  | .error _ => .done ()
  | .ok workload => .ask (.cachedConfigMap cluster.resourceKey) (afterConfigMap cluster workload)

/-- The check of names, which has no result. -/
def checkNames (cluster : Cluster) : Program Reconciler Unit :=
  .ask (.cachedStatefulSet cluster.resourceKey) (afterWorkload cluster)

/-- A check whose lookups fail, or that finds a collision, lets the pass go on all the same. -/
theorem run_reportConflicts (cluster : Cluster) :
    (reportConflicts cluster : Attempt Reconciler Unit).run =
      (checkNames cluster).bind fun _ => .done (.ok ()) := by
  show Program.ask (.cachedStatefulSet cluster.resourceKey) _ = Program.ask _ _
  congr 1
  funext reply
  cases reply with
  | error error => rfl
  | ok workload =>
      show Program.ask (.cachedConfigMap cluster.resourceKey) _ = Program.ask _ _
      congr 1
      funext reply
      cases reply with
      | error error => rfl
      | ok configMap =>
          show ExceptT.run (if reportOn cluster workload configMap = [] then pure ()
            else Attempt.publish (.ofConflicts cluster.objectReference _)) = _
          dsimp only [afterConfigMap, warn]
          split <;> rfl

theorem checkNames_checks (cluster : Cluster) :
    (checkNames cluster : Program Reconciler Unit).AsksOnly Request.ChecksNames := by
  refine ⟨trivial, fun reply => ?_⟩
  cases reply with
  | error error => trivial
  | ok workload =>
      refine ⟨trivial, fun reply => ?_⟩
      cases reply with
      | error error => trivial
      | ok configMap =>
          dsimp only [afterConfigMap, warn]
          split
          · trivial
          · exact ⟨rfl, fun _ => trivial⟩

/-! ## What the check publishes -/

section Warnings

variable (answer : (request : Request Reconciler) → StateM State (Reply request))

/-- What the two lookups of the check find, by the kind that they look for. -/
def lookedUp (cluster : Cluster) (state : State) :
    ConflictKind → Except SyncError (Option ObjectMeta)
  | .statefulSet =>
      Except.map (Option.map StatefulSet.metadata)
        (answer (.cachedStatefulSet cluster.resourceKey) state).1
  | .configMap =>
      Except.map (Option.map ConfigMap.metadata)
        (answer (.cachedConfigMap cluster.resourceKey)
          (answer (.cachedStatefulSet cluster.resourceKey) state).2).1

/-- There is an object of this kind with the cluster's name, and it is not the cluster's own. -/
def Foreign (cluster : Cluster) (state : State) (kind : ConflictKind) : Prop :=
  ∃ metadata, lookedUp answer cluster state kind = .ok (some metadata) ∧
    ¬ metadata.OwnedBy cluster

/-- Both lookups succeed, and one of the objects that they find is foreign. -/
structure Collides (cluster : Cluster) (state : State) : Prop where
  succeeds : ∀ kind, ∃ found, lookedUp answer cluster state kind = .ok found
  foreign : ∃ kind, Foreign answer cluster state kind

/-- What the check publishes: one warning that tells the foreign kinds in order, or nothing. -/
inductive Warns (cluster : Cluster) (state : State) : List Event → Prop where
  | nothing (clear : ¬ Collides answer cluster state) : Warns cluster state []
  | collision (collides : Collides answer cluster state) {report : ConflictReport}
      (ordered : report.Sublist [.statefulSet, .configMap])
      (tells : ∀ kind, kind ∈ report ↔ Foreign answer cluster state kind) :
      Warns cluster state [.ofConflicts cluster.objectReference report.text]

variable {answer} {cluster : Cluster} {state : State}

theorem reportOn_sublist (cluster : Cluster) (workload : Option StatefulSet)
    (configMap : Option ConfigMap) :
    (reportOn cluster workload configMap).Sublist [.statefulSet, .configMap] :=
  (conflictOf_sublist .statefulSet cluster _).append (conflictOf_sublist .configMap cluster _)

/-- The report tells the foreign objects, when both lookups succeed. -/
theorem mem_reportOn {workload : Option StatefulSet} {configMap : Option ConfigMap}
    (first : (answer (.cachedStatefulSet cluster.resourceKey) state).1 = Except.ok workload)
    (second : (answer (.cachedConfigMap cluster.resourceKey)
      (answer (.cachedStatefulSet cluster.resourceKey) state).2).1 = Except.ok configMap)
    (kind : ConflictKind) :
    kind ∈ reportOn cluster workload configMap ↔ Foreign answer cluster state kind := by
  unfold reportOn Foreign
  rw [List.mem_append, mem_conflictOf, mem_conflictOf]
  cases kind with
  | statefulSet => simp [lookedUp, first, Except.map]
  | configMap => simp [lookedUp, second, Except.map]

/-- The check warns exactly of a collision, and a lookup that fails keeps it silent. -/
theorem warns_published (cluster : Cluster) (state : State) :
    Warns answer cluster state ((checkNames cluster).published answer state) := by
  -- A lookup publishes nothing, so that what is published is what follows its reply.
  show Warns answer cluster state
    ((afterWorkload cluster (answer (.cachedStatefulSet cluster.resourceKey) state).1).published
      answer (answer (.cachedStatefulSet cluster.resourceKey) state).2)
  rcases first : (answer (.cachedStatefulSet cluster.resourceKey) state).1 with error | workload
  · refine .nothing fun collides => ?_
    rcases collides.succeeds .statefulSet with ⟨found, succeeds⟩
    simp [lookedUp, first, Except.map] at succeeds
  show Warns answer cluster state
    ((afterConfigMap cluster workload (answer (.cachedConfigMap cluster.resourceKey)
      (answer (.cachedStatefulSet cluster.resourceKey) state).2).1).published answer _)
  rcases second : (answer (.cachedConfigMap cluster.resourceKey)
    (answer (.cachedStatefulSet cluster.resourceKey) state).2).1 with error | configMap
  · refine .nothing fun collides => ?_
    rcases collides.succeeds .configMap with ⟨found, succeeds⟩
    simp [lookedUp, second, Except.map] at succeeds
  have tells := mem_reportOn first second
  dsimp only [afterConfigMap, warn]
  split
  · next empty =>
      refine .nothing fun collides => ?_
      rcases collides.foreign with ⟨kind, foreign⟩
      have told := (tells kind).mpr foreign
      simp [empty] at told
  · next several =>
      rcases List.exists_mem_of_ne_nil _ several with ⟨kind, told⟩
      refine .collision ⟨?_, kind, (tells kind).mp told⟩ (reportOn_sublist _ _ _) tells
      intro kind
      cases kind with
      | statefulSet => exact ⟨_, by rw [lookedUp, first]; rfl⟩
      | configMap => exact ⟨_, by rw [lookedUp, second]; rfl⟩

end Warnings

end Pass

end GaleraControl
