import GaleraControl.Proofs.AgreeingWorlds
import GaleraControl.Proofs.Announcements
import GaleraControl.Proofs.Surroundings

/-!
# The check of names is advice

In its pre-flight phase a pass looks for objects that carry the cluster's name, and
what it finds decides whether a warning is published, and nothing else.  No other part
of such a pass asks what the check asks, and none reads what the check has learned.

So two passes whose worlds differ in what the two lookups reply make the same calls
of the writer and of the reconcilers, come to the same result and leave the same
stored clusters, and their events differ at most in the warning that comes first.
-/

namespace GaleraControl.Pass

open Program

variable {Reconciler State : Type}

/-! ## The rest of the pass -/

theorem persist_callsWriter (cluster : Cluster) (changed : ClusterStatus) :
    (persist cluster changed : Attempt Reconciler WriteOutcome).run.AsksOnly
      fun request => request.callsWriter = true := by
  rw [run_persist]
  split
  · trivial
  refine ⟨rfl, fun reply => ?_⟩
  match reply with
  | .error error => trivial
  | .ok none => trivial
  | .ok (some latest) =>
      dsimp only [afterRead]
      split
      · trivial
      split
      · trivial
      · exact ⟨rfl, fun _ => trivial⟩

theorem announce_rests (cluster : Cluster) (outcome : Outcome) :
    (announce cluster outcome : Attempt Reconciler Unit).run.AsksOnly
      fun request => ¬ request.ChecksNames := by
  unfold announce
  cases tells : Event.ofOutcome? cluster.objectReference outcome with
  | none => trivial
  | some event => exact ⟨Event.reason_ne_of_ofOutcome? tells, fun _ => trivial⟩

theorem settle_rests (cluster : Cluster) (transition : Transition) (outcome : WriteOutcome) :
    (settle cluster transition outcome : Attempt Reconciler StateOutcome).run.AsksOnly
      fun request => ¬ request.ChecksNames := by
  cases outcome with
  | gone => trivial
  | unchanged => trivial
  | applied operations =>
      exact Attempt.asksOnly_bind (announce_rests cluster transition.outcome) fun _ => trivial

/-- What follows the check in a pass: the transition is written, announced and reconciled. -/
def proceed (reconcilers : List Reconciler) (text : String) (cluster : Cluster) :
    Program Reconciler (Except SyncError SyncOutcome) :=
  (conclude text cluster {}).run.bind fun state => (finish reconcilers cluster state).run

theorem proceed_rests (reconcilers : List Reconciler) (text : String) (cluster : Cluster) :
    (proceed reconcilers text cluster).AsksOnly fun request => ¬ request.ChecksNames := by
  refine asksOnly_bind ?_ fun state => ?_
  · rw [conclude_eq]
    refine Attempt.asksOnly_bind ?_ fun outcome => settle_rests cluster _ outcome
    refine (persist_callsWriter cluster _).mono fun request calls checks => ?_
    rw [(Request.calls_of_checksNames checks).1] at calls
    exact Bool.false_ne_true calls
  · refine (finish_reconciles reconcilers cluster state).mono ?_
    rintro request ⟨reconciler, rfl⟩
    exact id

section Rest

variable (answer : (request : Request Reconciler) → StateM State (Reply request))

/-- A transition is announced by its event, or it was not written. -/
theorem published_settle (cluster : Cluster) (transition : Transition) (outcome : WriteOutcome)
    (state : State) :
    (settle cluster transition outcome).run.published answer state = [] ∨
      (settle cluster transition outcome).run.published answer state =
        (Event.ofOutcome? cluster.objectReference transition.outcome).toList := by
  cases outcome with
  | gone => exact Or.inl rfl
  | unchanged => exact Or.inl rfl
  | applied operations =>
      refine Or.inr ?_
      simp only [settle, announce]
      cases Event.ofOutcome? cluster.objectReference transition.outcome <;> rfl

/-- What follows the check publishes the change of phase, or nothing. -/
theorem published_proceed (reconcilers : List Reconciler) (text : String) {cluster : Cluster}
    (early : cluster.phase = .preFlight) (state : State) :
    (proceed reconcilers text cluster).published answer state = [] ∨
      (proceed reconcilers text cluster).published answer state =
        [.ofPhaseChange cluster.objectReference .preFlight .bootstrapFirst] := by
  have announced :
      (Event.ofOutcome? cluster.objectReference (transitionOf cluster {}).outcome).toList =
        [.ofPhaseChange cluster.objectReference .preFlight .bootstrapFirst] := by
    have phase : cluster.statusOrDefault.phase = .preFlight := early
    simp only [transitionOf, ClusterStatus.next, phase]
    rfl
  unfold proceed
  rw [published_bind, published_of_asksOnly answer (finish_reconciles reconcilers cluster _)
    (by rintro request ⟨reconciler, rfl⟩; rfl), List.append_nil, conclude_eq, Attempt.run_bind,
    published_bind, published_of_asksOnly answer (persist_callsWriter cluster _)
    fun _ => Request.event?_of_callsWriter, List.nil_append]
  split
  · rw [← announced]
    exact published_settle answer cluster (transitionOf cluster {}) _ _
  · exact Or.inl rfl

end Rest

/-! ## The pass as a whole -/

/-- A pass that reads a valid cluster in its pre-flight phase. -/
structure ReadsPreFlight
    (answer : (request : Request Reconciler) → StateM State (Reply request)) (text : String)
    (key : ResourceKey) (cluster : Cluster) (state : State) : Prop where
  parsed : ResourceKey.parse? text = some key
  shown : (answer (.cachedCluster key) state).1 = Except.ok (some cluster)
  valid : cluster.spec.validate text = .ok ()
  early : cluster.phase = .preFlight

/-- The surroundings after a pass has read its cluster and made the check. -/
def afterCheck (answer : (request : Request Reconciler) → StateM State (Reply request))
    (key : ResourceKey) (cluster : Cluster) (state : State) : State :=
  ((checkNames cluster).run answer (answer (.cachedCluster key) state).2).2

namespace ReadsPreFlight

variable {answer : (request : Request Reconciler) → StateM State (Reply request)}
  {text : String} {key : ResourceKey} {cluster : Cluster} {state : State}

/-- Such a pass is the read of its cluster, the check, and what follows. -/
theorem exists_run_sync (reads : ReadsPreFlight answer text key cluster state)
    (reconcilers : List Reconciler) :
    ∃ next, (sync reconcilers text).run = .ask (.cachedCluster key) next ∧
      next (.ok (some cluster)) =
        (checkNames cluster).bind fun _ => proceed reconcilers text cluster := by
  have phase : cluster.statusOrDefault.phase = .preFlight := reads.early
  have blind : (observe cluster cluster.statusOrDefault : Attempt Reconciler Observed) =
      pure {} := by
    simp only [observe, ClusterStatus.sight, phase]
  have machine : (runStateMachine text cluster : Attempt Reconciler StateOutcome).run =
      (checkNames cluster).bind fun _ => (conclude text cluster {}).run := by
    rw [runStateMachine_eq, precede, if_pos phase, Attempt.run_bind, run_reportConflicts,
      Program.bind_assoc, blind, pure_bind]
    rfl
  unfold sync
  rw [reads.parsed]
  refine ⟨_, rfl, ?_⟩
  show ExceptT.run (ofExcept (cluster.spec.validate text) >>= fun _ =>
    (runStateMachine text cluster).result >>= finish reconcilers cluster) = _
  rw [reads.valid]
  show ((runStateMachine text cluster).result >>= finish reconcilers cluster).run = _
  rw [Attempt.run_bind, Attempt.run_result, machine, Program.bind_assoc, Program.bind_assoc]
  rfl

theorem run_sync (reads : ReadsPreFlight answer text key cluster state)
    (reconcilers : List Reconciler) :
    Attempt.perform answer (sync reconcilers text) state =
      (proceed reconcilers text cluster).run answer (afterCheck answer key cluster state) := by
  rcases reads.exists_run_sync reconcilers with ⟨next, whole, rest⟩
  rw [← reads.shown] at rest
  rw [Attempt.perform, whole]
  show (next (answer (.cachedCluster key) state).1).run answer _ = _
  rw [rest, run_bind_apply]
  rfl

theorem exchanges_sync (reads : ReadsPreFlight answer text key cluster state)
    (reconcilers : List Reconciler) :
    (sync reconcilers text).run.exchanges answer state =
      ⟨.cachedCluster key, .ok (some cluster)⟩ ::
        ((checkNames cluster).exchanges answer (answer (.cachedCluster key) state).2 ++
          (proceed reconcilers text cluster).exchanges answer
            (afterCheck answer key cluster state)) := by
  rcases reads.exists_run_sync reconcilers with ⟨next, whole, rest⟩
  rw [← reads.shown] at rest
  rw [whole, exchanges, rest, exchanges_bind, reads.shown]
  rfl

/-- The check makes no calls of a kind that is not its own. -/
theorem callsOf_sync (reads : ReadsPreFlight answer text key cluster state)
    (reconcilers : List Reconciler) {chosen : Request Reconciler → Bool}
    (spared : ∀ request, request.ChecksNames → chosen request = false)
    (unread : chosen (.cachedCluster key) = false) :
    (sync reconcilers text).run.callsOf answer chosen state =
      (proceed reconcilers text cluster).callsOf answer chosen
        (afterCheck answer key cluster state) := by
  have none := callsOf_of_asksOnly answer (checkNames_checks cluster) spared
    (answer (.cachedCluster key) state).2
  unfold callsOf at none ⊢
  rw [reads.exchanges_sync, List.filter_cons_of_neg (by simp [unread]), List.filter_append, none,
    List.nil_append]

theorem published_sync (reads : ReadsPreFlight answer text key cluster state)
    (reconcilers : List Reconciler) :
    (sync reconcilers text).run.published answer state =
      (checkNames cluster).published answer (answer (.cachedCluster key) state).2 ++
        (proceed reconcilers text cluster).published answer
          (afterCheck answer key cluster state) := by
  unfold published
  rw [reads.exchanges_sync, List.filterMap_cons_none rfl, List.filterMap_append]

end ReadsPreFlight

/-! ## Two passes -/

/--
Surroundings that are alike store the same clusters and answer everything alike,
except for what the check of names asks and says.  That may be answered in any way,
and nothing else comes of it.
-/
structure Likeness (answer : (request : Request Reconciler) → StateM State (Reply request))
    (stored : State → Clusters) (alike : State → State → Prop) : Prop
    extends SetsApart answer Request.ChecksNames alike where
  stored_eq : ∀ first second, alike first second → stored first = stored second

/-- A pass publishes what the check of names has to say, and then the announcement. -/
def Publishes (answer : (request : Request Reconciler) → StateM State (Reply request))
    (reconcilers : List Reconciler) (text : String) (key : ResourceKey) (cluster : Cluster)
    (announcement : List Event) (state : State) : Prop :=
  ∃ warnings, Warns answer cluster (answer (.cachedCluster key) state).2 warnings ∧
    (sync reconcilers text).run.published answer state = warnings ++ announcement

/-- What two passes have in common, and how their events differ at most. -/
structure DiffersInAdvice
    (answer : (request : Request Reconciler) → StateM State (Reply request))
    (stored : State → Clusters) (alike : State → State → Prop) (reconcilers : List Reconciler)
    (text : String) (key : ResourceKey) (cluster : Cluster) (first second : State) : Prop where
  result : (Attempt.perform answer (sync reconcilers text) first).1 =
    (Attempt.perform answer (sync reconcilers text) second).1
  stored : stored (Attempt.perform answer (sync reconcilers text) first).2 =
    stored (Attempt.perform answer (sync reconcilers text) second).2
  alike : alike (Attempt.perform answer (sync reconcilers text) first).2
    (Attempt.perform answer (sync reconcilers text) second).2
  writes : (sync reconcilers text).run.callsOf answer Request.callsWriter first =
    (sync reconcilers text).run.callsOf answer Request.callsWriter second
  reconciles : (sync reconcilers text).run.callsOf answer Request.callsReconciler first =
    (sync reconcilers text).run.callsOf answer Request.callsReconciler second
  /-- The announcement is the same, if there is one, and a warning comes before it. -/
  events : ∃ announcement,
    (announcement = [] ∨ announcement =
      [.ofPhaseChange cluster.objectReference .preFlight .bootstrapFirst]) ∧
    Publishes answer reconcilers text key cluster announcement first ∧
    Publishes answer reconcilers text key cluster announcement second

section Two

variable {answer : (request : Request Reconciler) → StateM State (Reply request)}
  {stored : State → Clusters} {alike : State → State → Prop} {text : String} {key : ResourceKey}
  {cluster : Cluster} {first second : State}

namespace Likeness

theorem reads (likeness : Likeness answer stored alike) (same : alike first second)
    (reads : ReadsPreFlight answer text key cluster first) :
    ReadsPreFlight answer text key cluster second :=
  { reads with
    shown := (likeness.answers (.cachedCluster key) id _ _ same).1.symm.trans reads.shown }

theorem afterCheck (likeness : Likeness answer stored alike) (same : alike first second)
    (key : ResourceKey) (cluster : Cluster) :
    alike (afterCheck answer key cluster first) (afterCheck answer key cluster second) :=
  likeness.runs_of_apart (checkNames_checks cluster)
    (likeness.answers (.cachedCluster key) id _ _ same).2

end Likeness

/-- What the check publishes and what follows it are published one after the other. -/
theorem ReadsPreFlight.publishes (reads : ReadsPreFlight answer text key cluster first)
    (reconcilers : List Reconciler) :
    Publishes answer reconcilers text key cluster
      ((proceed reconcilers text cluster).published answer
        (Pass.afterCheck answer key cluster first)) first :=
  ⟨_, warns_published cluster _, reads.published_sync reconcilers⟩

/--
The check of names is advice.  Passes over a cluster that the cache shows in the
pre-flight phase, in worlds that differ in what the check finds and in which of its
lookups fail, end alike and publish the same but for a warning, which comes first.
-/
theorem collisions_advise (likeness : Likeness answer stored alike) (same : alike first second)
    (reads : ReadsPreFlight answer text key cluster first) (reconcilers : List Reconciler) :
    DiffersInAdvice answer stored alike reconcilers text key cluster first second := by
  have alsoReads := likeness.reads same reads
  rcases likeness.run_of_rest (proceed_rests reconcilers text cluster)
    (likeness.afterCheck same key cluster) with ⟨result, exchanged, last⟩
  have writesApart (request : Request Reconciler) (checks : request.ChecksNames) :=
    (Request.calls_of_checksNames checks).1
  have reconcilesApart (request : Request Reconciler) (checks : request.ChecksNames) :=
    (Request.calls_of_checksNames checks).2
  exact {
    result := by rw [reads.run_sync, alsoReads.run_sync, result]
    stored := by
      rw [reads.run_sync, alsoReads.run_sync]
      exact likeness.stored_eq _ _ last
    alike := by
      rw [reads.run_sync, alsoReads.run_sync]
      exact last
    writes := by
      rw [reads.callsOf_sync reconcilers writesApart rfl,
        alsoReads.callsOf_sync reconcilers writesApart rfl, callsOf, exchanged, callsOf]
    reconciles := by
      rw [reads.callsOf_sync reconcilers reconcilesApart rfl,
        alsoReads.callsOf_sync reconcilers reconcilesApart rfl, callsOf, exchanged, callsOf]
    events := by
      refine ⟨_, published_proceed answer reconcilers text reads.early _,
        reads.publishes reconcilers, ?_⟩
      rw [published, exchanged]
      exact alsoReads.publishes reconcilers }

end Two

/-! ## The world in memory -/

/-- In the world, the clusters are stored apart from what the check of names looks up. -/
theorem likeness_answer :
    Likeness World.answer (fun world => Table.get? world.clusters) World.AgreesOnRest :=
  { World.setsApart_answer with
    stored_eq := fun _ _ agrees => congrArg Table.get? agrees.clusters.symm }

/-- A cluster that the server knows, in its pre-flight phase. -/
def checkedOrders : Cluster where
  metadata :=
    { name := some "orders", namespaceName := some "prod", uid := some "7"
      resourceVersion := some "1" }
  spec := { replicas := 3 }
  status := some { phase := .preFlight }

/-- A config map of the cluster's name that nobody owns. -/
def foreignOrders : World :=
  (({} : World).putCluster checkedOrders).putConfigMap
    { metadata := { name := some "orders", namespaceName := some "prod" } }

/-- No workload of the cluster's name can be looked up. -/
def hiddenOrders : World :=
  (({} : World).putCluster checkedOrders).setFault "get_stateful_set"
    { error := .internal "get" "timed out" }

/-- A foreign config map is warned of, and a lookup that fails is passed over. -/
theorem foreignOrders_advise :
    let reconcilers : List WorldReconciler := [⟨"Service", false⟩, ⟨"StatefulSet", true⟩]
    let stored (world : World) := Table.get? world.clusters
    let announcement :=
      Event.ofPhaseChange checkedOrders.objectReference .preFlight .bootstrapFirst
    Likeness World.answer stored World.AgreesOnRest ∧
      World.AgreesOnRest foreignOrders hiddenOrders ∧
      ReadsPreFlight World.answer "prod/orders" ⟨"prod", "orders"⟩ checkedOrders foreignOrders ∧
      DiffersInAdvice World.answer stored World.AgreesOnRest reconcilers "prod/orders"
        ⟨"prod", "orders"⟩ checkedOrders foreignOrders hiddenOrders ∧
      (sync reconcilers "prod/orders").run.published World.answer foreignOrders =
        [.ofConflicts checkedOrders.objectReference (ConflictReport.text [.configMap]),
          announcement] ∧
      (sync reconcilers "prod/orders").run.published World.answer hiddenOrders =
        [announcement] := by
  intro reconcilers stored announcement
  have shows : World.AgreesOnRest (({} : World).putCluster checkedOrders) foreignOrders :=
    ⟨rfl, rfl, rfl, rfl, rfl, rfl, rfl, fun _ _ => rfl⟩
  have agrees : World.AgreesOnRest foreignOrders hiddenOrders :=
    (shows.setFault_left (Or.inl rfl) _).symm
  have reads : ReadsPreFlight World.answer "prod/orders" ⟨"prod", "orders"⟩ checkedOrders
      foreignOrders := ⟨rfl, rfl, rfl, rfl⟩
  exact ⟨likeness_answer, agrees, reads, collisions_advise likeness_answer agrees reads reconcilers,
    rfl, rfl⟩

end GaleraControl.Pass
