import GaleraControl.Proofs.Moves
import GaleraControl.Proofs.PassHistory

/-!
# The parts of a sync pass

A sync pass reads the cluster, may report name collisions, observes, writes the
status by one call of `persist`, and reconciles.  Only that call patches the
stored cluster, and only the reconcilers touch the dependents; everything else a
pass asks is quiet.
-/

namespace GaleraControl

/-- A request that changes nothing in the surroundings of a pass. -/
def Request.Quiet {Reconciler : Type} : Request Reconciler → Prop
  | .patchStatus _ _ | .reconcile _ _ => False
  | _ => True

/-- A request that does not even read the stored cluster. -/
def Request.Looks {Reconciler : Type} : Request Reconciler → Prop
  | .patchStatus _ _ | .reconcile _ _ | .latestCluster _ => False
  | _ => True

/-- A request that writes the stored status of a cluster. -/
def Request.Patches {Reconciler : Type} : Request Reconciler → Prop
  | .patchStatus _ _ => True
  | _ => False

theorem Request.Looks.quiet {Reconciler : Type} {request : Request Reconciler}
    (looks : request.Looks) : request.Quiet := by
  cases request <;> simp [Looks, Quiet] at looks ⊢

theorem Request.Quiet.not_patches {Reconciler : Type} {request : Request Reconciler}
    (quiet : request.Quiet) : ¬ request.Patches := by
  cases request <;> simp [Quiet, Patches] at quiet ⊢

namespace Pass

open Attempt
open Program (AsksOnly Follows)

variable {Reconciler State : Type}

/-! ## What the parts of a pass ask -/

theorem checkConflicts_looks (cluster : Cluster) :
    (checkConflicts cluster : Attempt Reconciler ConflictReport).run.AsksOnly
      Request.Looks := by
  refine asksOnly_bind ⟨trivial, fun _ => trivial⟩ ?_
  intro workload
  refine asksOnly_bind ⟨trivial, fun _ => trivial⟩ ?_
  intro configMap
  trivial

theorem reportConflicts_looks (cluster : Cluster) :
    (reportConflicts cluster : Attempt Reconciler Unit).run.AsksOnly Request.Looks := by
  refine asksOnly_bind (asksOnly_result (checkConflicts_looks cluster)) ?_
  intro result
  cases result with
  | error error => trivial
  | ok report =>
      by_cases empty : report = []
      · simp only [empty, if_true]
        trivial
      · simp only [empty, if_false]
        exact ⟨trivial, fun _ => trivial⟩

theorem observe_looks (cluster : Cluster) (status : ClusterStatus) :
    (observe cluster status : Attempt Reconciler Observed).run.AsksOnly Request.Looks := by
  unfold observe
  cases status.sight with
  | nothing => trivial
  | workload => exact asksOnly_bind ⟨trivial, fun _ => trivial⟩ fun _ => trivial
  | pod source =>
      refine asksOnly_bind ⟨trivial, fun _ => trivial⟩ ?_
      intro pod
      cases pod <;> trivial

theorem observe_quiet (cluster : Cluster) (status : ClusterStatus) :
    (observe cluster status : Attempt Reconciler Observed).run.AsksOnly Request.Quiet :=
  (observe_looks cluster status).mono fun _ looks => looks.quiet

theorem announce_looks (cluster : Cluster) (outcome : Outcome) :
    (announce cluster outcome : Attempt Reconciler Unit).run.AsksOnly Request.Looks := by
  unfold announce
  cases Event.ofOutcome? cluster.objectReference outcome with
  | none => trivial
  | some event => exact ⟨trivial, fun _ => trivial⟩

/-- The cluster that a pass reconciles with, by the result of its first half. -/
def target (snapshot : Cluster) : Except SyncError StateOutcome → Cluster
  | .ok (.persisted status _) => { snapshot with status := some status }
  | _ => snapshot

theorem reconcileAll_reconciles (cluster : Cluster) (reconcilers : List Reconciler) :
    (reconcileAll cluster reconcilers).run.AsksOnly fun request =>
      ∃ reconciler, request = .reconcile reconciler cluster := by
  induction reconcilers with
  | nil => trivial
  | cons reconciler rest ih =>
      refine asksOnly_bind (asksOnly_result ⟨⟨reconciler, rfl⟩, fun _ => trivial⟩) ?_
      intro first
      refine asksOnly_bind (asksOnly_result ih) ?_
      intro later
      cases firstFailure first later <;> trivial

/-- The second half of a pass only reconciles with the cluster as it is stored now. -/
theorem finish_reconciles (reconcilers : List Reconciler) (snapshot : Cluster)
    (state : Except SyncError StateOutcome) :
    (finish reconcilers snapshot state).run.AsksOnly fun request =>
      ∃ reconciler, request = .reconcile reconciler (target snapshot state) := by
  unfold finish
  match state with
  | .ok .gone => trivial
  | .ok (.persisted status changed) =>
      exact asksOnly_bind (reconcileAll_reconciles _ reconcilers) fun _ => trivial
  | .error error =>
      exact asksOnly_bind (asksOnly_result (reconcileAll_reconciles _ reconcilers))
        fun _ => trivial

theorem finish_asks (reconcilers : List Reconciler) (snapshot : Cluster)
    (state : Except SyncError StateOutcome) :
    (finish reconcilers snapshot state).run.AsksOnly fun request => ¬ request.Patches := by
  refine (finish_reconciles reconcilers snapshot state).mono ?_
  rintro request ⟨reconciler, rfl⟩
  exact id

/-! ## The first half of a pass -/

/-- What a pass does before it observes: collisions are reported before anything is made. -/
def precede (cluster : Cluster) : Attempt Reconciler Unit :=
  if cluster.statusOrDefault.phase = .preFlight then reportConflicts cluster else pure ()

/-- The transition that a pass computes from what it read and observed. -/
def transitionOf (cluster : Cluster) (observed : Observed) : Transition :=
  cluster.statusOrDefault.next cluster.spec observed

/-- What a pass does after its call of `persist`. -/
def settle (cluster : Cluster) (transition : Transition) :
    WriteOutcome → Attempt Reconciler StateOutcome
  | .gone => pure .gone
  | .unchanged => pure (.persisted transition.status false)
  | .applied _ => do
      announce cluster transition.outcome
      return .persisted transition.status true

/-- The part of a pass that follows its observation. -/
def conclude (key : String) (cluster : Cluster) (observed : Observed) :
    Attempt Reconciler StateOutcome := do
  ofExcept (checkTransition key cluster.statusOrDefault.phase
    (transitionOf cluster observed).status.phase)
  let outcome ← persist cluster (transitionOf cluster observed).status
  settle cluster (transitionOf cluster observed) outcome

theorem runStateMachine_eq (key : String) (cluster : Cluster) :
    (runStateMachine key cluster : Attempt Reconciler StateOutcome) =
      (precede cluster >>= fun _ =>
        observe cluster cluster.statusOrDefault >>= conclude key cluster) := by
  have tail (observed : Observed) : (do
      ofExcept (checkTransition key cluster.statusOrDefault.phase
        (transitionOf cluster observed).status.phase)
      match ← persist cluster (transitionOf cluster observed).status with
      | .gone => return .gone
      | .unchanged => return .persisted (transitionOf cluster observed).status false
      | .applied _ =>
          announce cluster (transitionOf cluster observed).outcome
          return .persisted (transitionOf cluster observed).status true) =
      (conclude key cluster observed : Attempt Reconciler StateOutcome) := by
    refine bind_congr fun _ => bind_congr fun outcome => ?_
    cases outcome <;> rfl
  by_cases early : cluster.statusOrDefault.phase = .preFlight
  · simp only [runStateMachine, precede, if_pos early]
    exact bind_congr fun _ => bind_congr fun observed => tail observed
  · simp only [runStateMachine, precede, if_neg early]
    rw [pure_bind]
    exact bind_congr fun observed => tail observed

/-- No pass refuses the transition that it has computed. -/
theorem conclude_eq (key : String) (cluster : Cluster) (observed : Observed) :
    (conclude key cluster observed : Attempt Reconciler StateOutcome) =
      (persist cluster (transitionOf cluster observed).status >>=
        settle cluster (transitionOf cluster observed)) := by
  have legal : checkTransition key cluster.statusOrDefault.phase
      (transitionOf cluster observed).status.phase = .ok () :=
    if_pos (ClusterStatus.next_moves _ _ _).legal
  rw [conclude, legal]
  exact pure_bind _ _

/-- What is observed by the reply about a designated source, which has to exist. -/
def sightOfSource (key : ResourceKey) :
    Except SyncError (Option Pod) → Except SyncError Observed
  | .error error => .error error
  | .ok none => .error (.notFound "Pod" key.text)
  | .ok (some pod) => .ok { bootstrapPod := some (PodView.ofPod pod) }

/-- The ways in which an observation can have come to its end. -/
inductive ObserveCall (cluster : Cluster) (status : ClusterStatus) :
    List (Moment Reconciler State) → Except SyncError Observed → Prop where
  | blind (sees : status.sight = .nothing) : ObserveCall cluster status [] (.ok {})
  | workload (sees : status.sight = .workload) (before after : State)
      (reply : Except SyncError (Option StatefulSet)) :
      ObserveCall cluster status
        [⟨before, .cachedStatefulSet ⟨cluster.namespaceName, cluster.serverName⟩, reply, after⟩]
        (reply.map fun found => { workload := found.map WorkloadView.ofStatefulSet })
  | source {source : String} (sees : status.sight = .pod source) (before after : State)
      (reply : Except SyncError (Option Pod)) :
      ObserveCall cluster status
        [⟨before, .pod ⟨cluster.namespaceName, source⟩, reply, after⟩]
        (sightOfSource ⟨cluster.namespaceName, source⟩ reply)

/-- An observation that has come to its end did so in one of these ways. -/
theorem observeCall_of_ends {cluster : Cluster} {status : ClusterStatus}
    {moments : List (Moment Reconciler State)} {result : Except SyncError Observed}
    (ends : (observe cluster status).Ends moments result) :
    ObserveCall cluster status moments result := by
  unfold observe at ends
  cases sees : status.sight with
  | nothing =>
      rw [sees] at ends
      rcases Program.follows_done_iff.mp ends with ⟨rfl, same⟩
      rw [Program.done.inj same]
      exact .blind sees
  | workload =>
      rw [sees] at ends
      rcases ends_bind ends with ⟨error, failed, rfl⟩ | ⟨first, second, found, rfl, read, shows⟩
      · rcases ends_of_request failed with ⟨before, after, rfl⟩
        exact .workload sees before after (.error error)
      · rcases ends_of_request read with ⟨before, after, rfl⟩
        rcases Program.follows_done_iff.mp shows with ⟨rfl, same⟩
        rw [Program.done.inj same]
        exact .workload sees before after (.ok found)
  | pod source =>
      rw [sees] at ends
      rcases ends_bind ends with ⟨error, failed, rfl⟩ | ⟨first, second, found, rfl, read, shows⟩
      · rcases ends_of_request failed with ⟨before, after, rfl⟩
        exact .source sees before after (.error error)
      · rcases ends_of_request read with ⟨before, after, rfl⟩
        cases found with
        | none =>
            rcases Program.follows_done_iff.mp shows with ⟨rfl, same⟩
            rw [Program.done.inj same]
            exact .source sees before after (.ok none)
        | some pod =>
            rcases Program.follows_done_iff.mp shows with ⟨rfl, same⟩
            rw [Program.done.inj same]
            exact .source sees before after (.ok (some pod))

/-- What a call of `persist` does once the stored cluster was read. -/
def afterRead (cluster : Cluster) (changed : ClusterStatus) :
    Except SyncError (Option Cluster) → Program Reconciler (Except SyncError WriteOutcome)
  | .error error => .done (.error error)
  | .ok none => .done (.ok .gone)
  | .ok (some latest) =>
      if latest.status ≠ cluster.status then
        .done (.error (.conflict cluster.queueKey "status changed since it was read"))
      else
        match latest.metadata.resourceVersion with
        | none =>
            .done (.error (.internal "patch" (cluster.queueKey ++ " has no resourceVersion")))
        | some version =>
            .ask (.patchStatus cluster.resourceKey
              (guarded version (ClusterStatus.diff cluster.status changed)))
              fun reply => .done (reply.map fun _ =>
                .applied (ClusterStatus.diff cluster.status changed).length)

theorem run_persist (cluster : Cluster) (changed : ClusterStatus) :
    (persist cluster changed : Attempt Reconciler WriteOutcome).run =
      if ClusterStatus.diff cluster.status changed = [] then .done (.ok .unchanged)
      else .ask (.latestCluster cluster.resourceKey) (afterRead cluster changed) := by
  by_cases none : ClusterStatus.diff cluster.status changed = []
  · simp only [persist, if_pos none]
    rfl
  · simp only [persist, if_neg none]
    show Program.ask (.latestCluster cluster.resourceKey) _ = _
    congr 1
    funext reply
    match reply with
    | .error error => rfl
    | .ok .none => rfl
    | .ok (some latest) =>
        refine (Program.done_bind _ _).trans ?_
        by_cases same : latest.status = cluster.status
        · cases held : latest.metadata.resourceVersion with
          | none =>
              simp only [ExceptT.bindCont, afterRead, same, held, ne_eq, not_true_eq_false,
                if_false]
              rfl
          | some version =>
              simp only [ExceptT.bindCont, afterRead, same, held, ne_eq, not_true_eq_false,
                if_false]
              show Program.ask _ _ = _
              congr 1
              funext reply
              cases reply <;> rfl
        · simp only [ExceptT.bindCont, afterRead, same, ne_eq, not_false_eq_true, if_true]
          rfl

/-- The ways in which a call of `persist` can have come to its end. -/
inductive PersistCall (cluster : Cluster) (changed : ClusterStatus) :
    List (Moment Reconciler State) → Except SyncError WriteOutcome → Prop where
  | idle (same : ClusterStatus.diff cluster.status changed = []) :
      PersistCall cluster changed [] (.ok .unchanged)
  | gone (before after : State) :
      PersistCall cluster changed
        [⟨before, .latestCluster cluster.resourceKey, .ok none, after⟩] (.ok .gone)
  | refused (before after : State) (reply : Except SyncError (Option Cluster))
      (error : SyncError) :
      PersistCall cluster changed
        [⟨before, .latestCluster cluster.resourceKey, reply, after⟩] (.error error)
  | sent (differs : ClusterStatus.diff cluster.status changed ≠ []) {latest : Cluster}
      (same : latest.status = cluster.status) {version : String}
      (held : latest.metadata.resourceVersion = some version)
      (before between later after : State) (reply : Except SyncError Unit) :
      PersistCall cluster changed
        [⟨before, .latestCluster cluster.resourceKey, .ok (some latest), between⟩,
          ⟨later, .patchStatus cluster.resourceKey
            (guarded version (ClusterStatus.diff cluster.status changed)), reply, after⟩]
        (reply.map fun _ => .applied (ClusterStatus.diff cluster.status changed).length)

/-- A call of `persist` has come to an end, or it has not asked for a patch yet. -/
theorem follows_persist {cluster : Cluster} {changed : ClusterStatus}
    {call : List (Moment Reconciler State)}
    {rest : Program Reconciler (Except SyncError WriteOutcome)}
    (follows : Follows (persist cluster changed).run call rest) :
    (∃ question next, rest = .ask question next ∧
        ∀ moment ∈ call, moment.request.Quiet) ∨
      ∃ result, rest = .done result ∧ PersistCall cluster changed call result := by
  rw [run_persist] at follows
  split at follows
  · next same =>
      rcases Program.follows_done_iff.mp follows with ⟨rfl, rfl⟩
      exact Or.inr ⟨_, rfl, .idle same⟩
  · next differs =>
      rcases Program.follows_ask_iff.mp follows with ⟨rfl, rfl⟩ |
          ⟨before, reply, between, sent, rfl, on⟩
      · exact Or.inl ⟨_, _, rfl, by simp⟩
      · match reply with
        | .error error =>
            rcases Program.follows_done_iff.mp on with ⟨rfl, rfl⟩
            exact Or.inr ⟨_, rfl, .refused before between (.error error) error⟩
        | .ok none =>
            rcases Program.follows_done_iff.mp on with ⟨rfl, rfl⟩
            exact Or.inr ⟨_, rfl, .gone before between⟩
        | .ok (some latest) =>
            simp only [afterRead] at on
            split at on
            · rcases Program.follows_done_iff.mp on with ⟨rfl, rfl⟩
              exact Or.inr ⟨_, rfl, .refused before between (.ok (some latest)) _⟩
            · next same =>
                have equal : latest.status = cluster.status := Decidable.not_not.mp same
                split at on
                · rcases Program.follows_done_iff.mp on with ⟨rfl, rfl⟩
                  exact Or.inr ⟨_, rfl, .refused before between (.ok (some latest)) _⟩
                · next version held =>
                    rcases Program.follows_ask_iff.mp on with ⟨rfl, rfl⟩ |
                        ⟨later, answer, after, final, rfl, ends⟩
                    · refine Or.inl ⟨_, _, rfl, ?_⟩
                      intro moment present
                      rw [List.mem_singleton.mp present]
                      trivial
                    · rcases Program.follows_done_iff.mp ends with ⟨rfl, rfl⟩
                      exact Or.inr ⟨_, rfl,
                        .sent differs equal held before between later after answer⟩

/-- A call of `persist` that has come to its end did so in one of these ways. -/
theorem persistCall_of_ends {cluster : Cluster} {changed : ClusterStatus}
    {call : List (Moment Reconciler State)} {outcome : Except SyncError WriteOutcome}
    (ends : (persist cluster changed).Ends call outcome) :
    PersistCall cluster changed call outcome := by
  rcases follows_persist ends with ⟨_, _, impossible, _⟩ | ⟨result, same, called⟩
  · exact absurd impossible (by simp)
  · rwa [Program.done.inj same]

/-- Only a call without a difference ends with nothing written. -/
theorem diff_of_unchanged {cluster : Cluster} {changed : ClusterStatus}
    {call : List (Moment Reconciler State)}
    (called : PersistCall cluster changed call (.ok .unchanged)) :
    ClusterStatus.diff cluster.status changed = [] := by
  generalize ended : (Except.ok .unchanged : Except SyncError WriteOutcome) = outcome at called
  cases called with
  | idle same => exact same
  | gone before after => simp at ended
  | refused before after reply error => simp at ended
  | sent differs same held before between later after reply =>
      cases reply <;> simp [Except.map] at ended

theorem precede_looks (cluster : Cluster) :
    (precede cluster : Attempt Reconciler Unit).run.AsksOnly Request.Looks := by
  unfold precede
  split
  · exact reportConflicts_looks cluster
  · trivial

theorem precede_quiet (cluster : Cluster) :
    (precede cluster : Attempt Reconciler Unit).run.AsksOnly Request.Quiet :=
  (precede_looks cluster).mono fun _ looks => looks.quiet

theorem settle_looks (cluster : Cluster) (transition : Transition) (outcome : WriteOutcome) :
    (settle cluster transition outcome : Attempt Reconciler StateOutcome).run.AsksOnly
      Request.Looks := by
  cases outcome with
  | gone => trivial
  | unchanged => trivial
  | applied operations =>
      exact asksOnly_bind (announce_looks cluster transition.outcome) fun _ => trivial

theorem settle_quiet (cluster : Cluster) (transition : Transition) (outcome : WriteOutcome) :
    (settle cluster transition outcome : Attempt Reconciler StateOutcome).run.AsksOnly
      Request.Quiet :=
  (settle_looks cluster transition outcome).mono fun _ looks => looks.quiet

/--
In these moments a pass read `snapshot`, observed `observed`, and then brought
its call of `persist` to an end.
-/
def Calls (moments : List (Moment Reconciler State)) (snapshot : Cluster)
    (observed : Observed) (call : List (Moment Reconciler State))
    (outcome : Except SyncError WriteOutcome) : Prop :=
  ∃ key before after early sight later,
    moments = ⟨before, .cachedCluster key, .ok (some snapshot), after⟩ ::
      (early ++ (sight ++ (call ++ later))) ∧
    (observe snapshot snapshot.statusOrDefault).Ends sight (.ok observed) ∧
    (persist snapshot (transitionOf snapshot observed).status).Ends call outcome

/-- A patch is sent after a quiet part has come to its end. -/
theorem patch_after {Value Other : Type} {attempt : Attempt Reconciler Value}
    {next : Value → Attempt Reconciler Other} {moments : List (Moment Reconciler State)}
    {rest : Program Reconciler (Except SyncError Other)}
    (quiet : attempt.run.AsksOnly Request.Quiet)
    (follows : Follows (attempt >>= next).run moments rest)
    {moment : Moment Reconciler State} (present : moment ∈ moments)
    (patches : moment.request.Patches) :
    ∃ first second value, moments = first ++ second ∧ attempt.Ends first (.ok value) ∧
      Follows (next value).run second rest ∧ moment ∈ second := by
  rcases Attempt.follows_bind follows with ⟨middle, within⟩ |
      ⟨first, second, value, rfl, ends, goes⟩
  · exact absurd patches (within.permitted quiet moment present).not_patches
  · rcases List.mem_append.mp present with early | late
    · exact absurd patches (Follows.permitted ends quiet moment early).not_patches
    · exact ⟨first, second, value, rfl, ends, goes, late⟩

/-- A patch is sent before a part that sends none. -/
theorem patch_before {Value Other : Type} {attempt : Attempt Reconciler Value}
    {next : Value → Attempt Reconciler Other} {moments : List (Moment Reconciler State)}
    {rest : Program Reconciler (Except SyncError Other)}
    (sends : ∀ value, (next value).run.AsksOnly fun request => ¬ request.Patches)
    (follows : Follows (attempt >>= next).run moments rest)
    {moment : Moment Reconciler State} (present : moment ∈ moments)
    (patches : moment.request.Patches) :
    ∃ first second middle, moments = first ++ second ∧
      Follows attempt.run first middle ∧ moment ∈ first := by
  rcases Attempt.follows_bind follows with ⟨middle, within⟩ |
      ⟨first, second, value, rfl, ends, goes⟩
  · exact ⟨moments, [], middle, by simp, within, present⟩
  · rcases List.mem_append.mp present with early | late
    · exact ⟨first, second, _, rfl, ends, early⟩
    · exact absurd patches (goes.permitted (sends value) moment late)

/-- A patch is sent after a check only if the check was passed. -/
theorem patch_after_check {Other : Type} {check : Except SyncError Unit}
    {next : Unit → Attempt Reconciler Other} {moments : List (Moment Reconciler State)}
    {rest : Program Reconciler (Except SyncError Other)}
    (follows : Follows (ofExcept check >>= next).run moments rest)
    {moment : Moment Reconciler State} (present : moment ∈ moments)
    (patches : moment.request.Patches) : Follows (next ()).run moments rest := by
  have quiet : (ofExcept check : Attempt Reconciler Unit).run.AsksOnly Request.Quiet := by
    rw [run_ofExcept]
    trivial
  rcases patch_after quiet follows present patches with ⟨first, second, value, rfl, ends, goes, _⟩
  unfold Ends at ends
  rw [run_ofExcept] at ends
  rcases Program.follows_done_iff.mp ends with ⟨rfl, _⟩
  exact goes

theorem patch_in_conclude {key : String} {cluster : Cluster} {observed : Observed}
    {moments : List (Moment Reconciler State)}
    {rest : Program Reconciler (Except SyncError StateOutcome)}
    (follows : Follows (conclude key cluster observed).run moments rest)
    {moment : Moment Reconciler State} (present : moment ∈ moments)
    (patches : moment.request.Patches) :
    ∃ call later outcome, moments = call ++ later ∧ moment ∈ call ∧
      (persist cluster (transitionOf cluster observed).status).Ends call outcome := by
  rw [conclude_eq] at follows
  have sends (outcome : WriteOutcome) :
      (settle cluster (transitionOf cluster observed) outcome :
        Attempt Reconciler StateOutcome).run.AsksOnly fun request => ¬ request.Patches :=
    (settle_quiet cluster _ outcome).mono fun _ quiet => quiet.not_patches
  rcases patch_before sends follows present patches with ⟨call, later, middle, rfl, within, member⟩
  rcases follows_persist within with ⟨_, _, _, quiet⟩ | ⟨outcome, rfl, _⟩
  · exact absurd patches (quiet moment member).not_patches
  · exact ⟨call, later, outcome, rfl, member, within⟩

/-- Every patch of a pass belongs to its one call of `persist`. -/
theorem exists_calls_of_patches {reconcilers : List Reconciler} {text : String}
    {moments : List (Moment Reconciler State)}
    {rest : Program Reconciler (Except SyncError SyncOutcome)}
    (follows : Follows (sync reconcilers text).run moments rest)
    {moment : Moment Reconciler State} (present : moment ∈ moments)
    (patches : moment.request.Patches) :
    ∃ snapshot observed call outcome,
      Calls moments snapshot observed call outcome ∧ moment ∈ call := by
  unfold sync at follows
  cases parsed : ResourceKey.parse? text with
  | none =>
      rw [parsed] at follows
      rcases Program.follows_done_iff.mp follows with ⟨rfl, _⟩
      simp at present
  | some key =>
      simp only [parsed] at follows
      have reads : (cachedCluster key : Attempt Reconciler _).run.AsksOnly Request.Quiet :=
        ⟨trivial, fun _ => trivial⟩
      rcases patch_after reads follows present patches with
        ⟨cached, second, value, rfl, ends, goes, inside⟩
      rcases ends_of_request ends with ⟨before, after, rfl⟩
      cases value with
      | none =>
          rcases Program.follows_done_iff.mp goes with ⟨rfl, _⟩
          simp at inside
      | some snapshot =>
          have running := patch_after_check goes inside patches
          rcases patch_before (fun state => finish_asks reconcilers snapshot state) running inside
              patches with
            ⟨machine, finishing, middle, rfl, within, stays⟩
          rw [run_result] at within
          have reached : ∃ left, Follows (runStateMachine text snapshot).run machine left := by
            rcases Program.follows_bind within with ⟨left, reaches, _⟩ |
                ⟨first, second, value, rfl, reaches, done⟩
            · exact ⟨left, reaches⟩
            · rcases Program.follows_done_iff.mp done with ⟨rfl, _⟩
              exact ⟨_, by simpa using reaches⟩
          rcases reached with ⟨left, reaches⟩
          rw [runStateMachine_eq] at reaches
          rcases patch_after (precede_quiet snapshot) reaches stays patches with
            ⟨early, later, _, rfl, _, observing, inObserving⟩
          rcases patch_after (observe_quiet snapshot _) observing inObserving patches with
            ⟨sight, last, observed, rfl, looked, concluding, inConcluding⟩
          rcases patch_in_conclude concluding inConcluding patches with
            ⟨call, afterwards, outcome, rfl, member, ended⟩
          exact ⟨snapshot, observed, call, outcome,
            ⟨key, before, after, early, sight, afterwards ++ finishing,
              by simp [List.append_assoc], looked, ended⟩, member⟩

/-! ## Passes that have ended -/

/-- The result of the first half of a pass, by the outcome of its write. -/
def settled (status : ClusterStatus) :
    Except SyncError WriteOutcome → Except SyncError StateOutcome
  | .error error => .error error
  | .ok .gone => .ok .gone
  | .ok .unchanged => .ok (.persisted status false)
  | .ok (.applied _) => .ok (.persisted status true)

theorem announce_ends {cluster : Cluster} {outcome : Outcome}
    {moments : List (Moment Reconciler State)} {result : Except SyncError Unit}
    (ends : (announce cluster outcome).Ends moments result) : result = .ok () := by
  unfold announce at ends
  split at ends
  · exact Program.done.inj (Program.follows_done_iff.mp ends).2
  · rcases Program.follows_bind_done ends with ⟨_, _, _, rfl, _, later⟩
    exact Program.done.inj (Program.follows_done_iff.mp later).2

theorem settle_ends {cluster : Cluster} {transition : Transition} {outcome : WriteOutcome}
    {moments : List (Moment Reconciler State)} {result : Except SyncError StateOutcome}
    (ends : (settle cluster transition outcome).Ends moments result) :
    result = settled transition.status (.ok outcome) := by
  cases outcome with
  | gone => exact Program.done.inj (Program.follows_done_iff.mp ends).2
  | unchanged => exact Program.done.inj (Program.follows_done_iff.mp ends).2
  | applied operations =>
      rcases ends_bind ends with ⟨error, failed, _⟩ | ⟨_, _, _, rfl, _, later⟩
      · exact absurd (announce_ends failed) (by simp)
      · exact Program.done.inj (Program.follows_done_iff.mp later).2

section Perform

variable (answer : (request : Request Reconciler) → StateM State (Reply request))

theorem perform_reportConflicts (cluster : Cluster) (state : State) :
    (perform answer (reportConflicts cluster) state).1 = .ok () := by
  unfold reportConflicts
  rw [perform_bind, perform_result]
  -- A collision is advice, so even a check that fails is passed over.
  cases (perform answer (checkConflicts cluster) state).1 with
  | error error => rfl
  | ok report =>
      dsimp only
      split <;> rfl

theorem perform_precede (cluster : Cluster) (state : State) :
    (perform answer (precede cluster) state).1 = .ok () := by
  unfold precede
  split
  · exact perform_reportConflicts answer cluster state
  · rfl

theorem perform_settle (cluster : Cluster) (transition : Transition) (outcome : WriteOutcome)
    (state : State) :
    (perform answer (settle cluster transition outcome) state).1 =
      settled transition.status (.ok outcome) := by
  rcases exists_ends_perform answer (settle cluster transition outcome) state with ⟨_, ends⟩
  exact settle_ends ends

end Perform

/-- What the first half of a pass has done, by its result. -/
inductive MachineHistory (snapshot : Cluster) :
    List (Moment Reconciler State) → Except SyncError StateOutcome → Prop where
  | looked {moments : List (Moment Reconciler State)} (error : SyncError)
      (quiet : ∀ moment ∈ moments, moment.request.Quiet) :
      MachineHistory snapshot moments (.error error)
  | wrote {early sight call last : List (Moment Reconciler State)} {observed : Observed}
      {outcome : Except SyncError WriteOutcome}
      (quietEarly : ∀ moment ∈ early, moment.request.Quiet)
      (sighted : (observe snapshot snapshot.statusOrDefault).Ends sight (.ok observed))
      (called : PersistCall snapshot (transitionOf snapshot observed).status call outcome)
      (quietLast : ∀ moment ∈ last, moment.request.Quiet) :
      MachineHistory snapshot (early ++ (sight ++ (call ++ last)))
        (settled (transitionOf snapshot observed).status outcome)

theorem quiet_append {first second : List (Moment Reconciler State)}
    (quietFirst : ∀ moment ∈ first, moment.request.Quiet)
    (quietSecond : ∀ moment ∈ second, moment.request.Quiet) :
    ∀ moment ∈ first ++ second, moment.request.Quiet := by
  intro moment present
  rcases List.mem_append.mp present with earlier | later
  · exact quietFirst moment earlier
  · exact quietSecond moment later

theorem machineHistory_of_ends {key : String} {snapshot : Cluster}
    {moments : List (Moment Reconciler State)} {result : Except SyncError StateOutcome}
    (ends : (runStateMachine key snapshot).Ends moments result) :
    MachineHistory snapshot moments result := by
  rw [runStateMachine_eq] at ends
  rcases ends_bind ends with ⟨error, failed, rfl⟩ | ⟨early, later, _, rfl, preceded, ends⟩
  · exact .looked error (Follows.permitted failed (precede_quiet snapshot))
  have quietEarly := Follows.permitted preceded (precede_quiet snapshot)
  rcases ends_bind ends with ⟨error, failed, rfl⟩ | ⟨sight, last, observed, rfl, sighted, ends⟩
  · exact .looked error (quiet_append quietEarly
      (Follows.permitted failed (observe_quiet snapshot _)))
  rw [conclude_eq] at ends
  rcases ends_bind ends with ⟨error, failed, rfl⟩ | ⟨call, last, outcome, rfl, called, ends⟩
  · have none : ∀ moment ∈ ([] : List (Moment Reconciler State)), moment.request.Quiet := by
      simp
    have whole := MachineHistory.wrote quietEarly sighted (persistCall_of_ends failed) none
    rw [List.append_nil] at whole
    exact whole
  · rw [settle_ends ends]
    exact .wrote quietEarly sighted (persistCall_of_ends called)
      (Follows.permitted ends (settle_quiet snapshot _ outcome))

/-- What a pass that has come to its end has done. -/
inductive SyncHistory (text : String) : List (Moment Reconciler State) → Prop where
  | looked {moments : List (Moment Reconciler State)}
      (quiet : ∀ moment ∈ moments, moment.request.Quiet) : SyncHistory text moments
  | ran {key : ResourceKey} {snapshot : Cluster} {state : Except SyncError StateOutcome}
      {machine finishing : List (Moment Reconciler State)} (before after : State)
      (parsed : ResourceKey.parse? text = some key)
      (history : MachineHistory snapshot machine state)
      (reconciles : ∀ moment ∈ finishing,
        ∃ reconciler, moment.request = .reconcile reconciler (target snapshot state)) :
      SyncHistory text
        (⟨before, .cachedCluster key, .ok (some snapshot), after⟩ :: (machine ++ finishing))

/-- Every pass that ends does so in one of these ways. -/
theorem syncHistory_of_ends {reconcilers : List Reconciler} {text : String}
    {moments : List (Moment Reconciler State)} {result : Except SyncError SyncOutcome}
    (ends : (sync reconcilers text).Ends moments result) : SyncHistory text moments := by
  unfold sync at ends
  cases parsed : ResourceKey.parse? text with
  | none =>
      simp only [parsed] at ends
      rcases Program.follows_done_iff.mp ends with ⟨rfl, _⟩
      exact .looked (by simp)
  | some key =>
      simp only [parsed] at ends
      have reads : (cachedCluster key : Attempt Reconciler _).run.AsksOnly Request.Quiet :=
        ⟨trivial, fun _ => trivial⟩
      rcases ends_bind ends with ⟨error, failed, _⟩ | ⟨cached, rest, found, rfl, read, goes⟩
      · exact .looked (Follows.permitted failed reads)
      have quietRead := Follows.permitted read reads
      rcases ends_of_request read with ⟨before, after, rfl⟩
      cases found with
      | none =>
          rcases Program.follows_done_iff.mp goes with ⟨rfl, _⟩
          exact .looked (by simpa using quietRead)
      | some snapshot =>
          rcases ends_bind goes with ⟨error, failed, _⟩ | ⟨check, later, _, split, checked, runs⟩
          · rw [(ends_ofExcept failed).1, List.append_nil]
            exact .looked quietRead
          rw [(ends_ofExcept checked).1, List.nil_append] at split
          rw [split]
          rcases ends_bind runs with ⟨error, failed, _⟩ |
              ⟨machine, finishing, state, parts, ran, finished⟩
          · rcases ends_result failed with ⟨_, impossible, _⟩
            exact absurd impossible (by simp)
          · rcases ends_result ran with ⟨inner, same, inside⟩
            have equal : state = inner := by simpa using same
            rw [equal] at finished
            rw [parts, List.singleton_append]
            exact .ran before after parsed (machineHistory_of_ends inside)
              (Follows.permitted finished (finish_reconciles reconcilers snapshot inner))

end Pass

end GaleraControl
