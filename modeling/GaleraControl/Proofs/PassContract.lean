import GaleraControl.Proofs.Surroundings

/-!
# What a pass does, whatever fails

A pass has many exits: a key that is no key, a cluster that is not there or not
valid, a failed observation, a failed write, a cluster that is gone by the time
of the write, and any number of failing reconcilers.  From a pass that ran, the
results of its observation and of its write decide which exit was taken, what the
store holds, and what the reconcilers were called with.
-/

namespace GaleraControl.Surroundings

open Pass Program Attempt

variable {Reconciler State : Type} (world : Surroundings Reconciler State)

/-! ## The first half of a pass -/

/-- What the first half of a pass observes, and the surroundings after that. -/
def observation (cluster : Cluster) (state : State) : Except SyncError Observed × State :=
  world.perform (observe cluster cluster.statusOrDefault)
    (world.perform (precede cluster) state).2

/-- How the write ended that follows an observation. -/
def statusWrite (cluster : Cluster) (observed : Observed) (state : State) :
    Except SyncError WriteOutcome × State :=
  world.perform (persist cluster (transitionOf cluster observed).status) state

/-- What a write may make of the store, by its outcome. -/
inductive Written (stored : Clusters) (cluster : Cluster) (changed : ClusterStatus) :
    Except SyncError WriteOutcome → Clusters → Prop where
  | failed (error : SyncError) : Written stored cluster changed (.error error) stored
  | gone :
      Written stored cluster changed (.ok .gone)
        (Function.update stored cluster.resourceKey none)
  | unchanged (same : changed = cluster.statusOrDefault) :
      Written stored cluster changed (.ok .unchanged) stored
  | applied {latest : Cluster} (held : stored cluster.resourceKey = some latest)
      (same : latest.status = cluster.status) (operations : Nat) (version : String) :
      Written stored cluster changed (.ok (.applied operations))
        (Function.update stored cluster.resourceKey
          (some (latest.revised (some version) (some changed))))

/-- A patch that was guarded and applied has stored the new status, and nothing else. -/
theorem eq_update_of_patches {stored after : Clusters} {cluster latest : Cluster}
    {changed : ClusterStatus} {version : String}
    (held : stored cluster.resourceKey = some latest) (same : latest.status = cluster.status)
    (differs : ClusterStatus.diff cluster.status changed ≠ [])
    (patches : Patches cluster.resourceKey
      (guarded version (ClusterStatus.diff cluster.status changed)) stored after) :
    ∃ fresh, after = Function.update stored cluster.resourceKey
      (some (latest.revised (some fresh) (some changed))) := by
  rcases patches with ⟨found, document, patched, written, fresh, shown, reads, applies, rereads, rfl⟩
  obtain rfl : latest = found := Option.some.inj (held.symm.trans shown)
  rw [← same] at differs applies
  rcases Cluster.decode_patched reads differs applies with ⟨_, _, _, _, decodes, _⟩
  rw [decodes] at rereads
  cases rereads
  exact ⟨fresh, rfl⟩

/-- A patch that is sent for the stored cluster writes the new status, or it fails. -/
theorem run_patchStatus {cluster latest : Cluster} {changed : ClusterStatus} {state : State}
    (differs : ClusterStatus.diff cluster.status changed ≠ [])
    (held : world.stored state cluster.resourceKey = some latest)
    (same : latest.status = cluster.status) (version : String) :
    Written (world.stored state) cluster changed
      ((world.answer (.patchStatus cluster.resourceKey
        (guarded version (ClusterStatus.diff cluster.status changed))) state).1.map
          fun _ => .applied (ClusterStatus.diff cluster.status changed).length)
      (world.stored (world.answer (.patchStatus cluster.resourceKey
        (guarded version (ClusterStatus.diff cluster.status changed))) state).2) := by
  rcases world.serves (.patchStatus cluster.resourceKey
      (guarded version (ClusterStatus.diff cluster.status changed))) state with
    ⟨error, replied, kept⟩ | ⟨replied, patches⟩
  · rw [replied, kept]
    exact .failed error
  · rcases eq_update_of_patches held same differs patches with ⟨fresh, written⟩
    rw [replied, written]
    exact .applied held same _ fresh

/-- A call of `persist` calls no reconciler, and writes the new status or nothing. -/
theorem perform_persist (cluster : Cluster) (changed : ClusterStatus) (state : State) :
    world.calls (persist cluster changed).run state = [] ∧
      Written (world.stored state) cluster changed
        (world.perform (persist cluster changed) state).1
        (world.stored (world.perform (persist cluster changed) state).2) := by
  by_cases same : ClusterStatus.diff cluster.status changed = []
  · simp only [perform, Attempt.perform, run_persist, if_pos same]
    exact ⟨rfl, .unchanged (ClusterStatus.eq_of_diff_eq_nil same)⟩
  have read := world.serves (.latestCluster cluster.resourceKey) state
  have called : world.calls (persist cluster changed).run state =
      world.calls (afterRead cluster changed
        (world.answer (.latestCluster cluster.resourceKey) state).1)
        (world.answer (.latestCluster cluster.resourceKey) state).2 := by
    rw [run_persist, if_neg same]
    rfl
  have performed : world.perform (persist cluster changed) state =
      (afterRead cluster changed
        (world.answer (.latestCluster cluster.resourceKey) state).1).run world.answer
        (world.answer (.latestCluster cluster.resourceKey) state).2 := by
    show (persist cluster changed).run.run world.answer state = _
    rw [run_persist, if_neg same]
    rfl
  rw [called, performed]
  generalize world.answer (.latestCluster cluster.resourceKey) state = reading at read ⊢
  rcases reading with ⟨reply, middle⟩
  cases reply with
  | error error =>
      rcases read with ⟨_, kept⟩ | ⟨impossible, _⟩
      · refine ⟨rfl, ?_⟩
        show Written _ _ _ (.error error) (world.stored middle)
        rw [kept]
        exact .failed error
      · exact absurd impossible (by simp)
  | ok found =>
      cases found with
      | none =>
          refine ⟨rfl, ?_⟩
          have missing : world.stored middle =
              Function.update (world.stored state) cluster.resourceKey none := by
            rcases read with ⟨finds, kept⟩ | ⟨_, missing⟩
            · exact kept.trans (Function.update_eq_self_iff.mpr (finds none rfl)).symm
            · exact missing
          show Written _ _ _ (.ok .gone) (world.stored middle)
          rw [missing]
          exact .gone
      | some latest =>
          rcases read with ⟨finds, kept⟩ | ⟨impossible, _⟩
          · have held := finds (some latest) rfl
            dsimp only at kept ⊢
            rw [← kept] at held ⊢
            simp only [afterRead]
            split
            · exact ⟨rfl, .failed _⟩
            · next equal =>
                split
                · exact ⟨rfl, .failed _⟩
                · next version _ =>
                    exact ⟨rfl, world.run_patchStatus same held.symm
                      (Decidable.not_not.mp equal) version⟩
          · exact absurd (Except.ok.inj impossible) (Option.some_ne_none latest)

theorem perform_conclude (text : String) (cluster : Cluster) (observed : Observed)
    (state : State) :
    world.calls (conclude text cluster observed).run state = [] ∧
      (world.perform (conclude text cluster observed) state).1 =
        settled (transitionOf cluster observed).status
          (world.statusWrite cluster observed state).1 ∧
      world.stored (world.perform (conclude text cluster observed) state).2 =
        world.stored (world.statusWrite cluster observed state).2 := by
  have none := (world.perform_persist cluster (transitionOf cluster observed).status state).1
  rw [conclude_eq, perform_bind, calls_attempt_bind, none]
  unfold statusWrite
  cases world.perform (persist cluster (transitionOf cluster observed).status) state with
  | mk outcome after =>
      cases outcome with
      | error error => exact ⟨rfl, rfl, rfl⟩
      | ok outcome =>
          have quiet := world.run_of_looks
            (settle_looks cluster (transitionOf cluster observed) outcome) after
          exact ⟨quiet.1, perform_settle world.answer cluster _ outcome after, quiet.2⟩

/--
The first half of a pass calls no reconciler.  It fails as its observation does,
or else it ends as its write does.
-/
theorem perform_runStateMachine (text : String) (cluster : Cluster) (state : State) :
    world.calls (runStateMachine text cluster).run state = [] ∧
      match (world.observation cluster state).1 with
      | .error error =>
          (world.perform (runStateMachine text cluster) state).1 = .error error ∧
            world.stored (world.perform (runStateMachine text cluster) state).2 =
              world.stored state
      | .ok observed =>
          (world.perform (runStateMachine text cluster) state).1 =
              settled (transitionOf cluster observed).status
                (world.statusWrite cluster observed (world.observation cluster state).2).1 ∧
            Written (world.stored state) cluster (transitionOf cluster observed).status
              (world.statusWrite cluster observed (world.observation cluster state).2).1
              (world.stored (world.perform (runStateMachine text cluster) state).2) := by
  have observing : world.observation cluster state =
      world.perform (observe cluster cluster.statusOrDefault)
        (world.perform (precede cluster) state).2 := rfl
  have preceded : (world.perform (precede cluster) state).1 = .ok () :=
    perform_precede world.answer cluster state
  have early := world.run_of_looks (precede_looks cluster) state
  have sight := world.run_of_looks (observe_looks cluster cluster.statusOrDefault)
    (world.perform (precede cluster) state).2
  have kept : world.stored (world.observation cluster state).2 = world.stored state :=
    sight.2.trans early.2
  rw [runStateMachine_eq, perform_bind, calls_attempt_bind, early.1, List.nil_append]
  cases running : world.perform (precede cluster) state with
  | mk result begun =>
      rw [running] at preceded observing sight
      obtain rfl : result = .ok () := preceded
      dsimp only at observing sight ⊢
      rw [perform_bind, calls_attempt_bind, sight.1, List.nil_append, ← observing]
      cases seen : world.observation cluster state with
      | mk observed after =>
          rw [seen] at kept
          cases observed with
          | error error =>
              exact ⟨rfl, rfl, kept⟩
          | ok observed =>
              have concluded := world.perform_conclude text cluster observed after
              have written := (world.perform_persist cluster
                (transitionOf cluster observed).status after).2
              dsimp only at kept ⊢
              rw [kept] at written
              rw [concluded.2.2]
              exact ⟨concluded.1, concluded.2.1, written⟩

/-! ## The second half of a pass -/

/-- The second half of a pass leaves the store alone, and calls the reconcilers or none. -/
theorem perform_finish (reconcilers : List Reconciler) (cluster : Cluster)
    (ended : Except SyncError StateOutcome) (state : State) :
    world.stored (world.perform (finish reconcilers cluster ended) state).2 =
        world.stored state ∧
      match ended with
      | .ok .gone =>
          world.calls (finish reconcilers cluster ended).run state = [] ∧
            (world.perform (finish reconcilers cluster ended) state).1 = .ok .deleted
      | .ok (.persisted status changed) =>
          (world.calls (finish reconcilers cluster ended).run state).map Call.asked =
              reconcilers.map (·, { cluster with status := some status }) ∧
            (world.perform (finish reconcilers cluster ended) state).1 =
              ((world.calls (finish reconcilers cluster ended).run state).findSome?
                Call.failure?).elim (.ok (.synced status.phase changed)) .error
      | .error error =>
          (world.calls (finish reconcilers cluster ended).run state).map Call.asked =
              reconcilers.map (·, cluster) ∧
            (world.perform (finish reconcilers cluster ended) state).1 = .error error := by
  match ended with
  | .ok .gone => exact ⟨rfl, rfl, rfl⟩
  | .ok (.persisted status changed) =>
      rcases world.perform_reconcileAll { cluster with status := some status } reconcilers state
        with ⟨asked, failure, kept⟩
      have called :
          world.calls (finish reconcilers cluster (.ok (.persisted status changed))).run state =
            world.calls (reconcileAll { cluster with status := some status } reconcilers).run
              state := by
        simp only [finish, calls_attempt_bind]
        cases world.perform
          (reconcileAll { cluster with status := some status } reconcilers) state with
        | mk result after => cases result <;> exact List.append_nil _
      have performed :
          world.perform (finish reconcilers cluster (.ok (.persisted status changed))) state =
            ((world.perform
                (reconcileAll { cluster with status := some status } reconcilers) state).1.map
                fun _ => .synced status.phase changed,
              (world.perform
                (reconcileAll { cluster with status := some status } reconcilers) state).2) := by
        simp only [finish, perform_bind]
        cases world.perform
          (reconcileAll { cluster with status := some status } reconcilers) state with
        | mk result after => cases result <;> rfl
      rw [called, performed]
      refine ⟨kept, asked, ?_⟩
      rw [failure]
      cases (world.calls _ state).findSome? Call.failure? <;> rfl
  | .error error =>
      rcases world.perform_reconcileAll cluster reconcilers state with ⟨asked, _, kept⟩
      have called : world.calls (finish reconcilers cluster (.error error)).run state =
          world.calls (reconcileAll cluster reconcilers).run state := by
        simp only [finish, calls_attempt_bind, perform_result, calls_result]
        exact List.append_nil _
      rw [called]
      simp only [finish, perform_bind, perform_result]
      exact ⟨kept, asked, rfl⟩

/-! ## The whole pass -/

/-- The calls of reconcilers during a pass, in their order. -/
def called (reconcilers : List Reconciler) (text : String) (first : State) :
    List (Call Reconciler) :=
  world.calls (sync reconcilers text).run first

/-- The result of a pass. -/
def result (reconcilers : List Reconciler) (text : String) (first : State) :
    Except SyncError SyncOutcome :=
  (world.perform (sync reconcilers text) first).1

/-- What is stored after a pass. -/
def storedAfter (reconcilers : List Reconciler) (text : String) (first : State) : Clusters :=
  world.stored (world.perform (sync reconcilers text) first).2

/--
A pass gets to the first half: its text is a key, the cache shows a cluster
under it, and the specification of that cluster is valid.
-/
structure Begins (text : String) (first : State) (key : ResourceKey) (cluster : Cluster)
    (begun : State) : Prop where
  parsed : ResourceKey.parse? text = some key
  read : world.answer (.cachedCluster key) first = (Except.ok (some cluster), begun)
  valid : cluster.spec.validate text = .ok ()

/-- The observation or the write of a status failed. -/
def Fails (cluster : Cluster) (begun : State) (error : SyncError) : Prop :=
  (world.observation cluster begun).1 = .error error ∨
    ∃ observed, (world.observation cluster begun).1 = .ok observed ∧
      (world.statusWrite cluster observed (world.observation cluster begun).2).1 = .error error

/-- The stored cluster was gone when the status was to be written. -/
def Gone (cluster : Cluster) (begun : State) : Prop :=
  ∃ observed, (world.observation cluster begun).1 = .ok observed ∧
    (world.statusWrite cluster observed (world.observation cluster begun).2).1 = .ok .gone

/-- The status of the transition is stored, with a write or because it did not change. -/
def Stores (cluster : Cluster) (begun : State) (status : ClusterStatus) (changed : Bool) :
    Prop :=
  ∃ observed outcome, (world.observation cluster begun).1 = .ok observed ∧
    (world.statusWrite cluster observed (world.observation cluster begun).2).1 = .ok outcome ∧
    status = (transitionOf cluster observed).status ∧
    (outcome = .unchanged ∧ changed = false ∨
      ∃ operations, outcome = .applied operations ∧ changed = true)

section Sync

variable {world} {reconcilers : List Reconciler} {text : String} {first begun : State}
  {key : ResourceKey} {cluster : Cluster}

/-- A pass that begins is its two halves. -/
theorem Begins.perform_sync (begins : world.Begins text first key cluster begun)
    (reconcilers : List Reconciler) :
    world.perform (sync reconcilers text) first =
        world.perform
          (finish reconcilers cluster (world.perform (runStateMachine text cluster) begun).1)
          (world.perform (runStateMachine text cluster) begun).2 ∧
      world.calls (sync reconcilers text).run first =
        world.calls
          (finish reconcilers cluster (world.perform (runStateMachine text cluster) begun).1).run
          (world.perform (runStateMachine text cluster) begun).2 := by
  have read : world.perform (Attempt.cachedCluster key) first = (.ok (some cluster), begun) :=
    begins.read
  have looks : world.calls (Attempt.cachedCluster key).run first = [] := rfl
  have machine := (world.perform_runStateMachine text cluster begun).1
  simp only [sync, begins.parsed, begins.valid, perform_bind, calls_attempt_bind, read, looks,
    perform_ofExcept, calls_ofExcept, perform_result, calls_result, machine, List.nil_append,
    and_self]

/-- The read of the cluster finds what the cache shows, and leaves the store alone. -/
theorem Begins.found (begins : world.Begins text first key cluster begun) :
    world.shown first key = some cluster ∧ world.stored begun = world.stored first := by
  have serves := world.serves (.cachedCluster key) first
  rw [begins.read] at serves
  exact ⟨(serves.1 _ rfl).symm, serves.2⟩

theorem Fails.ended {error : SyncError} (fails : world.Fails cluster begun error)
    (text : String) :
    (world.perform (runStateMachine text cluster) begun).1 = .error error ∧
      world.stored (world.perform (runStateMachine text cluster) begun).2 =
        world.stored begun := by
  have machine := (world.perform_runStateMachine text cluster begun).2
  rcases fails with failed | ⟨observed, seen, failed⟩
  · rw [failed] at machine
    exact machine
  · rw [seen] at machine
    dsimp only at machine
    rw [failed] at machine
    rcases machine with ⟨result, written⟩
    generalize world.stored (world.perform (runStateMachine text cluster) begun).2 = after
      at written ⊢
    cases written with
    | failed _ => exact ⟨result, rfl⟩

theorem Gone.ended (gone : world.Gone cluster begun) (text : String) :
    (world.perform (runStateMachine text cluster) begun).1 = .ok .gone ∧
      world.stored (world.perform (runStateMachine text cluster) begun).2 =
        Function.update (world.stored begun) cluster.resourceKey none := by
  have machine := (world.perform_runStateMachine text cluster begun).2
  rcases gone with ⟨observed, seen, missing⟩
  rw [seen] at machine
  dsimp only at machine
  rw [missing] at machine
  rcases machine with ⟨result, written⟩
  generalize world.stored (world.perform (runStateMachine text cluster) begun).2 = after
    at written ⊢
  cases written with
  | gone => exact ⟨result, rfl⟩

/--
The first half of a pass that stores a status has found it stored, or it has
written it over the same status that the pass was read with.
-/
theorem Stores.ended {status : ClusterStatus} {changed : Bool}
    (stores : world.Stores cluster begun status changed) (text : String) :
    (world.perform (runStateMachine text cluster) begun).1 = .ok (.persisted status changed) ∧
      ((status = cluster.statusOrDefault ∧
          world.stored (world.perform (runStateMachine text cluster) begun).2 =
            world.stored begun) ∨
        ∃ latest version, world.stored begun cluster.resourceKey = some latest ∧
          latest.status = cluster.status ∧
          world.stored (world.perform (runStateMachine text cluster) begun).2 =
            Function.update (world.stored begun) cluster.resourceKey
              (some (latest.revised (some version) (some status)))) := by
  have machine := (world.perform_runStateMachine text cluster begun).2
  rcases stores with ⟨observed, outcome, seen, ended, rfl, way⟩
  rw [seen] at machine
  dsimp only at machine
  rw [ended] at machine
  rcases machine with ⟨result, written⟩
  generalize world.stored (world.perform (runStateMachine text cluster) begun).2 = after
    at written ⊢
  rcases way with ⟨rfl, rfl⟩ | ⟨operations, rfl, rfl⟩
  · cases written with
    | unchanged same => exact ⟨result, Or.inl ⟨same, rfl⟩⟩
  · cases written with
    | @applied latest held same _ version =>
        exact ⟨result, Or.inr ⟨latest, version, held, same, rfl⟩⟩

/-- The first half of a pass ends in one of three ways. -/
theorem fails_or_gone_or_stores (cluster : Cluster) (begun : State) :
    (∃ error, world.Fails cluster begun error) ∨ world.Gone cluster begun ∨
      ∃ status changed, world.Stores cluster begun status changed := by
  cases seen : (world.observation cluster begun).1 with
  | error error => exact Or.inl ⟨error, Or.inl seen⟩
  | ok observed =>
      cases ended : (world.statusWrite cluster observed
          (world.observation cluster begun).2).1 with
      | error error => exact Or.inl ⟨error, Or.inr ⟨observed, seen, ended⟩⟩
      | ok outcome =>
          cases outcome with
          | gone => exact Or.inr (Or.inl ⟨observed, seen, ended⟩)
          | unchanged =>
              exact Or.inr (Or.inr ⟨_, false, observed, _, seen, ended, rfl, Or.inl ⟨rfl, rfl⟩⟩)
          | applied operations =>
              exact Or.inr (Or.inr ⟨_, true, observed, _, seen, ended, rfl,
                Or.inr ⟨operations, rfl, rfl⟩⟩)

/-- A pass that fails in its first half reconciles with the cluster as it was read. -/
theorem Begins.fails (begins : world.Begins text first key cluster begun) {error : SyncError}
    (fails : world.Fails cluster begun error) (reconcilers : List Reconciler) :
    (world.called reconcilers text first).map Call.asked = reconcilers.map (·, cluster) ∧
      world.result reconcilers text first = .error error ∧
      world.storedAfter reconcilers text first = world.stored first := by
  rcases begins.perform_sync reconcilers with ⟨performed, called⟩
  rcases fails.ended text with ⟨ended, kept⟩
  have finished := world.perform_finish reconcilers cluster (.error error)
    (world.perform (runStateMachine text cluster) begun).2
  rw [Surroundings.called, result, storedAfter, performed, called, ended]
  exact ⟨finished.2.1, finished.2.2, finished.1.trans (kept.trans begins.found.2)⟩

/-- A pass whose cluster is gone reconciles nothing. -/
theorem Begins.gone (begins : world.Begins text first key cluster begun)
    (gone : world.Gone cluster begun) (reconcilers : List Reconciler) :
    world.called reconcilers text first = [] ∧
      world.result reconcilers text first = .ok .deleted ∧
      world.storedAfter reconcilers text first =
        Function.update (world.stored first) cluster.resourceKey none := by
  rcases begins.perform_sync reconcilers with ⟨performed, called⟩
  rcases gone.ended text with ⟨ended, missing⟩
  have finished := world.perform_finish reconcilers cluster (.ok .gone)
    (world.perform (runStateMachine text cluster) begun).2
  rw [Surroundings.called, result, storedAfter, performed, called, ended]
  refine ⟨finished.2.1, finished.2.2, finished.1.trans ?_⟩
  rw [missing, begins.found.2]

/-- A pass that stores its status reconciles with it, and what is stored stays so. -/
theorem Begins.stores (begins : world.Begins text first key cluster begun)
    {status : ClusterStatus} {changed : Bool}
    (stores : world.Stores cluster begun status changed) (reconcilers : List Reconciler) :
    (world.called reconcilers text first).map Call.asked =
        reconcilers.map (·, { cluster with status := some status }) ∧
      world.result reconcilers text first =
        ((world.called reconcilers text first).findSome? Call.failure?).elim
          (.ok (.synced status.phase changed)) .error ∧
      world.storedAfter reconcilers text first =
        world.stored (world.perform (runStateMachine text cluster) begun).2 := by
  rcases begins.perform_sync reconcilers with ⟨performed, called⟩
  have finished := world.perform_finish reconcilers cluster (.ok (.persisted status changed))
    (world.perform (runStateMachine text cluster) begun).2
  rw [Surroundings.called, result, storedAfter, performed, called, (stores.ended text).1]
  exact ⟨finished.2.1, finished.2.2, finished.1⟩

/-- A pass that the cache shows what is stored to leaves that with its new status. -/
theorem Begins.exists_stored (begins : world.Begins text first key cluster begun)
    {status : ClusterStatus} {changed : Bool}
    (stores : world.Stores cluster begun status changed) (reconcilers : List Reconciler)
    (shows : world.shown first key = world.stored first key)
    (named : cluster.resourceKey = key) :
    ∃ version recorded,
      world.storedAfter reconcilers text first key = some (cluster.revised version recorded) ∧
        recorded.getD {} = status := by
  have held : world.stored begun cluster.resourceKey = some cluster := by
    rw [begins.found.2, named, ← shows, begins.found.1]
  rw [(begins.stores stores reconcilers).2.2, ← named]
  rcases (stores.ended text).2 with ⟨rfl, kept⟩ | ⟨latest, version, found, _, written⟩
  · exact ⟨cluster.metadata.resourceVersion, cluster.status, by rw [kept, held]; rfl, rfl⟩
  · obtain rfl : cluster = latest := Option.some.inj (held.symm.trans found)
    exact ⟨some version, some status, by rw [written, Function.update_self], rfl⟩

end Sync

/-- How a pass ends that does not begin. -/
inductive Exit (text : String) (first : State) : Except SyncError SyncOutcome → Prop where
  | malformed (unparsed : ResourceKey.parse? text = none) :
      Exit text first (.error (.invalidKey text))
  | unread {key : ResourceKey} (parsed : ResourceKey.parse? text = some key) {error : SyncError}
      (failed : (world.answer (.cachedCluster key) first).1 = Except.error error) :
      Exit text first (.error error)
  | missing {key : ResourceKey} (parsed : ResourceKey.parse? text = some key)
      (absent : (world.answer (.cachedCluster key) first).1 = Except.ok none) :
      Exit text first (.ok .deleted)
  | invalid {key : ResourceKey} (parsed : ResourceKey.parse? text = some key)
      {cluster : Cluster}
      (found : (world.answer (.cachedCluster key) first).1 = Except.ok (some cluster))
      {error : SyncError} (refused : cluster.spec.validate text = .error error) :
      Exit text first (.error error)

/-- A pass that does not begin reconciles nothing and leaves the store alone. -/
theorem begins_or_exit (reconcilers : List Reconciler) (text : String) (first : State) :
    (∃ key cluster begun, world.Begins text first key cluster begun) ∨
      (world.Exit text first (world.result reconcilers text first) ∧
        world.called reconcilers text first = [] ∧
        world.storedAfter reconcilers text first = world.stored first) := by
  unfold called result storedAfter sync
  cases parsed : ResourceKey.parse? text with
  | none => exact Or.inr ⟨.malformed parsed, rfl, rfl⟩
  | some key =>
      have kept : world.stored (world.answer (.cachedCluster key) first).2 =
          world.stored first := (world.serves (.cachedCluster key) first).2
      have looks : world.calls (Attempt.cachedCluster key).run first = [] := rfl
      dsimp only
      rw [perform_bind, calls_attempt_bind, looks, List.nil_append]
      cases read : world.perform (Attempt.cachedCluster key) first with
      | mk reply begun =>
          have answered : world.answer (.cachedCluster key) first = (reply, begun) := read
          rw [answered] at kept
          match reply with
          | .error error => exact Or.inr ⟨.unread parsed (by rw [answered]), rfl, kept⟩
          | .ok none => exact Or.inr ⟨.missing parsed (by rw [answered]), rfl, kept⟩
          | .ok (some cluster) =>
              cases valid : cluster.spec.validate text with
              | ok _ => exact Or.inl ⟨key, cluster, begun, parsed, answered, valid⟩
              | error error =>
                  refine Or.inr ?_
                  dsimp only
                  rw [valid, perform_bind, calls_attempt_bind, perform_ofExcept, calls_ofExcept]
                  exact ⟨.invalid parsed (by rw [answered]) valid, rfl, kept⟩

/--
What holds of every pass: when the reconcilers run, which cluster they are given,
what is stored in the end, and which failure is the result.
-/
structure Contract (reconcilers : List Reconciler) (text : String) (first : State) : Prop where
  /-- Only what happens until the write decides whether the reconcilers run. -/
  runs_iff : world.called reconcilers text first ≠ [] ↔
    reconcilers ≠ [] ∧ ∃ key cluster begun,
      world.Begins text first key cluster begun ∧ ¬ world.Gone cluster begun
  /-- If they run, then each of them once, in order, and all with one cluster. -/
  together : world.called reconcilers text first ≠ [] → ∃ cluster,
    (world.called reconcilers text first).map Call.asked = reconcilers.map (·, cluster)
  /-- A failed observation or write wins over failing reconcilers. -/
  fails : ∀ key cluster begun error, world.Begins text first key cluster begun →
    world.Fails cluster begun error →
      (world.called reconcilers text first).map Call.asked = reconcilers.map (·, cluster) ∧
        world.result reconcilers text first = .error error ∧
        world.storedAfter reconcilers text first = world.stored first
  /-- Otherwise the status of the transition is given to the reconcilers and stored. -/
  stores : ∀ key cluster begun status changed, world.Begins text first key cluster begun →
    world.Stores cluster begun status changed →
      (world.called reconcilers text first).map Call.asked =
          reconcilers.map (·, { cluster with status := some status }) ∧
        world.result reconcilers text first =
          ((world.called reconcilers text first).findSome? Call.failure?).elim
            (.ok (.synced status.phase changed)) .error ∧
        (cluster.resourceKey = key → ∃ version recorded,
          world.storedAfter reconcilers text first key =
              some (cluster.revised version recorded) ∧
            recorded.getD {} = status)
  gone : ∀ key cluster begun, world.Begins text first key cluster begun →
    world.Gone cluster begun → world.result reconcilers text first = .ok .deleted
  /-- There is no other way for a pass that begins. -/
  complete : ∀ key cluster begun, world.Begins text first key cluster begun →
    (∃ error, world.Fails cluster begun error) ∨ world.Gone cluster begun ∨
      ∃ status changed, world.Stores cluster begun status changed
  exits : (¬ ∃ key cluster begun, world.Begins text first key cluster begun) →
    world.Exit text first (world.result reconcilers text first) ∧
      world.storedAfter reconcilers text first = world.stored first

/-- A pass that begins and whose cluster is there calls all reconcilers with one cluster. -/
theorem Begins.exists_asked {world : Surroundings Reconciler State} {text : String}
    {first begun : State} {key : ResourceKey} {cluster : Cluster}
    (begins : world.Begins text first key cluster begun) (present : ¬ world.Gone cluster begun)
    (reconcilers : List Reconciler) :
    ∃ target, (world.called reconcilers text first).map Call.asked =
      reconcilers.map (·, target) := by
  rcases world.fails_or_gone_or_stores cluster begun with ⟨error, fails⟩ | gone |
      ⟨status, changed, stores⟩
  · exact ⟨cluster, (begins.fails fails reconcilers).1⟩
  · exact absurd gone present
  · exact ⟨_, (begins.stores stores reconcilers).1⟩

/-- Reconcilers are called only by a pass that begins and whose cluster is there. -/
theorem exists_begins_of_called {reconcilers : List Reconciler} {text : String} {first : State}
    (runs : world.called reconcilers text first ≠ []) :
    ∃ key cluster begun,
      world.Begins text first key cluster begun ∧ ¬ world.Gone cluster begun := by
  rcases world.begins_or_exit reconcilers text first with
    ⟨key, cluster, begun, begins⟩ | ⟨_, none, _⟩
  · exact ⟨key, cluster, begun, begins, fun gone => runs (begins.gone gone reconcilers).1⟩
  · exact absurd none runs

/--
The contract of a pass, for any key, any reconcilers and whatever fails, if the
cache shows the stored cluster and nobody else writes its status.
-/
theorem sync_contract (reconcilers : List Reconciler) (text : String) (first : State)
    (shows : ∀ key, ResourceKey.parse? text = some key →
      world.shown first key = world.stored first key) :
    world.Contract reconcilers text first where
  runs_iff := by
    constructor
    · intro runs
      rcases world.exists_begins_of_called runs with ⟨key, cluster, begun, begins, present⟩
      rcases begins.exists_asked present reconcilers with ⟨target, asked⟩
      refine ⟨?_, key, cluster, begun, begins, present⟩
      rintro rfl
      exact runs (List.map_eq_nil_iff.mp asked)
    · rintro ⟨several, key, cluster, begun, begins, present⟩ none
      rcases begins.exists_asked present reconcilers with ⟨target, asked⟩
      rw [none, List.map_nil] at asked
      exact several (List.map_eq_nil_iff.mp asked.symm)
  together runs := by
    rcases world.exists_begins_of_called runs with ⟨_, _, _, begins, present⟩
    exact begins.exists_asked present reconcilers
  fails _ _ _ _ begins fails := begins.fails fails reconcilers
  stores key cluster begun status changed begins stores := by
    rcases begins.stores stores reconcilers with ⟨asked, result, _⟩
    exact ⟨asked, result,
      begins.exists_stored stores reconcilers (shows key begins.parsed)⟩
  gone _ _ _ begins gone := (begins.gone gone reconcilers).2.1
  complete _ cluster begun _ := world.fails_or_gone_or_stores cluster begun
  exits rests := by
    rcases world.begins_or_exit reconcilers text first with begins | ⟨exit, _, kept⟩
    · exact absurd begins rests
    · exact ⟨exit, kept⟩

/-- A cluster of three replicas that has no status yet. -/
def plainCluster : Cluster where
  metadata := { name := some "db", namespaceName := some "ns", resourceVersion := some "1" }
  spec := { replicas := 3 }

/-- Neither its status can be written nor its service be applied. -/
def refusedWrite : World.Unraced :=
  let patch : Fault := { error := .internal "patch" "timed out" }
  let service : Fault := { error := .internal "apply" "forbidden" }
  ⟨((({} : World).putCluster plainCluster).setFault "apply" patch).setFault
    "reconcile:Service" service, rfl⟩

theorem refusedWrite_contract :
    let reconcilers : List WorldReconciler := [⟨"Service", false⟩, ⟨"StatefulSet", true⟩]
    (∀ key, ResourceKey.parse? "ns/db" = some key →
        World.surroundings.shown refusedWrite key = World.surroundings.stored refusedWrite key) ∧
      World.surroundings.Contract reconcilers "ns/db" refusedWrite ∧
      (World.surroundings.called reconcilers "ns/db" refusedWrite).map Call.asked =
        reconcilers.map (·, plainCluster) ∧
      World.surroundings.result reconcilers "ns/db" refusedWrite =
        .error (.internal "patch" "timed out") := by
  intro reconcilers
  have shows : ∀ key, ResourceKey.parse? "ns/db" = some key →
      World.surroundings.shown refusedWrite key = World.surroundings.stored refusedWrite key :=
    fun _ _ => rfl
  have contract := World.surroundings.sync_contract reconcilers "ns/db" refusedWrite shows
  have begins : World.surroundings.Begins "ns/db" refusedWrite ⟨"ns", "db"⟩ plainCluster _ :=
    ⟨rfl, rfl, rfl⟩
  have fails := contract.fails _ _ _ _ begins (Or.inr ⟨{}, rfl, rfl⟩)
  exact ⟨shows, contract, fails.1, fails.2.1⟩

end GaleraControl.Surroundings
