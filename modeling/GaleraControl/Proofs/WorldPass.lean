import GaleraControl.Proofs.StatusPatch
import GaleraControl.Proofs.SyncHistory
import GaleraControl.World.Answers

/-!
# A pass in the world

What one pass can do to the world in memory, whatever failures strike it at
whatever request: the cache of the dependents stays as it is, the stored cluster
keeps its status or takes the next one, and a workload that is applied is that
of the cluster with the status that is stored when the pass is over.  Only if the
answer to a write of the status is lost, the pass goes on as if the status had not
been written, and what it applies is the workload of the status before.
-/

namespace GaleraControl

namespace World

open Pass Program Attempt

/-- A request is answered by the world, with any failures being due at that moment. -/
def Answered (moment : Moment WorldReconciler World) : Prop :=
  ∃ faults, answer moment.request { moment.before with faults } = (moment.reply, moment.after)

theorem answered_answer (request : Request WorldReconciler) (world : World) :
    Answered ⟨world, request, (answer request world).1, (answer request world).2⟩ :=
  ⟨world.faults, rfl⟩

/-- How the answers of the world reach a pass. -/
inductive Channel where
  /-- Every answer arrives. -/
  | reliable
  /-- The answer to a write may be lost, and then the write seems to have failed. -/
  | lossy
deriving DecidableEq, Repr

/-- What a pass is told about a request: the answer or, if this is lost, any error. -/
inductive Reported (channel : Channel) : Moment WorldReconciler World → Prop where
  | answered {moment : Moment WorldReconciler World} (answered : Answered moment) :
      Reported channel moment
  | lostPatch (lossy : channel = .lossy) {before after : World} {key : ResourceKey}
      {operations : List PatchOperation}
      (written : Answered ⟨before, .patchStatus key operations, .ok (), after⟩)
      (error : SyncError) :
      Reported channel ⟨before, .patchStatus key operations, .error error, after⟩
  | lostReconcile (lossy : channel = .lossy) {before after : World}
      {reconciler : WorldReconciler} {cluster : Cluster}
      (applied : Answered ⟨before, .reconcile reconciler cluster, .ok (), after⟩)
      (error : SyncError) :
      Reported channel ⟨before, .reconcile reconciler cluster, .error error, after⟩

/-- No answer to a request that writes nothing is lost. -/
theorem Reported.answered_of_quiet {channel : Channel} {moment : Moment WorldReconciler World}
    (reported : Reported channel moment) (quiet : moment.request.Quiet) : Answered moment := by
  cases reported with
  | answered answered => exact answered
  | lostPatch => exact absurd quiet id
  | lostReconcile => exact absurd quiet id

/-- The moments of a pass lead from one world to another. -/
inductive Connects (channel : Channel) :
    World → List (Moment WorldReconciler World) → World → Prop where
  | nil (world : World) : Connects channel world [] world
  | cons {moment : Moment WorldReconciler World}
      {moments : List (Moment WorldReconciler World)} {last : World}
      (reported : Reported channel moment)
      (connects : Connects channel moment.after moments last) :
      Connects channel moment.before (moment :: moments) last

theorem connects_append {channel : Channel} {first last : World}
    {earlier later : List (Moment WorldReconciler World)} :
    Connects channel first (earlier ++ later) last ↔
      ∃ middle, Connects channel first earlier middle ∧ Connects channel middle later last := by
  constructor
  · intro connects
    induction earlier generalizing first with
    | nil => exact ⟨first, .nil first, connects⟩
    | cons moment rest ih =>
        cases connects with
        | cons reported connects =>
            rcases ih connects with ⟨middle, before, after⟩
            exact ⟨middle, .cons reported before, after⟩
  · rintro ⟨middle, before, after⟩
    induction before with
    | nil => exact after
    | cons reported _ ih => exact .cons reported (ih after)

/-- An interpreter that reports over a channel follows a program to its end. -/
theorem exists_connects {channel : Channel}
    {report : (request : Request WorldReconciler) → StateM World (Reply request)}
    (reports : ∀ request world,
      Reported channel ⟨world, request, (report request world).1, (report request world).2⟩)
    {Value : Type} (program : Program WorldReconciler Value) (world : World) :
    ∃ moments, Follows program moments (.done (program.run report world).1) ∧
      Connects channel world moments (program.run report world).2 := by
  induction program generalizing world with
  | done value => exact ⟨[], .start _, .nil world⟩
  | ask question next ih =>
      rcases ih (report question world).1 (report question world).2 with
        ⟨moments, follows, connects⟩
      exact ⟨_ :: moments, .ask world _ _ follows, .cons (reports question world) connects⟩

theorem reported_answer (channel : Channel) (request : Request WorldReconciler) (world : World) :
    Reported channel ⟨world, request, (answer request world).1, (answer request world).2⟩ :=
  .answered (answered_answer request world)

/-- The world behind a channel that loses every answer to a write of the status. -/
def answerLosing (lost : SyncError) :
    (request : Request WorldReconciler) → StateM World (Reply request)
  | .patchStatus key operations => fun world =>
      match answer (.patchStatus key operations) world with
      | (.ok (), after) => (.error lost, after)
      | (.error error, after) => (.error error, after)
  | request => answer request

theorem reported_answerLosing (lost : SyncError) (request : Request WorldReconciler)
    (world : World) :
    Reported .lossy ⟨world, request, (answerLosing lost request world).1,
      (answerLosing lost request world).2⟩ := by
  have answered := reported_answer .lossy request world
  cases request with
  | patchStatus key operations =>
      cases told : answer (.patchStatus key operations) world with
      | mk reply after =>
          rw [told] at answered
          cases reply with
          | ok _ =>
              simp only [answerLosing, told]
              exact .lostPatch rfl ⟨world.faults, told⟩ lost
          | error error =>
              simp only [answerLosing, told]
              exact answered
  | _ => exact answered

/-- Two worlds with the same objects, in which the cache follows and nobody races. -/
structure Alike (first second : World) : Prop where
  clusters : second.clusters = first.clusters
  statefulSets : second.statefulSets = first.statefulSets
  applied : second.applied = first.applied
  frozen : second.frozen = first.frozen
  raceArmed : second.raceArmed = first.raceArmed

theorem Alike.refl (world : World) : Alike world world := ⟨rfl, rfl, rfl, rfl, rfl⟩

theorem Alike.trans {first second third : World} (earlier : Alike first second)
    (later : Alike second third) : Alike first third where
  clusters := later.clusters.trans earlier.clusters
  statefulSets := later.statefulSets.trans earlier.statefulSets
  applied := later.applied.trans earlier.applied
  frozen := later.frozen.trans earlier.frozen
  raceArmed := later.raceArmed.trans earlier.raceArmed

/-- The failures that are due do not matter for the objects. -/
theorem Alike.of_faults {world after : World} {faults : Table String Fault}
    (alike : Alike { world with faults } after) : Alike world after :=
  ⟨alike.clusters, alike.statefulSets, alike.applied, alike.frozen, alike.raceArmed⟩

theorem Alike.cachedClusters {first second : World} (alike : Alike first second) :
    second.cachedClusters = first.cachedClusters := by
  simp only [World.cachedClusters, alike.frozen, alike.clusters]

theorem strike_alike (point : String) (world : World) : Alike world (strike point world).2 := by
  unfold strike
  split
  · exact Alike.refl world
  · split
    · exact Alike.refl world
    · exact Alike.refl world
    · exact ⟨rfl, rfl, rfl, rfl, rfl⟩

/-! ## Answers to single requests -/

theorem lookup_eq {Value : Type} (point : LookupPoint) (key : ResourceKey)
    (found : World → Option Value) (world : World) :
    lookup point key found world =
      match strike point.text (world.record (.lookup point key)) with
      | (.error error, after) => (.error error, after)
      | (.ok (), after) => (.ok (found after), after) := by
  simp only [lookup, Bind.bind, StateT.bind, modify, modifyGet, MonadStateOf.modifyGet,
    StateT.modifyGet, pure]
  cases struck : strike point.text (world.record (.lookup point key)) with
  | mk reply after => cases reply <;> rfl

theorem answer_latestCluster (key : ResourceKey) (world : World) :
    answer (.latestCluster key) world =
      match lookup .latestCluster key (fun world => Table.get? world.clusters key) world with
      | (.error error, after) => (.error error, after)
      | (.ok found, after) =>
          (.ok found,
            if after.raceArmed then { after with raceArmed := false }.touch key else after) := by
  simp only [answer, Bind.bind, StateT.bind]
  cases looked : lookup .latestCluster key (fun world => Table.get? world.clusters key) world with
  | mk reply after => cases reply <;> rfl

theorem answer_patchStatus (key : ResourceKey) (operations : List PatchOperation)
    (world : World) :
    answer (.patchStatus key operations) world =
      match strike "apply" (world.record (.patch key operations)) with
      | (.error error, after) => (.error error, after)
      | (.ok (), after) => applyPatch key operations after.nextVersion := by
  simp only [answer, Bind.bind, StateT.bind, modify, modifyGet, MonadStateOf.modifyGet,
    StateT.modifyGet, pure]
  cases struck : strike "apply" (world.record (.patch key operations)) with
  | mk reply after => cases reply <;> rfl

theorem answer_reconcile (reconciler : WorldReconciler) (cluster : Cluster) (world : World) :
    answer (.reconcile reconciler cluster) world =
      match strike (reconcilePoint reconciler.kind)
          (world.record (.reconcile reconciler.kind cluster)) with
      | (.error error, after) => (.error error, after)
      | (.ok (), after) =>
          (.ok (), if reconciler.applies then after.apply cluster.workload else after) := by
  simp only [answer, Bind.bind, StateT.bind, modify, modifyGet, MonadStateOf.modifyGet,
    StateT.modifyGet, pure]
  cases struck : strike (reconcilePoint reconciler.kind)
      (world.record (.reconcile reconciler.kind cluster)) with
  | mk reply after =>
      cases reply with
      | error error => rfl
      | ok _ => cases reconciler.applies <;> rfl

theorem record_alike (world : World) (entry : WorldRecord) :
    Alike world (world.record entry) := ⟨rfl, rfl, rfl, rfl, rfl⟩

/-- A strike on a request that was just recorded leaves the objects alone. -/
theorem alike_of_strike {point : String} {entry : WorldRecord} {world after : World}
    {reply : Except SyncError Unit}
    (struck : strike point (world.record entry) = (reply, after)) : Alike world after := by
  have alike := (record_alike world entry).trans (strike_alike point (world.record entry))
  rw [struck] at alike
  exact alike

/-- A lookup leaves the objects alone, and what it finds is there. -/
theorem lookup_spec {Value : Type} {point : LookupPoint} {key : ResourceKey}
    {found : World → Option Value} {world after : World}
    {reply : Except SyncError (Option Value)}
    (looked : lookup point key found world = (reply, after)) :
    Alike world after ∧ ∀ value, reply = .ok value → value = found after := by
  rw [lookup_eq] at looked
  cases struck : strike point.text (world.record (.lookup point key)) with
  | mk result last =>
      rw [struck] at looked
      cases result with
      | error error =>
          have parts := Prod.mk.inj looked
          rw [← parts.2, ← parts.1]
          exact ⟨alike_of_strike struck, by simp⟩
      | ok _ =>
          have parts := Prod.mk.inj looked
          rw [← parts.2, ← parts.1]
          refine ⟨alike_of_strike struck, ?_⟩
          intro value same
          exact (Except.ok.inj same).symm

section Requests

variable {before after : World}

theorem answered_cachedCluster {key : ResourceKey} {reply : Except SyncError (Option Cluster)}
    (answered : Answered ⟨before, .cachedCluster key, reply, after⟩) :
    Alike before after ∧
      ∀ found, reply = .ok found → found = Table.get? before.cachedClusters key := by
  rcases answered with ⟨faults, answered⟩
  rcases lookup_spec answered with ⟨struck, found⟩
  have alike : Alike before after := struck.of_faults
  refine ⟨alike, ?_⟩
  intro value same
  rw [found value same, ← alike.cachedClusters]

theorem answered_cachedStatefulSet {key : ResourceKey}
    {reply : Except SyncError (Option StatefulSet)}
    (answered : Answered ⟨before, .cachedStatefulSet key, reply, after⟩) :
    Alike before after ∧
      ∀ found, reply = .ok found → found = Table.get? before.statefulSets key := by
  rcases answered with ⟨faults, answered⟩
  rcases lookup_spec answered with ⟨struck, found⟩
  have alike : Alike before after := struck.of_faults
  refine ⟨alike, ?_⟩
  intro value same
  rw [found value same, ← alike.statefulSets]

theorem answered_latestCluster {key : ResourceKey} {reply : Except SyncError (Option Cluster)}
    (alone : before.raceArmed = false)
    (answered : Answered ⟨before, .latestCluster key, reply, after⟩) :
    Alike before after ∧
      ∀ found, reply = .ok found → found = Table.get? before.clusters key := by
  rcases answered with ⟨faults, answered⟩
  rw [answer_latestCluster] at answered
  cases looked : lookup .latestCluster key (fun world => Table.get? world.clusters key)
      { before with faults } with
  | mk result last =>
      rcases lookup_spec looked with ⟨alike, found⟩
      have calm : last.raceArmed = false := alike.raceArmed.trans alone
      rw [looked] at answered
      have result_eq : reply = result ∧ after = last := by
        cases result with
        | error error =>
            have parts := Prod.mk.inj answered
            exact ⟨parts.1.symm, parts.2.symm⟩
        | ok value =>
            have parts := Prod.mk.inj answered
            exact ⟨parts.1.symm, by simpa [calm] using parts.2.symm⟩
      rw [result_eq.1, result_eq.2]
      refine ⟨alike.of_faults, ?_⟩
      intro value same
      rw [found value same, alike.clusters]

/-- A quiet request leaves the objects alone. -/
theorem alike_of_quiet {moment : Moment WorldReconciler World}
    (answered : Answered moment) (quiet : moment.request.Quiet)
    (alone : moment.before.raceArmed = false) : Alike moment.before moment.after := by
  rcases moment with ⟨first, request, reply, last⟩
  cases request with
  | cachedCluster key => exact (answered_cachedCluster answered).1
  | cachedStatefulSet key => exact (answered_cachedStatefulSet answered).1
  | latestCluster key => exact (answered_latestCluster alone answered).1
  | cachedConfigMap key =>
      rcases answered with ⟨faults, answered⟩
      exact (lookup_spec answered).1.of_faults
  | pod key =>
      rcases answered with ⟨faults, answered⟩
      exact (lookup_spec answered).1.of_faults
  | publish event =>
      rcases answered with ⟨faults, answered⟩
      have recorded : last = if first.recordsEvents
          then World.record { first with faults } (.event event)
          else { first with faults } := (Prod.mk.inj answered).2.symm
      rw [recorded]
      split <;> exact ⟨rfl, rfl, rfl, rfl, rfl⟩
  | patchStatus key operations => exact absurd quiet id
  | reconcile reconciler cluster => exact absurd quiet id

/-- A patch writes one cluster, and leaves everything else alone. -/
def Writes (before : World) (key : ResourceKey) (operations : List PatchOperation)
    (after : World) : Prop :=
  ∃ cluster patched version, Table.get? before.clusters key = some cluster ∧
    patchCluster? cluster operations = some patched ∧
    Table.get? after.clusters key =
      some { patched with
        metadata := { patched.metadata with resourceVersion := some version } } ∧
    (∀ other, other ≠ key →
      Table.get? after.clusters other = Table.get? before.clusters other) ∧
    after.statefulSets = before.statefulSets ∧ after.applied = before.applied ∧
    after.frozen = before.frozen ∧ after.raceArmed = before.raceArmed

/-- A patch that fails leaves the objects alone, and one that succeeds writes one cluster. -/
theorem answered_patchStatus {key : ResourceKey} {operations : List PatchOperation}
    {reply : Except SyncError Unit}
    (answered : Answered ⟨before, .patchStatus key operations, reply, after⟩) :
    ((∃ error, reply = .error error) ∧ Alike before after) ∨
      (reply = .ok () ∧ Writes before key operations after) := by
  rcases answered with ⟨faults, whole⟩
  have answered : answer (.patchStatus key operations) { before with faults } =
    (reply, after) := whole
  rw [answer_patchStatus] at answered
  cases struck : strike "apply" (World.record { before with faults } (.patch key operations)) with
  | mk result last =>
      have alike : Alike before last := (alike_of_strike struck).of_faults
      rw [struck] at answered
      cases result with
      | error error =>
          have parts := Prod.mk.inj answered
          rw [← parts.1, ← parts.2]
          exact Or.inl ⟨⟨error, rfl⟩, alike⟩
      | ok _ =>
          have raised : Alike last last.nextVersion := ⟨rfl, rfl, rfl, rfl, rfl⟩
          have later := alike.trans raised
          simp only [applyPatch] at answered
          split at answered
          · have parts := Prod.mk.inj answered
            rw [← parts.1, ← parts.2]
            exact Or.inl ⟨⟨_, rfl⟩, later⟩
          · next cluster stored =>
              split at answered
              · have parts := Prod.mk.inj answered
                rw [← parts.1, ← parts.2]
                exact Or.inl ⟨⟨_, rfl⟩, later⟩
              · next patched applied =>
                  have parts := Prod.mk.inj answered
                  rw [← parts.1, ← parts.2]
                  refine Or.inr ⟨rfl, cluster, patched, toString last.nextVersion.version, ?_,
                    applied, ?_, ?_, later.statefulSets, later.applied, later.frozen,
                    later.raceArmed⟩
                  · rw [← later.clusters]
                    exact stored
                  · simp only [stamp, Table.get?_modify, if_true, Table.get?_insert_self,
                      Option.map_some]
                  · intro other apart
                    rw [← later.clusters]
                    simp only [stamp, Table.get?_modify, if_neg apart.symm,
                      Table.get?_insert_of_ne apart.symm]

/-- A patch that seems to have failed has written all the same if its answer was lost. -/
theorem reported_patchStatus {channel : Channel} {key : ResourceKey}
    {operations : List PatchOperation} {reply : Except SyncError Unit}
    (reported : Reported channel ⟨before, .patchStatus key operations, reply, after⟩) :
    ((∃ error, reply = .error error) ∧ Alike before after) ∨
      ((reply = .ok () ∨ channel = .lossy ∧ ∃ error, reply = .error error) ∧
        Writes before key operations after) := by
  cases reported with
  | answered answered =>
      rcases answered_patchStatus answered with fails | ⟨replied, writes⟩
      · exact Or.inl fails
      · exact Or.inr ⟨Or.inl replied, writes⟩
  | lostPatch lossy written error =>
      rcases answered_patchStatus written with ⟨⟨_, impossible⟩, _⟩ | ⟨_, writes⟩
      · cases impossible
      · exact Or.inr ⟨Or.inr ⟨lossy, error, rfl⟩, writes⟩

/-- A reconciler leaves all alone, or it applies the workload of its cluster. -/
theorem answered_reconcile {reconciler : WorldReconciler} {cluster : Cluster}
    {reply : Except SyncError Unit}
    (answered : Answered ⟨before, .reconcile reconciler cluster, reply, after⟩) :
    after.clusters = before.clusters ∧ after.statefulSets = before.statefulSets ∧
      after.frozen = before.frozen ∧ after.raceArmed = before.raceArmed ∧
      (after.applied = before.applied ∨
        after.applied = (before.apply cluster.workload).applied) := by
  rcases answered with ⟨faults, whole⟩
  have answered : answer (.reconcile reconciler cluster) { before with faults } =
    (reply, after) := whole
  rw [answer_reconcile] at answered
  cases struck : strike (reconcilePoint reconciler.kind)
      (World.record { before with faults } (.reconcile reconciler.kind cluster)) with
  | mk result last =>
      have alike : Alike before last := (alike_of_strike struck).of_faults
      rw [struck] at answered
      cases result with
      | error error =>
          rw [← (Prod.mk.inj answered).2]
          exact ⟨alike.clusters, alike.statefulSets, alike.frozen, alike.raceArmed,
            Or.inl alike.applied⟩
      | ok _ =>
          have final := (Prod.mk.inj answered).2
          cases applies : reconciler.applies with
          | false =>
              simp only [applies, Bool.false_eq_true, if_false] at final
              rw [← final]
              exact ⟨alike.clusters, alike.statefulSets, alike.frozen, alike.raceArmed,
                Or.inl alike.applied⟩
          | true =>
              simp only [applies, if_true] at final
              rw [← final]
              refine ⟨alike.clusters, alike.statefulSets, alike.frozen, alike.raceArmed,
                Or.inr ?_⟩
              simp only [apply, alike.applied]

theorem Reported.exists_reconciled {channel : Channel} {reconciler : WorldReconciler}
    {cluster : Cluster} {reply : Except SyncError Unit}
    (reported : Reported channel ⟨before, .reconcile reconciler cluster, reply, after⟩) :
    ∃ answer, Answered ⟨before, .reconcile reconciler cluster, answer, after⟩ := by
  cases reported with
  | answered answered => exact ⟨reply, answered⟩
  | lostReconcile _ applied _ => exact ⟨_, applied⟩

end Requests

end World

/-! ## Applied workloads -/

/-- What an applied workload becomes when a specification is applied. -/
inductive AppliedWorkload.Becomes (spec : WorkloadSpec) :
    Option AppliedWorkload → AppliedWorkload → Prop where
  | created {applied : AppliedWorkload} (generation : applied.generation = 1)
      (holds : applied.spec = spec) : Becomes spec none applied
  | kept {applied : AppliedWorkload} (holds : applied.spec = spec) :
      Becomes spec (some applied) applied
  | raised {old applied : AppliedWorkload} (differs : old.spec ≠ spec)
      (generation : applied.generation = old.generation + 1) (holds : applied.spec = spec) :
      Becomes spec (some old) applied

theorem AppliedWorkload.Becomes.spec_eq {spec : WorkloadSpec} {old : Option AppliedWorkload}
    {applied : AppliedWorkload} (becomes : Becomes spec old applied) : applied.spec = spec := by
  cases becomes with
  | created _ holds => exact holds
  | kept holds => exact holds
  | raised _ _ holds => exact holds

/-- What is applied again stays as it is. -/
theorem AppliedWorkload.Becomes.again {spec : WorkloadSpec} {old : Option AppliedWorkload}
    {first second : AppliedWorkload} (becomes : Becomes spec old first)
    (again : Becomes spec (some first) second) : second = first := by
  cases again with
  | kept _ => rfl
  | raised differs _ _ => exact absurd becomes.spec_eq differs

namespace World

open Pass Program Attempt

/-- Applying a workload raises its generation exactly when its specification differs. -/
theorem apply_becomes (world : World) (workload : WorkloadManifest) :
    ∃ applied,
      Table.get? (world.apply workload).applied (keyOf workload.metadata) = some applied ∧
        AppliedWorkload.Becomes workload.spec
          (Table.get? world.applied (keyOf workload.metadata)) applied := by
  simp only [apply, Table.get?_insert_self, Option.some.injEq, exists_eq_left']
  cases held : Table.get? world.applied (keyOf workload.metadata) with
  | none => exact .created rfl rfl
  | some old =>
      by_cases same : old.spec = workload.spec
      · simp only [same, if_true]
        exact .kept same
      · simp only [same, if_false]
        exact .raised same rfl rfl

/-- What a pass may do to an applied workload by applying one specification. -/
def AppliedOnce (spec : WorkloadSpec) (old new : Option AppliedWorkload) : Prop :=
  new = old ∨ ∃ applied, new = some applied ∧ AppliedWorkload.Becomes spec old applied

theorem AppliedOnce.trans {spec : WorkloadSpec} {first second third : Option AppliedWorkload}
    (earlier : AppliedOnce spec first second) (later : AppliedOnce spec second third) :
    AppliedOnce spec first third := by
  rcases later with rfl | ⟨last, rfl, again⟩
  · exact earlier
  · rcases earlier with rfl | ⟨held, rfl, becomes⟩
    · exact Or.inr ⟨last, rfl, again⟩
    · exact Or.inr ⟨last, rfl, by rwa [becomes.again again]⟩

section Parts

variable {channel : Channel} {first last : World}

theorem Connects.alike {moments : List (Moment WorldReconciler World)}
    (connects : Connects channel first moments last) (alone : first.raceArmed = false)
    (quiet : ∀ moment ∈ moments, moment.request.Quiet) : Alike first last := by
  induction connects with
  | nil world => exact Alike.refl world
  | cons reported _ ih =>
      have asked := quiet _ List.mem_cons_self
      have step := alike_of_quiet (reported.answered_of_quiet asked) asked alone
      have calm := step.raceArmed.trans alone
      exact step.trans (ih calm fun moment present =>
        quiet moment (List.mem_cons_of_mem _ present))

/-- Reconciling with one cluster, however often, applies its workload at most once. -/
theorem Connects.reconciles {cluster : Cluster} {moments : List (Moment WorldReconciler World)}
    (connects : Connects channel first moments last)
    (each : ∀ moment ∈ moments, ∃ reconciler, moment.request = .reconcile reconciler cluster) :
    last.clusters = first.clusters ∧ last.statefulSets = first.statefulSets ∧
      last.frozen = first.frozen ∧ last.raceArmed = first.raceArmed ∧
      AppliedOnce cluster.workload.spec
        (Table.get? first.applied (keyOf cluster.workload.metadata))
        (Table.get? last.applied (keyOf cluster.workload.metadata)) := by
  induction connects with
  | nil world => exact ⟨rfl, rfl, rfl, rfl, Or.inl rfl⟩
  | @cons moment moments last reported _ ih =>
      rcases ih fun later present => each later (List.mem_cons_of_mem _ present) with
        ⟨clusters, statefulSets, frozen, raceArmed, later⟩
      rcases each moment List.mem_cons_self with ⟨reconciler, asked⟩
      rcases moment with ⟨before, request, reply, after⟩
      obtain rfl : request = .reconcile reconciler cluster := asked
      rcases reported.exists_reconciled with ⟨_, answered⟩
      rcases answered_reconcile answered with
        ⟨clusters', statefulSets', frozen', raceArmed', applied⟩
      refine ⟨clusters.trans clusters', statefulSets.trans statefulSets',
        frozen.trans frozen', raceArmed.trans raceArmed', ?_⟩
      refine AppliedOnce.trans ?_ later
      rcases applied with same | once
      · exact Or.inl (by rw [same])
      · rcases apply_becomes before cluster.workload with ⟨held, shown, becomes⟩
        exact Or.inr ⟨held, by rw [once, shown], becomes⟩

end Parts

/-! ## The effect of a whole pass -/

/-- The workload that an observation shows is the one that the cache shows. -/
def Saw (world : World) (cluster : Cluster) (observed : Observed) : Prop :=
  ∀ view, observed.workload = some view →
    ∃ workload,
      Table.get? world.statefulSets ⟨cluster.namespaceName, cluster.serverName⟩ =
        some workload ∧
      view = WorkloadView.ofStatefulSet workload

section Passes

variable {channel : Channel} {first last : World}

theorem saw_of_observe {cluster : Cluster} {status : ClusterStatus} {observed : Observed}
    {sight : List (Moment WorldReconciler World)}
    (connects : Connects channel first sight last)
    (ends : (observe cluster status).Ends sight (.ok observed)) : Saw first cluster observed := by
  intro view seen
  have call := observeCall_of_ends ends
  generalize shown : Except.ok observed = result at call
  cases call with
  | blind =>
      obtain rfl := Except.ok.inj shown
      simp at seen
  | workload _ before after reply =>
      cases reply with
      | error _ => cases shown
      | ok found =>
          obtain rfl := Except.ok.inj shown
          rcases Option.map_eq_some_iff.mp seen with ⟨workload, present, view_eq⟩
          cases connects with
          | cons reported _ =>
              have answered := reported.answered_of_quiet trivial
              have told := (answered_cachedStatefulSet answered).2 _ rfl
              exact ⟨workload, told.symm.trans present, view_eq.symm⟩
  | source _ before after reply =>
      rcases reply with _ | _ | pod
      · cases shown
      · cases shown
      · obtain rfl := Except.ok.inj shown
        simp at seen

/--
A call of `persist` on the stored cluster writes just its status, or nothing.  It
returns an error although it has written if the answer to its patch was lost.
-/
theorem call_effect {cluster : Cluster} {changed : ClusterStatus}
    {call : List (Moment WorldReconciler World)} {outcome : Except SyncError WriteOutcome}
    (connects : Connects channel first call last) (alone : first.raceArmed = false)
    (stored : Table.get? first.clusters cluster.resourceKey = some cluster)
    (called : PersistCall cluster changed call outcome) :
    (Alike first last ∧ ∀ operations, outcome ≠ .ok (.applied operations)) ∨
      ∃ version, ((∃ operations, outcome = .ok (.applied operations)) ∨
          channel = .lossy ∧ ∃ error, outcome = .error error) ∧
        Table.get? last.clusters cluster.resourceKey =
          some { cluster with
            metadata := { cluster.metadata with resourceVersion := some version }
            status := some changed } ∧
        last.statefulSets = first.statefulSets ∧ last.applied = first.applied ∧
        last.frozen = first.frozen ∧ last.raceArmed = first.raceArmed := by
  cases called with
  | idle same =>
      cases connects
      exact Or.inl ⟨Alike.refl first, by simp⟩
  | gone before after =>
      refine Or.inl ⟨connects.alike alone ?_, by simp⟩
      intro moment present
      rw [List.mem_singleton.mp present]
      trivial
  | refused before after reply error =>
      refine Or.inl ⟨connects.alike alone ?_, by simp⟩
      intro moment present
      rw [List.mem_singleton.mp present]
      trivial
  | @sent differs latest same version held before between later after reply =>
      cases connects with
      | cons read connects =>
          cases connects with
          | cons write connects =>
              cases connects
              rcases answered_latestCluster alone (read.answered_of_quiet trivial) with ⟨alike, _⟩
              rcases reported_patchStatus write with ⟨⟨error, rfl⟩, alikeAfter⟩ |
                  ⟨replied, found, patched, fresh, shown, applies, written, _, kept⟩
              · exact Or.inl ⟨alike.trans alikeAfter, by simp [Except.map]⟩
              · have present : Table.get? later.clusters cluster.resourceKey = some cluster := by
                  rw [alike.clusters]
                  exact stored
                obtain rfl : found = cluster := Option.some.inj (shown.symm.trans present)
                rcases Option.bind_eq_some_iff.mp applies with ⟨document, patches, decodes⟩
                rcases Cluster.decode_patched (Cluster.inverts.reads found) differs patches with
                  ⟨_, _, _, _, reads, _⟩
                rw [reads] at decodes
                obtain rfl := Option.some.inj decodes
                refine Or.inr ⟨fresh, ?_, written, kept.1.trans alike.statefulSets,
                  kept.2.1.trans alike.applied, kept.2.2.1.trans alike.frozen,
                  kept.2.2.2.trans alike.raceArmed⟩
                rcases replied with rfl | ⟨lossy, error, rfl⟩
                · exact Or.inl ⟨_, rfl⟩
                · exact Or.inr ⟨lossy, error, rfl⟩

/--
What a pass makes of the stored cluster `before`: it stays, or it takes the
status of the transition that follows from what the cache shows.
-/
inductive Persists (world : World) (before : Cluster) : Cluster → Prop where
  | keeps : Persists world before before
  | takes {observed : Observed} (saw : Saw world before observed) (version : String) :
      Persists world before
        { before with
          metadata := { before.metadata with resourceVersion := some version }
          status := some (transitionOf before observed).status }

theorem Persists.congr {first second : World} {before after : Cluster}
    (persists : Persists second before after)
    (same : second.statefulSets = first.statefulSets) : Persists first before after := by
  cases persists with
  | keeps => exact .keeps
  | takes saw version =>
      refine .takes ?_ version
      intro view seen
      rw [← same]
      exact saw view seen

/-- What a pass has done to the world by its end, for the cluster it was about. -/
structure Effect (channel : Channel) (first last : World) (before after target : Cluster) :
    Prop where
  stored : Table.get? last.clusters before.resourceKey = some after
  persists : Persists first before after
  statefulSets : last.statefulSets = first.statefulSets
  frozen : last.frozen = first.frozen
  raceArmed : last.raceArmed = first.raceArmed
  target_eq : target = { before with status := target.status }
  target_status : target.statusOrDefault = after.statusOrDefault ∨
    channel = .lossy ∧ target.statusOrDefault = before.statusOrDefault
  applied : AppliedOnce target.workload.spec
    (Table.get? first.applied (keyOf target.workload.metadata))
    (Table.get? last.applied (keyOf target.workload.metadata))

theorem effect_of_alike {cluster : Cluster} (alike : Alike first last)
    (stored : Table.get? first.clusters cluster.resourceKey = some cluster) :
    Effect channel first last cluster cluster cluster where
  stored := by rw [alike.clusters, stored]
  persists := .keeps
  statefulSets := alike.statefulSets
  frozen := alike.frozen
  raceArmed := alike.raceArmed
  target_eq := rfl
  target_status := Or.inl rfl
  applied := Or.inl (by rw [alike.applied])

/-- The first half of a pass leaves the workload to the second half. -/
theorem machine_effect {cluster : Cluster} {machine : List (Moment WorldReconciler World)}
    {state : Except SyncError StateOutcome} (connects : Connects channel first machine last)
    (alone : first.raceArmed = false)
    (stored : Table.get? first.clusters cluster.resourceKey = some cluster)
    (history : MachineHistory cluster machine state) :
    ∃ after, Effect channel first last cluster after (target cluster state) := by
  cases history with
  | looked error quiet =>
      exact ⟨cluster, effect_of_alike (connects.alike alone quiet) stored⟩
  | @wrote early sight call rest observed outcome quietEarly sighted called quietLast =>
      rcases connects_append.mp connects with ⟨looking, precedes, connects⟩
      rcases connects_append.mp connects with ⟨reading, sees, connects⟩
      rcases connects_append.mp connects with ⟨settling, writes, settles⟩
      have alikeEarly := precedes.alike alone quietEarly
      have aloneLooking := alikeEarly.raceArmed.trans alone
      have alikeSight := sees.alike aloneLooking
        (Follows.permitted sighted (observe_quiet cluster _))
      have aloneReading := alikeSight.raceArmed.trans aloneLooking
      have alike := alikeEarly.trans alikeSight
      have present : Table.get? reading.clusters cluster.resourceKey = some cluster := by
        rw [alike.clusters, stored]
      have saw : Saw first cluster observed := by
        intro view seen
        rw [← alikeEarly.statefulSets]
        exact saw_of_observe sees sighted view seen
      rcases call_effect writes aloneReading present called with ⟨alikeCall, unapplied⟩ |
          ⟨version, replied, written, statefulSets, applied, frozen, raceArmed⟩
      · have aloneSettling := alikeCall.raceArmed.trans aloneReading
        have whole := (alike.trans alikeCall).trans (settles.alike aloneSettling quietLast)
        have keeps : Effect channel first last cluster cluster cluster :=
          effect_of_alike whole stored
        match outcome with
        | .error error => exact ⟨cluster, keeps⟩
        | .ok .gone => exact ⟨cluster, keeps⟩
        | .ok (.applied operations) => exact absurd rfl (unapplied operations)
        -- Nothing was written because nothing differs, and the target is as it is stored.
        | .ok .unchanged =>
            have same : (transitionOf cluster observed).status = cluster.statusOrDefault :=
              ClusterStatus.eq_of_diff_eq_nil (diff_of_unchanged called)
            refine ⟨cluster, { keeps with
              target_eq := rfl
              target_status := Or.inl same
              applied := Or.inl ?_ }⟩
            rw [whole.applied]
      · have alikeLast := settles.alike (raceArmed.trans aloneReading) quietLast
        have kept (key : ResourceKey) :
            Table.get? last.applied key = Table.get? first.applied key := by
          rw [alikeLast.applied, applied, alike.applied]
        refine ⟨_, ?_, .takes saw version, ?_, ?_, ?_, ?_, ?_, Or.inl (kept _)⟩
        · rw [alikeLast.clusters, written]
        · rw [alikeLast.statefulSets, statefulSets, alike.statefulSets]
        · rw [alikeLast.frozen, frozen, alike.frozen]
        · rw [alikeLast.raceArmed, raceArmed, alike.raceArmed]
        · rcases replied with ⟨operations, rfl⟩ | ⟨_, error, rfl⟩ <;> rfl
        · rcases replied with ⟨operations, rfl⟩ | ⟨lossy, error, rfl⟩
          · exact Or.inl rfl
          -- A pass that takes its write for failed goes on with what it has read.
          · exact Or.inr ⟨lossy, rfl⟩

/-- What a whole pass does to a world whose cache follows the stored clusters. -/
theorem sync_effect {text : String} {cluster : Cluster}
    {moments : List (Moment WorldReconciler World)}
    (parsed : ResourceKey.parse? text = some cluster.resourceKey)
    (connects : Connects channel first moments last) (history : SyncHistory text moments)
    (thawed : first.frozen = none) (alone : first.raceArmed = false)
    (stored : Table.get? first.clusters cluster.resourceKey = some cluster) :
    ∃ after target, Effect channel first last cluster after target := by
  cases history with
  | looked quiet => exact ⟨cluster, cluster, effect_of_alike (connects.alike alone quiet) stored⟩
  | @ran key snapshot state machine finishing before after named history reconciles =>
      obtain rfl : key = cluster.resourceKey := Option.some.inj (named.symm.trans parsed)
      cases connects with
      | cons reported connects =>
          rcases answered_cachedCluster (reported.answered_of_quiet trivial) with ⟨alike, found⟩
          have told := found _ rfl
          rw [cachedClusters, thawed, Option.getD_none, stored] at told
          obtain rfl : snapshot = cluster := Option.some.inj told
          rcases connects_append.mp connects with ⟨middle, runs, finishes⟩
          have present : Table.get? after.clusters snapshot.resourceKey = some snapshot := by
            rw [alike.clusters, stored]
          rcases machine_effect runs (alike.raceArmed.trans alone) present history with
            ⟨written, effect⟩
          rcases finishes.reconciles reconciles with
            ⟨clusters, statefulSets, frozen, raceArmed, applied⟩
          refine ⟨written, target snapshot state, ?_, ?_, ?_, ?_, ?_, effect.target_eq,
            effect.target_status, ?_⟩
          · rw [clusters, effect.stored]
          · exact effect.persists.congr alike.statefulSets
          · rw [statefulSets, effect.statefulSets, alike.statefulSets]
          · rw [frozen, effect.frozen, alike.frozen]
          · rw [raceArmed, effect.raceArmed, alike.raceArmed]
          · have earlier := effect.applied
            rw [alike.applied] at earlier
            exact earlier.trans applied

end Passes

end World

end GaleraControl
