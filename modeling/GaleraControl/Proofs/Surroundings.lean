import GaleraControl.Proofs.Formation
import Mathlib.Logic.Function.Basic

/-!
# Any surroundings of a pass

A pass can be run against anything that answers its requests.  `Serves` says what
is expected of the answers: a lookup of a cluster finds what the cache or the
store holds, a patch that succeeds has changed the stored document, one that
fails has written nothing, and no other request touches the store.  Which
requests fail, and how, is left open, and so is everything else that is replied.

Running a pass gives its result, the surroundings afterwards, and the calls of
the reconcilers.  One lemma for each part of a pass says what it makes of them.
-/

namespace GaleraControl

/-- The clusters of a store or of a cache, by their keys. -/
abbrev Clusters := ResourceKey → Option Cluster

/-- A lookup fails, or it finds what is there. -/
def Finds (clusters : Clusters) (key : ResourceKey)
    (reply : Except SyncError (Option Cluster)) : Prop :=
  ∀ found, reply = .ok found → found = clusters key

/--
A patch is applied to a document of the stored cluster, and the cluster that is
read from the result is stored with a version of its own.
-/
def Patches (key : ResourceKey) (operations : List PatchOperation)
    (before after : Clusters) : Prop :=
  ∃ cluster document patched written version,
    before key = some cluster ∧ Cluster.decode document = .ok cluster ∧
      document.patch? operations = some patched ∧ Cluster.decode patched = .ok written ∧
      after = Function.update before key
        (some { written with
          metadata := { written.metadata with resourceVersion := some version } })

/--
What a request may be answered with, and what is stored afterwards.  A stored
cluster may have been deleted by the time it is read again.
-/
def Serves {Reconciler : Type} (shown stored : Clusters) :
    (request : Request Reconciler) → Reply request → Clusters → Prop
  | .cachedCluster key => fun reply after => Finds shown key reply ∧ after = stored
  | .latestCluster key => fun reply after =>
      (Finds stored key reply ∧ after = stored) ∨
        (reply = Except.ok none ∧ after = Function.update stored key none)
  | .patchStatus key operations => fun reply after =>
      (∃ error, reply = Except.error error ∧ after = stored) ∨
        (reply = Except.ok () ∧ Patches key operations stored after)
  | _ => fun _ after => after = stored

/-- What answers the requests of passes, with the clusters that it shows and stores. -/
structure Surroundings (Reconciler State : Type) where
  answer : (request : Request Reconciler) → StateM State (Reply request)
  /-- The clusters as the cache shows them. -/
  shown : State → Clusters
  stored : State → Clusters
  serves : ∀ request state,
    Serves (shown state) (stored state) request (answer request state).1
      (stored (answer request state).2)

/-- A reconciler that was called, and how it ended. -/
structure Call (Reconciler : Type) where
  reconciler : Reconciler
  cluster : Cluster
  reply : Except SyncError Unit

namespace Call

variable {Reconciler : Type}

/-- Which reconciler was called with which cluster. -/
def asked (call : Call Reconciler) : Reconciler × Cluster := (call.reconciler, call.cluster)

def failure? (call : Call Reconciler) : Option SyncError :=
  match call.reply with
  | .error error => some error
  | .ok () => none

/-- The call of a request, if it is one of a reconciler. -/
def of? : (request : Request Reconciler) → Reply request → Option (Call Reconciler)
  | .reconcile reconciler cluster => fun reply => some ⟨reconciler, cluster, reply⟩
  | _ => fun _ => none

theorem of?_of_looks {request : Request Reconciler} (looks : request.Looks)
    (reply : Reply request) : of? request reply = none := by
  cases request with
  | reconcile reconciler cluster => exact absurd looks id
  | _ => rfl

end Call

namespace Surroundings

open Pass Program Attempt

variable {Reconciler State Value Other : Type} (world : Surroundings Reconciler State)

/-- Run an attempt. -/
def perform (attempt : Attempt Reconciler Value) (state : State) :
    Except SyncError Value × State :=
  Attempt.perform world.answer attempt state

/-- The calls of reconcilers while a program is run, in their order. -/
def calls : Program Reconciler Value → State → List (Call Reconciler)
  | .done _, _ => []
  | .ask request next, state =>
      (Call.of? request (world.answer request state).1).toList ++
        calls (next (world.answer request state).1) (world.answer request state).2

/-! ## Parts that follow each other -/

theorem calls_bind (program : Program Reconciler Value)
    (next : Value → Program Reconciler Other) (state : State) :
    world.calls (program.bind next) state =
      world.calls program state ++
        world.calls (next (program.run world.answer state).1)
          (program.run world.answer state).2 := by
  induction program generalizing state with
  | done value => rfl
  | ask request further ih =>
      simp only [Program.bind, calls, ih, List.append_assoc]
      rfl

theorem perform_bind (attempt : Attempt Reconciler Value)
    (next : Value → Attempt Reconciler Other) (state : State) :
    world.perform (attempt >>= next) state =
      match world.perform attempt state with
      | (.ok value, after) => world.perform (next value) after
      | (.error error, after) => (.error error, after) :=
  Attempt.perform_bind world.answer attempt next state

theorem calls_attempt_bind (attempt : Attempt Reconciler Value)
    (next : Value → Attempt Reconciler Other) (state : State) :
    world.calls (attempt >>= next).run state =
      world.calls attempt.run state ++
        match world.perform attempt state with
        | (.ok value, after) => world.calls (next value).run after
        | (.error _, _) => [] := by
  rw [Attempt.run_bind, calls_bind, perform, Attempt.perform]
  cases attempt.run.run world.answer state with
  | mk result after => cases result <;> rfl

theorem perform_ofExcept (result : Except SyncError Value) (state : State) :
    world.perform (ofExcept result) state = (result, state) :=
  Attempt.perform_ofExcept world.answer result state

theorem perform_result (attempt : Attempt Reconciler Value) (state : State) :
    world.perform attempt.result state =
      (.ok (world.perform attempt state).1, (world.perform attempt state).2) :=
  Attempt.perform_result world.answer attempt state

theorem calls_result (attempt : Attempt Reconciler Value) (state : State) :
    world.calls attempt.result.run state = world.calls attempt.run state := by
  rw [run_result, calls_bind]
  exact List.append_nil _

theorem calls_ofExcept (result : Except SyncError Value) (state : State) :
    world.calls (ofExcept result : Attempt Reconciler Value).run state = [] := by
  cases result <;> rfl

/-- A program that only looks leaves the store alone and calls no reconciler. -/
theorem run_of_looks {program : Program Reconciler Value}
    (looks : program.AsksOnly Request.Looks) (state : State) :
    world.calls program state = [] ∧
      world.stored (program.run world.answer state).2 = world.stored state := by
  induction program generalizing state with
  | done value => exact ⟨rfl, rfl⟩
  | ask request next ih =>
      have kept : world.stored (world.answer request state).2 = world.stored state := by
        have serves := world.serves request state
        cases request with
        | cachedCluster key => exact serves.2
        | latestCluster key => exact absurd looks.1 id
        | patchStatus key operations => exact absurd looks.1 id
        | _ => exact serves
      rcases ih (world.answer request state).1 (looks.2 _) (world.answer request state).2 with
        ⟨none, same⟩
      refine ⟨?_, same.trans kept⟩
      rw [calls, Call.of?_of_looks looks.1, none]
      rfl

/-! ## The reconcilers -/

/--
Every reconciler is called once, in order and with the same cluster, and the
first failure is the result of all.
-/
theorem perform_reconcileAll (cluster : Cluster) (reconcilers : List Reconciler)
    (state : State) :
    (world.calls (reconcileAll cluster reconcilers).run state).map Call.asked =
        reconcilers.map (·, cluster) ∧
      (world.perform (reconcileAll cluster reconcilers) state).1 =
        ((world.calls (reconcileAll cluster reconcilers).run state).findSome?
          Call.failure?).elim (.ok ()) .error ∧
      world.stored (world.perform (reconcileAll cluster reconcilers) state).2 =
        world.stored state := by
  induction reconcilers generalizing state with
  | nil => exact ⟨rfl, rfl, rfl⟩
  | cons reconciler rest ih =>
      have kept : world.stored (world.answer (.reconcile reconciler cluster) state).2 =
          world.stored state := world.serves (.reconcile reconciler cluster) state
      rcases ih (world.answer (.reconcile reconciler cluster) state).2 with
        ⟨asked, result, stored⟩
      have called : world.calls (reconcileAll cluster (reconciler :: rest)).run state =
          ⟨reconciler, cluster, (world.answer (.reconcile reconciler cluster) state).1⟩ ::
            world.calls (reconcileAll cluster rest).run
              (world.answer (.reconcile reconciler cluster) state).2 := by
        rw [reconcileAll, calls_attempt_bind, perform_result, calls_result]
        dsimp only
        rw [calls_attempt_bind, perform_result, calls_result]
        dsimp only
        rw [calls_ofExcept, List.append_nil]
        rfl
      have performed : world.perform (reconcileAll cluster (reconciler :: rest)) state =
          (firstFailure (world.answer (.reconcile reconciler cluster) state).1
              (world.perform (reconcileAll cluster rest)
                (world.answer (.reconcile reconciler cluster) state).2).1,
            (world.perform (reconcileAll cluster rest)
              (world.answer (.reconcile reconciler cluster) state).2).2) := by
        rw [reconcileAll, perform_bind, perform_result]
        dsimp only
        rw [perform_bind, perform_result]
        dsimp only
        rw [perform_ofExcept]
        rfl
      rw [called, performed]
      refine ⟨by rw [List.map_cons, asked]; rfl, ?_, stored.trans kept⟩
      rw [result, List.findSome?_cons]
      simp only [Call.failure?]
      cases (world.answer (.reconcile reconciler cluster) state).1 <;> rfl

end Surroundings

/-! ## The world in memory -/

namespace World

/-- A world in which nobody else writes between the requests of a pass. -/
abbrev Unraced := { world : World // world.raceArmed = false }

/-- A request neither makes the cache follow again nor lets another writer in. -/
theorem kept_answer (request : Request WorldReconciler) {world : World}
    (alone : world.raceArmed = false) :
    (answer request world).2.raceArmed = false ∧
      (answer request world).2.frozen = world.frozen := by
  have answered := answered_answer request world
  cases request with
  | patchStatus key operations =>
      rcases answered_patchStatus answered with ⟨_, alike⟩ |
          ⟨_, _, _, _, _, _, _, _, _, _, frozen, raceArmed⟩
      · exact ⟨alike.raceArmed.trans alone, alike.frozen⟩
      · exact ⟨raceArmed.trans alone, frozen⟩
  | reconcile reconciler cluster =>
      rcases answered_reconcile answered with ⟨_, _, frozen, raceArmed, _⟩
      exact ⟨raceArmed.trans alone, frozen⟩
  | _ =>
      have alike := alike_of_quiet answered trivial alone
      exact ⟨alike.raceArmed.trans alone, alike.frozen⟩

/-- The world answers every request as it should, whatever failures are due. -/
theorem serves_answer (request : Request WorldReconciler) {world : World}
    (alone : world.raceArmed = false) :
    Serves (Table.get? world.cachedClusters) (Table.get? world.clusters) request
      (answer request world).1 (Table.get? (answer request world).2.clusters) := by
  have answered := answered_answer request world
  cases request with
  | cachedCluster key =>
      rcases answered_cachedCluster answered with ⟨alike, found⟩
      exact ⟨found, congrArg Table.get? alike.clusters⟩
  | latestCluster key =>
      rcases answered_latestCluster alone answered with ⟨alike, found⟩
      exact Or.inl ⟨found, congrArg Table.get? alike.clusters⟩
  | patchStatus key operations =>
      rcases answered_patchStatus answered with ⟨⟨error, replied⟩, alike⟩ |
          ⟨replied, cluster, patched, version, shown, applies, written, others, _⟩
      · exact Or.inl ⟨error, replied, congrArg Table.get? alike.clusters⟩
      · rcases Option.bind_eq_some_iff.mp applies with ⟨document, patches, decodes⟩
        refine Or.inr ⟨replied, cluster, cluster.toJson, document, patched, version, shown,
          Cluster.inverts.reads cluster, patches, ?_, ?_⟩
        · cases read : Cluster.decode document with
          | error error => simp [read, Except.toOption] at decodes
          | ok found => simpa [read, Except.toOption] using decodes
        · funext other
          by_cases same : other = key
          · rw [same, Function.update_self, written]
          · rw [Function.update_of_ne same, others other same]
  | reconcile reconciler cluster =>
      exact congrArg Table.get? (answered_reconcile answered).1
  | _ => exact congrArg Table.get? (alike_of_quiet answered trivial alone).clusters

/-- The world in memory as the surroundings of a pass. -/
def surroundings : Surroundings WorldReconciler Unraced where
  answer request state :=
    ((answer request state.1).1, ⟨(answer request state.1).2, (kept_answer request state.2).1⟩)
  shown state := Table.get? state.1.cachedClusters
  stored state := Table.get? state.1.clusters
  serves request state := serves_answer request state.2

theorem frozen_perform {Value : Type} (attempt : Attempt WorldReconciler Value)
    (state : Unraced) : (surroundings.perform attempt state).2.1.frozen = state.1.frozen := by
  have run (program : Program WorldReconciler (Except SyncError Value)) :
      (program.run surroundings.answer state).2.1.frozen = state.1.frozen := by
    induction program generalizing state with
    | done value => rfl
    | ask request next ih =>
        exact (ih (surroundings.answer request state).1
          (surroundings.answer request state).2).trans (kept_answer request state.2).2
  exact run attempt.run

end World

end GaleraControl
