import GaleraControl.Cluster.StatusDiff
import GaleraControl.Event

/-!
# Programs of requests

A pass is described apart from what answers it: a `Program` is a tree of
requests to the pass's surroundings (the cache, the API server, the reconcilers
of the dependents), each followed by what to do with its reply.  Running a
program against surroundings is a fold over that tree, so one pass can be run
against a cluster, against a store in memory, or step by step between the steps
of other passes.
-/

namespace GaleraControl

/-- What a pass asks of its surroundings; `Reconciler` names the reconcilers of dependents. -/
inductive Request (Reconciler : Type) where
  /-- The cluster, as the cache shows it. -/
  | cachedCluster (key : ResourceKey)
  /-- A workload, as the cache shows it. -/
  | cachedStatefulSet (key : ResourceKey)
  /-- A config map, as the cache shows it. -/
  | cachedConfigMap (key : ResourceKey)
  /-- A pod, as the API server has it. -/
  | pod (key : ResourceKey)
  /-- The cluster, as the API server has it. -/
  | latestCluster (key : ResourceKey)
  /-- Apply a patch to the stored status of a cluster. -/
  | patchStatus (key : ResourceKey) (operations : List PatchOperation)
  | publish (event : Event)
  /-- Bring a dependent in line with a cluster. -/
  | reconcile (reconciler : Reconciler) (cluster : Cluster)

/-- The reply to a request. -/
def Reply {Reconciler : Type} : Request Reconciler → Type
  | .cachedCluster _ | .latestCluster _ => Except SyncError (Option Cluster)
  | .cachedStatefulSet _ => Except SyncError (Option StatefulSet)
  | .cachedConfigMap _ => Except SyncError (Option ConfigMap)
  | .pod _ => Except SyncError (Option Pod)
  | .patchStatus _ _ | .reconcile _ _ => Except SyncError Unit
  | .publish _ => Unit

/-- A value that is found by requests. -/
inductive Program (Reconciler : Type) (Value : Type) where
  | done (value : Value)
  /-- A request, and what follows each reply. -/
  | ask (request : Request Reconciler) (next : Reply request → Program Reconciler Value)

namespace Program

variable {Reconciler Value Other State : Type}

/-- One program after another. -/
def bind : Program Reconciler Value → (Value → Program Reconciler Other) →
    Program Reconciler Other
  | .done value, next => next value
  | .ask request follow, next => .ask request fun reply => (follow reply).bind next

instance : Monad (Program Reconciler) where
  pure := .done
  bind := .bind

/-- A single request. -/
def request (question : Request Reconciler) : Program Reconciler (Reply question) :=
  .ask question .done

/-- Run a program in surroundings that answer every request and may change with it. -/
def run (answer : (question : Request Reconciler) → StateM State (Reply question)) :
    Program Reconciler Value → StateM State Value
  | .done value => pure value
  | .ask question next => do (next (← answer question)).run answer

@[simp]
theorem done_bind (value : Value) (next : Value → Program Reconciler Other) :
    (Program.done value).bind next = next value := rfl

theorem bind_done (program : Program Reconciler Value) : program.bind .done = program := by
  induction program with
  | done value => rfl
  | ask question next ih => simp [bind, ih]

theorem bind_assoc {Third : Type} (program : Program Reconciler Value)
    (next : Value → Program Reconciler Other) (last : Other → Program Reconciler Third) :
    (program.bind next).bind last = program.bind fun value => (next value).bind last := by
  induction program with
  | done value => rfl
  | ask question follow ih => simp [bind, ih]

@[simp]
theorem run_done (answer : (question : Request Reconciler) → StateM State (Reply question))
    (value : Value) : (Program.done value).run answer = pure value := rfl

@[simp]
theorem run_ask (answer : (question : Request Reconciler) → StateM State (Reply question))
    (question : Request Reconciler) (next : Reply question → Program Reconciler Value) :
    (Program.ask question next).run answer =
      (answer question >>= fun reply => (next reply).run answer) := rfl

/-- Running one program after another runs the first and then the second. -/
theorem run_bind (answer : (question : Request Reconciler) → StateM State (Reply question))
    (program : Program Reconciler Value) (next : Value → Program Reconciler Other) :
    (program.bind next).run answer =
      (program.run answer >>= fun value => (next value).run answer) := by
  induction program with
  | done value => simp [bind]
  | ask question follow ih => simp [bind, ih]

instance : LawfulMonad (Program Reconciler) :=
  LawfulMonad.mk' (Program Reconciler)
    (fun program => bind_done program)
    (fun _ _ => rfl)
    (fun program next last => bind_assoc program next last)

end Program

/-- A program that may fail. -/
abbrev Attempt (Reconciler : Type) := ExceptT SyncError (Program Reconciler)

namespace Attempt

variable {Reconciler : Type}

/-- Look a cluster up in the cache. -/
def cachedCluster (key : ResourceKey) : Attempt Reconciler (Option Cluster) :=
  ExceptT.mk <| Program.request (.cachedCluster key)

/-- Look a workload up in the cache. -/
def cachedStatefulSet (key : ResourceKey) : Attempt Reconciler (Option StatefulSet) :=
  ExceptT.mk <| Program.request (.cachedStatefulSet key)

/-- Look a config map up in the cache. -/
def cachedConfigMap (key : ResourceKey) : Attempt Reconciler (Option ConfigMap) :=
  ExceptT.mk <| Program.request (.cachedConfigMap key)

/-- Read a pod from the API server. -/
def pod (key : ResourceKey) : Attempt Reconciler (Option Pod) :=
  ExceptT.mk <| Program.request (.pod key)

/-- Read a cluster from the API server. -/
def latestCluster (key : ResourceKey) : Attempt Reconciler (Option Cluster) :=
  ExceptT.mk <| Program.request (.latestCluster key)

/-- Apply a patch to the stored status of a cluster. -/
def patchStatus (key : ResourceKey) (operations : List PatchOperation) :
    Attempt Reconciler Unit :=
  ExceptT.mk <| Program.request (.patchStatus key operations)

/-- Publish an event; this never fails. -/
def publish (event : Event) : Attempt Reconciler Unit :=
  ExceptT.lift <| Program.request (.publish event)

/-- Bring a dependent in line with a cluster. -/
def reconcile (reconciler : Reconciler) (cluster : Cluster) : Attempt Reconciler Unit :=
  ExceptT.mk <| Program.request (.reconcile reconciler cluster)

/-- Go on with the result of an attempt, whether it succeeded or failed. -/
def result {Value : Type} (attempt : Attempt Reconciler Value) :
    Attempt Reconciler (Except SyncError Value) :=
  ExceptT.lift attempt.run

end Attempt

end GaleraControl
