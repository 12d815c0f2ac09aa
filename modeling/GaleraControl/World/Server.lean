import GaleraControl.Api.Client
import GaleraControl.World.Answers

/-!
# The API server of the world

The stored clusters and the pods behind requests and replies.  A status patch
changes the stored cluster as in the world itself; every other object is
accepted as it is sent.  Replies can be set beforehand, and single parts of the
controller can be connected to the world directly.
-/

namespace GaleraControl

/-- The parts of the controller that talk to the API server. -/
inductive ConnectedPart where
  | pods
  | writer
  | events
deriving DecidableEq, Repr

/-- A world with a server. -/
structure ServedWorld where
  world : World := {}
  /-- The replies that are set beforehand, by the labels of their requests. -/
  replies : Table String Api.HttpReply := []
  /-- The parts that are connected to the world directly. -/
  direct : List ConnectedPart := []
  recorder : Api.Recorder := []
deriving Repr

namespace ServedWorld

/-- The reply that an object does not exist. -/
def missing : Api.HttpReply :=
  .ofJson 404 <| .ofEntries [
    ("status", .string "Failure"), ("message", .string "not found"),
    ("reason", .string "NotFound"), ("code", .integer 404)]

/-- The reply that a patch does not apply. -/
def unprocessable : Api.HttpReply :=
  .ofJson 422 <| .ofEntries [
    ("status", .string "Failure"), ("message", .string "patch failed"),
    ("reason", .string "Invalid"), ("code", .integer 422)]

/-- The reply with a document. -/
def found (document : Json) : Api.HttpReply := .ofJson 200 document

/-- The document of a pod, as far as the controller looks at it. -/
def podJson (pod : Pod) : Json :=
  .ofEntries [
    ("metadata", pod.metadata.toJson),
    ("status", .ofEntries [
      ("containerStatuses", .array (pod.containersReady.map fun ready =>
        .ofEntries [("ready", .bool ready)]))])]

/-- The reply of the world to a request. -/
def worldReply (request : Api.HttpRequest) : StateM World Api.HttpReply := do
  match request.method, request.target, request.content with
  | .get, .cluster key, _ =>
      match Table.get? (← get).clusters key with
      | some cluster => return found cluster.toJson
      | none => return missing
  | .get, .pod key, _ =>
      match Table.get? (← get).pods key with
      | some pod => return found (podJson pod)
      | none => return missing
  | _, _, some (_, document) => return found document
  | _, _, none => return found (.object [])

/-- The reply of the world to a patch of a status. -/
def patchReply (key : ResourceKey) (operations : List PatchOperation) :
    StateM World Api.HttpReply := do
  modify World.nextVersion
  match ← World.applyPatch key operations with
  | .error (.notFound _ _) => return missing
  | .error _ => return unprocessable
  | .ok () =>
      match Table.get? (← get).clusters key with
      | some cluster => return found cluster.toJson
      | none => return missing

/-- Act on the world. -/
def onWorld {Value : Type} (action : StateM World Value) : StateM ServedWorld Value :=
  fun served =>
    let (value, world) := action served.world
    (value, { served with world })

/-- The reply to a request, unless one is set beforehand. -/
def exchangeWith (reply : StateM World Api.HttpReply) (request : Api.HttpRequest) :
    StateM ServedWorld Api.HttpReply := do
  onWorld (modify (·.record (.exchange request)))
  match Table.get? (← get).replies request.label with
  | some reply => return reply
  | none => onWorld reply

/-- The reply to a request other than a patch of a status. -/
def exchange (request : Api.HttpRequest) : StateM ServedWorld Api.HttpReply :=
  exchangeWith (worldReply request) request

/-- Whether a part talks to the server. -/
def isServed (part : ConnectedPart) : StateM ServedWorld Bool := do
  return part ∉ (← get).direct

/-- Answer a request; the cache is always that of the world. -/
def answer : (request : Request (WorldReconciler ⊕ Dependent)) →
    StateM ServedWorld (Reply request)
  | .cachedCluster key => onWorld (World.answer (.cachedCluster key))
  | .cachedStatefulSet key => onWorld (World.answer (.cachedStatefulSet key))
  | .cachedConfigMap key => onWorld (World.answer (.cachedConfigMap key))
  | .pod key => do
      if ← isServed .pods then Api.pod exchange key else onWorld (World.answer (.pod key))
  | .latestCluster key => do
      if ← isServed .writer then Api.latestCluster exchange key
      else onWorld (World.answer (.latestCluster key))
  | .patchStatus key operations => do
      if ← isServed .writer then
        Api.patchStatus (exchangeWith (patchReply key operations)) key operations
      else onWorld (World.answer (.patchStatus key operations))
  | .publish event => do
      if ← isServed .events then
        let recorder ← Api.publish exchange (← get).recorder event
        modify fun served => { served with recorder }
      else onWorld (World.answer (.publish event))
  | .reconcile (.inl reconciler) cluster =>
      onWorld (World.answer (.reconcile reconciler cluster))
  | .reconcile (.inr dependent) cluster => Api.reconcile exchange dependent cluster

/-- Run an attempt against the server. -/
def perform {Value : Type} (attempt : Attempt (WorldReconciler ⊕ Dependent) Value) :
    StateM ServedWorld (Except SyncError Value) :=
  attempt.run.run answer

end ServedWorld

end GaleraControl
