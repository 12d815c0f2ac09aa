import GaleraControl.Api.Http
import GaleraControl.Event
import GaleraControl.Json.Patch
import GaleraControl.Json.Reader

/-!
# The client of the API server

How the requests of a pass are put to the API server, and how its replies are
read.  A refusal carries the server's own explanation where there is one.  A
write of a status that the server refuses because something else changed is a
lost write race.
-/

namespace GaleraControl.Api

/-- Read the explanation that the body of a refusal holds. -/
def decodeApiError : Decoder ApiError :=
  .record "ErrorResponse" <|
    (RecordReader.done ApiError.mk)
    |>.next (.required "status" Decoder.text)
    |>.next (.defaulted "message" Decoder.text "")
    |>.next (.defaulted "reason" Decoder.text "")
    |>.next (.required "code" Decoder.word16)

/-- The explanation of a refusal; one without a readable body explains itself. -/
def refusal (reply : HttpReply) : ApiError :=
  match (Json.read? reply.text).map decodeApiError with
  | some (.ok error) => error
  | _ =>
      { status := reply.statusLine
        message := Text.quoted reply.text
        reason := "Failed to parse error data"
        code := .ofNat reply.code }

/-- Read the document of a reply. -/
def readReply {Value : Type} (decode : Decoder Value) (reply : HttpReply) :
    Except SyncError Value :=
  if reply.isRefusal then .error (.api (refusal reply))
  else
    match Json.read? reply.text with
    | none => .error (.unreadableReply "expected value")
    | some document =>
        match decode document with
        | .ok value => .ok value
        | .error error => .error (.unreadableReply error.message)

/-- A document whose contents do not matter. -/
def anyObject : Decoder Unit :=
  .objectOnly "an object" (RecordReader.done ())

/-- The object of a reply, or none if the server says that it does not exist. -/
def orNone {Value : Type} : Except SyncError Value → Except SyncError (Option Value)
  | .ok value => .ok (some value)
  | .error error =>
      match error with
      | .api refused => if refused.reason = "NotFound" then .ok none else .error error
      | _ => .error error

/-- The request for an object. -/
def readRequest (target : Target) : HttpRequest := { method := .get, target }

/-- The option that names the controller as the writer. -/
def managerOption : String × String := ("fieldManager", fieldManager)

/-- The request that patches the status of a cluster. -/
def statusPatch (key : ResourceKey) (operations : List PatchOperation) : HttpRequest where
  method := .patch
  target := .clusterStatus key
  query := .ofList [managerOption]
  content := some (.patchOperations, .array (operations.map PatchOperation.toJson))

/-- How a refused patch of a status is to be understood. -/
def statusPatchFailure (key : ResourceKey) : SyncError → SyncError
  | .api error =>
      if error.code = 409 ∨ error.code = 422 then .conflict key.text error.message
      else .api error
  | error => error

/-- The request that applies a managed object of a cluster. -/
def applyRequest (cluster : Cluster) (manifest : Manifest) : HttpRequest where
  method := .patch
  target := .managed manifest.kind ⟨cluster.namespaceName, manifest.metadata.anyName⟩
  query := .ofList [managerOption, ("force", "true")]
  content := some (.appliedObject, manifest.toJson)

/-- An event that was published, and how often. -/
structure PublishedEvent where
  event : Event
  count : Nat
deriving DecidableEq, Repr

/-- Events are the same if they differ in their notes only. -/
def isSameEvent (first second : Event) : Bool :=
  first.severity = second.severity && first.action = second.action
    && first.reason = second.reason && first.regarding = second.regarding

/-- The events that were published. -/
abbrev Recorder := List PublishedEvent

namespace Recorder

/-- What is published for an event: a new event, or an earlier one once more. -/
def publication (recorder : Recorder) (event : Event) : PublishedEvent :=
  match recorder.find? fun published => isSameEvent published.event event with
  | none => ⟨event, 1⟩
  | some published => { published with count := published.count + 1 }

/-- Remember what was published. -/
def remember (recorder : Recorder) (publication : PublishedEvent) : Recorder :=
  publication :: recorder.filter fun published => !isSameEvent published.event publication.event

end Recorder

/-- The document of an event. -/
def eventJson (publication : PublishedEvent) : Json :=
  let event := publication.event
  .ofMembers [
    ("action", some (.string event.action.text)),
    ("note", some (.string event.note)),
    ("reason", some (.string event.reason.text)),
    ("regarding", some event.regarding.toJson),
    ("reportingController", some (.string fieldManager)),
    ("series", if publication.count = 1 then none
      else some (.ofEntries [("count", .integer publication.count)])),
    ("type", some (.string event.severity.text))]

/-- The request that publishes an event. -/
def eventRequest (publication : PublishedEvent) : HttpRequest :=
  let namespaceName := publication.event.regarding.namespaceName.getD "default"
  let document := eventJson publication
  if publication.count = 1 then
    { method := .post, target := .events namespaceName, content := some (.object, document) }
  else
    { method := .patch
      target := .event namespaceName
      content := some (.mergedObject, document) }

section Exchange

variable {State : Type} (exchange : HttpRequest → StateM State HttpReply)

/-- Read a pod. -/
def pod (key : ResourceKey) : StateM State (Except SyncError (Option Pod)) := do
  return orNone (readReply Pod.decode (← exchange (readRequest (.pod key))))

/-- Read a cluster. -/
def latestCluster (key : ResourceKey) : StateM State (Except SyncError (Option Cluster)) := do
  return orNone (readReply Cluster.decode (← exchange (readRequest (.cluster key))))

/-- Patch the status of a cluster. -/
def patchStatus (key : ResourceKey) (operations : List PatchOperation) :
    StateM State (Except SyncError Unit) := do
  match readReply Cluster.decode (← exchange (statusPatch key operations)) with
  | .ok _ => return .ok ()
  | .error error => return .error (statusPatchFailure key error)

/-- Apply a managed object, if the cluster wants it. -/
def reconcile (dependent : Dependent) (cluster : Cluster) :
    StateM State (Except SyncError Unit) := do
  match dependent.build cluster with
  | none => return .ok ()
  | some manifest =>
      return readReply anyObject (← exchange (applyRequest cluster manifest))

/-- Publish an event; one that the server does not accept is not remembered. -/
def publish (recorder : Recorder) (event : Event) : StateM State Recorder := do
  let publication := recorder.publication event
  match readReply anyObject (← exchange (eventRequest publication)) with
  | .ok _ => return recorder.remember publication
  | .error _ => return recorder

end Exchange

end GaleraControl.Api
