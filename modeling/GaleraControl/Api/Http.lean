import GaleraControl.Json.Writer
import GaleraControl.Manifest

/-!
# Requests to the API server

The requests of the controller with their paths, and the replies.  Every object
that the controller reads or writes has one place, and the path of a request is
a function of that place.
-/

namespace GaleraControl.Api

/-- What a request does with its target. -/
inductive Method where
  | get
  | patch
  | post
deriving DecidableEq, Repr

/-- The word of a method. -/
def Method.text : Method → String
  | .get => "GET"
  | .patch => "PATCH"
  | .post => "POST"

/-- How the body of a request is to be understood. -/
inductive MediaType where
  | patchOperations
  | appliedObject
  | mergedObject
  | object
deriving DecidableEq, Repr

/-- The name of a media type. -/
def MediaType.text : MediaType → String
  | .patchOperations => "application/json-patch+json"
  | .appliedObject => "application/apply-patch+yaml"
  | .mergedObject => "application/merge-patch+json"
  | .object => "application/json"

/-- The places that the controller reads and writes. -/
inductive Target where
  | cluster (key : ResourceKey)
  | clusterStatus (key : ResourceKey)
  | pod (key : ResourceKey)
  | managed (kind : ManifestKind) (key : ResourceKey)
  | events (namespaceName : String)
  /-- An event that was created before; its name holds a moment and is left open. -/
  | event (namespaceName : String)
deriving DecidableEq, Repr

namespace Target

/-- The path below which a group and version has its namespaces. -/
def basePath (apiVersion : String) : String :=
  if apiVersion.contains '/' then "/apis/" ++ apiVersion else "/api/" ++ apiVersion

/-- The path of the objects of one kind in a namespace. -/
def collection (apiVersion namespaceName plural : String) : String :=
  basePath apiVersion ++ "/namespaces/" ++ namespaceName ++ "/" ++ plural

/-- The group and version of events. -/
def eventVersion : String := "events.k8s.io/v1"

/-- The path of a place. -/
def path : Target → String
  | .cluster key =>
      collection Cluster.apiVersion key.namespaceName Cluster.plural ++ "/" ++ key.name
  | .clusterStatus key =>
      collection Cluster.apiVersion key.namespaceName Cluster.plural ++ "/" ++ key.name
        ++ "/status"
  | .pod key => collection "v1" key.namespaceName "pods" ++ "/" ++ key.name
  | .managed kind key =>
      collection kind.apiVersion key.namespaceName kind.plural ++ "/" ++ key.name
  | .events namespaceName => collection eventVersion namespaceName "events"
  | .event namespaceName => collection eventVersion namespaceName "events" ++ "/<event>"

end Target

/-- A request. -/
structure HttpRequest where
  method : Method
  target : Target
  query : Table String String := []
  content : Option (MediaType × Json) := none
deriving DecidableEq, Repr

/-- The name under which a request is listed: its method and its path. -/
def HttpRequest.label (request : HttpRequest) : String :=
  request.method.text ++ " " ++ request.target.path

/-- A reply. -/
structure HttpReply where
  code : Nat
  text : String
deriving DecidableEq, Repr

namespace HttpReply

/-- A reply whose body is a document. -/
def ofJson (code : Nat) (document : Json) : HttpReply := ⟨code, document.write⟩

/-- Whether the reply says that the request was refused or could not be served. -/
def isRefusal (reply : HttpReply) : Bool := 400 ≤ reply.code && reply.code < 600

/-- The phrases of the registered status codes. -/
def phrases : List (Nat × String) := [
  (400, "Bad Request"), (401, "Unauthorized"), (402, "Payment Required"), (403, "Forbidden"),
  (404, "Not Found"), (405, "Method Not Allowed"), (406, "Not Acceptable"),
  (407, "Proxy Authentication Required"), (408, "Request Timeout"), (409, "Conflict"),
  (410, "Gone"), (411, "Length Required"), (412, "Precondition Failed"),
  (413, "Payload Too Large"), (414, "URI Too Long"), (415, "Unsupported Media Type"),
  (416, "Range Not Satisfiable"), (417, "Expectation Failed"), (418, "I'm a teapot"),
  (421, "Misdirected Request"), (422, "Unprocessable Entity"), (423, "Locked"),
  (424, "Failed Dependency"), (425, "Too Early"), (426, "Upgrade Required"),
  (428, "Precondition Required"), (429, "Too Many Requests"),
  (431, "Request Header Fields Too Large"), (451, "Unavailable For Legal Reasons"),
  (500, "Internal Server Error"), (501, "Not Implemented"), (502, "Bad Gateway"),
  (503, "Service Unavailable"), (504, "Gateway Timeout"), (505, "HTTP Version Not Supported"),
  (506, "Variant Also Negotiates"), (507, "Insufficient Storage"), (508, "Loop Detected"),
  (510, "Not Extended"), (511, "Network Authentication Required")]

/-- The status of a refusal: its code and phrase. -/
def statusLine (reply : HttpReply) : String :=
  toString reply.code ++ " " ++ (Table.get? phrases reply.code).getD "<unknown status code>"

end HttpReply

end GaleraControl.Api
