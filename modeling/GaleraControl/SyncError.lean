import GaleraControl.Json.Decode
import GaleraControl.Text.Quoted

/-!
# Failures of a sync pass

A failure says what went wrong and whether another attempt can help: requests
that the API server could not serve, lost write races and dependents that are
not visible yet are tried again, while malformed keys, invalid resources and
unreadable documents are not.
-/

namespace GaleraControl

/-- What the API server answers to a request that it refuses. -/
structure ApiError where
  /-- The outcome word, normally `Failure`. -/
  status : String
  message : String
  reason : String
  code : UInt16
deriving DecidableEq, Repr

namespace ApiError

/-- The text of a refusal: its message and reason, then all of its parts. -/
def text (error : ApiError) : String :=
  "ApiError: " ++ error.message ++ ": " ++ error.reason ++ " (ErrorResponse \x7b status: "
    ++ Text.quoted error.status ++ ", message: " ++ Text.quoted error.message ++ ", reason: "
    ++ Text.quoted error.reason ++ ", code: " ++ toString error.code.toNat ++ " \x7d)"

end ApiError

/-- The ways in which an operation of the controller fails. -/
inductive SyncError where
  | api (error : ApiError)
  /-- A connection that needs encryption could not be made. -/
  | encryptionUnavailable
  /-- The API server's answer is not the expected document. -/
  | unreadableReply (message : String)
  /-- A queue item is not a resource key. -/
  | invalidKey (key : String)
  | notFound (kind : String) (name : String)
  | conflict (cluster : String) (message : String)
  /-- A resource has contents that the controller does not accept. -/
  | validation (cluster : String) (message : String)
  /-- A document does not have the expected form. -/
  | serialization (message : String)
  /-- A condition that the controller relies on does not hold. -/
  | internal (context : String) (message : String)
deriving DecidableEq, Repr

namespace SyncError

/-- The context of a failure that names no other. -/
def unknownContext : String := "unknown"

/-- The text of a failure. -/
def message : SyncError → String
  | .api error => "kubernetes error: " ++ error.text
  | .encryptionUnavailable => "kubernetes error: TLS required but no TLS stack selected"
  | .unreadableReply message => "kubernetes error: Error deserializing response: " ++ message
  | .invalidKey key => "invalid resource key: " ++ Text.quoted key
  | .notFound kind name => kind ++ " " ++ name ++ " not found"
  | .conflict cluster message => "write conflict for " ++ cluster ++ ": " ++ message
  | .validation cluster message => "validation error for " ++ cluster ++ ": " ++ message
  | .serialization message => "serialization error: " ++ message
  | .internal context message => "internal error [" ++ context ++ "]: " ++ message

/-- Whether another attempt can succeed without a change by people. -/
def isRetryable : SyncError → Bool
  | .api error => error.code = 409 || !(400 ≤ error.code && error.code < 500)
  | .invalidKey _ | .validation _ _ | .serialization _ => false
  | .encryptionUnavailable | .unreadableReply _ | .notFound _ _ | .conflict _ _
  | .internal _ _ => true

/-- Whether the failure says that a resource does not exist. -/
def isNotFound : SyncError → Bool
  | .api error => error.code = 404
  | .notFound _ _ => true
  | _ => false

/-- The cluster that the failure is about, when it names one. -/
def cluster? : SyncError → Option String
  | .conflict cluster _ | .validation cluster _ => some cluster
  | _ => none

/-- The failure of a document that does not decode. -/
def ofDecodeError (error : DecodeError) : SyncError := .serialization error.message

end SyncError

end GaleraControl
