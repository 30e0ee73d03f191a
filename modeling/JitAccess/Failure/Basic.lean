import JitAccess.Failure.Kind
import JitAccess.Http.Header
import JitAccess.Url.Origin

/-!
# Failures

Everything that can go wrong, as causes, with one wording for each.
-/

namespace JitAccess

/-- Why no reply to a request can be used. -/
inductive RequestFault
  /-- HTTP does not allow the request, and it is not sent. -/
  | refused
  /-- No reply comes in time. -/
  | timedOut
  /-- The connection breaks before the reply has been read. -/
  | broken
  /-- The body of the reply is not what was asked for. -/
  | undecodable
deriving DecidableEq, Repr

/-- Why an address cannot be used. -/
inductive AddressFault
  | unreadableEndpoint (cause : Url.ParseError)
  | rootlessEndpoint
  | unreadableLink (cause : Url.ParseError)
  | foreignLink (link endpoint : Url.Origin)
deriving DecidableEq, Repr

/-- What is wrong with the values for a request. -/
inductive DraftFault
  | missingParameter (name : String)
  | blankParameter (name : String)
  | dotParameter (name : String)
  | noMachine
  | blankMachine
  | noPort (machine : String)
  | blankEndTime
  | other (reason : String)
deriving DecidableEq, Repr

/-- A reply outside the expected ones: its code and detail, the detail as it may be shown, and its
fields and body as they came. -/
structure FailedReply where
  status : Http.Status
  code : Option String
  detail : String
  fields : List Http.Field
  body : List UInt8
deriving DecidableEq, Repr

/-- Everything that can go wrong. -/
inductive Failure
  | http (kind : FailureKind) (reply : FailedReply)
  | auth (reason : String)
  | serialization
  | request (fault : RequestFault)
  | address (fault : AddressFault)
  | missingSubscription
  | draft (fault : DraftFault)
deriving DecidableEq, Repr

/-- The wording of a fault of a request. -/
def RequestFault.message : RequestFault → String
  | .refused => "the request cannot be sent"
  | .timedOut => "no reply came in time"
  | .broken => "the connection broke"
  | .undecodable => "the body of the reply could not be decoded"

/-- The wording of a fault of an address. -/
def AddressFault.message : AddressFault → String
  | .unreadableEndpoint _ => "invalid endpoint URL"
  | .rootlessEndpoint => "endpoint cannot be a base URL"
  | .unreadableLink _ => "invalid continuation link"
  | .foreignLink link endpoint =>
    "continuation link origin " ++ link.text ++ " does not match endpoint " ++ endpoint.text

/-- The reason why a text is no URL, where that is the fault. -/
def AddressFault.cause? : AddressFault → Option Url.ParseError
  | .unreadableEndpoint e | .unreadableLink e => some e
  | .rootlessEndpoint | .foreignLink _ _ => none

/-- The wording of a fault of a draft. -/
def DraftFault.message : DraftFault → String
  | .missingParameter name => "missing path parameter `" ++ name ++ "`"
  | .blankParameter name => "path parameter `" ++ name ++ "` cannot be empty"
  | .dotParameter name => "path parameter `" ++ name ++ "` cannot be a dot segment"
  | .noMachine => "at least one virtual machine is required"
  | .blankMachine => "virtual machine id cannot be empty"
  | .noPort machine => "virtual machine " ++ machine ++ " needs at least one port"
  | .blankEndTime => "end_time_utc cannot be empty"
  | .other reason => reason

/-- The wording of a failed reply. -/
def FailedReply.message (r : FailedReply) : String :=
  match r.code with
  | some code => "HTTP " ++ toString r.status.toNat ++ " (" ++ code ++ ") - " ++ r.detail
  | none => "HTTP " ++ toString r.status.toNat ++ " - " ++ r.detail

/-- The wording of a failure. -/
def Failure.message : Failure → String
  | .http kind reply => kind.message ++ ": " ++ reply.message
  | .auth reason => "Authentication failed: " ++ reason
  | .serialization => "Serialization error: the text is not of the expected form"
  | .request fault => "Request error: " ++ fault.message
  | .address fault => "Invalid endpoint URL: " ++ fault.message
  | .missingSubscription =>
    "Missing configuration: subscription_id is required. " ++
      "Set it via builder or AZURE_SUBSCRIPTION_ID env var."
  | .draft fault => "Invalid request: " ++ fault.message

end JitAccess
