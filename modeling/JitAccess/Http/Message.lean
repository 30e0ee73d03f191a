import JitAccess.Http.Header
import JitAccess.Http.Status
import JitAccess.Json.Value
import JitAccess.Url.Basic

/-!
# Requests and replies

A `Request` is what is to be asked, a `Message` what goes to the service for it, and a `Reply` what
comes back. `Request.message?` refuses a request that HTTP does not allow.
-/

namespace JitAccess.Http

/-- What is to be asked: a method, a URL, header fields and perhaps a JSON body. -/
structure Request where
  method : String
  url : Url
  fields : List Field
  body : Option Json.Value

/-- What goes to a service. Names of fields are in lower case, and the URL has no fragment. -/
structure Message where
  method : String
  url : String
  fields : List Field
  body : Option Json.Value

/-- What comes back. The body is missing if it could not be read to its end. -/
structure Reply where
  status : Status
  fields : List Field
  body : Option (List UInt8)

/-- The longest URL that is sent, in bytes. -/
def maxUrlLength : Nat := 65534

/-- A request for a URL and nothing more. -/
def Request.get (url : Url) : Request := ⟨"GET", url, [], none⟩

/-- The URL without user, password and fragment. -/
def locator (u : Url) : Url :=
  { u with
    authority := u.authority.map fun a => { a with username := "", password := "" }
    fragment := none }

/-- Whether a host can be sent to: one without characters that HTTP has no place for. -/
def isSendableHost (h : Url.Host) : Bool :=
  !h.text.toList.any "\"`\x7b\x7d".toList.contains

/-- Whether a URL can be sent to: one of HTTP, with a host, that is not too long. -/
def isSendable (u : Url) : Bool :=
  (u.scheme == "http" || u.scheme == "https") && u.host?.any isSendableHost &&
    ({ locator u with fragment := u.fragment }).text.utf8ByteSize ≤ maxUrlLength

namespace Request

/-- The fields of a request that is authorized by a value: those that the URL's user and password
and the value give, the accepted type, the request's own, and the type of its body unless they give
it. -/
def allFields (r : Request) (authorization : String) : List Field :=
  let (user, password) := r.url.credentials
  let basic := (basic? user password).toList.map ("authorization", ·)
  let own := basic ++ [("authorization", authorization), ("accept", "application/json")] ++
    r.fields.map lowerName
  if r.body.isSome && !(own.any (·.1 == "content-type")) then
    own ++ [("content-type", "application/json")]
  else own

/-- The message of a request that is authorized by a value, if HTTP allows it. -/
def message? (r : Request) (authorization : String) : Option Message :=
  let fields := r.allFields authorization
  if isSendable r.url && fields.all isField then
    some ⟨r.method, (locator r.url).text, fields, r.body⟩
  else none

end Request

end JitAccess.Http
