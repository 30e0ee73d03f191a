import JitAccess.Url.Form
import JitAccess.Url.Host

/-!
# URLs

A URL has a scheme, perhaps an authority (the part after two slashes), a path, and perhaps a query
and a fragment. The path is rootless, one text, or a list of segments with a slash before each. A
URL with a rootless path is no base: no other URL can be relative to it.
-/

namespace JitAccess

/-- The part of a URL that names a server. The host may be missing. A port is given only where it is
not the scheme's own, and an empty user name or password is the same as none. -/
structure Url.Authority where
  username : String
  password : String
  host : Option Url.Host
  port : Option UInt16
deriving DecidableEq, Repr

/-- The path of a URL: the text after the colon, or the segments after slashes. -/
inductive Url.Path
  | rootless (text : String)
  | segments (list : List String)
deriving DecidableEq, Repr

/-- A URL in parts. Every part is in its written, percent-encoded form. Without an authority the
path may be guarded: `/.` stands before it, lest an empty first segment look like one. -/
structure Url where
  scheme : String
  authority : Option Url.Authority
  guarded : Bool
  path : Url.Path
  query : Option String
  fragment : Option String
deriving DecidableEq, Repr

namespace Url

/-! ## Schemes -/

/-- The schemes whose URLs always have a host and a path. -/
def isHostScheme (scheme : String) : Bool :=
  ["http", "https", "ws", "wss", "ftp"].contains scheme

/-- The schemes for which a backslash is a slash. -/
def isSpecial (scheme : String) : Bool :=
  isHostScheme scheme || scheme == "file"

/-- The port that a URL without a port means. -/
def defaultPort? (scheme : String) : Option UInt16 :=
  if scheme == "http" || scheme == "ws" then some 80
  else if scheme == "https" || scheme == "wss" then some 443
  else if scheme == "ftp" then some 21
  else none

/-! ## Parts -/

/-- The host, if there is one. -/
def host? (u : Url) : Option Host := u.authority.bind (·.host)

/-- The port, the scheme's own where none is given. -/
def port? (u : Url) : Option UInt16 := (u.authority.bind (·.port)).or (defaultPort? u.scheme)

/-- The user name and the password; both are empty where there are none. -/
def credentials (u : Url) : String × String :=
  match u.authority with
  | some a => (a.username, a.password)
  | none => ("", "")

/-- Whether other URLs can be relative to this one. -/
def isBase (u : Url) : Bool :=
  match u.path with
  | .rootless _ => false
  | .segments _ => true

/-- The segments of the path; none where it is rootless. -/
def pathSegments (u : Url) : List String :=
  match u.path with
  | .rootless _ => []
  | .segments l => l

/-- The pairs of the query, as text. -/
def queryPairs (u : Url) : List (String × String) :=
  match u.query with
  | some q => Form.readPairs q.toList
  | none => []

/-- The pairs of the query, as bytes. -/
def queryBytes (u : Url) : List (List UInt8 × List UInt8) :=
  match u.query with
  | some q => Form.readBytePairs q.toList
  | none => []

/-- The same URL with these pairs for its query. -/
def withQuery (u : Url) (pairs : List (String × String)) : Url :=
  { u with query := some (String.ofList (Form.writePairs pairs)) }

/-! ## Text -/

/-- User name and password with the at sign, or nothing. -/
def Authority.userText (a : Authority) : String :=
  if a.username.isEmpty && a.password.isEmpty then ""
  else if a.password.isEmpty then a.username ++ "@"
  else a.username ++ ":" ++ a.password ++ "@"

/-- The text of an authority, the two slashes included. -/
def Authority.text (a : Authority) : String :=
  let host := match a.host with
    | some h => h.text
    | none => ""
  let port := match a.port with
    | some p => ":" ++ toString p.toNat
    | none => ""
  "//" ++ a.userText ++ host ++ port

/-- The text of a path. -/
def Path.text : Path → String
  | .rootless t => t
  | .segments l => String.join (l.map ("/" ++ ·))

/-- What stands between the scheme and the path. -/
def beforePath (u : Url) : String :=
  match u.authority with
  | some a => a.text
  | none => if u.guarded then "/." else ""

/-- The text of a URL. -/
def text (u : Url) : String :=
  let query := match u.query with
    | some q => "?" ++ q
    | none => ""
  let fragment := match u.fragment with
    | some f => "#" ++ f
    | none => ""
  u.scheme ++ ":" ++ u.beforePath ++ u.path.text ++ query ++ fragment

end Url

end JitAccess
