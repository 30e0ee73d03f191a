import JitAccess.Url.Parser

/-!
# Origins

Two URLs are of one origin when they have the same scheme, host and port. A `blob` URL has the
origin of the URL inside it. All others have no origin, which is not even the same as itself.
-/

namespace JitAccess.Url

/-- Where a URL comes from. -/
inductive Origin
  | server (scheme : String) (host : Host) (port : UInt16)
  | none
deriving DecidableEq, Repr

namespace Origin

/-- Whether two origins are the same. -/
def agrees : Origin → Origin → Bool
  | server s h p, server s' h' p' => s == s' && h == h' && p == p'
  | _, _ => false

/-- The text of an origin. The scheme's own port is left out. -/
def text : Origin → String
  | server scheme host port =>
    if defaultPort? scheme == some port then scheme ++ "://" ++ host.text
    else scheme ++ "://" ++ host.text ++ ":" ++ toString port.toNat
  | none => "null"

end Origin

/-- The origin of a URL, looking at most `depth` times into a `blob` URL. -/
def originWithin (mapping : Domain.Mapping) : Nat → Url → Origin
  | depth, u =>
    if isHostScheme u.scheme then
      match u.host?, u.port? with
      | some host, some port => .server u.scheme host port
      | _, _ => .none
    else if u.scheme == "blob" then
      match depth, parse u.path.text mapping with
      | depth + 1, .ok inner => originWithin mapping depth inner
      | _, _ => .none
    else .none

/-- The origin of a URL. The text inside a `blob` URL is shorter than the URL, so that the length of
the path is depth enough. -/
def origin (u : Url) (mapping : Domain.Mapping) : Origin :=
  originWithin mapping u.path.text.length u

end JitAccess.Url
