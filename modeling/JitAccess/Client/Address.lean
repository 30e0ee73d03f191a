import JitAccess.Client.CallOptions
import JitAccess.Client.Route
import JitAccess.Client.Settings
import JitAccess.Url.Origin

/-!
# Addresses

The URL of a first request is made from a route, and that of a further one from the link that the
service gives. A link is followed only inside the endpoint's origin, so that no token goes
elsewhere, and always with the client's API version.
-/

namespace JitAccess

/-- The pairs with the API version: in the place of the first that gives one, else at the end. -/
def pinVersion (version : String) (pairs : List (String × String)) : List (String × String) :=
  match pairs.dropWhile (!isVersionName ·.1) with
  | [] => pairs ++ [(versionName, version)]
  | _ :: rest =>
    pairs.takeWhile (!isVersionName ·.1) ++ (versionName, version) ::
      rest.filter (!isVersionName ·.1)

namespace Client

/-- The query pairs of a first request. -/
def firstQuery (c : Client) (options : CallOptions) : List (String × String) :=
  (versionName, options.version c.apiVersion) :: options.extraPairs

/-- The URL of a first request. -/
def address (c : Client) (route : Route) (params : List (String × String))
    (options : CallOptions) : Except Failure Url :=
  match route.expand params with
  | .error fault => .error (.draft fault)
  | .ok segments => .ok ((c.endpoint.extendPath segments).withQuery (c.firstQuery options))

/-- The URL that a link stands for, which may be relative to the endpoint. -/
def resolve (c : Client) (link : String) : Except Url.ParseError Url :=
  c.endpoint.join link c.mapping

/-- Where a URL comes from. -/
def originOf (c : Client) (u : Url) : Url.Origin := u.origin c.mapping

/-- The URL of a further request, from the link to it. -/
def continuation (c : Client) (link : String) : Except Failure Url :=
  match c.resolve link with
  | .error e => .error (.address (.unreadableLink e))
  | .ok u =>
    if (c.originOf u).agrees (c.originOf c.endpoint) then
      .ok (u.withQuery (pinVersion c.apiVersion u.queryPairs))
    else .error (.address (.foreignLink (c.originOf u) (c.originOf c.endpoint)))

end Client

end JitAccess
