import JitAccess.Proofs.Client.Continuation
import JitAccess.Proofs.Url.Query

/-!
# The queries of first requests

The address of a first request is on the server of the endpoint, and its query says which API version is
meant and gives the pairs of the call's options. Nothing else that goes into the address has a part in
the query.

* `AsksVersion`: which version a call asks for.
* `Url.checkedAddress`: the address with a check that the endpoint of a client always passes.
* `IsAddress`: what an address is made of, and which query stands in its text.
* `ClientSettings.address_queries_exactly`: every address that a client gives which has been built is
  such an address.
-/

namespace JitAccess

open Http Url

/-! ## Versions -/

/-- Which version a call asks for, where the client has some other: its own, else the value of its first
pair that gives one, else that of the client. -/
inductive AsksVersion (options : CallOptions) (other : String) : String → Prop
  | own {version : String} (hown : options.apiVersion = some version) :
      AsksVersion options other version
  | pair {before after : List (String × String)} {p : String × String}
      (hown : options.apiVersion = none) (hquery : options.query = before ++ p :: after)
      (hbefore : ∀ q ∈ before, isVersionName q.1 = false) (hp : isVersionName p.1 = true) :
      AsksVersion options other p.2
  | client (hown : options.apiVersion = none)
      (hquery : ∀ q ∈ options.query, isVersionName q.1 = false) : AsksVersion options other other

/-- A call asks for one version, and no more than one. -/
theorem asksVersion_iff {options : CallOptions} {other version : String} :
    AsksVersion options other version ↔ options.version other = version := by
  unfold CallOptions.version
  constructor
  · intro h
    cases h with
    | own hown => rw [hown]; rfl
    | @pair before after p hown hquery hbefore hp =>
      have hfind : options.query.find? (isVersionName ·.1) = some p := by
        rw [List.find?_eq_some_iff_append]
        exact ⟨hp, before, after, hquery, fun q hq => by simp [hbefore q hq]⟩
      rw [hown, hfind]
      rfl
    | client hown hquery =>
      have hfind : options.query.find? (isVersionName ·.1) = none := by
        rw [List.find?_eq_none]
        intro q hq
        simp [hquery q hq]
      rw [hown, hfind]
      rfl
  · intro h
    cases hown : options.apiVersion with
    | some own =>
      rw [hown] at h
      obtain rfl : own = version := h
      exact .own hown
    | none =>
      cases hfind : options.query.find? (isVersionName ·.1) with
      | some p =>
        rw [hown, hfind] at h
        obtain rfl : p.2 = version := h
        obtain ⟨hp, before, after, hquery, hbefore⟩ := List.find?_eq_some_iff_append.1 hfind
        exact .pair hown hquery (fun q hq => by simpa using hbefore q hq) hp
      | none =>
        rw [hown, hfind] at h
        obtain rfl : other = version := h
        exact .client hown fun q hq => by simpa using List.find?_eq_none.1 hfind q hq

/-! ## Addresses -/

/-- The pairs of a first query: the version that the call asks for, and what its options give
besides. -/
def CallOptions.queryPairs (options : CallOptions) (version : String) : List (String × String) :=
  (versionName, version) :: options.query.filter (!isVersionName ·.1)

/-- The URL of a first request, refused where the endpoint has no path that could be extended. -/
def Url.checkedAddress (endpoint : Url) (apiVersion : String) (route : Route)
    (params : List (String × String)) (options : CallOptions) : Except Failure Url :=
  match route.expand params with
  | .error fault => .error (.draft fault)
  | .ok segments =>
    match endpoint.path with
    | .rootless _ => .error (.draft (.other "endpoint cannot be a base URL"))
    | .segments _ =>
      .ok ((endpoint.extendPath segments).withQuery
        (options.queryPairs (options.version apiVersion)))

/-- Whether a query stands in a text that is read as some pairs, down to the bytes of names and
values. -/
def QueriesFor (text : String) (pairs : List (String × String)) : Prop :=
  ∃ q, queryOf text.toList = some q ∧ Form.readBytePairs q = pairs.map Form.pairBytes

/-- Whether a URL is on the server of the endpoint and has exactly the query of a call that asks for a
version: as it is, as text, and as the text that is sent. -/
structure IsAddress (c : Client) (options : CallOptions) (version : String) (u : Url) : Prop where
  server : u = { c.endpoint with path := u.path, query := u.query }
  pairs : u.queryPairs = options.queryPairs version
  text : QueriesFor u.text (options.queryPairs version)
  sent : QueriesFor (locator u).text (options.queryPairs version)

/-- Nothing but the path of a URL is extended. -/
theorem Url.extendPath_eq (u : Url) (raws : List String) :
    u.extendPath raws = { u with path := (u.extendPath raws).path } := by
  obtain ⟨scheme, authority, guarded, path, query, fragment⟩ := u
  cases path <;> rfl

theorem queriesFor_withQuery {u : Url} (h : u.Delimited) (pairs : List (String × String)) :
    QueriesFor (u.withQuery pairs).text pairs :=
  ⟨_, h.queryOf_text_withQuery pairs, Form.readBytePairs_writePairs pairs⟩

theorem delimited_locator {u : Url} (h : u.Delimited) : (locator u).Delimited := by
  refine ⟨h.scheme, ?_, h.path⟩
  intro a ha
  obtain ⟨b, hb, rfl⟩ := Option.mem_map.1 ha
  have hempty : Unended "" := by decide
  exact ⟨hempty, hempty, (h.authority b hb).host⟩

namespace Client

variable {c : Client} {route : Route} {params : List (String × String)} {options : CallOptions}

theorem address_eq_checkedAddress (c : Client) (route : Route) (params : List (String × String))
    (options : CallOptions) :
    c.address route params options =
      c.endpoint.checkedAddress c.apiVersion route params options := by
  have hbase := c.endpoint_isBase
  unfold address checkedAddress
  cases route.expand params with
  | error fault => rfl
  | ok segments =>
    unfold isBase at hbase
    cases hpath : c.endpoint.path with
    | rootless => rw [hpath] at hbase; cases hbase
    | segments => rfl

theorem address_eq_error_iff {e : Failure} :
    c.address route params options = .error e ↔
      ∃ fault, route.expand params = .error fault ∧ e = .draft fault := by
  unfold address
  cases route.expand params with
  | error fault => simp [eq_comm]
  | ok segments => simp

theorem isAddress_of_address (hendpoint : c.endpoint.Delimited) {u : Url}
    (h : c.address route params options = .ok u) :
    IsAddress c options (options.version c.apiVersion) u := by
  unfold address at h
  split at h
  · cases h
  next segments _ =>
    cases h
    have hextended := hendpoint.extendPath segments
    constructor
    · show (c.endpoint.extendPath segments).withQuery _ = _
      rw [c.endpoint.extendPath_eq segments]
      rfl
    · exact queryPairs_withQuery _ _
    · exact queriesFor_withQuery hextended _
    · exact queriesFor_withQuery (delimited_locator hextended) _

end Client

namespace ClientSettings

/-- The endpoint of a client that has been built has been read. -/
theorem parse_of_build {s : ClientSettings} {env : Environment} {c : Client}
    (h : s.build env = .ok c) : Url.parse (s.endpointText env) s.mapping = .ok c.endpoint := by
  unfold build at h
  split at h
  · cases h
  next endpoint hparse =>
    split at h
    · split at h
      · cases h
      · split at h
        · cases h
          exact hparse
        · cases h
    · cases h

/-- **The query of an address is that of the call.** A client that has been built gives no address
exactly if the route cannot be filled, and tells why; its endpoint can always be extended. An address
that it gives is on the server of the endpoint, and its query is the version that the call asks for and
after it the pairs of the options that give none. No value in the path, no header field and no pair has
a part in another pair, whatever characters it is made of: so the query is read from the URL, from its
text, and from the text that is sent. -/
theorem address_queries_exactly {s : ClientSettings} {env : Environment} {c : Client}
    (hbuild : s.build env = .ok c) (route : Route) (params : List (String × String))
    (options : CallOptions) :
    c.address route params options =
        c.endpoint.checkedAddress c.apiVersion route params options ∧
      (∀ e, c.address route params options = .error e ↔
        ∃ fault, route.expand params = .error fault ∧ e = .draft fault) ∧
      ∃ version, (∀ v, AsksVersion options c.apiVersion v ↔ v = version) ∧
        ∀ u, c.address route params options = .ok u → IsAddress c options version u := by
  have hendpoint := delimited_of_parse (parse_of_build hbuild)
  refine ⟨c.address_eq_checkedAddress route params options, fun _ => Client.address_eq_error_iff,
    options.version c.apiVersion, ?_, ?_⟩
  · intro v
    rw [asksVersion_iff]
    exact eq_comm
  · intro u hu
    exact Client.isAddress_of_address hendpoint hu

/-- The settings of the client of the public cloud. -/
def publicSettings : ClientSettings where
  subscription := some "sub-123"
  credential := some (.accessToken "test-token")

theorem build_publicSettings : publicSettings.build {} = .ok Client.publicCloud := by
  have hparse : Url.parse (publicSettings.endpointText {}) publicSettings.mapping = .ok Client.publicCloud.endpoint := by
    decide +kernel
  unfold build
  rw [hparse]
  rfl

/-- Options whose pairs have characters of queries in them, and give a version twice. -/
def markedOptions : CallOptions where
  query := [("API-Version", "2019-01-01"), ("a&b", "c=d#e?"), ("api-version", "1")]

/-- A policy whose name and place have characters of queries in them. -/
def markedName : PolicyName := ⟨"a?b=c&d", "west#europe", "x%3Fy"⟩

theorem address_queries_exactly_with_marks :
    publicSettings.build {} = .ok Client.publicCloud ∧
      ∃ u, Client.publicCloud.address .policy (markedName.params "sub-123") markedOptions = .ok u ∧
        IsAddress Client.publicCloud markedOptions "2019-01-01" u ∧
        u.queryPairs = [("api-version", "2019-01-01"), ("a&b", "c=d#e?")] := by
  have hsegments : Route.policy.expand (markedName.params "sub-123") =
      .ok ["subscriptions", "sub-123", "resourceGroups", "a?b=c&d", "providers",
        "Microsoft.Security", "locations", "west#europe", "jitNetworkAccessPolicies", "x%3Fy"] := by
    rw [Route.expand, Client.parts_policy]
    rfl
  obtain ⟨u, hu⟩ : ∃ u, Client.publicCloud.address .policy (markedName.params "sub-123")
      markedOptions = .ok u := ⟨_, by rw [Client.address, hsegments]⟩
  obtain ⟨-, -, version, hversion, haddress⟩ := address_queries_exactly build_publicSettings
    .policy (markedName.params "sub-123") markedOptions
  have hasks : AsksVersion markedOptions Client.publicCloud.apiVersion "2019-01-01" :=
    @AsksVersion.pair markedOptions _ [] _ ("API-Version", "2019-01-01") rfl rfl
      (List.forall_mem_nil _) (by decide)
  obtain rfl := (hversion _).1 hasks
  refine ⟨build_publicSettings, u, hu, haddress u hu, ?_⟩
  rw [(haddress u hu).pairs]
  decide

end ClientSettings

end JitAccess
