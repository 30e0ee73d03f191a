import JitAccess.Client.Address
import JitAccess.Http.Message
import JitAccess.Proofs.Policy.Addressing
import JitAccess.Proofs.Url.Form
import JitAccess.Proofs.Url.Origin
import Mathlib.Data.List.TakeWhile

/-!
# Following links

A link of a page is resolved against the endpoint. It is refused if it is no URL or of another
origin; if not, its query is read as pairs of texts, the API version is pinned, and the pairs are
written again.

* `continuation_pins_version`: among the pairs only the API version changes, and of the other parts
  of the URL nothing.
* `continuation_keeps_cursor_iff`: the bytes of the other pairs stay as they are exactly when all of
  them are the bytes of texts. What is not well formed is lost when it is read as text.
* `continuation_sameServer_iff`: a link that is followed names the endpoint's server exactly when it
  is no `blob` URL. Such a URL has the origin of the URL inside it, and no host to send anything to.
-/

namespace JitAccess

open Http Text Url

/-! ## Pinning the API version -/

/-- How pairs are related to the same pairs with the API version pinned: it takes the place of the
first pair that gives one, and any others that do are left out; where none does it comes last. -/
inductive Pinned (version : String) : List (String × String) → List (String × String) → Prop
  | replaced {before after : List (String × String)} {p : String × String}
      (hbefore : ∀ q ∈ before, isVersionName q.1 = false) (hp : isVersionName p.1 = true) :
      Pinned version (before ++ p :: after)
        (before ++ (versionName, version) :: after.filter (!isVersionName ·.1))
  | added {pairs : List (String × String)} (hpairs : ∀ q ∈ pairs, isVersionName q.1 = false) :
      Pinned version pairs (pairs ++ [(versionName, version)])

theorem isVersionName_versionName : isVersionName versionName = true := by decide

theorem pinned_pinVersion (version : String) (pairs : List (String × String)) :
    Pinned version pairs (pinVersion version pairs) := by
  unfold pinVersion
  have hsplit := List.takeWhile_append_dropWhile
    (p := fun q : String × String => !isVersionName q.1) (l := pairs)
  have hbefore : ∀ q ∈ pairs.takeWhile (!isVersionName ·.1), isVersionName q.1 = false :=
    fun q hq => by simpa using List.mem_takeWhile_imp hq
  cases hdrop : pairs.dropWhile (!isVersionName ·.1) with
  | nil =>
    rw [hdrop, List.append_nil] at hsplit
    rw [hsplit] at hbefore
    exact .added hbefore
  | cons p rest =>
    have hp : isVersionName p.1 = true := by
      have hhead := List.head?_dropWhile_not (fun q : String × String => !isVersionName q.1) pairs
      rw [hdrop] at hhead
      simpa using hhead
    rw [hdrop] at hsplit
    have hpinned : Pinned version (pairs.takeWhile (!isVersionName ·.1) ++ p :: rest)
        (pairs.takeWhile (!isVersionName ·.1) ++
          (versionName, version) :: rest.filter (!isVersionName ·.1)) := .replaced hbefore hp
    rwa [hsplit] at hpinned

namespace Pinned

variable {version : String} {pairs pinned : List (String × String)}

theorem filter_version (h : Pinned version pairs pinned) :
    pinned.filter (isVersionName ·.1) = [(versionName, version)] := by
  cases h with
  | @replaced before after p hbefore hp =>
    have hnone : before.filter (isVersionName ·.1) = [] :=
      List.filter_eq_nil_iff.2 fun q hq => by simp [hbefore q hq]
    simp [hnone, isVersionName_versionName, List.filter_filter]
  | added hpairs =>
    have hnone : pairs.filter (isVersionName ·.1) = [] :=
      List.filter_eq_nil_iff.2 fun q hq => by simp [hpairs q hq]
    simp [hnone, isVersionName_versionName]

theorem filter_others (h : Pinned version pairs pinned) :
    pinned.filter (!isVersionName ·.1) = pairs.filter (!isVersionName ·.1) := by
  cases h with
  | @replaced before after p hbefore hp =>
    simp [hp, isVersionName_versionName, List.filter_filter]
  | added hpairs => simp [isVersionName_versionName]

end Pinned

/-! ## Queries -/

namespace Url

/-- The pairs of the query that do not give the API version, as bytes: all that a link tells the
service about where to go on. -/
def cursor (u : Url) : List (List UInt8 × List UInt8) :=
  u.queryBytes.filter fun p => !isVersionName (Form.textOf p.1)

theorem queryPairs_eq (u : Url) :
    u.queryPairs = u.queryBytes.map fun p => (Form.textOf p.1, Form.textOf p.2) := by
  unfold queryPairs queryBytes
  cases u.query <;> rfl

theorem queryBytes_withQuery (u : Url) (pairs : List (String × String)) :
    (u.withQuery pairs).queryBytes = pairs.map Form.pairBytes := by
  unfold withQuery queryBytes
  dsimp only
  rw [String.toList_ofList, Form.readBytePairs_writePairs]

theorem queryPairs_withQuery (u : Url) (pairs : List (String × String)) :
    (u.withQuery pairs).queryPairs = pairs := by
  unfold withQuery queryPairs
  dsimp only
  rw [String.toList_ofList, Form.readPairs_writePairs]

/-- A pair of bytes that has been read as texts and written again. -/
def rewritten (p : List UInt8 × List UInt8) : List UInt8 × List UInt8 :=
  (Utf8.encode (Utf8.decodeLossy p.1), Utf8.encode (Utf8.decodeLossy p.2))

theorem rewritten_eq_iff {p : List UInt8 × List UInt8} :
    rewritten p = p ↔ Utf8.IsText p.1 ∧ Utf8.IsText p.2 := by
  rw [← Utf8.encode_decodeLossy_iff, ← Utf8.encode_decodeLossy_iff]
  exact Prod.ext_iff

theorem cursor_withQuery (u : Url) (pairs : List (String × String)) :
    (u.withQuery pairs).cursor = (pairs.filter (!isVersionName ·.1)).map Form.pairBytes := by
  unfold cursor
  rw [queryBytes_withQuery, List.filter_map]
  refine congrArg (List.map Form.pairBytes) (List.filter_congr fun p _ => ?_)
  have hname : Form.textOf (Form.pairBytes p).1 = p.1 := Form.textOf_encode p.1
  rw [Function.comp_apply, hname]

theorem filter_queryPairs (u : Url) :
    u.queryPairs.filter (!isVersionName ·.1) =
      u.cursor.map fun p => (Form.textOf p.1, Form.textOf p.2) := by
  rw [queryPairs_eq, List.filter_map]
  rfl

theorem cursor_pinned {u v : Url} {version : String} {pairs : List (String × String)}
    (h : Pinned version u.queryPairs pairs) (hv : v = u.withQuery pairs) :
    v.cursor = u.cursor.map rewritten := by
  subst hv
  rw [cursor_withQuery, h.filter_others, filter_queryPairs, List.map_map]
  refine List.map_congr_left fun p _ => ?_
  simp [Form.pairBytes, Form.textOf, rewritten]

end Url

/-! ## Links -/

namespace Client

variable {c : Client} {link : String} {fault : AddressFault} {u : Url}

/-- Which links are not followed: those that are no URL, and those of another origin. -/
inductive LeadsAway (c : Client) (link : String) : AddressFault → Prop
  | unreadable {cause : ParseError} (hlink : c.resolve link = .error cause) :
      LeadsAway c link (.unreadableLink cause)
  | foreign {l : Url} (hlink : c.resolve link = .ok l)
      (horigin : (c.originOf l).agrees (c.originOf c.endpoint) = false) :
      LeadsAway c link (.foreignLink (c.originOf l) (c.originOf c.endpoint))

theorem continuation_of_leadsAway (h : c.LeadsAway link fault) :
    c.continuation link = .error (.address fault) := by
  unfold continuation
  cases h with
  | unreadable hlink => rw [hlink]
  | foreign hlink horigin => rw [hlink]; simp [horigin]

/-- What becomes of a link. -/
theorem continuation_cases (c : Client) (link : String) :
    (∃ fault, c.LeadsAway link fault ∧ c.continuation link = .error (.address fault)) ∨
      ∃ l, c.resolve link = .ok l ∧ (c.originOf l).agrees (c.originOf c.endpoint) = true ∧
        c.continuation link = .ok (l.withQuery (pinVersion c.apiVersion l.queryPairs)) := by
  cases hlink : c.resolve link with
  | error cause =>
    have haway : c.LeadsAway link (.unreadableLink cause) := .unreadable hlink
    exact Or.inl ⟨_, haway, continuation_of_leadsAway haway⟩
  | ok l =>
    by_cases horigin : (c.originOf l).agrees (c.originOf c.endpoint) = true
    · refine Or.inr ⟨l, rfl, horigin, ?_⟩
      unfold continuation
      rw [hlink]
      exact if_pos horigin
    · have haway : c.LeadsAway link (.foreignLink (c.originOf l) (c.originOf c.endpoint)) :=
        .foreign hlink (Bool.eq_false_iff.2 horigin)
      exact Or.inl ⟨_, haway, continuation_of_leadsAway haway⟩

theorem exists_resolve_of_continuation (h : c.continuation link = .ok u) :
    ∃ l, c.resolve link = .ok l ∧ (c.originOf l).agrees (c.originOf c.endpoint) = true ∧
      u = l.withQuery (pinVersion c.apiVersion l.queryPairs) := by
  rcases c.continuation_cases link with ⟨fault, -, hrefused⟩ | ⟨l, hlink, horigin, hfollowed⟩
  · rw [hrefused] at h
    cases h
  · rw [hfollowed] at h
    exact ⟨l, hlink, horigin, (Except.ok.inj h).symm⟩

/-- **Following a link pins the API version and nothing else.** The URL is that of the link in all
parts but the query. Its pairs are those of the link with the client's API version in the place of
the first that gives one, or at the end; so it gives the version once, whatever text this is, and all
other pairs are there in their order. -/
theorem continuation_pins_version (h : c.continuation link = .ok u) :
    ∃ l, c.resolve link = .ok l ∧ u = { l with query := u.query } ∧
      Pinned c.apiVersion l.queryPairs u.queryPairs ∧
      u.queryPairs.filter (isVersionName ·.1) = [(versionName, c.apiVersion)] ∧
      u.queryPairs.filter (!isVersionName ·.1) = l.queryPairs.filter (!isVersionName ·.1) := by
  obtain ⟨l, hlink, -, rfl⟩ := exists_resolve_of_continuation h
  have hpinned := pinned_pinVersion c.apiVersion l.queryPairs
  rw [← queryPairs_withQuery l (pinVersion c.apiVersion l.queryPairs)] at hpinned
  exact ⟨l, hlink, rfl, hpinned, hpinned.filter_version, hpinned.filter_others⟩

/-- A URL of the public cloud with a query and perhaps a fragment. -/
def publicNext (query : String) (fragment : Option String) : Url :=
  { publicCloud.endpoint with path := .segments ["next"], query := some query, fragment }

theorem eq_ok_of_toOption {ε : Type} {x : Except ε Url} (h : x.toOption = some u) : x = .ok u := by
  cases x with
  | error e => cases h
  | ok v => exact congrArg Except.ok (Option.some.inj h)

theorem continuation_pins_escaped_version :
    publicCloud.continuation "/next?a=1&API%2DVersion=9&b=%20&api-version=2&a=1#f" =
        .ok (publicNext "a=1&api-version=2020-01-01&b=+&a=1" (some "f")) ∧
      ∃ l, publicCloud.resolve "/next?a=1&API%2DVersion=9&b=%20&api-version=2&a=1#f" = .ok l ∧
        publicNext "a=1&api-version=2020-01-01&b=+&a=1" (some "f") =
          { l with query := some "a=1&api-version=2020-01-01&b=+&a=1" } ∧
        Pinned defaultApiVersion l.queryPairs
          (publicNext "a=1&api-version=2020-01-01&b=+&a=1" (some "f")).queryPairs := by
  have hfollowed : publicCloud.continuation "/next?a=1&API%2DVersion=9&b=%20&api-version=2&a=1#f" =
      .ok (publicNext "a=1&api-version=2020-01-01&b=+&a=1" (some "f")) :=
    eq_ok_of_toOption (by decide +kernel)
  obtain ⟨l, hlink, hparts, hpinned, -⟩ := continuation_pins_version hfollowed
  exact ⟨hfollowed, l, hlink, hparts, hpinned⟩

/-- **A cursor comes through exactly if it is text.** The pairs of a followed link that do not give
the API version are read as texts and written again, so they are the same bytes if and only if they
are the bytes of texts. -/
theorem continuation_keeps_cursor_iff (h : c.continuation link = .ok u) :
    ∃ l, c.resolve link = .ok l ∧ u.cursor = l.cursor.map rewritten ∧
      (u.cursor = l.cursor ↔ ∀ p ∈ l.cursor, Utf8.IsText p.1 ∧ Utf8.IsText p.2) := by
  obtain ⟨l, hlink, -, hu⟩ := exists_resolve_of_continuation h
  have hcursor := cursor_pinned (pinned_pinVersion c.apiVersion l.queryPairs) hu
  refine ⟨l, hlink, hcursor, ?_⟩
  rw [hcursor]
  constructor
  · intro hsame p hp
    have hmap : l.cursor.map rewritten = l.cursor.map id := hsame.trans (List.map_id _).symm
    exact rewritten_eq_iff.1 (List.map_inj_left.1 hmap p hp)
  · intro htext
    exact (List.map_congr_left fun p hp => rewritten_eq_iff.2 (htext p hp)).trans (List.map_id _)

theorem continuation_keeps_escaped_cursor :
    publicCloud.continuation "/next?token=a%2Fb" =
        .ok (publicNext "token=a%2Fb&api-version=2020-01-01" none) ∧
      publicCloud.resolve "/next?token=a%2Fb" = .ok (publicNext "token=a%2Fb" none) ∧
      (publicNext "token=a%2Fb&api-version=2020-01-01" none).cursor =
        (publicNext "token=a%2Fb" none).cursor := by
  have hfollowed : publicCloud.continuation "/next?token=a%2Fb" =
      .ok (publicNext "token=a%2Fb&api-version=2020-01-01" none) :=
    eq_ok_of_toOption (by decide +kernel)
  have hlink : publicCloud.resolve "/next?token=a%2Fb" =
      .ok (publicNext "token=a%2Fb" none) :=
    eq_ok_of_toOption (by decide +kernel)
  have hcursor : (publicNext "token=a%2Fb" none).cursor =
      [(Utf8.encode "token".toList, Utf8.encode "a/b".toList)] := by
    decide +kernel
  obtain ⟨l, hl, -, hsame⟩ := continuation_keeps_cursor_iff hfollowed
  obtain rfl : publicNext "token=a%2Fb" none = l := Except.ok.inj (hlink.symm.trans hl)
  refine ⟨hfollowed, hlink, hsame.2 fun p hp => ?_⟩
  rw [hcursor, List.mem_singleton] at hp
  rw [hp]
  exact ⟨⟨_, rfl⟩, ⟨_, rfl⟩⟩

/-- A byte that is no text on its own is lost. -/
theorem not_forall_continuation_keeps_cursor :
    ¬ ∀ (c : Client) (link : String) (u l : Url),
      c.continuation link = .ok u → c.resolve link = .ok l → u.cursor = l.cursor := by
  intro h
  have hcursor := h publicCloud "/next?token=%FF"
    (publicNext "token=%EF%BF%BD&api-version=2020-01-01" none) (publicNext "token=%FF" none)
    (eq_ok_of_toOption (by decide +kernel)) (eq_ok_of_toOption (by decide +kernel))
  exact absurd hcursor (by decide +kernel)

/-- **A link that is followed names the endpoint's server, or is a `blob` URL.** One of these can be
followed as well, since its origin is that of the URL inside it; it has no host, and no request for
it can be sent. Any other link is refused as one that is no URL or leads elsewhere. -/
theorem continuation_sameServer_iff (c : Client) (link : String) :
    match c.continuation link with
    | .ok u => (u.SameServer c.endpoint ↔ u.scheme ≠ "blob") ∧
        (u.scheme = "blob" → u.host? = none ∧ isSendable u = false)
    | .error e => ∃ fault, c.LeadsAway link fault ∧ e = .address fault := by
  rcases c.continuation_cases link with ⟨fault, haway, hrefused⟩ | ⟨l, hlink, horigin, hfollowed⟩
  · rw [hrefused]
    exact ⟨fault, haway, rfl⟩
  · rw [hfollowed]
    obtain ⟨hserver, hrootless⟩ := sameServer_iff_of_agrees c.endpoint_isBase horigin
    refine ⟨hserver, fun hblob => ?_⟩
    have hauthority : l.authority = none := by
      refine (isBase_or_of_join c.endpoint_isBase hlink).resolve_left fun hbase => ?_
      rw [hrootless hblob] at hbase
      cases hbase
    have hhost : (l.withQuery (pinVersion c.apiVersion l.queryPairs)).host? = none := by
      show l.authority.bind (·.host) = none
      rw [hauthority]
      rfl
    refine ⟨hhost, ?_⟩
    rw [isSendable, hhost]
    simp

/-- A `blob` URL with the endpoint's origin is followed. -/
theorem not_forall_continuation_sameServer :
    ¬ ∀ (c : Client) (link : String) (u : Url),
      c.continuation link = .ok u → u.SameServer c.endpoint := by
  intro h
  have hserver := h publicCloud "blob:https://management.azure.com/x"
    { scheme := "blob", authority := none, guarded := false
      path := .rootless "https://management.azure.com/x"
      query := some "api-version=2020-01-01", fragment := none }
    (eq_ok_of_toOption (by decide +kernel))
  exact absurd hserver.1 (by decide)

end Client

end JitAccess
