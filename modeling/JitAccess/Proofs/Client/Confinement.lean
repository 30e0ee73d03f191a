import JitAccess.Proofs.Client.Continuation
import JitAccess.Proofs.Client.Dispatch

/-!
# Where messages go

A message is addressed to a server by the beginning of its URL. Work is confined by a client if all
messages that it sends are addressed to the server of the endpoint, so that no token gets anywhere
else. This is a matter of the URLs that it makes requests for: they must all be admitted.

* `goesTo_of_admits`: the message of a request for an admitted URL goes to the endpoint's server.
* `admits_of_address`, `admits_of_continuation`: the URLs that a client makes are admitted.
* `Sends.confines`: work that makes requests for admitted URLs only is confined.
-/

namespace JitAccess

open Http Trace Url

/-! ## Servers of messages -/

/-- How a port is written in a URL: not at all where none is given. -/
def Url.portText : Option UInt16 → String
  | some port => ":" ++ toString port.toNat
  | none => ""

/-- Whether a message goes to the server of a URL: its own URL begins with the URL's scheme, host and
port, the scheme's own port left out or not, and these are followed by a path, by a query or by
nothing. -/
def Http.Message.GoesTo (m : Message) (u : Url) : Prop :=
  ∃ host port given rest, u.host? = some host ∧ u.port? = some port ∧
    given.or (defaultPort? u.scheme) = some port ∧
    m.url = u.scheme ++ "://" ++ host.text ++ portText given ++ rest ∧
    ∀ c ∈ rest.toList.head?, c = '/' ∨ c = '?'

theorem text_locator {u : Url} {a : Authority} {host : Host} (hbase : u.isBase = true)
    (ha : u.authority = some a) (hhost : a.host = some host) :
    ∃ rest, (locator u).text = u.scheme ++ "://" ++ host.text ++ portText a.port ++ rest ∧
      ∀ c ∈ rest.toList.head?, c = '/' ∨ c = '?' := by
  obtain ⟨scheme, authority, guarded, path, query, fragment⟩ := u
  obtain ⟨user, password, host', port⟩ := a
  dsimp only at ha hhost
  subst ha hhost
  refine ⟨path.text ++ (match query with | some q => "?" ++ q | none => ""), ?_, ?_⟩
  · cases port <;> cases query <;>
      simp [locator, Url.text, beforePath, Authority.text, Authority.userText, portText,
        ← String.toList_inj]
  · intro c hc
    rcases text_path_of_isBase hbase with htext | ⟨cs, htext⟩
    · dsimp only at htext
      rw [htext] at hc
      cases query with
      | none => cases hc
      | some q => simp at hc; exact Or.inr hc.symm
    · dsimp only at htext
      rw [htext] at hc
      simp at hc
      exact Or.inl hc.symm

namespace Client

variable {c : Client} {r : Request} {u : Url}

/-! ## Admitted URLs -/

/-- Whether a request for a URL goes to the endpoint's server if it can be sent at all. -/
def Admits (c : Client) (u : Url) : Prop :=
  isSendable u = true → u.SameServer c.endpoint ∧ u.isBase = true

theorem server_of_isSendable (h : isSendable u = true) :
    (u.scheme = "http" ∨ u.scheme = "https") ∧ ∃ host, u.host? = some host := by
  simp only [isSendable, Bool.and_eq_true, Bool.or_eq_true, beq_iff_eq] at h
  obtain ⟨⟨hscheme, hhost⟩, -⟩ := h
  obtain ⟨host, hhost, -⟩ := (Option.any_eq_true _ _).1 hhost
  exact ⟨hscheme, host, hhost⟩

/-- The message of a request for an admitted URL goes to the endpoint's server. -/
theorem goesTo_of_admits {value : String} {m : Message} (hr : c.Admits r.url)
    (h : r.message? value = some m) : m.GoesTo c.endpoint := by
  have hsendable : isSendable r.url = true := by
    by_contra hrefused
    rw [Request.message?_eq_none_iff.2 (Or.inl (Bool.eq_false_iff.2 hrefused))] at h
    cases h
  obtain ⟨⟨hscheme, hhost, hport⟩, hbase⟩ := hr hsendable
  obtain ⟨hhttp, host, hhost'⟩ := server_of_isSendable hsendable
  obtain ⟨a, ha, hahost⟩ := Option.bind_eq_some_iff.1 hhost'
  have hport' : ∃ port, r.url.port? = some port := by
    unfold port?
    rcases hhttp with hhttp | hhttp <;>
    · rw [hhttp]
      cases r.url.authority.bind (·.port)
      · exact ⟨_, rfl⟩
      · exact ⟨_, rfl⟩
  obtain ⟨port, hport'⟩ := hport'
  have hgiven : a.port.or (defaultPort? c.endpoint.scheme) = some port := by
    rw [← hport', ← hscheme, port?, ha]
    rfl
  obtain ⟨rest, htext, hrest⟩ := text_locator hbase ha hahost
  obtain rfl := Request.eq_of_message? h
  rw [hscheme] at htext
  exact ⟨host, port, a.port, rest, hhost ▸ hhost', hport ▸ hport', hgiven, htext, hrest⟩

theorem admits_of_address {route : Route} {params : List (String × String)}
    {options : CallOptions} (h : c.address route params options = .ok u) : c.Admits u := by
  intro _
  unfold address at h
  split at h
  · cases h
  next segments _ =>
    cases h
    have hbase := c.endpoint_isBase
    unfold extendPath
    cases hpath : c.endpoint.path with
    | rootless =>
      rw [isBase, hpath] at hbase
      cases hbase
    | segments l => exact ⟨⟨rfl, rfl, rfl⟩, rfl⟩

theorem admits_of_continuation {link : String} (h : c.continuation link = .ok u) :
    c.Admits u := by
  intro hsendable
  obtain ⟨hhttp, host, hhost⟩ := server_of_isSendable hsendable
  obtain ⟨l, hlink, horigin, rfl⟩ := exists_resolve_of_continuation h
  have hblob : l.scheme ≠ "blob" := by
    intro hblob
    change l.scheme = "http" ∨ l.scheme = "https" at hhttp
    rw [hblob] at hhttp
    exact absurd hhttp (by decide)
  have hauthority : l.authority ≠ none := by
    intro hnone
    change l.authority.bind (·.host) = some host at hhost
    rw [hnone] at hhost
    cases hhost
  exact ⟨(sameServer_iff_of_agrees c.endpoint_isBase horigin).1.2 hblob,
    (isBase_or_of_join c.endpoint_isBase hlink).resolve_right hauthority⟩

/-! ## Confined work -/

/-- Whether all messages that some work sends go to the endpoint's server; what it comes to has a
property. -/
def Confines {α : Type} (c : Client) (act : Act α) (Q : α → Prop) : Prop :=
  ∀ w, Q (act w).1 ∧
    ∃ sent, (act w).2.messages = w.messages ++ sent ∧ ∀ m ∈ sent, m.GoesTo c.endpoint

theorem goesTo_of_mem_messages {d : Dispatch} {m : Message} (h : c.Admits d.request.url)
    (hm : m ∈ d.messages) : m.GoesTo c.endpoint := by
  obtain ⟨value, -, hmessage⟩ := d.exists_of_mem_messages hm
  exact goesTo_of_admits h hmessage

/-- Work is confined that makes requests for admitted URLs only. -/
theorem Sends.confines {α : Type} {act : Act α} {P : α → List Dispatch → Prop} {Q : α → Prop}
    (h : c.Sends act P)
    (hP : ∀ a ds, P a ds → Q a ∧ ∀ d ∈ ds, c.Admits d.request.url) : c.Confines act Q := by
  intro w
  obtain ⟨ds, hsent, hds⟩ := h w
  obtain ⟨hQ, hadmits⟩ := hP _ ds hds
  refine ⟨hQ, messagesOf ds, hsent.messages, fun m hm => ?_⟩
  obtain ⟨d, hd, hm⟩ := List.mem_flatMap.1 hm
  exact goesTo_of_mem_messages (hadmits d hd) hm

theorem Opens.admits {o : CallOptions} {body : Option Json.Value} (h : c.Opens o body r) :
    c.Admits r.url := by
  obtain ⟨route, params, hurl⟩ := h.url
  exact admits_of_address hurl

theorem Continues.admits {link : String} (h : c.Continues link r) : c.Admits r.url := by
  obtain ⟨u, hlink, rfl⟩ := h
  exact admits_of_continuation hlink

end Client

end JitAccess
