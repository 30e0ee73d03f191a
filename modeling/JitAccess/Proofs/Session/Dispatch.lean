import JitAccess.Proofs.Client.Dispatch
import JitAccess.Proofs.Listing.Course
import JitAccess.Session.Basic
import Mathlib.Logic.Function.Basic

/-!
# Which requests a session makes

A listing makes its first request once, and from then on follows the link of the page that it has got
last. Between the steps of a session it is enough to know of each open listing how far it is: with which
options its first request is still to be made, or which was its last. This is `OpenListings.Asks`, and a
step keeps it.

* `Page.linkIn`: the link in a body, which is the same for all kinds of items.
* `Client.Leads`: what a listing may send, from its first request on or after it.
* `Feed.Asks.sends_next`: one page more.
* `Step.sends_perform`: one step more.
* `Client.sends_session`: the requests of a whole session, step by step.
-/

namespace JitAccess

open Http Trace

variable {α β : Type} {c : Client} {ds ds' : List Dispatch}

/-! ## Links -/

/-- The link to the next page in a body, if it is a page of whatever items. -/
def Page.linkIn (body : List UInt8) : Option String :=
  (Json.Decoder.run (Page.decoder fun _ _ => some ()) body).bind (·.nextLink)

/-- The link of a page is there whatever its items are. -/
theorem Page.decoder_unit {item : Json.Decoder α} {depth : Nat} {doc : Json.Document} {p : Page α}
    (h : Page.decoder item depth doc = some p) :
    ∃ units, Page.decoder (fun _ _ => some ()) depth doc = some ⟨units, p.continuation⟩ := by
  have hlist {items : List α} {depth : Nat} {doc : Json.Document}
      (h : Json.Decoder.list item depth doc = some items) :
      ∃ units, Json.Decoder.list (fun _ _ => some ()) depth doc = some units := by
    unfold Json.Decoder.list at h
    split at h
    next depth docs => exact ⟨docs.map fun _ => (), List.mapM_pure⟩
    · cases h
  cases depth with
  | zero => cases h
  | succ depth =>
    obtain ⟨slot, hslots, hmake⟩ := Option.bind_eq_some_iff.1 h
    obtain ⟨items, hitems, hrest⟩ := Option.bind_eq_some_iff.1 hmake
    obtain ⟨continuation, hcontinuation, hp⟩ := Option.bind_eq_some_iff.1 hrest
    obtain rfl := Option.some.inj hp
    obtain ⟨units, hunits⟩ : ∃ units, Json.Decoder.defaulting []
        (Json.Decoder.list fun _ _ => some ()) depth (slot "value") = some units := by
      cases hslot : slot "value" with
      | given doc => rw [hslot] at hitems; exact hlist hitems
      | absent => exact ⟨[], rfl⟩
      | leftOff => exact ⟨[], rfl⟩
    refine ⟨units, Option.bind_eq_some_iff.2 ⟨slot, hslots, ?_⟩⟩
    refine Option.bind_eq_some_iff.2 ⟨units, hunits, ?_⟩
    exact Option.bind_eq_some_iff.2 ⟨continuation, hcontinuation, rfl⟩

theorem Page.linkIn_of_run {item : Json.Decoder α} {body : List UInt8} {p : Page α}
    (h : Json.Decoder.run (Page.decoder item) body = some p) : Page.linkIn body = p.nextLink := by
  obtain ⟨doc, hread, hdecode⟩ := Option.bind_eq_some_iff.1 h
  obtain ⟨units, hunits⟩ := Page.decoder_unit hdecode
  have hrun : Json.Decoder.run (Page.decoder fun _ _ => some ()) body =
      some ⟨units, p.continuation⟩ := Option.bind_eq_some_iff.2 ⟨doc, hread, hunits⟩
  rw [linkIn, hrun]
  rfl

/-- The link to the next page in the reply to a dispatch, if it is a page. -/
def Dispatch.nextLink? (d : Dispatch) : Option String :=
  (d.reply.toOption.bind (·.body)).bind Page.linkIn

/-! ## Listings as they are read -/

/-- How far a listing is. -/
inductive Progress
  /-- No listing has been opened. -/
  | none
  /-- The first request is to be made with these options. -/
  | opened (options : CallOptions)
  /-- This was the last request. -/
  | asked (d : Dispatch)

/-- How far a listing is after some dispatches. -/
def Progress.after (progress : Progress) (ds : List Dispatch) : Progress :=
  ds.foldl (fun _ d => .asked d) progress

theorem Progress.after_append (progress : Progress) (ds ds' : List Dispatch) :
    progress.after (ds ++ ds') = (progress.after ds).after ds' :=
  List.foldl_append

variable {progress : Progress}

namespace Client

/-- Whether a request is one that a listing may make next: the first one with its options, or one that
follows the link of the page that it has got last. -/
def AsksNext (c : Client) : Progress → Request → Prop
  | .none, _ => False
  | .opened o, r => c.Opens o Option.none r
  | .asked d, r => ∃ link, d.nextLink? = some link ∧ c.Continues link r

/-- Whether a listing may make some dispatches, one after the other. -/
def Leads (c : Client) : Progress → List Dispatch → Prop
  | _, [] => True
  | progress, d :: ds => c.AsksNext progress d.request ∧ c.Leads (.asked d) ds

theorem Leads.append (h : c.Leads progress ds) (h' : c.Leads (progress.after ds) ds') :
    c.Leads progress (ds ++ ds') := by
  induction ds generalizing progress with
  | nil => exact h'
  | cons d ds ih => exact ⟨h.1, ih h.2 h'⟩

end Client

/-- Whether a cursor is where a listing is: its request is the first one, or its link that of the last
page. At the end there is none. -/
def Cursor.Asks (c : Client) (progress : Progress) : Cursor → Prop
  | .first request => ∃ o, progress = .opened o ∧ ∀ r, request = .ok r → c.Opens o none r
  | .link text => ∃ d, progress = .asked d ∧ d.nextLink? = some text
  | .done => True

/-- Whether a feed fetches for a client, reads the links of its pages, and what its next request is. -/
structure Feed.Asks (f : Feed α) (c : Client) (progress : Progress) : Prop where
  client : f.client = c
  reads : ∀ body fetched, f.read body = some fetched → Page.linkIn body = fetched.page.nextLink
  cursor : f.cursor.Asks c progress

namespace Feed

variable {f : Feed α} {r : Request}

theorem Asks.advance (h : f.Asks c progress) {d : Dispatch} {p : Page α}
    (hd : d.nextLink? = p.nextLink) : (f.advance p).Asks c (.asked d) := by
  refine ⟨h.client, h.reads, ?_⟩
  unfold Feed.advance
  cases hlink : p.nextLink with
  | none => trivial
  | some link => exact ⟨d, rfl, hd.trans hlink⟩

theorem Asks.finished (h : f.Asks c progress) (progress' : Progress) :
    f.finished.Asks c progress' :=
  ⟨h.client, h.reads, trivial⟩

theorem Asks.asksNext (h : f.Asks c progress) (hr : f.request? = some (.ok r)) :
    c.AsksNext progress r := by
  obtain ⟨hclient, -, hcursor⟩ := h
  unfold request? at hr
  cases hc : f.cursor with
  | first request =>
    rw [hc] at hr hcursor
    obtain ⟨o, rfl, hopens⟩ := hcursor
    exact hopens r (Option.some.inj hr)
  | link text =>
    rw [hc] at hr hcursor
    obtain ⟨d, rfl, hlink⟩ := hcursor
    rw [hclient] at hr
    change some ((c.continuation text).map Request.get) = some (.ok r) at hr
    cases hcontinuation : c.continuation text with
    | error e => rw [hcontinuation] at hr; cases hr
    | ok u =>
      rw [hcontinuation] at hr
      cases hr
      exact ⟨text, hlink, u, hcontinuation, rfl⟩
  | done => rw [hc] at hr; cases hr

theorem sends_inSpans {γ : Type} {act : Act γ} {P : γ → List Dispatch → Prop}
    (h : c.Sends act P) (f : Feed α) : c.Sends (f.inSpans act) P := by
  unfold inSpans
  split
  · exact h
  · exact h.within f.spans

/-- A page is asked for with one request, and its link is that in the reply. -/
theorem Asks.sends_fetch (h : f.Asks c progress) (r : Request) :
    c.Sends (f.fetch r).attempt fun fetched ds => ∃ d, ds = [d] ∧ d.request = r ∧
      ∀ x, fetched = .ok x → d.nextLink? = x.page.nextLink := by
  obtain ⟨rfl, hreads, -⟩ := h
  refine .run_bind (f.client.sends_send r _ _) ?_ ?_
  · rintro e _ ⟨d, rfl, hd, -⟩
    exact ⟨d, rfl, hd, nofun⟩
  · rintro reply _ ⟨d, rfl, hd, hreply⟩
    refine .run_bind (P := fun body ds => ds = [] ∧ ∀ b, body = .ok b → reply.body = some b)
      (f.client.sends_readBody reply fun _ hbody => ⟨rfl, hbody⟩) ?_ ?_
    · rintro e _ ⟨rfl, -⟩
      exact ⟨d, rfl, hd, nofun⟩
    · rintro body _ ⟨rfl, hbody⟩
      have hlink : d.nextLink? = Page.linkIn body := by
        rw [Dispatch.nextLink?, hreply]
        show reply.body.bind Page.linkIn = _
        rw [hbody body rfl]
        rfl
      split
      · exact .of_quiet (fun _ => ⟨rfl, rfl, rfl⟩) fun _ => ⟨d, rfl, hd, nofun⟩
      next fetched hfetched =>
        refine .of_quiet (fun _ => ⟨rfl, rfl, rfl⟩) fun _ => ⟨d, rfl, hd, fun x hx => ?_⟩
        obtain rfl : fetched = x := Except.ok.inj hx
        rw [hlink, hreads body fetched hfetched]

/-- What a feed sends for one page more, and what it asks for after that. -/
theorem Asks.sends_next (h : f.Asks c progress) :
    c.Sends f.next fun r ds => c.Leads progress ds ∧ r.2.Asks c (progress.after ds) := by
  unfold next
  split
  · exact .pure ⟨trivial, h⟩
  · exact .pure ⟨trivial, h.finished _⟩
  next r hr =>
    refine .bind (sends_inSpans (.inSpan (h.sends_fetch r) _) f) ?_
    rintro fetched _ ⟨d, rfl, rfl, hlink⟩
    have hleads : c.Leads progress [d] := ⟨h.asksNext hr, trivial⟩
    split
    · exact .pure ⟨hleads, h.finished _⟩
    next x => exact .pure ⟨hleads, h.advance (hlink x rfl)⟩

theorem Asks.map (h : f.Asks c progress) (g : List α → List β) : (f.map g).Asks c progress := by
  refine ⟨h.client, fun body x hx => ?_, h.cursor⟩
  obtain ⟨fetched, hfetched, rfl⟩ := Option.map_eq_some_iff.1 hx
  exact h.reads body fetched hfetched

end Feed

/-- Whether a source fetches for a client, if it fetches at all. -/
def Source.Asks (c : Client) (progress : Progress) : Source α → Prop
  | .feed f => f.Asks c progress
  | .ready _ => True

namespace Source

variable {s : Source α}

theorem Asks.map (h : s.Asks c progress) (g : List α → List β) : (s.map g).Asks c progress := by
  cases s with
  | feed f => exact Feed.Asks.map h g
  | ready pages => trivial

theorem Asks.sends_next (h : s.Asks c progress) :
    c.Sends s.next fun r ds => c.Leads progress ds ∧ r.2.Asks c (progress.after ds) := by
  cases s with
  | feed f => exact .map (Feed.Asks.sends_next h) fun _ _ h => h
  | ready pages =>
    cases pages with
    | nil => exact .pure ⟨trivial, trivial⟩
    | cons page rest => exact .pure ⟨trivial, trivial⟩

end Source

namespace Listing

variable {l : Listing α}

theorem sends_nextWithin (n : Nat) (h : l.source.Asks c progress) :
    c.Sends (nextWithin n l) fun r ds =>
      c.Leads progress ds ∧ r.2.source.Asks c (progress.after ds) := by
  induction n generalizing l progress with
  | zero =>
    obtain ⟨source, _ | ⟨item, rest⟩⟩ := l
    · exact .pure ⟨trivial, h⟩
    · exact .pure ⟨trivial, h⟩
  | succ n ih =>
    obtain ⟨source, _ | ⟨item, rest⟩⟩ := l
    · refine .bind h.sends_next ?_
      rintro ⟨page, source'⟩ ds ⟨hleads, h'⟩
      dsimp only
      split
      · exact .pure (by rw [List.append_nil]; exact ⟨hleads, h'⟩)
      · exact .pure (by rw [List.append_nil]; exact ⟨hleads, h'⟩)
      · refine (ih h').mono fun r ds' hr => ?_
        rw [Progress.after_append]
        exact ⟨hleads.append hr.1, hr.2⟩
    · exact .pure ⟨trivial, h⟩

/-- What a listing sends for one item more. -/
theorem sends_next (h : l.source.Asks c progress) :
    c.Sends l.next fun r ds =>
      c.Leads progress ds ∧ r.2.source.Asks c (progress.after ds) :=
  fun w => sends_nextWithin _ h w

theorem sends_answers (n : Nat) (h : l.source.Asks c progress) :
    c.Sends (answers n l) fun r ds =>
      c.Leads progress ds ∧ r.2.source.Asks c (progress.after ds) := by
  induction n generalizing l progress with
  | zero => exact .pure ⟨trivial, h⟩
  | succ n ih =>
    refine .bind (sends_next h) fun r ds hr => .map (ih hr.2) fun r' ds' hr' => ?_
    rw [Progress.after_append]
    exact ⟨hr.1.append hr'.1, hr'.2⟩

theorem sends_collectWithin (n : Nat) {source : Source α} (h : source.Asks c progress) :
    c.Sends (collectWithin n source).attempt fun _ => c.Leads progress := by
  induction n generalizing source progress with
  | zero => exact .of_quiet (fun _ => ⟨rfl, rfl, rfl⟩) fun _ => trivial
  | succ n ih =>
    refine .lift_bind h.sends_next ?_
    rintro ⟨page, source'⟩ ds ⟨hleads, h'⟩
    dsimp only
    split
    · exact .of_quiet (fun _ => ⟨rfl, rfl, rfl⟩) fun _ => by rwa [List.append_nil]
    · exact .of_quiet (fun _ => ⟨rfl, rfl, rfl⟩) fun _ => by rwa [List.append_nil]
    · refine .run_bind (ih h') (fun _ _ h => hleads.append h) fun items ds' h => ?_
      refine .of_quiet (fun _ => ⟨rfl, rfl, rfl⟩) fun _ => ?_
      rw [List.append_nil]
      exact hleads.append h

/-- What a listing sends to be drained. -/
theorem sends_collect (h : l.source.Asks c progress) :
    c.Sends l.collect.attempt fun _ => c.Leads progress := by
  have hrun (n : Nat) : c.Sends (do
      return l.buffered ++ (← collectWithin n l.source) : Run (List α)).attempt
        fun _ => c.Leads progress := by
    refine .run_bind (sends_collectWithin n h) (fun _ _ h => h) fun items ds h => ?_
    exact .of_quiet (fun _ => ⟨rfl, rfl, rfl⟩) fun _ => by rwa [List.append_nil]
  exact fun w => hrun (l.source.supply w + 1) w

theorem reads_ofRequest (item : Json.Decoder α) (body : List UInt8) (x : Fetched α)
    (h : ((Json.Decoder.run (Page.decoder item) body).map fun p => ⟨p.items.length, p⟩) = some x) :
    Page.linkIn body = x.page.nextLink := by
  obtain ⟨p, hp, rfl⟩ := Option.map_eq_some_iff.1 h
  exact Page.linkIn_of_run hp

theorem asks_ofRequest {first : Except Failure Request} {options : CallOptions}
    (hfirst : ∀ r, first = .ok r → c.Opens options none r) (item : Json.Decoder α) :
    c.Sends (ofRequest c first options item) fun l ds =>
      ds = [] ∧ l.source.Asks c (.opened options) :=
  .of_quiet (fun _ => ⟨rfl, rfl, rfl⟩) fun _ =>
    ⟨rfl, rfl, reads_ofRequest item, options, rfl, hfirst⟩

end Listing

/-! ## Steps -/

namespace Client

theorem opens_firstRequest {c : Client} {route : Route} {params : List (String × String)}
    {options : CallOptions} {r : Request} (h : c.firstRequest route params options = .ok r) :
    c.Opens options none r := by
  unfold firstRequest at h
  cases haddress : c.address route params options with
  | error e => rw [haddress] at h; cases h
  | ok u =>
    rw [haddress] at h
    cases h
    exact ⟨⟨route, params, haddress⟩, rfl, rfl⟩

theorem sends_listing (c : Client) (options : CallOptions) (origin : ListingOrigin) :
    c.Sends (origin.listing c options) fun l ds => ds = [] ∧ l.source.Asks c (.opened options) := by
  have hlistIn (scope : ListScope) :
      c.Sends (c.listIn scope options) fun l ds => ds = [] ∧ l.source.Asks c (.opened options) := by
    refine .bind (P := fun _ ds => ds = []) (.report rfl) ?_
    rintro _ _ rfl
    exact Listing.asks_ofRequest (fun _ => opens_firstRequest) _
  cases origin with
  | policies scope => exact .map ((hlistIn scope).inSpan _) fun l ds h => ⟨h.1, h.2.map _⟩
  | policiesIn scope => exact .map (hlistIn scope) fun l ds h => ⟨h.1, h.2.map _⟩
  | values route params => exact Listing.asks_ofRequest (fun _ => opens_firstRequest) _
  | pages ready => exact .pure ⟨rfl, trivial⟩

end Client

/-- Whether an open listing fetches for a client. -/
def OpenListing.Asks (c : Client) (progress : Progress) : OpenListing → Prop
  | .items listing => listing.source.Asks c progress
  | .pages source => source.Asks c progress

/-- How far listings are, by their names. -/
abbrev Progress.ByName := String → Progress

/-- Whether all open listings fetch for a client. -/
def OpenListings.Asks (c : Client) (reached : Progress.ByName) (l : OpenListings) : Prop :=
  ∀ p ∈ l, p.2.Asks c (reached p.1)

namespace OpenListings

variable {l : OpenListings} {reached : Progress.ByName} {name : String} {listing : OpenListing}

theorem asks_nil (c : Client) (reached : Progress.ByName) : OpenListings.Asks c reached [] := by
  intro p hp
  cases hp

theorem Asks.erase (h : l.Asks c reached) (name : String) : (l.erase name).Asks c reached :=
  fun p hp => h p (List.mem_filter.1 hp).1

/-- What a name stands for does not matter where there is no listing of that name. -/
theorem Asks.erase_update (h : l.Asks c reached) (name : String) (own : Progress) :
    (l.erase name).Asks c (Function.update reached name own) := by
  intro p hp
  obtain ⟨hp, hname⟩ := List.mem_filter.1 hp
  rw [Function.update_of_ne (by simpa using hname)]
  exact h p hp

theorem Asks.put_update (h : l.Asks c reached) (name : String) {own : Progress}
    (hlisting : listing.Asks c own) :
    (l.put name listing).Asks c (Function.update reached name own) := by
  intro p hp
  rcases List.mem_cons.1 hp with rfl | hp
  · rwa [Function.update_self]
  · exact h.erase_update name own p hp

theorem Asks.put (h : l.Asks c reached) (hlisting : listing.Asks c (reached name)) :
    (l.put name listing).Asks c reached := by
  have hput := h.put_update name hlisting
  rwa [Function.update_eq_self] at hput

theorem Asks.lookup (h : l.Asks c reached) (hlookup : l.lookup name = some listing) :
    listing.Asks c (reached name) := by
  obtain ⟨before, after, hl, -⟩ := List.lookup_eq_some_iff.1 hlookup
  exact h (name, listing) (hl ▸ List.mem_append_right _ List.mem_cons_self)

end OpenListings

namespace Step

/-- Whether a step leaves it to the client what is asked for. Only a request of the caller's own does
not. -/
def isOperation : Step → Bool
  | .send _ _ _ => false
  | _ => true

/-- The options of a step that has any. -/
def options? : Step → Option CallOptions
  | .openListing _ _ o | .get _ o | .write _ _ o | .delete _ o | .initiate _ _ o => some o
  | _ => none

/-- What a step may send, from how far the listings are. -/
def Allows (c : Client) (reached : Progress.ByName) : Step → List Dispatch → Prop
  | .next name, ds | .collect name, ds => c.Leads (reached name) ds
  | .get _ o, ds | .delete _ o, ds => Client.AtMostOne (c.Opens o none) ds
  | .write _ (.ok policy) o, ds => Client.AtMostOne (c.Opens o (some policy.toJson)) ds
  | .initiate _ (.ok order) o, ds => Client.AtMostOne (c.Opens o (some order.toJson)) ds
  | .send request _ _, ds => Client.AtMostOne (· = request) ds
  | _, ds => ds = []

/-- How far the listings are after a step. -/
def afterwards (reached : Progress.ByName) (ds : List Dispatch) : Step → Progress.ByName
  | .openListing name _ options => Function.update reached name (.opened options)
  | .next name | .collect name =>
    Function.update reached name ((reached name).after ds)
  | _ => reached

variable {l : OpenListings} {reached : Progress.ByName} {name : String}

theorem sends_apart (h : l.Asks c reached) (f : α → Result) {run : Run α}
    {P : List Dispatch → Prop} (hrun : c.Sends run.attempt fun _ => P) :
    c.Sends (apart l f run) fun o ds => P ds ∧ o.2.Asks c reached :=
  .map hrun fun _ _ hP => ⟨hP, h⟩

theorem sends_onItems (h : l.Asks c reached) {work : Listing Json.Value → Act Outcome}
    {P : Outcome → List Dispatch → Prop} (hnone : P (.ok .noListing, l) [])
    (hwork : ∀ listing, listing.source.Asks c (reached name) → c.Sends (work listing) P) :
    c.Sends (onItems l name work) P := by
  unfold onItems
  split
  next listing hlookup => exact hwork listing (h.lookup hlookup)
  · exact .pure hnone

/-- A listing that is not there sends nothing, and nothing is still to come of it. -/
theorem leads_nil (h : l.Asks c reached) (name : String) :
    c.Leads (reached name) [] ∧
      l.Asks c (Function.update reached name ((reached name).after [])) := by
  refine ⟨trivial, ?_⟩
  show l.Asks c (Function.update reached name (reached name))
  rwa [Function.update_eq_self]

theorem sends_advance (h : l.Asks c reached) (name : String) :
    c.Sends (advance l name) fun o ds => c.Leads (reached name) ds ∧
      o.2.Asks c (Function.update reached name ((reached name).after ds)) := by
  unfold advance
  split
  next listing hlookup =>
    exact .map (Listing.sends_next (h.lookup hlookup)) fun r ds hr =>
      ⟨hr.1, h.put_update name hr.2⟩
  next source hlookup =>
    exact .map (Source.Asks.sends_next (h.lookup hlookup)) fun r ds hr =>
      ⟨hr.1, h.put_update name hr.2⟩
  · exact .pure (leads_nil h name)

theorem sends_collect (h : l.Asks c reached) (name : String) :
    c.Sends (perform c l (.collect name)) fun o ds => c.Leads (reached name) ds ∧
      o.2.Asks c (Function.update reached name ((reached name).after ds)) :=
  sends_onItems h (leads_nil h name) fun _ hl =>
    .map (Listing.sends_collect hl) fun _ _ hleads => ⟨hleads, h.erase_update name _⟩

theorem sends_request (h : l.Asks c reached) (request : Request) (expected : List Status)
    (k : Classification) :
    c.Sends (perform c l (.send request expected k)) fun o ds =>
      Client.AtMostOne (· = request) ds ∧ o.2.Asks c reached := by
  have hsend : c.Sends (c.send request expected k).attempt fun _ =>
      Client.AtMostOne (· = request) :=
    (c.sends_send request expected k).mono fun _ _ ⟨d, hds, hd, _⟩ => Or.inr ⟨d, hds, hd⟩
  refine sends_apart h _ (.run_bind hsend (fun _ _ hd => hd) ?_)
  intro reply ds hd
  refine .run_bind (P := fun _ ds' => ds' = []) (c.sends_readBody reply fun _ _ => rfl) ?_ ?_
  · rintro e _ rfl
    rwa [List.append_nil]
  · rintro body _ rfl
    exact .of_quiet (fun _ => ⟨rfl, rfl, rfl⟩) fun _ => by simpa using hd

/-- One step: what it sends, and what the listings that it leaves open ask for. -/
theorem sends_perform (h : l.Asks c reached) (step : Step) :
    c.Sends (perform c l step) fun o ds =>
      step.Allows c reached ds ∧ o.2.Asks c (step.afterwards reached ds) := by
  cases step with
  | openListing name origin options =>
    exact .map (c.sends_listing options origin) fun _ _ hl => ⟨hl.1, h.put_update name hl.2⟩
  | next name => exact sends_advance h name
  | describe name => exact sends_onItems h ⟨rfl, h⟩ fun _ _ => .pure ⟨rfl, h⟩
  | collect name => exact sends_collect h name
  | mapPages name f =>
    exact sends_onItems h ⟨rfl, h⟩ fun _ hl => .pure ⟨rfl, h.put (Source.Asks.map hl _)⟩
  | intoPages name => exact sends_onItems h ⟨rfl, h⟩ fun _ hl => .pure ⟨rfl, h.put hl⟩
  | close name => exact .pure ⟨rfl, h.erase name⟩
  | get policy options => exact sends_apart h _ (c.sends_getPolicy policy options)
  | write policy content options =>
    cases content with
    | error e => exact .pure ⟨rfl, h⟩
    | ok content => exact sends_apart h _ (c.sends_writePolicy policy content options)
  | delete policy options => exact sends_apart h _ (c.sends_deletePolicy policy options)
  | initiate policy order options =>
    cases order with
    | error e => exact .pure ⟨rfl, h⟩
    | ok order => exact sends_apart h _ (c.sends_initiateAccess policy order options)
  | send request expected classification => exact sends_request h request expected classification

end Step

/-! ## Sessions -/

/-- Whether the steps of a session may make some dispatches, step by step. -/
inductive Client.Follows (c : Client) : Progress.ByName → List Step → List (List Dispatch) → Prop
  | nil (reached : Progress.ByName) : c.Follows reached [] []
  | cons {reached : Progress.ByName} {step : Step} {steps : List Step} {ds : List Dispatch}
      {sends : List (List Dispatch)} (hstep : step.Allows c reached ds)
      (rest : c.Follows (step.afterwards reached ds) steps sends) :
      c.Follows reached (step :: steps) (ds :: sends)

/-- Whether a request is the first one with some options, of which something is known, or follows a
link. -/
def Client.Makes (c : Client) (p : CallOptions → Prop) (r : Request) : Prop :=
  (∃ o body, p o ∧ c.Opens o body r) ∨ ∃ link, c.Continues link r

theorem Client.AsksNext.makes {r : Request} {p : CallOptions → Prop} (h : c.AsksNext progress r)
    (hopened : ∀ o, progress = .opened o → p o) : c.Makes p r := by
  cases progress with
  | none => exact h.elim
  | opened o => exact Or.inl ⟨o, none, hopened o rfl, h⟩
  | asked d =>
    obtain ⟨link, -, hlink⟩ := h
    exact Or.inr ⟨link, hlink⟩

theorem Client.Leads.makes {p : CallOptions → Prop} (h : c.Leads progress ds)
    (hopened : ∀ o, progress = .opened o → p o) : ∀ d ∈ ds, c.Makes p d.request := by
  induction ds generalizing progress with
  | nil => exact List.forall_mem_nil _
  | cons d ds ih => exact List.forall_mem_cons.2 ⟨h.1.makes hopened, ih h.2 nofun⟩

theorem Client.AtMostOne.makes {p : CallOptions → Prop} {o : CallOptions}
    {body : Option Json.Value} (h : AtMostOne (c.Opens o body) ds) (ho : p o) :
    ∀ d ∈ ds, c.Makes p d.request := by
  rcases h with rfl | ⟨d, rfl, hd⟩
  · simp
  · intro d' hd'
    obtain rfl := List.mem_singleton.1 hd'
    exact Or.inl ⟨o, body, ho, hd⟩

theorem Step.Allows.makes {reached : Progress.ByName} {step : Step} {p : CallOptions → Prop}
    (h : step.Allows c reached ds) (hopened : ∀ name o, reached name = .opened o → p o)
    (hoperation : step.isOperation = true) (hoptions : ∀ o ∈ step.options?, p o) :
    ∀ d ∈ ds, c.Makes p d.request := by
  have hnone (hds : ds = []) : ∀ d ∈ ds, c.Makes p d.request := by simp [hds]
  cases step with
  | next name | collect name => exact Client.Leads.makes h (hopened name)
  | get policy o | delete policy o => exact Client.AtMostOne.makes h (hoptions o rfl)
  | write policy content o =>
    cases content with
    | error e => exact hnone h
    | ok content => exact Client.AtMostOne.makes h (hoptions o rfl)
  | initiate policy order o =>
    cases order with
    | error e => exact hnone h
    | ok order => exact Client.AtMostOne.makes h (hoptions o rfl)
  | send request expected classification => cases hoperation
  | openListing | describe | mapPages | intoPages | close => exact hnone h

theorem Progress.opened_of_after {o : CallOptions} (h : progress.after ds = .opened o) :
    progress = .opened o := by
  induction ds generalizing progress with
  | nil => exact h
  | cons d ds ih => cases ih h

theorem Step.options_of_afterwards {reached : Progress.ByName} {step : Step} {p : CallOptions → Prop}
    (hopened : ∀ name o, reached name = .opened o → p o) (hoptions : ∀ o ∈ step.options?, p o) :
    ∀ name o, step.afterwards reached ds name = .opened o → p o := by
  -- A listing is as far as it was, or further, or it is opened with the options of the step.
  have hupdate (name : String) (own : Progress) (hown : ∀ o, own = .opened o → p o) :
      ∀ name' o, Function.update reached name own name' = .opened o → p o := by
    intro name' o ho
    by_cases heq : name' = name
    · subst heq
      rw [Function.update_self] at ho
      exact hown o ho
    · rw [Function.update_of_ne heq] at ho
      exact hopened name' o ho
  cases step with
  | openListing name origin options =>
    refine hupdate name _ fun o ho => hoptions o ?_
    cases ho
    rfl
  | next name | collect name =>
    exact hupdate name _ fun o ho => hopened name o (Progress.opened_of_after ho)
  | _ => exact hopened

/-- A session of operations makes requests of two kinds only. -/
theorem Client.Follows.makes {reached : Progress.ByName} {steps : List Step}
    {sends : List (List Dispatch)} {p : CallOptions → Prop} (h : c.Follows reached steps sends)
    (hopened : ∀ name o, reached name = .opened o → p o)
    (hsteps : ∀ step ∈ steps, step.isOperation = true ∧ ∀ o ∈ step.options?, p o) :
    ∀ d ∈ sends.flatten, c.Makes p d.request := by
  induction h with
  | nil => simp
  | @cons reached step steps ds sends hstep rest ih =>
    obtain ⟨hoperation, hoptions⟩ := hsteps step List.mem_cons_self
    intro d hd
    rw [List.flatten_cons, List.mem_append] at hd
    rcases hd with hd | hd
    · exact hstep.makes hopened hoperation hoptions d hd
    · exact ih (Step.options_of_afterwards hopened hoptions)
        (fun s hs => hsteps s (List.mem_cons_of_mem _ hs)) d hd

/-- A whole session: what each step sends is what its report says. -/
theorem Client.sends_session {l : OpenListings} {reached : Progress.ByName} (h : l.Asks c reached)
    (steps : List Step) :
    c.Sends (c.session l steps) fun reports ds => ∃ sends, c.Follows reached steps sends ∧
      ds = sends.flatten ∧ reports.map (·.messages) = sends.map messagesOf := by
  induction steps generalizing l reached with
  | nil => exact .pure ⟨[], .nil reached, rfl, rfl⟩
  | cons step rest ih =>
    refine .bind (Step.sends_perform h step).recorded ?_
    rintro ⟨⟨outcome, l'⟩, messages, events⟩ ds ⟨⟨hstep, hl'⟩, hmessages⟩
    refine (ih hl').map ?_
    rintro reports _ ⟨sends, hfollows, rfl, hreports⟩
    refine ⟨ds :: sends, .cons hstep hfollows, rfl, ?_⟩
    rw [List.map_cons, List.map_cons, hreports]
    exact congrArg (· :: _) hmessages

end JitAccess
