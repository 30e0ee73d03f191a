import JitAccess.Proofs.Client.Confinement
import JitAccess.Proofs.Listing.Reading
import JitAccess.Proofs.Session.Dispatch

/-!
# Sessions keep to the endpoint

A listing asks for its first page with a URL that the client makes, and for any other page with a link
that the client follows. Both kinds of URLs are admitted, so all that an operation sends goes to the
endpoint.

* `Client.confines_session`: the messages of a whole session.
* `Client.listings_confined`: these, and where a listing breaks off.
-/

namespace JitAccess

open Http Trace Url

variable {c : Client}

namespace Client

theorem Makes.admits {p : CallOptions → Prop} {r : Request} (h : c.Makes p r) :
    c.Admits r.url := by
  rcases h with ⟨o, body, -, h⟩ | ⟨link, h⟩
  · exact h.admits
  · exact h.admits

/-- Reading a listing for a while and then draining it is confined. -/
theorem confines_reading {α : Type} (c : Client) (route : Route)
    (params : List (String × String)) (options : CallOptions) (item : Json.Decoder α) (n : Nat) :
    c.Confines (do
      let first ← Listing.ofRequest c (c.firstRequest route params options) options item
      let (_, l) ← first.answers n
      l.collect.attempt) fun _ => True := by
  have hsends : c.Sends (do
      let first ← Listing.ofRequest c (c.firstRequest route params options) options item
      let (_, l) ← first.answers n
      l.collect.attempt) fun _ => c.Leads (.opened options) := by
    refine .bind (Listing.asks_ofRequest (fun _ => opens_firstRequest) item) ?_
    rintro first _ ⟨rfl, hfirst⟩
    refine .bind (Listing.sends_answers n hfirst) fun r ds hr => ?_
    exact (Listing.sends_collect hr.2).mono fun _ _ h => hr.1.append h
  refine hsends.confines fun _ ds hleads => ⟨trivial, fun d hd => ?_⟩
  have hmakes : c.Makes (fun _ => True) d.request := hleads.makes (fun _ _ => trivial) d hd
  exact hmakes.admits

/-- What a session of operations sends goes to the endpoint's server, and so its reports say. -/
theorem confines_session (c : Client) {steps : List Step}
    (hsteps : ∀ step ∈ steps, step.isOperation = true) :
    c.Confines (c.session [] steps) fun reports =>
      ∀ report ∈ reports, ∀ m ∈ report.messages, m.GoesTo c.endpoint := by
  have hsends := c.sends_session (OpenListings.asks_nil c fun _ => .none) steps
  refine hsends.confines ?_
  rintro reports _ ⟨sends, hfollows, rfl, hmessages⟩
  have hadmits : ∀ d ∈ sends.flatten, c.Admits d.request.url := by
    intro d hd
    have hmakes : c.Makes (fun _ => True) d.request :=
      hfollows.makes (fun _ _ _ => trivial)
        (fun step hstep => ⟨hsteps step hstep, fun _ _ => trivial⟩) d hd
    exact hmakes.admits
  refine ⟨fun report hreport m hm => ?_, hadmits⟩
  have hmem : report.messages ∈ sends.map messagesOf :=
    hmessages ▸ List.mem_map.2 ⟨report, hreport, rfl⟩
  obtain ⟨ds, hds, hsaid⟩ := List.mem_map.1 hmem
  rw [← hsaid] at hm
  obtain ⟨d, hd, hm⟩ := List.mem_flatMap.1 hm
  exact goesTo_of_mem_messages (hadmits d (List.mem_flatten.2 ⟨ds, hds, hd⟩)) hm

/-- **Tokens go nowhere but to the endpoint.** Whatever a service answers, and however listings are
opened, read and drained, all messages go to the endpoint's server. A page with a link that leads
elsewhere, or that is no URL, gives its items and then this one failure; after the call that fetches
the page nothing is sent any more. -/
theorem listings_confined (c : Client) :
    (∀ steps w, (∀ step ∈ steps, step.isOperation = true) →
      ∀ report ∈ (c.session [] steps w).1, ∀ m ∈ report.messages, m.GoesTo c.endpoint) ∧
    (∀ (α : Type) (route : Route) (params : List (String × String)) (options : CallOptions)
      (item : Json.Decoder α) (n : Nat),
      c.Confines (do
        let first ← Listing.ofRequest c (c.firstRequest route params options) options item
        let (_, l) ← first.answers n
        l.collect.attempt) fun _ => True) ∧
    ∀ (α : Type) (f : Feed α) (buffered : List α) (request : Except Failure Request) (w w' : World)
      (pages : List (Page α)) (ending : Option Failure) (p : Page α) (link : String)
      (fault : AddressFault),
      f.client = c → f.request? = some request → f.Course request w pages ending w' →
      p ∈ pages → p.nextLink = some link → c.LeadsAway link fault →
      ∃ before, pages = before ++ [p] ∧
        Listing.BreaksOff ⟨.feed f, buffered⟩ w before p (.address fault) w' := by
  refine ⟨?_, ?_, ?_⟩
  · intro steps w hsteps
    exact (c.confines_session hsteps w).1
  · intro α route params options item n
    exact c.confines_reading route params options item n
  · intro α f buffered request w w' pages ending p link fault hclient hrequest course hp hlink haway
    subst hclient
    obtain ⟨-, before, rfl⟩ := course.of_leadsAway hp hlink haway
    exact ⟨before, rfl, Listing.breaksOff_of_leadsAway course hrequest hlink haway buffered⟩

/-- A service that has one page, with a link to another server. -/
def strayWorld : World where
  service := .scripted [.reply ⟨200, [], some (Text.Utf8.encode
    "\x7b\"value\":[\"vm\"],\"nextLink\":\"//evil.example.com/next\"\x7d".toList)⟩]

/-- Steps that read one of the values in a subscription and then drain the listing. -/
def strayReading : List Step :=
  [.openListing "values" (.values .subscriptionPolicies [("subscriptionId", "sub-123")]) {},
    .next "values", .collect "values"]

/-- The texts behind a URL of the public cloud. -/
def publicTexts : Feed String :=
  .start publicCloud (.ok (.get (publicNext "page=1" none))) {} Json.Decoder.string []

/-- Why the page's link is not followed. -/
def strayFault : AddressFault :=
  .foreignLink (.server "https" (.name "evil.example.com") 443)
    (.server "https" (.name "management.azure.com") 443)

theorem leadsAway_stray : publicCloud.LeadsAway "//evil.example.com/next" strayFault := by
  have hlink : publicCloud.resolve "//evil.example.com/next" = .ok
      { publicCloud.endpoint with
        path := .segments ["next"]
        authority := some { username := "", password := "", port := none
                            host := some (.name "evil.example.com") } } :=
    eq_ok_of_toOption (by decide +kernel)
  exact .foreign hlink (by decide)

theorem exists_course_stray :
    ∃ p w', p.items = ["vm"] ∧ p.nextLink = some "//evil.example.com/next" ∧
      publicTexts.Course (.ok (.get (publicNext "page=1" none))) strayWorld [p]
        (some (.address strayFault)) w' := by
  have hfetched : ((publicTexts.getPage (.get (publicNext "page=1" none)) strayWorld).1.toOption.map
      fun p => (p.items, p.nextLink)) = some (["vm"], some "//evil.example.com/next") := by
    decide +kernel
  rcases hpage : publicTexts.getPage (.get (publicNext "page=1" none)) strayWorld with ⟨_ | p, w'⟩
  · rw [hpage] at hfetched
    cases hfetched
  · rw [hpage] at hfetched
    obtain ⟨hitems, hnext⟩ := Prod.ext_iff.1 (Option.some.inj hfetched)
    refine ⟨p, w', hitems, hnext, .more hpage hnext ?_⟩
    have hrefused : publicTexts.client.continuation "//evil.example.com/next" =
        .error (.address strayFault) := continuation_of_leadsAway leadsAway_stray
    rw [hrefused]
    exact .refused _ _ _

theorem listings_confined_with_stray_link :
    (((publicCloud.session [] strayReading strayWorld).1.map fun r => r.messages.map (·.url)) =
        [[], ["https://management.azure.com/subscriptions/sub-123/providers/Microsoft.Security/" ++
          "jitNetworkAccessPolicies?api-version=2020-01-01"], []] ∧
      ∀ report ∈ (publicCloud.session [] strayReading strayWorld).1,
        ∀ m ∈ report.messages, m.GoesTo publicCloud.endpoint) ∧
    ∃ p w', p.items = ["vm"] ∧ p.nextLink = some "//evil.example.com/next" ∧
      Listing.BreaksOff ⟨.feed publicTexts, []⟩ strayWorld [] p (.address strayFault) w' := by
  refine ⟨⟨by decide +kernel, ?_⟩, ?_⟩
  · exact (listings_confined publicCloud).1 strayReading strayWorld (by decide)
  · obtain ⟨p, w', hitems, hnext, course⟩ := exists_course_stray
    obtain ⟨before, hbefore, hbreaks⟩ := (listings_confined publicCloud).2.2 String publicTexts []
      _ _ _ _ _ p _ _ rfl rfl course (List.mem_singleton_self p) hnext leadsAway_stray
    obtain rfl : before = [] := by simpa using hbefore
    exact ⟨p, w', hitems, hnext, hbreaks⟩

end Client

end JitAccess
