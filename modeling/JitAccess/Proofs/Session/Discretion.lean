import JitAccess.Proofs.Listing.Discretion
import JitAccess.Proofs.Session.Isolation

/-!
# Sessions that do not give a token away

Whatever steps a session takes and whatever the service answers, nothing that comes of it depends on the
access token of its client: no outcome, no event and nothing about its messages but the one value that
authorizes each of them.

* `Step.discreet_perform`: a step, on listings that have the token of the client.
* `ClientSettings.session`: a session from the settings of its client on.
* `ClientSettings.session_conceals_token`: two sessions that have different tokens and nothing else.
-/

namespace JitAccess

open Http Trace

variable {token token' : String}

/-! ## Open listings -/

/-- The open listing with an access token of its own, if it asks a service at all. -/
def OpenListing.withToken (listing : OpenListing) (token : String) : OpenListing :=
  match listing with
  | .items l => .items (l.withToken token)
  | .pages s => .pages (s.withToken token)

namespace OpenListings

/-- The open listings with an access token of their own. -/
def withToken (l : OpenListings) (token : String) : OpenListings :=
  l.map fun p => (p.1, p.2.withToken token)

theorem lookup_withToken (l : OpenListings) (token name : String) :
    (l.withToken token).lookup name = (l.lookup name).map (·.withToken token) := by
  induction l with
  | nil => rfl
  | cons entry l ih =>
    obtain ⟨key, listing⟩ := entry
    cases hkey : name == key with
    | true => simp [withToken, List.lookup_cons, hkey]
    | false => simpa [withToken, List.lookup_cons, hkey] using ih

theorem erase_withToken (l : OpenListings) (token name : String) :
    (l.withToken token).erase name = (l.erase name).withToken token := by
  rw [erase, withToken, List.filter_map]
  rfl

theorem put_withToken (l : OpenListings) (token name : String) (listing : OpenListing) :
    (l.withToken token).put name (listing.withToken token) =
      (l.put name listing).withToken token := by
  rw [put, erase_withToken]
  rfl

end OpenListings

/-! ## Steps -/

namespace Step

variable {α : Type} {l : OpenListings} {name : String}

/-- Whether two outcomes are the same, with the same listings but for their tokens. -/
abbrev SameOutcome (token token' : String) : Outcome → Outcome → Prop :=
  SameUpTo OpenListings.withToken token token'

theorem sameOutcome (outcome : Except Failure Result) (l : OpenListings) :
    SameOutcome token token' (outcome, l.withToken token) (outcome, l.withToken token') :=
  ⟨outcome, l, rfl, rfl⟩

theorem sameOutcome_put (outcome : Except Failure Result) (l : OpenListings) (name : String)
    (listing : OpenListing) :
    SameOutcome token token' (outcome, (l.withToken token).put name (listing.withToken token))
      (outcome, (l.withToken token').put name (listing.withToken token')) := by
  rw [OpenListings.put_withToken, OpenListings.put_withToken]
  exact sameOutcome outcome _

theorem sameOutcome_erase (outcome : Except Failure Result) (l : OpenListings) (name : String) :
    SameOutcome token token' (outcome, (l.withToken token).erase name)
      (outcome, (l.withToken token').erase name) := by
  rw [OpenListings.erase_withToken, OpenListings.erase_withToken]
  exact sameOutcome outcome _

theorem discreet_apart {value value' : String} (l : OpenListings) (f : α → Result)
    {run run' : Run α} (h : Discreet value value' run.attempt run'.attempt Eq) :
    Discreet value value' (apart (l.withToken token) f run) (apart (l.withToken token') f run')
      (SameOutcome token token') := by
  refine h.map ?_
  rintro outcome _ rfl
  exact sameOutcome _ l

theorem discreet_onItems {value value' : String} (l : OpenListings) (name : String)
    {work work' : Listing Json.Value → Act Outcome}
    (hwork : ∀ listing : Listing Json.Value, Discreet value value' (work (listing.withToken token))
      (work' (listing.withToken token')) (SameOutcome token token')) :
    Discreet value value' (onItems (l.withToken token) name work)
      (onItems (l.withToken token') name work') (SameOutcome token token') := by
  unfold onItems
  rw [OpenListings.lookup_withToken, OpenListings.lookup_withToken]
  rcases l.lookup name with _ | listing | source
  · exact .pure (sameOutcome _ l)
  · exact hwork listing
  · exact .pure (sameOutcome _ l)

theorem discreet_advance (h : BothAllowed token token') (l : OpenListings) (name : String) :
    Discreet (bearer token) (bearer token') (advance (l.withToken token) name)
      (advance (l.withToken token') name) (SameOutcome token token') := by
  unfold advance
  rw [OpenListings.lookup_withToken, OpenListings.lookup_withToken]
  rcases l.lookup name with _ | listing | source
  · exact .pure (sameOutcome _ l)
  · refine (Listing.discreet_next h listing).map ?_
    rintro _ _ ⟨item, listing', rfl, rfl⟩
    exact sameOutcome_put _ l name (.items listing')
  · refine (Source.discreet_next h source).map ?_
    rintro _ _ ⟨page, source', rfl, rfl⟩
    exact sameOutcome_put _ l name (.pages source')

theorem discreet_request (h : BothAllowed token token') (c : Client) (l : OpenListings)
    (request : Request) (expected : List Status) (k : Classification) :
    Discreet (bearer token) (bearer token')
      (perform (c.withToken token) (l.withToken token) (.send request expected k))
      (perform (c.withToken token') (l.withToken token') (.send request expected k))
      (SameOutcome token token') := by
  apply discreet_apart l
  refine .run_bind (Client.discreet_send h request expected k) fun reply => ?_
  exact .run_bind (Client.discreet_readBody _ _ reply) fun _ => .pure rfl

/-- A step comes to the same with either token. -/
theorem discreet_perform (h : BothAllowed token token') (c : Client) (l : OpenListings)
    (step : Step) :
    Discreet (bearer token) (bearer token') (step.perform (c.withToken token) (l.withToken token))
      (step.perform (c.withToken token') (l.withToken token')) (SameOutcome token token') := by
  cases step with
  | openListing name origin options =>
    refine (origin.discreet_listing c options).map ?_
    rintro _ _ ⟨listing, rfl, rfl⟩
    exact sameOutcome_put _ l name (.items listing)
  | next name => exact discreet_advance h l name
  | describe name => exact discreet_onItems l name fun _ => .pure (sameOutcome _ l)
  | collect name =>
    refine discreet_onItems l name fun listing => (Listing.discreet_collect h listing).map ?_
    rintro items _ rfl
    exact sameOutcome_erase _ l name
  | mapPages name f =>
    refine discreet_onItems l name fun listing => .pure ?_
    rw [Listing.mapPages_withToken, Listing.mapPages_withToken]
    exact sameOutcome_put _ l name (.items (listing.mapPages f))
  | intoPages name =>
    exact discreet_onItems l name fun listing => .pure (sameOutcome_put _ l name (.pages listing.source))
  | close name => exact .pure (sameOutcome_erase _ l name)
  | get policy options => exact discreet_apart l _ (Client.discreet_getPolicy h policy options)
  | write policy content options =>
    cases content with
    | error e => exact .pure (sameOutcome _ l)
    | ok content => exact discreet_apart l _ (Client.discreet_writePolicy h policy content options)
  | delete policy options => exact discreet_apart l _ (Client.discreet_deletePolicy h policy options)
  | initiate policy order options =>
    cases order with
    | error e => exact .pure (sameOutcome _ l)
    | ok order => exact discreet_apart l _ (Client.discreet_initiateAccess h policy order options)
  | send request expected classification => exact discreet_request h c l request expected _

end Step

/-! ## Sessions -/

/-- Whether two reports tell the same, but for what authorized the messages. -/
structure StepReport.Reauthorized (value value' : String) (r r' : StepReport) : Prop where
  outcome : r'.outcome = r.outcome
  messages : r.messages.Forall₂ (Message.Reauthorized value value') r'.messages
  events : r'.events = r.events

/-- The steps of a session are reported alike with either token. -/
theorem Client.discreet_session (h : BothAllowed token token') (c : Client) (l : OpenListings)
    (steps : List Step) :
    Discreet (bearer token) (bearer token') ((c.withToken token).session (l.withToken token) steps)
      ((c.withToken token').session (l.withToken token') steps)
      (List.Forall₂ (StepReport.Reauthorized (bearer token) (bearer token'))) := by
  induction steps generalizing l with
  | nil => exact .pure .nil
  | cons step steps ih =>
    refine (step.discreet_perform h c l).recorded.bind ?_
    rintro ⟨_, messages, events⟩ ⟨_, messages', _⟩ ⟨⟨outcome, l', rfl, rfl⟩, hmessages, rfl⟩
    exact (ih l').map fun _ _ hrest => .cons ⟨rfl, hmessages, rfl⟩ hrest

/-- A session from the settings of its client on. -/
def ClientSettings.session (s : ClientSettings) (env : Environment) (steps : List Step) :
    Act (Except Failure (List StepReport)) :=
  match s.build env with
  | .error e => return .error e
  | .ok c => do return .ok (← c.session [] steps)

/-- The credential that the client of some settings has. -/
def ClientSettings.credentialIn (s : ClientSettings) (env : Environment) : Credential :=
  s.credential.getD (.ofEnvironment env.token)

/-- Two clients to be, one with each token, whose settings are otherwise the same. -/
structure ClientSettings.DifferInToken (token token' : String) (s : ClientSettings)
    (env : Environment) (s' : ClientSettings) (env' : Environment) : Prop where
  endpoint : s'.endpointText env' = s.endpointText env
  mapping : s'.mapping = s.mapping
  subscription : s'.subscription.or env'.subscription = s.subscription.or env.subscription
  apiVersion : s'.apiVersion = s.apiVersion
  retry : s'.retry = s.retry
  credential : s.credentialIn env = .accessToken token
  credential' : s'.credentialIn env' = .accessToken token'

/-- What may come of a session that has one token where another has the other. -/
inductive SessionsAlike (value value' : String) :
    Except Failure (List StepReport) → Except Failure (List StepReport) → Prop
  | failed (e : Failure) : SessionsAlike value value' (.error e) (.error e)
  | taken {reports reports' : List StepReport}
      (h : reports.Forall₂ (StepReport.Reauthorized value value') reports') :
      SessionsAlike value value' (.ok reports) (.ok reports')

namespace ClientSettings.DifferInToken

variable {s s' : ClientSettings} {env env' : Environment}

/-- There is a client for both or for neither, and the two differ in the token. -/
theorem build_cases (h : DifferInToken token token' s env s' env') :
    (∃ e, s.build env = .error e ∧ s'.build env' = .error e) ∨
      ∃ c : Client, s.build env = .ok (c.withToken token) ∧
        s'.build env' = .ok (c.withToken token') := by
  have hcredential : s.credential.getD (.ofEnvironment env.token) = .accessToken token :=
    h.credential
  have hcredential' : s'.credential.getD (.ofEnvironment env'.token) = .accessToken token' :=
    h.credential'
  unfold build
  rw [h.endpoint, h.mapping, h.subscription, h.apiVersion, h.retry, hcredential, hcredential']
  cases Url.parse (s.endpointText env) s.mapping with
  | error e => exact .inl ⟨_, rfl, rfl⟩
  | ok endpoint =>
    by_cases hbase : endpoint.isBase = true
    · cases s.subscription.or env.subscription with
      | none =>
        refine .inl ⟨.missingSubscription, ?_, ?_⟩
        · simp only [dif_pos hbase]
        · simp only [dif_pos hbase]
      | some subscription =>
        by_cases hblank : Text.isBlank subscription = false
        · refine .inr ⟨⟨endpoint, s.mapping, subscription, .accessToken token,
            s.apiVersion.getD defaultApiVersion, s.retry.getD .standard, hbase, hblank⟩, ?_, ?_⟩
          · simp only [dif_pos hbase, dif_pos hblank]
            rfl
          · simp only [dif_pos hbase, dif_pos hblank]
            rfl
        · refine .inl ⟨.missingSubscription, ?_, ?_⟩
          · simp only [dif_pos hbase, dif_neg hblank]
          · simp only [dif_pos hbase, dif_neg hblank]
    · refine .inl ⟨.address .rootlessEndpoint, ?_, ?_⟩
      · simp only [dif_neg hbase]
      · simp only [dif_neg hbase]

end ClientSettings.DifferInToken

namespace ClientSettings

/-- **A token influences nothing but the value that it authorizes messages by.** Two sessions whose
clients have different access tokens, both allowed by HTTP, take the same steps in the same world. They
come to the same reports, event by event and failure by failure, with messages that differ in the one
value alone, and leave the same world behind; nor does the text of a credential tell them apart. -/
theorem session_conceals_token (h : BothAllowed token token') {s s' : ClientSettings}
    {env env' : Environment} (hs : DifferInToken token token' s env s' env') (steps : List Step)
    (w : World) (hw : w.messages = []) :
    SessionsAlike (bearer token) (bearer token') (s.session env steps w).1
        (s'.session env' steps w).1 ∧
      World.Reauthorized (bearer token) (bearer token') (s.session env steps w).2
        (s'.session env' steps w).2 ∧
      (s'.credentialIn env').debugText = (s.credentialIn env).debugText := by
  have hsession : Discreet (bearer token) (bearer token') (s.session env steps)
      (s'.session env' steps) (SessionsAlike (bearer token) (bearer token')) := by
    unfold session
    rcases hs.build_cases with ⟨e, he, he'⟩ | ⟨c, hc, hc'⟩
    · rw [he, he']
      exact .pure (.failed e)
    · rw [hc, hc']
      exact (c.discreet_session h [] steps).map fun _ _ => .taken
  obtain ⟨hreports, hworld⟩ := hsession w w (.refl _ _ hw)
  refine ⟨hreports, hworld, ?_⟩
  rw [hs.credential, hs.credential']
  rfl

/-- The settings of a client that has its access token from them. -/
def holding (token : String) : ClientSettings where
  subscription := some "sub-123"
  credential := some (.accessToken token)
  retry := some ⟨1, .ofMillis 0⟩

/-- The settings of a client that has its access token from the environment. -/
def finding : ClientSettings where
  subscription := some "sub-123"
  retry := some ⟨1, .ofMillis 0⟩

/-- A policy that is read, and a listing. -/
def readingSteps : List Step :=
  [.get ⟨"rg1", "westeurope", "default"⟩ {}, .openListing "all" (.policies .subscription) {},
    .next "all"]

/-- A service that fails once, has no policy and then lists one page. -/
def failingOnce : World where
  service := .scripted
    [.reply ⟨503, [], some []⟩, .reply ⟨404, [], some []⟩,
      .reply ⟨200, [], some (Text.Utf8.encode "\x7b\"value\":[]\x7d".toList)⟩]

theorem session_conceals_found_token :
    BothAllowed "first" "second" ∧
    DifferInToken "first" "second" (holding "first") {} finding { token := some "second" } ∧
    ((holding "first").session {} readingSteps failingOnce).1.toOption.map
      (·.map (·.messages.length)) = some [2, 0, 1] ∧
    SessionsAlike (bearer "first") (bearer "second")
      ((holding "first").session {} readingSteps failingOnce).1
      (finding.session { token := some "second" } readingSteps failingOnce).1 := by
  have hallowed : BothAllowed "first" "second" := ⟨by decide +kernel, by decide +kernel⟩
  have hdiffer : DifferInToken "first" "second" (holding "first") {} finding
      { token := some "second" } :=
    ⟨rfl, rfl, rfl, rfl, rfl, rfl, by decide +kernel⟩
  refine ⟨hallowed, hdiffer, by decide +kernel, ?_⟩
  exact (session_conceals_token hallowed hdiffer readingSteps failingOnce rfl).1

end ClientSettings

end JitAccess
