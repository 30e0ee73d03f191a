import JitAccess.Proofs.Listing.Reading

/-!
# Bodies that cannot be decoded

Every operation that reads the body of a reply may find that it means nothing. An operation on one
policy fails as a request does then, a listing as a text does, and neither fails in either way for
anything else.

* `Client.send_outcome_congr`: what a request comes to depends on the service and the tokens alone.
* `Client.decodesWith_operation`: how an operation fails for the body of its reply.
* `Feed.Course.ending_of_undecodable`: how a listing does, whichever page it is.
* `Client.decoding_failures`: all of them.
-/

namespace JitAccess

open Http Trace

variable {α : Type}

/-! ## Replies -/

/-- Whether a failure is that of a body which cannot be decoded. -/
def Failure.IsDecoding (e : Failure) : Prop := e = .serialization ∨ e = .request .undecodable

/-- Whether a reply has a body that means nothing to a decoder. -/
def Http.Reply.Undecodable (d : Json.Decoder α) (reply : Reply) : Prop :=
  ∃ body, reply.body = some body ∧ Json.Decoder.run d body = none

/-- Whether an outcome of something that decodes the reply to a request is a certain failure exactly
if the reply's body cannot be decoded. The failure is then the only one of its sort. -/
structure DecodesWith (fault : Failure) (d : Json.Decoder α) (sent : Except Failure Reply)
    {β : Type} (outcome : Except Failure β) : Prop where
  iff : outcome = .error fault ↔ ∃ reply, sent = .ok reply ∧ reply.Undecodable d
  only : ∀ e, outcome = .error e → e.IsDecoding → e = fault

/-- What the body of a reply means, with one failure for the bodies that mean nothing. -/
def Http.Reply.decoded (fault : Failure) (d : Json.Decoder α) (reply : Reply) : Except Failure α :=
  match reply.body with
  | none => .error (.request .broken)
  | some body => (Json.Decoder.run d body).elim (.error fault) .ok

theorem Http.Reply.decoded_eq_error_iff {fault e : Failure} {d : Json.Decoder α} {reply : Reply} :
    reply.decoded fault d = .error e ↔
      (reply.body = none ∧ e = .request .broken) ∨ (reply.Undecodable d ∧ e = fault) := by
  unfold decoded Undecodable
  cases hbody : reply.body with
  | none => simp [eq_comm]
  | some body => cases hrun : Json.Decoder.run d body <;> simp [hrun, eq_comm]

theorem bind_eq_error_iff {β : Type} {sent : Except Failure α} {f : α → Except Failure β}
    {e : Failure} :
    sent.bind f = .error e ↔ sent = .error e ∨ ∃ a, sent = .ok a ∧ f a = .error e := by
  cases sent <;> simp [Except.bind]

theorem decodesWith_decoded {fault : Failure} (hfault : fault.IsDecoding) (d : Json.Decoder α)
    {sent : Except Failure Reply} (hsent : ∀ e, sent = .error e → ¬ e.IsDecoding) :
    DecodesWith fault d sent (sent.bind (·.decoded fault d)) := by
  have hbroken : ¬ (Failure.request .broken).IsDecoding := by simp [Failure.IsDecoding]
  constructor
  · rw [bind_eq_error_iff]
    constructor
    · rintro (he | ⟨reply, hreply, hdecoded⟩)
      · exact absurd hfault (hsent fault he)
      rcases Reply.decoded_eq_error_iff.1 hdecoded with ⟨-, rfl⟩ | ⟨hundecodable, -⟩
      · exact absurd hfault hbroken
      · exact ⟨reply, hreply, hundecodable⟩
    · rintro ⟨reply, hreply, hundecodable⟩
      exact Or.inr ⟨reply, hreply, Reply.decoded_eq_error_iff.2 (Or.inr ⟨hundecodable, rfl⟩)⟩
  · intro e he hdecoding
    rcases bind_eq_error_iff.1 he with he | ⟨reply, -, hdecoded⟩
    · exact absurd hdecoding (hsent e he)
    rcases Reply.decoded_eq_error_iff.1 hdecoded with ⟨-, rfl⟩ | ⟨-, rfl⟩
    · exact absurd hdecoding hbroken
    · rfl

/-! ## Requests -/

namespace Client

variable {c : Client} {r : Request} {expected : List Status} {k : Classification} {w w' : World}

/-- What a request comes to depends on the service and the tokens alone. -/
theorem send_outcome_congr (c : Client) (r : Request) (expected : List Status) (k : Classification)
    (hservice : w.service = w'.service) (htokens : w.tokens = w'.tokens) :
    ((c.send r expected k).attempt w).1 = ((c.send r expected k).attempt w').1 := by
  obtain ⟨outcome, ⟨h, h'⟩ | ⟨m, n, h, h'⟩⟩ :=
    c.send_attempt_congr r expected k hservice htokens
  · rw [h, h']
  · rw [h, h']

theorem not_isDecoding_of_settle {outcome : Except Failure Reply} {e : Failure}
    (houtcome : ∀ e, outcome = .error e → ¬ e.IsDecoding)
    (h : settle expected k outcome = .error e) : ¬ e.IsDecoding := by
  unfold settle at h
  split at h
  · cases h
    exact houtcome _ rfl
  · split at h
    · cases h
    · cases h
      simp [Failure.IsDecoding]

theorem not_isDecoding_of_outcome {answer : Answer} {method : String} {e : Failure}
    (h : answer.outcome method = .error e) : ¬ e.IsDecoding := by
  rcases Answer.eq_of_outcome_error h with rfl | rfl <;> simp [Failure.IsDecoding]

/-- A request does not fail for a body that cannot be decoded. -/
theorem not_isDecoding_of_send {e : Failure}
    (h : ((c.send r expected k).attempt w).1 = .error e) : ¬ e.IsDecoding := by
  rcases c.outcome_send_cases r expected k w with ⟨reason, hsend⟩ | hsend | ⟨last, hlast⟩
  · rw [hsend] at h
    cases h
    simp [Failure.IsDecoding]
  · rw [hsend] at h
    cases h
    simp [Failure.IsDecoding]
  · rw [hlast.outcome_send] at h
    obtain ⟨_, _, _, _, _, _, rfl⟩ := hlast
    exact not_isDecoding_of_settle (fun _ => not_isDecoding_of_outcome) h

/-- Like `call`, but only what comes of it. -/
theorem call_attempt (c : Client) (method : String) (route : Route)
    (params : List (String × String)) (body : Option Json.Value) (options : CallOptions)
    (expected : List Status) (w : World) :
    (c.call method route params body options expected).attempt w =
      match c.address route params options with
      | .error e => (.error e, w)
      | .ok url =>
        (c.send ⟨method, url, options.fields, body⟩ expected options.classification).attempt w := by
  rw [call, Run.attempt_bind, Run.attempt_ofAct]
  dsimp only [Act.pure_apply]
  cases c.address route params options <;> rfl

theorem not_isDecoding_of_address {route : Route} {params : List (String × String)}
    {options : CallOptions} {e : Failure} (h : c.address route params options = .error e) :
    ¬ e.IsDecoding := by
  unfold address at h
  split at h
  · cases h
    simp [Failure.IsDecoding]
  · cases h

theorem call_outcome_congr (c : Client) (method : String) (route : Route)
    (params : List (String × String)) (body : Option Json.Value) (options : CallOptions)
    (expected : List Status) (hservice : w.service = w'.service) (htokens : w.tokens = w'.tokens) :
    ((c.call method route params body options expected).attempt w).1 =
      ((c.call method route params body options expected).attempt w').1 := by
  rw [call_attempt, call_attempt]
  cases c.address route params options with
  | error e => rfl
  | ok url => exact c.send_outcome_congr _ _ _ hservice htokens

theorem not_isDecoding_of_call {method : String} {route : Route}
    {params : List (String × String)} {body : Option Json.Value} {options : CallOptions}
    {e : Failure}
    (h : ((c.call method route params body options expected).attempt w).1 = .error e) :
    ¬ e.IsDecoding := by
  rw [call_attempt] at h
  cases haddress : c.address route params options with
  | error e' =>
    rw [haddress] at h
    cases h
    exact not_isDecoding_of_address haddress
  | ok url =>
    rw [haddress] at h
    exact not_isDecoding_of_send h

/-! ## Single operations -/

theorem decodeBody_attempt (d : Json.Decoder α) (reply : Reply) (w : World) :
    (reply.decodeBody d).attempt w = (reply.decoded (.request .undecodable) d, w) := by
  unfold Reply.decodeBody Reply.decoded Reply.readBody
  cases hbody : reply.body with
  | none => rfl
  | some body =>
    rw [Run.attempt_bind, Run.attempt_pure]
    dsimp only
    cases Json.Decoder.run d body <;> rfl

theorem outcome_report_decoded {d : Json.Decoder α} {level : Level} {words : String}
    {fields : α → Trace.Fields} (reply : Reply) (w : World) :
    ((do
      let a ← reply.decodeBody d
      report level words (fields a)
      return a : Run α).attempt w).1 = reply.decoded (.request .undecodable) d := by
  rw [Run.attempt_bind, decodeBody_attempt]
  cases reply.decoded (.request .undecodable) d <;> rfl

/-- The world in which an operation makes its call. -/
def openedWorld (span : Span) (level : Level) (words : String) (fields : Fields) (w : World) :
    World :=
  (report level words fields { w with spans := w.spans ++ [span] }).2

theorem attempt_operation (span : Span) (level : Level) (words : String) (fields : Fields)
    (ask : Run Reply) (f : Reply → Run α) (w : World) :
    (Run.inSpan span (do
      report level words fields
      let reply ← ask
      f reply)).attempt w =
      (((ask >>= f).attempt (openedWorld span level words fields w)).1,
        { ((ask >>= f).attempt (openedWorld span level words fields w)).2 with
          spans := w.spans }) := rfl

/-- An operation that reports something, sends a request and decodes the body of the reply fails as
the decoding does. -/
theorem decodesWith_operation {d : Json.Decoder α} {span : Span} {level : Level} {words : String}
    {fields : Trace.Fields} {ask : Run Reply} {f : Reply → Run α}
    (hcongr : ∀ w w' : World, w.service = w'.service → w.tokens = w'.tokens →
      (ask.attempt w).1 = (ask.attempt w').1)
    (hask : ∀ w e, (ask.attempt w).1 = .error e → ¬ e.IsDecoding)
    (hf : ∀ reply w, ((f reply).attempt w).1 = reply.decoded (.request .undecodable) d)
    (w : World) :
    DecodesWith (.request .undecodable) d (ask.attempt w).1
      ((Run.inSpan span (do
        report level words fields
        let reply ← ask
        f reply)).attempt w).1 := by
  have hoperation (w₁ : World) : ((ask >>= f).attempt w₁).1 =
      (ask.attempt w₁).1.bind (·.decoded (.request .undecodable) d) := by
    rw [Run.attempt_bind]
    rcases ask.attempt w₁ with ⟨e | reply, w'⟩
    · rfl
    · exact hf reply w'
  have houtcome := hcongr w (openedWorld span level words fields w) rfl rfl
  rw [attempt_operation, hoperation, ← houtcome]
  exact decodesWith_decoded (Or.inr rfl) d (hask w)

theorem decodesWith_getPolicy (c : Client) (n : PolicyName) (options : CallOptions) (w : World) :
    DecodesWith (.request .undecodable) Policy.decoder
      ((c.call "GET" .policy (n.params c.subscription) none options [200]).attempt w).1
      ((c.getPolicy n options).attempt w).1 :=
  decodesWith_operation (fun _ _ => c.call_outcome_congr _ _ _ _ _ _)
    (fun _ _ => not_isDecoding_of_call) (fun _ _ => by rw [decodeBody_attempt]) w

theorem decodesWith_writePolicy (c : Client) (n : PolicyName) (policy : Policy)
    (options : CallOptions) (w : World) :
    DecodesWith (.request .undecodable) Policy.decoder
      ((c.call "PUT" .policy (n.params c.subscription) (some policy.toJson) options [200]).attempt
        w).1
      ((c.writePolicy n policy options).attempt w).1 :=
  decodesWith_operation (fun _ _ => c.call_outcome_congr _ _ _ _ _ _)
    (fun _ _ => not_isDecoding_of_call) outcome_report_decoded w

theorem decodesWith_initiateAccess (c : Client) (n : PolicyName) (order : AccessOrder)
    (options : CallOptions) (w : World) :
    DecodesWith (.request .undecodable) AccessRequest.decoder
      ((c.call "POST" .policyAction (n.params c.subscription ++
        [("jitNetworkAccessPolicyInitiateType", "initiate")]) (some order.toJson) options
          [202]).attempt w).1
      ((c.initiateAccess n order options).attempt w).1 :=
  decodesWith_operation (fun _ _ => c.call_outcome_congr _ _ _ _ _ _)
    (fun _ _ => not_isDecoding_of_call) outcome_report_decoded w

end Client

/-! ## Listings -/

namespace Feed

variable {f : Feed α} {d : Json.Decoder (Page α)} {request : Except Failure Request}
  {w w' : World} {pages : List (Page α)} {ending : Option Failure}

/-- Whether a feed reads the pages that a decoder takes from bodies. -/
def Decodes (f : Feed α) (d : Json.Decoder (Page α)) : Prop :=
  ∀ body, (f.read body).map (·.page) = Json.Decoder.run d body

theorem decodes_start (client : Client) (first : Except Failure Request) (options : CallOptions)
    (item : Json.Decoder α) (spans : List Span) :
    (start client first options item spans).Decodes (Page.decoder item) := by
  intro body
  show Option.map _ (Option.map _ _) = _
  rw [Option.map_map]
  exact Option.map_id'

theorem pageOf_map_page (hread : f.Decodes d) (sent : Except Failure Reply) :
    (pageOf f.read sent).map (·.page) = sent.bind (·.decoded .serialization d) := by
  cases sent with
  | error e => rfl
  | ok reply =>
    show _ = reply.decoded .serialization d
    cases hbody : reply.body with
    | none => simp [pageOf, Reply.decoded, hbody, Except.map]
    | some body =>
      simp only [pageOf, Reply.decoded, hbody, ← hread body]
      cases f.read body <;> rfl

theorem getPage_outcome (f : Feed α) (r : Request) (w : World) :
    (f.getPage r w).1 =
      (pageOf f.read ((f.client.send r [200] f.classification).attempt w).1).map (·.page) := by
  have hspans : ((f.client.send r [200] f.classification).attempt w).1 =
      ((f.client.send r [200] f.classification).attempt { w with spans := f.openSpans r w }).1 :=
    f.client.send_outcome_congr r _ _ rfl rfl
  rw [hspans]
  unfold getPage
  rcases (f.client.send r [200] f.classification).attempt { w with spans := f.openSpans r w } with
    ⟨sent, w'⟩
  dsimp only
  cases pageOf f.read sent <;> rfl

/-- A page that is asked for fails as its decoding does. -/
theorem decodesWith_getPage (hread : f.Decodes d) (r : Request) (w : World) :
    DecodesWith .serialization d ((f.client.send r [200] f.classification).attempt w).1
      (f.getPage r w).1 := by
  rw [getPage_outcome, pageOf_map_page hread]
  exact decodesWith_decoded (Or.inl rfl) d fun _ => Client.not_isDecoding_of_send

/-- Whether a listing comes to a page that cannot be decoded. -/
inductive MeetsUndecodable (d : Json.Decoder (Page α)) :
    Feed α → Except Failure Request → World → Prop
  | here {f : Feed α} {r : Request} {w : World} {reply : Reply}
      (hsend : ((f.client.send r [200] f.classification).attempt w).1 = .ok reply)
      (hreply : reply.Undecodable d) : MeetsUndecodable d f (.ok r) w
  | later {f : Feed α} {r : Request} {w w₁ : World} {p : Page α} {link : String}
      (hpage : f.getPage r w = (.ok p, w₁)) (hlink : p.nextLink = some link)
      (rest : MeetsUndecodable d (f.advance p) ((f.client.continuation link).map Request.get) w₁) :
      MeetsUndecodable d f (.ok r) w

theorem not_isDecoding_of_continuation {client : Client} {link : String} {e : Failure}
    (h : (client.continuation link).map Request.get = .error e) : ¬ e.IsDecoding := by
  unfold Client.continuation at h
  split at h
  · cases h
    simp [Failure.IsDecoding]
  · split at h
    · cases h
    · cases h
      simp [Failure.IsDecoding]

/-- A listing fails as a text does exactly if it comes to a page that cannot be decoded. -/
theorem Course.ending_of_undecodable (course : f.Course request w pages ending w')
    (hread : f.Decodes d) (hrequest : ∀ e, request = .error e → ¬ e.IsDecoding) :
    (ending = some .serialization ↔ MeetsUndecodable d f request w) ∧
      ∀ e ∈ ending, e.IsDecoding → e = .serialization := by
  induction course with
  | refused f e w =>
    have he := hrequest e rfl
    refine ⟨iff_of_false ?_ nofun, ?_⟩
    · rintro ⟨⟩
      exact he (Or.inl rfl)
    · rintro _ ⟨⟩ hdecoding
      exact absurd hdecoding he
  | @failed f r w w' e hpage =>
    have hlaw := decodesWith_getPage hread r w
    rw [hpage] at hlaw
    refine ⟨⟨?_, fun hmeets => ?_⟩, ?_⟩
    · rintro ⟨⟩
      obtain ⟨reply, hsend, hreply⟩ := hlaw.iff.1 rfl
      exact .here hsend hreply
    · cases hmeets with
      | here hsend hreply => rw [Except.error.inj (hlaw.iff.2 ⟨_, hsend, hreply⟩)]
      | later hpage' => rw [hpage] at hpage'; cases hpage'
    · rintro _ ⟨⟩ hdecoding
      exact hlaw.only e rfl hdecoding
  | @last f r w w' p hpage hlink =>
    have hlaw := decodesWith_getPage hread r w
    rw [hpage] at hlaw
    refine ⟨iff_of_false nofun fun hmeets => ?_, nofun⟩
    cases hmeets with
    | here hsend hreply => exact nomatch hlaw.iff.2 ⟨_, hsend, hreply⟩
    | later hpage' hlink' =>
      rw [hpage] at hpage'
      cases hpage'
      rw [hlink] at hlink'
      cases hlink'
  | @more f r w w₁ w' p link pages ending hpage hlink rest ih =>
    have hlaw := decodesWith_getPage hread r w
    rw [hpage] at hlaw
    obtain ⟨hiff, honly⟩ := ih hread fun _ => not_isDecoding_of_continuation
    refine ⟨hiff.trans ⟨.later hpage hlink, fun hmeets => ?_⟩, honly⟩
    cases hmeets with
    | here hsend hreply => exact nomatch hlaw.iff.2 ⟨_, hsend, hreply⟩
    | later hpage' hlink' hrest =>
      rw [hpage] at hpage'
      cases hpage'
      rw [hlink] at hlink'
      cases hlink'
      exact hrest

end Feed

namespace Client

theorem not_isDecoding_of_firstRequest {c : Client} {route : Route}
    {params : List (String × String)} {options : CallOptions} {e : Failure}
    (h : c.firstRequest route params options = .error e) : ¬ e.IsDecoding := by
  unfold firstRequest at h
  cases haddress : c.address route params options with
  | error e' =>
    rw [haddress] at h
    cases h
    exact not_isDecoding_of_address haddress
  | ok url => rw [haddress] at h; cases h

/-- A listing of policies, the world in which it is read, and how it ends. -/
structure ListsDecoding (c : Client) (scope : ListScope) (options : CallOptions) (w : World)
    (f : Feed Policy) (w₁ : World) (pages : List (Page Policy)) (ending : Option Failure)
    (w' : World) : Prop where
  opened : c.list scope options w = (⟨.feed f, []⟩, w₁)
  course : f.Course (c.firstRequest scope.route (scope.params c.subscription) options) w₁ pages
    ending w'
  read (n : Nat) : (Listing.answers n ⟨.feed f, []⟩ w₁).1.1 =
    (List.range n).map ((Listing.outcomes pages ending)[·]?)
  drained : (Listing.collect ⟨.feed f, []⟩).attempt w₁ =
    ((Listing.outcomes pages ending).mapM id, w')
  undecodable : ending = some .serialization ↔ Feed.MeetsUndecodable (Page.decoder Policy.decoder) f
    (c.firstRequest scope.route (scope.params c.subscription) options) w₁
  only : ∀ e ∈ ending, e.IsDecoding → e = .serialization

/-- **There are two failures for a body that cannot be decoded.** To get a policy, to write one and to
open ports fail as a request does exactly if the reply is an expected one and its body means nothing.
A listing of policies, read or drained, ends with another failure exactly if it comes to such a page.
Neither ever fails for this as the other does. -/
theorem decoding_failures (c : Client) (options : CallOptions) (w : World) :
    (∀ n : PolicyName, DecodesWith (.request .undecodable) Policy.decoder
      ((c.call "GET" .policy (n.params c.subscription) none options [200]).attempt w).1
      ((c.getPolicy n options).attempt w).1) ∧
    (∀ (n : PolicyName) (policy : Policy), DecodesWith (.request .undecodable) Policy.decoder
      ((c.call "PUT" .policy (n.params c.subscription) (some policy.toJson) options [200]).attempt
        w).1
      ((c.writePolicy n policy options).attempt w).1) ∧
    (∀ (n : PolicyName) (order : AccessOrder),
      DecodesWith (.request .undecodable) AccessRequest.decoder
        ((c.call "POST" .policyAction (n.params c.subscription ++
          [("jitNetworkAccessPolicyInitiateType", "initiate")]) (some order.toJson) options
            [202]).attempt w).1
        ((c.initiateAccess n order options).attempt w).1) ∧
    ∀ scope : ListScope, ∃ f w₁ pages ending w',
      c.ListsDecoding scope options w f w₁ pages ending w' := by
  refine ⟨fun n => c.decodesWith_getPolicy n options w,
    fun n policy => c.decodesWith_writePolicy n policy options w,
    fun n order => c.decodesWith_initiateAccess n order options w, fun scope => ?_⟩
  obtain ⟨f, w₁, hopened, hstart⟩ : ∃ f w₁, c.list scope options w = (⟨.feed f, []⟩, w₁) ∧
      ∃ spans, f = Feed.start c (c.firstRequest scope.route (scope.params c.subscription) options)
        options Policy.decoder spans := ⟨_, _, rfl, _, rfl⟩
  obtain ⟨spans, rfl⟩ := hstart
  obtain ⟨pages, ending, w', course⟩ := Feed.exists_course (Feed.start c
    (c.firstRequest scope.route (scope.params c.subscription) options) options Policy.decoder spans)
    (c.firstRequest scope.route (scope.params c.subscription) options) w₁
  have hremains : Listing.Remains ⟨.feed (Feed.start c _ options Policy.decoder spans), []⟩ w₁
      (Listing.outcomes pages ending) w' := .fetching [] rfl course
  obtain ⟨hundecodable, honly⟩ := course.ending_of_undecodable (Feed.decodes_start _ _ _ _ _)
    fun _ => not_isDecoding_of_firstRequest
  exact ⟨_, w₁, pages, ending, w', hopened, course,
    fun n => (Listing.answers_of_remains hremains n).1,
    Listing.attempt_collect_of_remains hremains, hundecodable, honly⟩

/-- A service that has one reply, whose body is no JSON. -/
def garbledWorld : World where
  service := .scripted [.reply ⟨200, [], some (Text.Utf8.encode "not json".toList)⟩]

/-- The policy that is asked for. -/
def garbledName : PolicyName := ⟨"rg1", "westeurope", "default"⟩

/-- Not every operation fails as a text does for a body that cannot be decoded. -/
theorem not_forall_undecodable_serialization :
    ¬ ∀ (c : Client) (n : PolicyName) (options : CallOptions) (w : World) (reply : Reply),
      ((c.call "GET" .policy (n.params c.subscription) none options [200]).attempt w).1 =
        .ok reply →
      reply.Undecodable Policy.decoder →
      ((c.getPolicy n options).attempt w).1 = .error .serialization := by
  intro h
  have hbody : (((publicCloud.call "GET" .policy (garbledName.params publicCloud.subscription) none
      {} [200]).attempt garbledWorld).1.toOption.bind (·.body)) =
        some (Text.Utf8.encode "not json".toList) := by decide +kernel
  have hrun : (Json.Decoder.run Policy.decoder (Text.Utf8.encode "not json".toList)).isNone := by
    decide +kernel
  rcases hsent : ((publicCloud.call "GET" .policy (garbledName.params publicCloud.subscription) none
      {} [200]).attempt garbledWorld).1 with e | reply
  · rw [hsent] at hbody
    cases hbody
  · rw [hsent] at hbody
    have hundecodable : reply.Undecodable Policy.decoder :=
      ⟨_, hbody, Option.isNone_iff_eq_none.1 hrun⟩
    have hrequest := (publicCloud.decodesWith_getPolicy garbledName {} garbledWorld).iff.2
      ⟨reply, hsent, hundecodable⟩
    have hserialization := h publicCloud garbledName {} garbledWorld reply hsent hundecodable
    rw [hserialization] at hrequest
    cases hrequest

end Client

end JitAccess
