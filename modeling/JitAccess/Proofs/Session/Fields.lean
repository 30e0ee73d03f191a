import JitAccess.Proofs.Client.Continuation
import JitAccess.Proofs.Policy.Addressing
import JitAccess.Proofs.Session.Dispatch

/-!
# Header fields of a session

Every message of an operation is authorized once, by the value that its request was given, unless a
link that is followed has a user of its own: then it is authorized by that user, too. The link is that of
the page which the service has sent last for the listing.

* `Dispatch.carries_of_opens`, `Dispatch.carries_of_continues`: the fields of the messages.
* `Client.session_fields`: those of all messages of a session.
-/

namespace JitAccess

open Http Client

variable {c : Client}

/-! ## Fields of a dispatch -/

/-- Whether the messages of a dispatch have these fields, for the value that authorizes them. -/
def Dispatch.Carries (d : Dispatch) (fields : String → List Field) : Prop :=
  ∀ m ∈ d.messages, ∃ value, d.authorized = .ok value ∧ m.fields = fields value

/-- How many fields of a message have a name. -/
def Http.Message.fieldCount (m : Message) (name : String) : Nat := m.fields.countP (·.1 == name)

theorem Dispatch.carries_allFields (d : Dispatch) : d.Carries d.request.allFields := by
  intro m hm
  obtain ⟨value, hvalue, hmessage⟩ := d.exists_of_mem_messages hm
  exact ⟨value, hvalue, by rw [Request.eq_of_message? hmessage]⟩

theorem Dispatch.carries_of_opens {d : Dispatch} {o : CallOptions} {body : Option Json.Value}
    (h : c.Opens o body d.request) (hendpoint : c.endpoint.credentials = ("", "")) :
    d.Carries fun value => standardFields value ++ o.fields.map lowerName ++ typeFields o body := by
  have hfields := allFields_of_opens h hendpoint
  rw [← funext hfields]
  exact d.carries_allFields

theorem Dispatch.carries_of_continues {d : Dispatch} {link : String}
    (h : c.Continues link d.request) :
    d.Carries fun value => basicFields d.request ++ standardFields value := by
  rw [← funext (allFields_of_continues h)]
  exact d.carries_allFields

/-- A link that is followed keeps its user and password. -/
theorem Client.Continues.basicFields_eq {link : String} {r : Request} (h : c.Continues link r) :
    ∃ l, c.resolve link = .ok l ∧ basicFields r = basicFields (.get l) := by
  obtain ⟨u, hu, rfl⟩ := h
  obtain ⟨l, hlink, -, rfl⟩ := exists_resolve_of_continuation hu
  exact ⟨l, hlink, rfl⟩

theorem countP_standardFields (value : String) :
    (standardFields value).countP (·.1 == "authorization") = 1 ∧
      (standardFields value).countP (·.1 == "accept") = 1 := by
  simp [standardFields]

theorem countP_basicFields (r : Request) :
    (basicFields r).countP (·.1 == "authorization") = (basicFields r).length ∧
      (basicFields r).countP (·.1 == "accept") = 0 := by
  simp [basicFields, List.countP_eq_length]

theorem countP_typeFields (o : CallOptions) (body : Option Json.Value) :
    (typeFields o body).countP (·.1 == "authorization") = 0 ∧
      (typeFields o body).countP (·.1 == "accept") = 0 := by
  unfold typeFields
  split <;> simp

theorem Client.AddsNoStandard.countP {o : CallOptions} (h : AddsNoStandard o) :
    (o.fields.map lowerName).countP (·.1 == "authorization") = 0 ∧
      (o.fields.map lowerName).countP (·.1 == "accept") = 0 := by
  simp only [List.countP_eq_zero, List.mem_map, beq_iff_eq]
  constructor
  · rintro _ ⟨f, hf, rfl⟩
    exact (h f hf).1
  · rintro _ ⟨f, hf, rfl⟩
    exact (h f hf).2

/-- A message is accepted and authorized once, and once more for each user in the URL. -/
theorem Dispatch.fieldCount_of_makes {d : Dispatch} {m : Message}
    (h : c.Makes AddsNoStandard d.request) (hendpoint : c.endpoint.credentials = ("", ""))
    (hm : m ∈ d.messages) :
    m.fieldCount "accept" = 1 ∧
      m.fieldCount "authorization" = 1 + (basicFields d.request).length := by
  rcases h with ⟨o, body, ho, hopens⟩ | ⟨link, hcontinues⟩
  · obtain ⟨value, -, hfields⟩ := d.carries_of_opens hopens hendpoint m hm
    have hbasic : basicFields d.request = [] := basicFields_of_opens hopens hendpoint
    rw [Message.fieldCount, Message.fieldCount, hfields, hbasic]
    simp [List.countP_append, countP_standardFields, ho.countP, countP_typeFields]
  · obtain ⟨value, -, hfields⟩ := d.carries_of_continues hcontinues m hm
    rw [Message.fieldCount, Message.fieldCount, hfields]
    simp [List.countP_append, countP_standardFields, countP_basicFields, Nat.add_comm]

/-! ## Sessions -/

namespace Client

/-- **Every message of an operation is authorized by one token.** Whatever a service answers, each
request of a session of operations is authorized by what the credential answers with for it, in order.
The messages of the first request of an operation have the standard fields, those that the options ask
for and the type of the body. A request that comes after it follows the link in the reply of the service
to the one before; its messages have the standard fields alone, but for one that authorizes the user of
the link if it has one. -/
theorem session_fields (c : Client) (hendpoint : c.endpoint.credentials = ("", ""))
    (steps : List Step) (hsteps : ∀ step ∈ steps, step.isOperation = true ∧
      ∀ o ∈ step.options?, AddsNoStandard o) (w : World) :
    ∃ sends, c.Follows (fun _ => .none) steps sends ∧
      w.service.Serves sends.flatten (c.session [] steps w).2.service ∧
      (c.session [] steps w).1.map (·.messages) = sends.map messagesOf ∧
      sends.flatten.map (·.authorized) = c.credential.answers sends.flatten.length w.tokens ∧
      ∀ d ∈ sends.flatten,
        (∀ o body, c.Opens o body d.request → d.Carries fun value =>
          standardFields value ++ o.fields.map lowerName ++ typeFields o body) ∧
        (∀ link, c.Continues link d.request → ∃ l, c.resolve link = .ok l ∧
          basicFields d.request = basicFields (.get l) ∧
          d.Carries fun value => basicFields d.request ++ standardFields value) ∧
        ∀ m ∈ d.messages, m.fieldCount "accept" = 1 ∧
          (m.fieldCount "authorization" = 1 ↔ basicFields d.request = []) := by
  obtain ⟨ds, hsent, sends, hfollows, rfl, hmessages⟩ :=
    c.sends_session (OpenListings.asks_nil c fun _ => .none) steps w
  refine ⟨sends, hfollows, hsent.served, hmessages, hsent.authorized, fun d hd => ?_⟩
  have hmakes := hfollows.makes (fun _ _ h => nomatch h) hsteps d hd
  refine ⟨fun o body h => d.carries_of_opens h hendpoint, fun link h => ?_, fun m hm => ?_⟩
  · obtain ⟨l, hlink, hbasic⟩ := h.basicFields_eq
    exact ⟨l, hlink, hbasic, d.carries_of_continues h⟩
  · obtain ⟨haccept, hauthorization⟩ := d.fieldCount_of_makes hmakes hendpoint hm
    refine ⟨haccept, ?_⟩
    rw [hauthorization, ← List.length_eq_zero_iff]
    omega

/-- A service that has a page with a link, and one without. -/
def linkedWorld (link : String) : World where
  service := .scripted
    [.reply ⟨200, [], some (Text.Utf8.encode ("\x7b\"nextLink\":\"" ++ link ++ "\"\x7d").toList)⟩,
      .reply ⟨200, [], some (Text.Utf8.encode "\x7b\x7d".toList)⟩]

/-- Steps that read the values in a subscription, the first page with a field of the caller's own. -/
def tracedReading : List Step :=
  [.openListing "values" (.values .subscriptionPolicies [("subscriptionId", "sub-123")])
    { fields := [("X-Trace", "on")] }, .next "values"]

theorem session_fields_with_link :
    (publicCloud.endpoint.credentials = ("", "") ∧ ∀ step ∈ tracedReading,
      step.isOperation = true ∧ ∀ o ∈ step.options?, AddsNoStandard o) ∧
    ((publicCloud.session [] tracedReading (linkedWorld "/next")).1.map fun r =>
        r.messages.map (·.fields)) =
      [[], [standardFields "Bearer test-token" ++ [("x-trace", "on")],
        standardFields "Bearer test-token"]] ∧
    ∃ sends, publicCloud.Follows (fun _ => .none) tracedReading sends ∧
      (linkedWorld "/next").service.Serves sends.flatten
        (publicCloud.session [] tracedReading (linkedWorld "/next")).2.service ∧
      ((publicCloud.session [] tracedReading (linkedWorld "/next")).1.map (·.messages)) =
        sends.map messagesOf ∧
      ∀ d ∈ sends.flatten, ∀ m ∈ d.messages, m.fieldCount "accept" = 1 ∧
        (m.fieldCount "authorization" = 1 ↔ basicFields d.request = []) := by
  have hsteps : ∀ step ∈ tracedReading,
      step.isOperation = true ∧ ∀ o ∈ step.options?, AddsNoStandard o := by decide +kernel
  refine ⟨⟨rfl, hsteps⟩, by decide +kernel, ?_⟩
  obtain ⟨sends, hfollows, hserved, hmessages, -, hfields⟩ :=
    session_fields publicCloud rfl tracedReading hsteps (linkedWorld "/next")
  exact ⟨sends, hfollows, hserved, hmessages, fun d hd => (hfields d hd).2.2⟩

/-- Not every message is authorized just once: a link with a user is followed. -/
theorem not_forall_authorized_once :
    ¬ ∀ (c : Client) (steps : List Step) (w : World), c.endpoint.credentials = ("", "") →
      (∀ step ∈ steps, step.isOperation = true ∧ ∀ o ∈ step.options?, AddsNoStandard o) →
      ∀ report ∈ (c.session [] steps w).1, ∀ m ∈ report.messages,
        m.fieldCount "authorization" = 1 := by
  intro h
  have hcounts : ((publicCloud.session [] tracedReading
      (linkedWorld "https://user:pw@management.azure.com/next")).1.map fun r =>
        r.messages.map (·.fieldCount "authorization")) = [[], [1, 2]] := by decide +kernel
  have honce : ∀ counts ∈ (publicCloud.session [] tracedReading
      (linkedWorld "https://user:pw@management.azure.com/next")).1.map (fun r =>
        r.messages.map (·.fieldCount "authorization")), ∀ n ∈ counts, n = 1 := by
    intro counts hmem n hn
    obtain ⟨report, hreport, rfl⟩ := List.mem_map.1 hmem
    obtain ⟨m, hm, rfl⟩ := List.mem_map.1 hn
    exact h publicCloud tracedReading _ rfl (by decide +kernel) report hreport m hm
  rw [hcounts] at honce
  exact absurd (honce [1, 2] (by decide) 2 (by decide)) (by decide)

end Client

end JitAccess
