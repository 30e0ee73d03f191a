import JitAccess.Proofs.Policy.Decoding

/-!
# Operations on one policy

An operation on one policy looks at its arguments before it does anything else. If they have no fault,
it is one request, and what it does with the reply changes nothing in the world but the trace.

* `PolicyName.fault?`: what keeps a policy from having an address.
* `PolicyRequest`: the four operations, each with what it sends and when it is a success.
* `Performs`: what one of them does.
* `Client.policy_operations`: all of them do that.
-/

namespace JitAccess

open Http Trace

variable {α : Type}

/-! ## Worlds without their trace -/

/-- A world without its trace. -/
def World.untraced (w : World) : World := { w with spans := [], events := [] }

/-- What a request does to a world does not depend on the trace, apart from the trace itself. -/
theorem Client.untraced_send (c : Client) (r : Request) (expected : List Status)
    (k : Classification) {w v : World} (h : w.untraced = v.untraced) :
    ((c.send r expected k).attempt w).1 = ((c.send r expected k).attempt v).1 ∧
      ((c.send r expected k).attempt w).2.untraced =
        ((c.send r expected k).attempt v).2.untraced := by
  have hservice : w.service = v.service :=
    (congrArg World.service h : w.untraced.service = v.untraced.service)
  have htokens : w.tokens = v.tokens :=
    (congrArg World.tokens h : w.untraced.tokens = v.untraced.tokens)
  obtain ⟨service, tokens, jitters, spans, messages, scopes, events⟩ := w
  obtain ⟨service', tokens', jitters', spans', messages', scopes', events'⟩ := v
  simp only [World.untraced, World.mk.injEq] at h
  obtain ⟨rfl, rfl, rfl, -, rfl, rfl, -⟩ := h
  obtain ⟨outcome, ⟨hw, hv⟩ | ⟨m, n, hw, hv⟩⟩ := c.send_attempt_congr r expected k hservice htokens
  · rw [hw, hv]
    exact ⟨rfl, rfl⟩
  · rw [hw, hv]
    exact ⟨rfl, rfl⟩

/-! ## Addresses -/

namespace PolicyName

/-- What keeps a policy from having an address: the fault of the leftmost value in its path that has
one. -/
def fault? (n : PolicyName) (subscription : String) : Option DraftFault :=
  (n.params subscription).findSome? fun p => Route.valueFault? p.1 p.2

/-- The segments of the path of a policy. -/
def segments (n : PolicyName) (subscription : String) : List String :=
  ["subscriptions", subscription, "resourceGroups", n.group, "providers", "Microsoft.Security",
    "locations", n.location, "jitNetworkAccessPolicies", n.name]

end PolicyName

namespace Route

/-- The path of a policy, unless a value in it has a fault. -/
theorem expand_policy (n : PolicyName) (subscription : String) :
    Route.policy.expand (n.params subscription) =
      (n.fault? subscription).elim (.ok (n.segments subscription)) .error := by
  rw [expand_eq, Client.parts_policy]
  rfl

example :
    PolicyName.fault? ⟨" ", "westeurope", ".."⟩ "sub-123" =
      some (.blankParameter "resourceGroupName") := by
  decide

theorem parts_policyAction :
    Route.policyAction.parts =
      Route.policy.parts ++ ["{jitNetworkAccessPolicyInitiateType}".toList] := by
  rw [Client.parts_policy, Route.parts]
  delta Route.policyAction
  dsimp only
  repeat rw [String.toList_append]
  repeat rw [String.toList_ofList]
  decide +kernel

theorem expand_policyAction (n : PolicyName) (subscription : String) :
    Route.policyAction.expand
        (n.params subscription ++ [("jitNetworkAccessPolicyInitiateType", "initiate")]) =
      (n.fault? subscription).elim (.ok (n.segments subscription ++ ["initiate"])) .error := by
  have haction : ["{jitNetworkAccessPolicyInitiateType}".toList].findSome? (partFault?
      (n.params subscription ++ [("jitNetworkAccessPolicyInitiateType", "initiate")])) = none := rfl
  rw [expand_eq, parts_policyAction, Client.parts_policy, List.findSome?_append, haction,
    Option.or_none]
  rfl

end Route

/-! ## Replies -/

/-- Whether the body of a reply can be read and decodes to something. -/
def Http.Reply.Means (d : Json.Decoder α) (reply : Reply) (a : α) : Prop :=
  ∃ body, reply.body = some body ∧ Json.Decoder.run d body = some a

theorem Http.Reply.decoded_eq_ok_iff {fault : Failure} {d : Json.Decoder α} {reply : Reply}
    {a : α} : reply.decoded fault d = .ok a ↔ reply.Means d a := by
  unfold decoded Means
  cases reply.body with
  | none => simp
  | some body => cases hrun : Json.Decoder.run d body <;> simp [hrun]

/-- Work on a reply that comes to what the reply means, if anything, and leaves the world as it was but
for the trace. -/
structure Concludes (f : Reply → Run α) (means : Reply → α → Prop) : Prop where
  world (reply : Reply) (w : World) : ((f reply).attempt w).2.untraced = w.untraced
  ok_iff (reply : Reply) (w : World) (a : α) :
    ((f reply).attempt w).1 = .ok a ↔ means reply a

theorem concludes_report (level : Level) (words : String) (fields : Reply → Fields) :
    Concludes (fun reply => (report level words (fields reply) : Run Unit)) fun _ _ => True :=
  ⟨fun _ _ => rfl, fun _ _ _ => ⟨fun _ => trivial, fun _ => rfl⟩⟩

theorem concludes_decodeBody (d : Json.Decoder α) :
    Concludes (fun reply => reply.decodeBody d) (Reply.Means d) := by
  constructor
  · intro reply w
    rw [Client.decodeBody_attempt]
  · intro reply w a
    rw [Client.decodeBody_attempt]
    exact Reply.decoded_eq_ok_iff

theorem concludes_decodeBody_report (d : Json.Decoder α) (level : Level) (words : String)
    (fields : α → Fields) :
    Concludes (fun reply => (do
      let a ← reply.decodeBody d
      report level words (fields a)
      return a : Run α)) (Reply.Means d) := by
  constructor
  · intro reply w
    rw [Run.attempt_bind, Client.decodeBody_attempt]
    cases reply.decoded (.request .undecodable) d <;> rfl
  · intro reply w a
    rw [Client.outcome_report_decoded]
    exact Reply.decoded_eq_ok_iff

/-! ## Operations -/

/-- What an operation on a policy sends: the method, what it adds to the path of the policy, and the
body. Only a reply with one of some statuses is a success. -/
structure PolicyRequest where
  method : String
  action : List String
  body : Option Json.Value
  expected : List Status

namespace PolicyRequest

/-- To get a policy. -/
def get : PolicyRequest := ⟨"GET", [], none, [200]⟩

/-- To write a policy. -/
def write (policy : Policy) : PolicyRequest := ⟨"PUT", [], some policy.toJson, [200]⟩

/-- To delete a policy. -/
def delete : PolicyRequest := ⟨"DELETE", [], none, [200, 204]⟩

/-- To open ports of the machines of a policy. -/
def initiate (order : AccessOrder) : PolicyRequest :=
  ⟨"POST", ["initiate"], some order.toJson, [202]⟩

/-- The request of an operation on a policy. -/
def toRequest (p : PolicyRequest) (c : Client) (n : PolicyName) (options : CallOptions) :
    Request where
  method := p.method
  url := (c.endpoint.extendPath (n.segments c.subscription ++ p.action)).withQuery
    (c.firstQuery options)
  fields := options.fields
  body := p.body

end PolicyRequest

/-- Whether some work is to send one request, and a success exactly if the reply that settles the
request has an expected status and means something. The work then comes to what the reply means. -/
structure IsSend (c : Client) (r : Request) (expected : List Status) (k : Classification)
    (means : Reply → α → Prop) (run : Run α) (w : World) : Prop where
  world : (run.attempt w).2.untraced = ((c.send r expected k).attempt w).2.untraced
  unsent : ∀ e, ((c.send r expected k).attempt w).1 = .error e → (run.attempt w).1 = .error e
  ok_iff : ∀ a, (run.attempt w).1 = .ok a ↔
    ∃ reply, c.Meets r expected k w (.ok reply) ∧ reply.status ∈ expected ∧ means reply a
  unexpected : ∀ reply, c.Meets r expected k w (.ok reply) → reply.status ∉ expected →
    (run.attempt w).1 = .error (.http (k.classify reply.status) (.ofReply reply)) ∧
      (FailedReply.ofReply reply).status = reply.status

/-- Whether some work is an operation on a policy: it is refused for the leftmost fault of its
arguments, with the world as it was but for the trace, or it is to send one request. -/
structure Performs (p : PolicyRequest) (c : Client) (n : PolicyName) (options : CallOptions)
    (means : Reply → α → Prop) (run : Run α) (w : World) : Prop where
  refused : ∀ fault, n.fault? c.subscription = some fault →
    (run.attempt w).1 = .error (.draft fault) ∧ (run.attempt w).2.untraced = w.untraced
  sent : n.fault? c.subscription = none →
    IsSend c (p.toRequest c n options) p.expected options.classification means run w

namespace Client

variable {c : Client} {r : Request} {expected : List Status} {k : Classification}
  {means : Reply → α → Prop} {f : Reply → Run α} {w v : World}

/-- A request and what is done with its reply, in a world that differs in the trace. -/
theorem isSend_bind (hf : Concludes f means) (hv : v.untraced = w.untraced) {run : Run α}
    (houtcome : (run.attempt w).1 = ((c.send r expected k >>= f).attempt v).1)
    (hworld : (run.attempt w).2.untraced = ((c.send r expected k >>= f).attempt v).2.untraced) :
    IsSend c r expected k means run w := by
  obtain ⟨hsame, hsent⟩ := c.untraced_send r expected k hv
  rw [Run.attempt_bind] at houtcome hworld
  rcases hsend : (c.send r expected k).attempt v with ⟨outcome, v'⟩
  rw [hsend] at houtcome hworld hsame hsent
  dsimp only at hsame hsent
  constructor
  · rw [hworld, ← hsent]
    cases outcome with
    | error e => rfl
    | ok reply => exact hf.world reply v'
  · intro e he
    rw [← hsame] at he
    cases he
    exact houtcome
  · intro a
    rw [houtcome]
    cases outcome with
    | error e =>
      refine iff_of_false nofun ?_
      rintro ⟨reply, hmeets, hexpected, -⟩
      have hok := outcome_send_eq_ok_iff.2 ⟨hmeets, hexpected⟩
      rw [← hsame] at hok
      cases hok
    | ok reply =>
      have hreply := outcome_send_eq_ok_iff.1 hsame.symm
      show ((f reply).attempt v').1 = .ok a ↔ _
      rw [hf.ok_iff]
      constructor
      · intro hmeans
        exact ⟨reply, hreply.1, hreply.2, hmeans⟩
      · rintro ⟨reply', hmeets, hexpected, hmeans⟩
        have hok := outcome_send_eq_ok_iff.2 ⟨hmeets, hexpected⟩
        rw [← hsame] at hok
        cases hok
        exact hmeans
  · intro reply hmeets hexpected
    have hsettled : outcome = .error (.http (k.classify reply.status) (.ofReply reply)) := by
      rw [hsame, hmeets.outcome_send]
      exact if_neg hexpected
    subst hsettled
    exact ⟨houtcome, rfl⟩

/-- An operation on a policy, from the segments of its path. -/
theorem performs_operation {p : PolicyRequest} {n : PolicyName} {options : CallOptions}
    {route : Route} {params : List (String × String)} {span : Span} {level : Level}
    {words : String} {fields : Fields}
    (hexpand : route.expand params =
      (n.fault? c.subscription).elim (.ok (n.segments c.subscription ++ p.action)) .error)
    (hf : Concludes f means) :
    Performs p c n options means (Run.inSpan span (do
      report level words fields
      let reply ← c.call p.method route params p.body options p.expected
      f reply)) w := by
  have hopened : (openedWorld span level words fields w).untraced = w.untraced := rfl
  have hcall := c.call_attempt p.method route params p.body options p.expected
    (openedWorld span level words fields w)
  constructor
  · intro fault hfault
    have hrefused : c.address route params options = .error (.draft fault) := by
      rw [address, hexpand, hfault]
      rfl
    rw [hrefused] at hcall
    rw [attempt_operation, Run.attempt_bind_error hcall f]
    exact ⟨rfl, hopened⟩
  · intro hfault
    have haddress : c.address route params options = .ok (p.toRequest c n options).url := by
      rw [address, hexpand, hfault]
      rfl
    rw [haddress] at hcall
    have hsend : (c.call p.method route params p.body options p.expected >>= f).attempt
          (openedWorld span level words fields w) =
        (c.send (p.toRequest c n options) p.expected options.classification >>= f).attempt
          (openedWorld span level words fields w) := by
      rw [Run.attempt_bind, Run.attempt_bind, hcall]
      rfl
    apply isSend_bind hf hopened
    · rw [attempt_operation, hsend]
    · rw [attempt_operation, hsend]
      rfl

/-- **An operation on one policy is one request.** To get a policy, to write one, to delete one and to
open ports all look at their arguments first. If one of them is blank or a dot segment, the leftmost
of these in the path is what the operation is refused for, and no credential and no service is asked for
anything. Otherwise the operation is exactly one request to the path of the policy, with the fields, the
query and the meanings of statuses that the options give. It is a success exactly if the last reply has
an expected status and, but for a deletion, a body that can be read and decodes. -/
theorem policy_operations (c : Client) (n : PolicyName) (options : CallOptions) (w : World) :
    Performs .get c n options (Reply.Means Policy.decoder) (c.getPolicy n options) w ∧
    (∀ policy, Performs (.write policy) c n options (Reply.Means Policy.decoder)
      (c.writePolicy n policy options) w) ∧
    Performs .delete c n options (fun _ _ => True) (c.deletePolicy n options) w ∧
    ∀ order, Performs (.initiate order) c n options (Reply.Means AccessRequest.decoder)
      (c.initiateAccess n order options) w := by
  have hpolicy := Route.expand_policy n c.subscription
  refine ⟨?_, fun policy => ?_, ?_, fun order => ?_⟩
  · exact performs_operation (p := .get) hpolicy (concludes_decodeBody _)
  · exact performs_operation (p := .write policy) hpolicy (concludes_decodeBody_report _ _ _ _)
  · exact performs_operation (p := .delete) hpolicy (concludes_report _ _ _)
  · exact performs_operation (p := .initiate order) (Route.expand_policyAction n c.subscription)
      (concludes_decodeBody_report _ _ _ _)

end Client

end JitAccess
