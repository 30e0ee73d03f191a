import JitAccess.Policy.Operations
import JitAccess.Proofs.Client.Retrying
import JitAccess.Proofs.Run.Discretion
import Mathlib.Order.Bounds.Basic

/-!
# Requests that do not give a token away

The access token of a client gets into the value of one field of each message and nowhere else, provided
that HTTP allows the value: else a request with it is refused.

* `Request.message?_cases`: what another value for the field changes in a message.
* `Client.discreet_send`: a request, retries included.
* `Client.discreet_getPolicy` and its siblings: the operations on one policy.
-/

namespace JitAccess

open Http Trace

/-! ## Messages -/

/-- Where the value that authorizes a request gets into its fields. -/
theorem Http.Request.exists_allFields_eq (r : Request) :
    ∃ before after, ∀ value, r.allFields value = before ++ ("authorization", value) :: after := by
  let basic := (basic? r.url.credentials.1 r.url.credentials.2).toList.map (("authorization", ·))
  let own := ("accept", "application/json") :: r.fields.map lowerName
  -- Whether a type is added for the body depends on the names of the fields alone.
  by_cases htype : r.body.isSome && !((basic ++ own).any (·.1 == "content-type"))
  · refine ⟨basic, own ++ [("content-type", "application/json")], fun value => ?_⟩
    simp_all [allFields, basic, own]
  · refine ⟨basic, own, fun value => ?_⟩
    simp_all [allFields, basic, own]

/-- Another value for the field changes nothing else, as long as HTTP allows both. -/
theorem Http.Request.message?_cases (r : Request) {value value' : String}
    (h : isFieldValue value) (h' : isFieldValue value') :
    (r.message? value = none ∧ r.message? value' = none) ∨
      ∃ m m', r.message? value = some m ∧ r.message? value' = some m' ∧
        m.Reauthorized value value' m' := by
  obtain ⟨before, after, hfields⟩ := r.exists_allFields_eq
  have hallowed {v : String} (hv : isFieldValue v) :
      (r.allFields v).all isField = (before.all isField && after.all isField) := by
    have hfield : isField ("authorization", v) = true := by
      have hname : isFieldName "authorization" = true := by decide +kernel
      simp only [isField, hname, hv, Bool.and_self]
    simp [hfields, hfield]
  cases hsent : isSendable r.url && (before.all isField && after.all isField) with
  | false =>
    left
    simp only [message?, hallowed h, hallowed h', hsent]
    exact ⟨rfl, rfl⟩
  | true =>
    right
    simp only [message?, hallowed h, hallowed h', hsent]
    exact ⟨_, _, rfl, rfl, rfl, rfl, rfl, before, after, hfields value, hfields value'⟩

/-! ## Requests -/

/-- Whether HTTP allows what two tokens authorize by. -/
structure BothAllowed (token token' : String) : Prop where
  left : isFieldValue (bearer token)
  right : isFieldValue (bearer token')

namespace Client

variable {c : Client} {token token' : String}

/-- The client with an access token of its own. -/
def withToken (c : Client) (token : String) : Client := { c with credential := .accessToken token }

/-- A message and its answers, with one token and with the other. -/
theorem reauthorized_afterRetries {m m' : Message} {w w' : World} {value value' : String}
    (hm : m.Reauthorized value value' m') (hw : w.Reauthorized value value' w') (policy : RetryPolicy)
    (expected : List Status) (k : Classification) (n : Nat) :
    World.Reauthorized value value'
      ((w.afterAsking (.accessToken token)).afterRetries policy expected k m 0 n)
      ((w'.afterAsking (.accessToken token')).afterRetries policy expected k m' 0 n) := by
  obtain ⟨messages', rfl, hmessages⟩ := hw
  have hreached (s : Service) : (s.reached (List.replicate (n + 1) m)).Forall₂
      (Message.Reauthorized value value') (s.reached (List.replicate (n + 1) m')) := by
    cases s with
    | unreachable => exact .nil
    | scripted answers =>
      refine List.forall₂_iff_get.2 ⟨?_, ?_⟩
      · simp [Service.reached]
      · simp [Service.reached, hm]
  refine ⟨_, ?_, List.rel_append hmessages (hreached w.service)⟩
  unfold World.afterRetries
  rw [hm.method]
  rfl

/-- A request, retries included. -/
theorem discreet_send (h : BothAllowed token token') (r : Request) (expected : List Status)
    (k : Classification) :
    Discreet (bearer token) (bearer token') ((c.withToken token).send r expected k).attempt
      ((c.withToken token').send r expected k).attempt Eq := by
  intro w w' hw
  have hauth (t : String) (v : World) := (Credential.accessToken t).authorize_attempt_eq v
  rcases r.message?_cases h.left h.right with ⟨hm, hm'⟩ | ⟨m, m', hm, hm', hsame⟩
  · have hrun := @send_attempt_of_refused (c.withToken token) r expected k w _ (hauth token w) hm
    have hrun' := @send_attempt_of_refused (c.withToken token') r expected k w' _ (hauth token' w') hm'
    rw [hrun, hrun']
    obtain ⟨messages', rfl, hmessages⟩ := hw
    exact ⟨rfl, messages', rfl, hmessages⟩
  · obtain ⟨n, hn, hrun⟩ :=
      @send_attempt_of_message (c.withToken token) r expected k w _ m (hauth token w) hm
    obtain ⟨n', hn', hrun'⟩ :=
      @send_attempt_of_message (c.withToken token') r expected k w' _ m' (hauth token' w') hm'
    -- The answers are the same, so it is the same one that settles the request.
    have hservice : w'.service = w.service := by
      obtain ⟨messages', rfl, -⟩ := hw
      rfl
    rw [hservice] at hn' hrun'
    obtain rfl : n = n' := hn.unique hn'
    rw [hrun, hrun']
    exact ⟨rfl, reauthorized_afterRetries hsame hw _ _ _ _⟩

theorem discreet_readBody (value value' : String) (reply : Reply) :
    Discreet value value' reply.readBody.attempt reply.readBody.attempt Eq := by
  unfold Reply.readBody
  split
  · exact .pure rfl
  · exact .pure rfl

theorem discreet_decodeBody {α : Type} (value value' : String) (d : Json.Decoder α) (reply : Reply) :
    Discreet value value' (reply.decodeBody d).attempt (reply.decodeBody d).attempt Eq := by
  refine .run_bind (discreet_readBody value value' reply) fun body => ?_
  split
  · exact .pure rfl
  · exact .pure rfl

/-! ## Operations on one policy -/

theorem discreet_call (h : BothAllowed token token') (method : String) (route : Route)
    (params : List (String × String)) (body : Option Json.Value) (options : CallOptions)
    (expected : List Status) :
    Discreet (bearer token) (bearer token')
      ((c.withToken token).call method route params body options expected).attempt
      ((c.withToken token').call method route params body options expected).attempt Eq :=
  .run_bind (.pure rfl) fun _ => discreet_send h _ _ _

/-- An operation that reports something, sends a request and does something with the reply. -/
theorem discreet_operation {α : Type} {value value' : String} {span : Span} {level : Level}
    {words : String} {fields : Fields} {ask ask' : Run Reply} {f : Reply → Run α}
    (hask : Discreet value value' ask.attempt ask'.attempt Eq)
    (hf : ∀ reply, Discreet value value' (f reply).attempt (f reply).attempt Eq) :
    Discreet value value'
      (Run.inSpan span (do
        report level words fields
        let reply ← ask
        f reply)).attempt
      (Run.inSpan span (do
        report level words fields
        let reply ← ask'
        f reply)).attempt Eq := by
  have hreply : Discreet value value' (ask >>= f).attempt (ask' >>= f).attempt Eq :=
    .run_bind hask hf
  exact .run_inSpan (.lift_bind .report fun _ _ _ => hreply) span

theorem discreet_decodeBody_report {α : Type} (value value' : String) (d : Json.Decoder α)
    (level : Level) (words : String) (fields : α → Fields) (reply : Reply) :
    Discreet value value'
      (do
        let a ← reply.decodeBody d
        report level words (fields a)
        return a : Run α).attempt
      (do
        let a ← reply.decodeBody d
        report level words (fields a)
        return a : Run α).attempt Eq := by
  refine .run_bind (discreet_decodeBody value value' d reply) fun a => ?_
  exact .lift_bind .report fun _ _ _ => .pure rfl

theorem discreet_getPolicy (h : BothAllowed token token') (n : PolicyName) (options : CallOptions) :
    Discreet (bearer token) (bearer token') ((c.withToken token).getPolicy n options).attempt
      ((c.withToken token').getPolicy n options).attempt Eq :=
  discreet_operation (discreet_call h _ _ _ _ _ _) (discreet_decodeBody _ _ _)

theorem discreet_writePolicy (h : BothAllowed token token') (n : PolicyName) (policy : Policy)
    (options : CallOptions) :
    Discreet (bearer token) (bearer token') ((c.withToken token).writePolicy n policy options).attempt
      ((c.withToken token').writePolicy n policy options).attempt Eq :=
  discreet_operation (discreet_call h _ _ _ _ _ _) (discreet_decodeBody_report _ _ _ _ _ _)

theorem discreet_deletePolicy (h : BothAllowed token token') (n : PolicyName)
    (options : CallOptions) :
    Discreet (bearer token) (bearer token') ((c.withToken token).deletePolicy n options).attempt
      ((c.withToken token').deletePolicy n options).attempt Eq :=
  discreet_operation (discreet_call h _ _ _ _ _ _) fun _ => .lift .report

theorem discreet_initiateAccess (h : BothAllowed token token') (n : PolicyName) (order : AccessOrder)
    (options : CallOptions) :
    Discreet (bearer token) (bearer token') ((c.withToken token).initiateAccess n order options).attempt
      ((c.withToken token').initiateAccess n order options).attempt Eq :=
  discreet_operation (discreet_call h _ _ _ _ _ _) (discreet_decodeBody_report _ _ _ _ _ _)

end Client

end JitAccess
