import JitAccess.Policy.Operations
import JitAccess.Proofs.Client.Retrying

/-!
# Requests that were made

The journal of a world has the messages that reached the service. A `Dispatch` says more of some of
them: for which request they were, what it was authorized by, and what came of it. Work is accounted for
by the dispatches that it made; `Sends` has one rule for each way to put work together, so that later
proofs follow the shape of the work.

* `World.Sent`: the dispatches that lead from a world to another.
* `Service.Serves`: the replies to them are those of the service.
* `Client.sends_send`: a request is one dispatch, retries included.
* `Client.sends_call`, `Client.sends_getPolicy` and its siblings: a call is one at most.
* `Client.Opens`, `Client.Continues`: the two kinds of requests that a client makes, with the fields
  that their messages have.
-/

namespace JitAccess

open Http Trace

/-! ## Dispatches -/

/-- A request that was made: what it was authorized by, or why it could not be, how often its message
reached the service, and what came of it. -/
structure Dispatch where
  request : Request
  authorized : Except Failure String
  tries : Nat
  reply : Except Failure Reply

/-- The messages of a dispatch. -/
def Dispatch.messages (d : Dispatch) : List Message :=
  match d.authorized with
  | .error _ => []
  | .ok value => (d.request.message? value).toList.flatMap (List.replicate d.tries)

/-- The messages of some dispatches. -/
def messagesOf (ds : List Dispatch) : List Message := ds.flatMap Dispatch.messages

@[simp] theorem messagesOf_nil : messagesOf [] = [] := rfl

@[simp] theorem messagesOf_append (ds ds' : List Dispatch) :
    messagesOf (ds ++ ds') = messagesOf ds ++ messagesOf ds' := List.flatMap_append

theorem Dispatch.exists_of_mem_messages {d : Dispatch} {m : Message} (h : m ∈ d.messages) :
    ∃ value, d.authorized = .ok value ∧ d.request.message? value = some m := by
  unfold messages at h
  cases hauthorized : d.authorized with
  | error e => rw [hauthorized] at h; cases h
  | ok value =>
    rw [hauthorized] at h
    obtain ⟨m', hm', hm⟩ := List.mem_flatMap.1 h
    obtain rfl := List.eq_of_mem_replicate hm
    exact ⟨value, rfl, Option.mem_toList.1 hm'⟩

/-- Whether the reply to a dispatch, if there is one, is what a service answers to its last message. -/
def Dispatch.Answered (d : Dispatch) (s : Service) : Prop :=
  ∀ reply, d.reply = .ok reply →
    ∃ n, d.tries = n + 1 ∧ (s.answer n).outcome d.request.method = .ok reply

namespace Service

/-- Whether the replies to some dispatches are those of a service, one after the other, and leave another
service behind. -/
inductive Serves : Service → List Dispatch → Service → Prop
  | nil (s : Service) : s.Serves [] s
  | cons {s s' : Service} {d : Dispatch} {ds : List Dispatch} (hanswered : d.Answered s)
      (rest : (s.after d.tries).Serves ds s') : s.Serves (d :: ds) s'

theorem Serves.append {s s₁ s₂ : Service} {ds ds' : List Dispatch} (h : s.Serves ds s₁)
    (h' : s₁.Serves ds' s₂) : s.Serves (ds ++ ds') s₂ := by
  induction h with
  | nil => exact h'
  | cons hanswered rest ih => exact .cons hanswered (ih h')

/-- A dispatch without a reply, before the service is reached. -/
theorem serves_of_unsent (s : Service) {r : Request} {authorized : Except Failure String} {e : Failure} :
    s.Serves [⟨r, authorized, 0, .error e⟩] s := by
  refine .cons (fun _ h => nomatch h) ?_
  have hafter : s.after 0 = s := by cases s <;> rfl
  show (s.after 0).Serves [] s
  rw [hafter]
  exact .nil s

end Service

/-- What a credential answers with to some requests, one after the other. -/
def Credential.answers (k : Credential) :
    Nat → List (Except String String) → List (Except Failure String)
  | 0, _ => []
  | n + 1, tokens => k.answer tokens :: k.answers n (tokens.drop k.asks.length)

theorem Credential.answers_add (k : Credential) (m n : Nat) (tokens : List (Except String String)) :
    k.answers (m + n) tokens =
      k.answers m tokens ++ k.answers n (tokens.drop (m * k.asks.length)) := by
  induction m generalizing tokens with
  | zero => simp [answers]
  | succ m ih =>
    rw [Nat.succ_add, answers, answers, ih, List.cons_append, List.drop_drop, Nat.succ_mul,
      Nat.add_comm (m * _)]

/-- The dispatches that lead from a world to another. Their messages are all that was sent, their replies
are those of the service, and the credential was asked once for each, in order. -/
structure World.Sent (k : Credential) (w : World) (ds : List Dispatch) (w' : World) : Prop where
  messages : w'.messages = w.messages ++ messagesOf ds
  served : w.service.Serves ds w'.service
  authorized : ds.map (·.authorized) = k.answers ds.length w.tokens
  tokens : w'.tokens = w.tokens.drop (ds.length * k.asks.length)

namespace World.Sent

variable {k : Credential} {w w₁ w₂ : World} {ds ds' : List Dispatch}

theorem of_quiet (hmessages : w₁.messages = w.messages) (hservice : w₁.service = w.service)
    (htokens : w₁.tokens = w.tokens) : w.Sent k [] w₁ :=
  ⟨by simp [hmessages], hservice ▸ .nil _, rfl, by simp [htokens]⟩

theorem single {d : Dispatch} (hmessages : w₁.messages = w.messages ++ d.messages)
    (hserved : w.service.Serves [d] w₁.service) (hauthorized : d.authorized = k.answer w.tokens)
    (htokens : w₁.tokens = w.tokens.drop k.asks.length) : w.Sent k [d] w₁ := by
  constructor
  · rw [hmessages]
    exact congrArg (w.messages ++ ·) (List.append_nil _).symm
  · exact hserved
  · rw [List.map_singleton, hauthorized]
    rfl
  · rw [htokens, List.length_singleton, Nat.one_mul]

theorem append (h : w.Sent k ds w₁) (h' : w₁.Sent k ds' w₂) : w.Sent k (ds ++ ds') w₂ := by
  constructor
  · rw [h'.messages, h.messages, messagesOf_append, List.append_assoc]
  · exact h.served.append h'.served
  · rw [List.map_append, h.authorized, h'.authorized, h.tokens, List.length_append, k.answers_add]
  · rw [h'.tokens, h.tokens, List.drop_drop, List.length_append, Nat.add_mul]

end World.Sent

/-! ## Work -/

namespace Client

variable {c : Client} {r : Request}

/-- Whether what some work comes to and the dispatches that it makes have a property. -/
def Sends {α : Type} (c : Client) (act : Act α) (Q : α → List Dispatch → Prop) : Prop :=
  ∀ w, ∃ ds, w.Sent c.credential ds (act w).2 ∧ Q (act w).1 ds

namespace Sends

variable {α β : Type} {act : Act α} {f : α → Act β} {P : α → List Dispatch → Prop}
  {Q : β → List Dispatch → Prop}

/-- Work that leaves messages, the service and tokens alone makes no dispatch. -/
theorem of_quiet (h : ∀ w, (act w).2.messages = w.messages ∧ (act w).2.service = w.service ∧
    (act w).2.tokens = w.tokens) (hP : ∀ w, P (act w).1 []) : c.Sends act P :=
  fun w => ⟨[], .of_quiet (h w).1 (h w).2.1 (h w).2.2, hP w⟩

theorem pure {a : α} (h : P a []) : c.Sends (Pure.pure a) P :=
  of_quiet (fun _ => ⟨rfl, rfl, rfl⟩) fun _ => h

theorem bind (hact : c.Sends act P)
    (hf : ∀ a ds, P a ds → c.Sends (f a) fun b ds' => Q b (ds ++ ds')) : c.Sends (act >>= f) Q := by
  intro w
  obtain ⟨ds, hsent, hP⟩ := hact w
  obtain ⟨ds', hsent', hQ⟩ := hf _ ds hP (act w).2
  exact ⟨ds ++ ds', hsent.append hsent', hQ⟩

theorem mono {P' : α → List Dispatch → Prop} (h : c.Sends act P) (himp : ∀ a ds, P a ds → P' a ds) :
    c.Sends act P' :=
  fun w => (h w).imp fun _ ⟨hsent, hP⟩ => ⟨hsent, himp _ _ hP⟩

/-- Work after which nothing more is sent. -/
theorem map (hact : c.Sends act P) {g : α → β} (hg : ∀ a ds, P a ds → Q (g a) ds) :
    c.Sends (do return g (← act)) Q :=
  bind hact fun a ds ha => pure (by rw [List.append_nil]; exact hg a ds ha)

theorem report {level : Level} {message : String} {fields : Fields}
    {P : Unit → List Dispatch → Prop} (h : P () []) :
    c.Sends (report level message fields) P :=
  of_quiet (fun _ => ⟨rfl, rfl, rfl⟩) fun _ => h

theorem within (h : c.Sends act P) (spans : List Span) : c.Sends (within spans act) P := by
  intro w
  obtain ⟨ds, hsent, hP⟩ := h { w with spans }
  exact ⟨ds, ⟨hsent.messages, hsent.served, hsent.authorized, hsent.tokens⟩, hP⟩

theorem inSpan (h : c.Sends act P) (span : Span) : c.Sends (inSpan span act) P :=
  fun w => h.within (w.spans ++ [span]) w

/-- The messages that are recorded of some work are those of its dispatches. -/
theorem recorded (h : c.Sends act P) :
    c.Sends (recorded act) fun r ds => P r.1 ds ∧ r.2.1 = messagesOf ds := by
  intro w
  obtain ⟨ds, hsent, hP⟩ := h { w with messages := [], events := [] }
  have hmessages := hsent.messages
  rw [List.nil_append] at hmessages
  refine ⟨ds, ⟨?_, hsent.served, hsent.authorized, hsent.tokens⟩, hP, hmessages⟩
  show w.messages ++ _ = _
  rw [hmessages]

/-- Work that may fail, and what is done after it unless it fails. -/
theorem run_bind {run : Run α} {g : α → Run β} {P : Except Failure α → List Dispatch → Prop}
    {Q : Except Failure β → List Dispatch → Prop} (hrun : c.Sends run.attempt P)
    (herror : ∀ e ds, P (.error e) ds → Q (.error e) ds)
    (hg : ∀ a ds, P (.ok a) ds → c.Sends (g a).attempt fun b ds' => Q b (ds ++ ds')) :
    c.Sends (run >>= g).attempt Q := by
  show c.Sends (run.attempt >>= ExceptT.bindCont g) Q
  refine bind hrun fun x ds hx => ?_
  cases x with
  | error e => exact pure (by rw [List.append_nil]; exact herror e ds hx)
  | ok a => exact hg a ds hx

/-- Work that does not fail, and what is done after it. -/
theorem lift_bind {g : α → Run β} {Q : Except Failure β → List Dispatch → Prop}
    (hact : c.Sends act P)
    (hg : ∀ a ds, P a ds → c.Sends (g a).attempt fun b ds' => Q b (ds ++ ds')) :
    c.Sends ((liftM act : Run α) >>= g).attempt Q :=
  fun w => bind hact hg w

theorem run_inSpan {run : Run α} {P : Except Failure α → List Dispatch → Prop}
    (h : c.Sends run.attempt P) (span : Span) : c.Sends (Run.inSpan span run).attempt P :=
  h.inSpan span

end Sends

/-! ## Requests -/

/-- A request is one dispatch, retries included. -/
theorem sends_send (c : Client) (r : Request) (expected : List Status) (k : Classification) :
    c.Sends (c.send r expected k).attempt fun reply ds =>
      ∃ d, ds = [d] ∧ d.request = r ∧ d.reply = reply := by
  intro w
  have hauth := c.credential.authorize_attempt_eq w
  cases hanswer : c.credential.answer w.tokens with
  | error e =>
    rw [hanswer] at hauth
    rw [send_attempt_of_unauthorized hauth]
    exact ⟨[⟨r, .error e, 0, .error e⟩],
      .single (List.append_nil _).symm w.service.serves_of_unsent hanswer.symm rfl, _, rfl, rfl, rfl⟩
  | ok value =>
    rw [hanswer] at hauth
    cases hm : r.message? value with
    | none =>
      rw [send_attempt_of_refused hauth hm]
      refine ⟨[⟨r, .ok value, 0, .error (.request .refused)⟩],
        .single ?_ w.service.serves_of_unsent hanswer.symm rfl, _, rfl, rfl, rfl⟩
      simp [Dispatch.messages, World.afterAsking, hm]
    | some m =>
      obtain ⟨n, -, hrun⟩ := @send_attempt_of_message c r expected k w value m hauth hm
      obtain ⟨tries, htries, hserved⟩ : ∃ tries,
          w.service.reached (List.replicate (n + 1) m) = List.replicate tries m ∧
          w.service.Serves [⟨r, .ok value, tries,
            settle expected k ((w.service.answer n).outcome r.method)⟩] (w.service.after (n + 1)) := by
        cases w.service with
        | unreachable => exact ⟨0, rfl, Service.serves_of_unsent _⟩
        | scripted answers =>
          refine ⟨n + 1, rfl, .cons (fun reply hreply => ?_) (.nil _)⟩
          exact ⟨n, rfl, (settle_eq_ok_iff.1 hreply).1⟩
      rw [hrun]
      refine ⟨[⟨r, .ok value, tries, _⟩], .single ?_ hserved hanswer.symm rfl, _, rfl, rfl, rfl⟩
      show w.messages ++ w.service.reached (List.replicate (n + 1) m) = _
      simp [Dispatch.messages, hm, htries]

/-- Reading the body of a reply sends nothing. -/
theorem sends_readBody (reply : Reply) {P : Except Failure (List UInt8) → List Dispatch → Prop}
    (h : ∀ x, (∀ body, x = .ok body → reply.body = some body) → P x []) :
    c.Sends reply.readBody.attempt P := by
  unfold Reply.readBody
  split
  next body hbody =>
    refine .of_quiet (fun _ => ⟨rfl, rfl, rfl⟩) fun _ => h _ fun body' hbody' => ?_
    cases hbody'
    exact hbody
  · exact .of_quiet (fun _ => ⟨rfl, rfl, rfl⟩) fun _ => h _ fun _ hbody => nomatch hbody

theorem sends_decodeBody {α : Type} (d : Json.Decoder α) (reply : Reply)
    {P : Except Failure α → List Dispatch → Prop} (h : ∀ x, P x []) :
    c.Sends (reply.decodeBody d).attempt P := by
  refine .run_bind (P := fun _ ds => ds = []) (sends_readBody reply fun _ _ => rfl) ?_ ?_
  · rintro e _ rfl
    exact h _
  · rintro body _ rfl
    split
    · exact .of_quiet (fun _ => ⟨rfl, rfl, rfl⟩) fun _ => h _
    · exact .of_quiet (fun _ => ⟨rfl, rfl, rfl⟩) fun _ => h _

/-- The first request of an operation: its URL is made from a route, and it has the fields that the
options ask for. -/
structure Opens (c : Client) (o : CallOptions) (body : Option Json.Value) (r : Request) : Prop where
  url : ∃ route params, c.address route params o = .ok r.url
  fields : r.fields = o.fields
  body : r.body = body

/-- A further request of a listing: it follows a link, and is for nothing more. -/
def Continues (c : Client) (link : String) (r : Request) : Prop :=
  ∃ u, c.continuation link = .ok u ∧ r = .get u

/-- Whether there is one dispatch at most, and its request has a property. -/
def AtMostOne (p : Request → Prop) (ds : List Dispatch) : Prop :=
  ds = [] ∨ ∃ d, ds = [d] ∧ p d.request

theorem sends_call (c : Client) (method : String) (route : Route) (params : List (String × String))
    (body : Option Json.Value) (options : CallOptions) (expected : List Status) :
    c.Sends (c.call method route params body options expected).attempt fun _ ds =>
      AtMostOne (c.Opens options body) ds := by
  refine .run_bind (P := fun x ds => ds = [] ∧ x = c.address route params options) ?_ ?_ ?_
  · exact .of_quiet (fun _ => ⟨rfl, rfl, rfl⟩) fun _ => ⟨rfl, rfl⟩
  · rintro e _ ⟨rfl, -⟩
    exact Or.inl rfl
  · rintro url _ ⟨rfl, haddress⟩
    refine (c.sends_send _ expected options.classification).mono ?_
    rintro _ _ ⟨d, rfl, hd, -⟩
    exact Or.inr ⟨d, rfl, hd ▸ ⟨⟨route, params, haddress.symm⟩, rfl, rfl⟩⟩

/-- An operation sends what it asks, if nothing is sent for the reply. -/
theorem sends_operation {α : Type} {span : Span} {level : Level} {words : String} {fields : Fields}
    {ask : Run Reply} {f : Reply → Run α} {P : List Dispatch → Prop}
    (hask : c.Sends ask.attempt fun _ => P)
    (hf : ∀ reply, c.Sends (f reply).attempt fun _ ds => ds = []) :
    c.Sends (Run.inSpan span (do
      report level words fields
      let reply ← ask
      f reply)).attempt fun _ => P := by
  have hreply : c.Sends (ask >>= f).attempt fun _ => P := by
    refine .run_bind hask (fun _ _ h => h) fun reply ds h => (hf reply).mono ?_
    rintro _ _ rfl
    rwa [List.append_nil]
  refine .run_inSpan ?_ span
  refine .run_bind (P := fun x ds => x = .ok () ∧ ds = [])
    (.of_quiet (fun _ => ⟨rfl, rfl, rfl⟩) fun _ => ⟨rfl, rfl⟩) (fun _ _ h => nomatch h.1) ?_
  rintro _ _ ⟨-, rfl⟩
  exact hreply

/-- What is done with a reply that is decoded: nothing, or one more report. -/
theorem sends_decodeBody_report {α : Type} (d : Json.Decoder α) (level : Level) (words : String)
    (fields : α → Fields) (reply : Reply) :
    c.Sends (do
      let a ← reply.decodeBody d
      report level words (fields a)
      return a : Run α).attempt fun _ ds => ds = [] := by
  refine .run_bind (P := fun _ ds => ds = []) (c.sends_decodeBody d reply fun _ => rfl)
    (fun _ _ h => h) ?_
  rintro a _ rfl
  exact .of_quiet (fun _ => ⟨rfl, rfl, rfl⟩) fun _ => rfl

theorem sends_getPolicy (c : Client) (n : PolicyName) (options : CallOptions) :
    c.Sends (c.getPolicy n options).attempt fun _ => AtMostOne (c.Opens options none) :=
  sends_operation (c.sends_call _ _ _ _ _ _) fun reply => c.sends_decodeBody _ reply fun _ => rfl

theorem sends_writePolicy (c : Client) (n : PolicyName) (policy : Policy) (options : CallOptions) :
    c.Sends (c.writePolicy n policy options).attempt fun _ =>
      AtMostOne (c.Opens options (some policy.toJson)) :=
  sends_operation (c.sends_call _ _ _ _ _ _) fun reply => sends_decodeBody_report _ _ _ _ reply

theorem sends_deletePolicy (c : Client) (n : PolicyName) (options : CallOptions) :
    c.Sends (c.deletePolicy n options).attempt fun _ => AtMostOne (c.Opens options none) :=
  sends_operation (c.sends_call _ _ _ _ _ _) fun _ =>
    .of_quiet (fun _ => ⟨rfl, rfl, rfl⟩) fun _ => rfl

theorem sends_initiateAccess (c : Client) (n : PolicyName) (order : AccessOrder)
    (options : CallOptions) :
    c.Sends (c.initiateAccess n order options).attempt fun _ =>
      AtMostOne (c.Opens options (some order.toJson)) :=
  sends_operation (c.sends_call _ _ _ _ _ _) fun reply => sends_decodeBody_report _ _ _ _ reply

/-! ## Fields -/

/-- The fields that every message has, with the value that authorizes it. -/
def standardFields (value : String) : List Field :=
  [("authorization", value), ("accept", "application/json")]

/-- The fields that a message has for the user and the password in the URL of its request. -/
def basicFields (r : Request) : List Field :=
  (basic? r.url.credentials.1 r.url.credentials.2).toList.map ("authorization", ·)

/-- The field that a message has for its body, unless the options have one of the name. -/
def typeFields (o : CallOptions) (body : Option Json.Value) : List Field :=
  if body.isSome && !(o.fields.map lowerName).any (·.1 == "content-type") then
    [("content-type", "application/json")]
  else []

theorem credentials_of_address {route : Route} {params : List (String × String)}
    {o : CallOptions} {u : Url} (h : c.address route params o = .ok u) :
    u.credentials = c.endpoint.credentials := by
  unfold address at h
  split at h
  · cases h
  · cases h
    unfold Url.extendPath
    split <;> rfl

theorem basicFields_of_opens {o : CallOptions} {body : Option Json.Value}
    (h : c.Opens o body r) (hendpoint : c.endpoint.credentials = ("", "")) :
    basicFields r = [] := by
  obtain ⟨route, params, hurl⟩ := h.url
  have hnone : basic? "" "" = none := by decide
  rw [basicFields, credentials_of_address hurl, hendpoint, hnone]
  rfl

theorem allFields_of_opens {o : CallOptions} {body : Option Json.Value} (h : c.Opens o body r)
    (hendpoint : c.endpoint.credentials = ("", "")) (value : String) :
    r.allFields value = standardFields value ++ o.fields.map lowerName ++ typeFields o body := by
  have hall : r.allFields value =
      if r.body.isSome && !(basicFields r ++ standardFields value ++ r.fields.map lowerName).any
        (·.1 == "content-type") then
        basicFields r ++ standardFields value ++ r.fields.map lowerName ++
          [("content-type", "application/json")]
      else basicFields r ++ standardFields value ++ r.fields.map lowerName := rfl
  have hstandard : (standardFields value).any (·.1 == "content-type") = false := by
    simp [standardFields]
  rw [hall, basicFields_of_opens h hendpoint, h.fields, h.body, List.nil_append, List.any_append,
    hstandard, Bool.false_or, typeFields]
  split
  · rfl
  · exact (List.append_nil _).symm

theorem allFields_of_continues {link : String} (h : c.Continues link r) (value : String) :
    r.allFields value = basicFields r ++ standardFields value := by
  obtain ⟨u, -, rfl⟩ := h
  exact List.append_nil _

/-- Whether the options ask for none of the standard fields. -/
def AddsNoStandard (o : CallOptions) : Prop :=
  ∀ f ∈ o.fields, (lowerName f).1 ≠ "authorization" ∧ (lowerName f).1 ≠ "accept"

instance (o : CallOptions) : Decidable (AddsNoStandard o) :=
  inferInstanceAs (Decidable (∀ f ∈ o.fields, _))

end Client

end JitAccess
