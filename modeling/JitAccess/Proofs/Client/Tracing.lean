import JitAccess.Proofs.Client.Retrying
import JitAccess.Proofs.Policy.Addressing

/-!
# The trace of a request

What a request reports can be read off its journal alone: one warning for each message after the
first, and at the end its failure, if a reply is what failed. The main statement is `send_traced`.
`send_attempt_of_message` says where the retries end and what is reported until then; what remains is
that the messages are counted by the retries, also where none of them arrives, and that what the loop
reports of its last answer depends on the outcome only.
-/

namespace JitAccess

open Http Trace

/-- What is reported of the outcome of a request: the status and the kind of a failed reply, and
nothing of any other outcome. -/
def failureEvents (spans : List Span) : Except Failure Reply → List Event
  | .error (.http kind reply) =>
    [⟨.debug, "request failed",
      [("status", .number reply.status.toNat), ("kind", .text kind.message)], spans⟩]
  | _ => []

theorem closingEvents_outcome (expected : List Status) (c : Classification) (spans : List Span)
    (a : Answer) (method : String) :
    closingEvents expected c spans (a.outcome method) =
      failureEvents spans (settle expected c (a.outcome method)) := by
  cases ha : a.outcome method with
  | error e => rcases Answer.eq_of_outcome_error ha with rfl | rfl <;> rfl
  | ok r =>
    by_cases hexpected : r.status ∈ expected
    · simp only [closingEvents, settle, if_pos hexpected, failureEvents]
    · simp only [closingEvents, settle, if_neg hexpected, failureEvents]
      rfl

/-! ## Journals -/

namespace World

/-- The messages and the events that lead from a world to another, which has the same spans open. -/
structure Told (w : World) (messages : List Message) (events : List Event) (w' : World) : Prop where
  messages : w'.messages = w.messages ++ messages
  events : w'.events = w.events ++ events
  spans : w'.spans = w.spans

variable {w w₁ w₂ : World} {messages messages' : List Message} {events events' : List Event}

theorem Told.refl (w : World) : w.Told [] [] w :=
  ⟨(List.append_nil _).symm, (List.append_nil _).symm, rfl⟩

theorem Told.append (h : w.Told messages events w₁) (h' : w₁.Told messages' events' w₂) :
    w.Told (messages ++ messages') (events ++ events') w₂ := by
  constructor
  · rw [h'.messages, h.messages, List.append_assoc]
  · rw [h'.events, h.events, List.append_assoc]
  · rw [h'.spans, h.spans]

end World

/-! ## Counting -/

theorem countP_warn_retryEvents (policy : RetryPolicy) (w : World) (first n : Nat) :
    (retryEvents policy w first n).countP (·.level = .warn) = n := by
  simp [retryEvents, retryEvent, List.countP_map, Function.comp_def]

theorem countP_warn_failureEvents (spans : List Span) (outcome : Except Failure Reply) :
    (failureEvents spans outcome).countP (·.level = .warn) = 0 := by
  unfold failureEvents
  split <;> simp

/-- Where the retries end, there are as many messages before the last as retries. Nothing arrives at a
service that cannot be reached, and nothing is sent to it again. -/
theorem Service.length_reached {s : Service} {expected : List Status} {c : Classification}
    {method : String} {limit n : Nat}
    (h : IsLeast {i | EndsRetries expected c ((s.answer i).outcome method) ∨ i = limit} n)
    (m : Message) : (s.reached (List.replicate (n + 1) m)).length - 1 = n := by
  cases s with
  | unreachable => exact (Nat.le_zero.1 (h.2 (Or.inl trivial))).symm
  | scripted answers => simp [Service.reached]

theorem Service.reached_subset {s : Service} {l : List Message} {m : Message} (h : m ∈ s.reached l) :
    m ∈ l := by
  cases s with
  | unreachable => cases h
  | scripted answers => exact h

/-- A message with a reply has arrived. -/
theorem Service.reached_ne_nil {s : Service} {method : String} {n : Nat} {reply : Reply}
    (h : (s.answer n).outcome method = .ok reply) {l : List Message} (hl : l ≠ []) :
    s.reached l ≠ [] := by
  cases s with
  | unreachable => cases h
  | scripted answers => exact hl

/-- What is retried is a reply that is neither expected nor final. -/
theorem exists_reply_of_not_endsRetries {expected : List Status} {c : Classification} {a : Answer}
    {method : String} (h : ¬ EndsRetries expected c (a.outcome method)) :
    ∃ reply, a.outcome method = .ok reply ∧ reply.status = a.status ∧ reply.status ∉ expected ∧
      isRetriable reply.status = true ∧ c.kind? reply.status = none := by
  cases ha : a.outcome method with
  | error e => exact absurd (by rw [ha]; trivial) h
  | ok reply =>
    rw [ha] at h
    obtain ⟨hexpected, hstatus⟩ := not_or.1 h
    obtain ⟨hretriable, hkind⟩ := not_or.1 hstatus
    exact ⟨reply, rfl, Answer.status_of_outcome ha, hexpected, by simpa using hretriable,
      by simpa using hkind⟩

namespace Client

/-- The journal of a request tells what became of it. -/
structure Traced (client : Client) (r : Request) (expected : List Status) (c : Classification)
    (w : World) (outcome : Except Failure Reply) (messages : List Message) (events : List Event) :
    Prop where
  /-- One warning for each message after the first, in order, and then what is told of the outcome. -/
  events_eq : events =
    retryEvents client.retry w 0 (messages.length - 1) ++ failureEvents w.spans outcome
  /-- Whatever was sent again had a reply that is neither expected nor final. -/
  retried : ∀ i < messages.length - 1, ∃ reply,
    (w.service.answer i).outcome r.method = .ok reply ∧
      reply.status = (w.service.answer i).status ∧ reply.status ∉ expected ∧
      isRetriable reply.status = true ∧ c.kind? reply.status = none
  /-- A failed reply is the answer to the last message, with the kind that its status means. -/
  failed : ∀ kind failed, outcome = .error (.http kind failed) → messages ≠ [] ∧ ∃ reply,
    (w.service.answer (messages.length - 1)).outcome r.method = .ok reply ∧
      reply.status ∉ expected ∧ kind = c.classify reply.status ∧ failed = .ofReply reply

variable {client : Client} {r : Request} {expected : List Status} {c : Classification} {w : World}
  {outcome : Except Failure Reply} {messages : List Message} {events : List Event}

theorem Traced.countP_warn (h : client.Traced r expected c w outcome messages events) :
    events.countP (·.level = .warn) = messages.length - 1 := by
  rw [h.events_eq, List.countP_append, countP_warn_retryEvents, countP_warn_failureEvents,
    Nat.add_zero]

/-- All that a request reports, it reports inside the spans that are open. -/
theorem Traced.of_mem (h : client.Traced r expected c w outcome messages events) {e : Event}
    (he : e ∈ events) :
    e.spans = w.spans ∧ e.message ∈ ["transient error, retrying", "request failed"] := by
  rw [h.events_eq, List.mem_append] at he
  rcases he with he | he
  · obtain ⟨i, -, rfl⟩ := List.mem_map.1 he
    exact ⟨rfl, List.mem_cons_self⟩
  · unfold failureEvents at he
    split at he
    · obtain rfl := List.mem_singleton.1 he
      exact ⟨rfl, List.mem_cons_of_mem _ List.mem_cons_self⟩
    · cases he

/-- A request that fails before anything is sent is not told of. -/
theorem traced_of_unsent {e : Failure} (he : ∀ kind failed, e ≠ .http kind failed) :
    client.Traced r expected c w (.error e) [] [] where
  events_eq := by
    cases e with
    | http kind failed => exact absurd rfl (he kind failed)
    | _ => rfl
  retried i hi := absurd hi (Nat.not_lt_zero i)
  failed kind failed h := absurd (Except.error.inj h) (he kind failed)

/-- The journal of the loop, up to the answer where the retries end. -/
theorem traced_of_isLeast {m : Message} {n : Nat}
    (hn : IsLeast {i | EndsRetries expected c ((w.service.answer i).outcome r.method) ∨
      i = client.retry.maxRetries.toNat} n) :
    client.Traced r expected c w (settle expected c ((w.service.answer n).outcome r.method))
      (w.service.reached (List.replicate (n + 1) m))
      (retryEvents client.retry w 0 n ++
        closingEvents expected c w.spans ((w.service.answer n).outcome r.method)) where
  events_eq := by rw [Service.length_reached hn, closingEvents_outcome]
  retried i hi := by
    rw [Service.length_reached hn] at hi
    refine exists_reply_of_not_endsRetries fun hends => ?_
    exact Nat.not_le_of_lt hi (hn.2 (Or.inl hends))
  failed kind failed h := by
    obtain ⟨reply, houtcome, hreply⟩ := settle_outcome_eq_http_iff.1 h
    refine ⟨Service.reached_ne_nil houtcome (by simp), reply, ?_, hreply⟩
    rw [Service.length_reached hn]
    exact houtcome

/-- What a request tells a world on its way, and that its messages are its own. -/
theorem told_send (client : Client) (r : Request) (expected : List Status) (c : Classification)
    (w : World) :
    ∃ messages events, w.Told messages events ((client.send r expected c).attempt w).2 ∧
      client.Traced r expected c w ((client.send r expected c).attempt w).1 messages events ∧
      ∀ m ∈ messages, ∃ value, r.message? value = some m := by
  have hquiet : w.Told [] [] (w.afterAsking client.credential) :=
    ⟨(List.append_nil _).symm, (List.append_nil _).symm, rfl⟩
  have hauth := client.credential.authorize_attempt_eq w
  cases hanswer : client.credential.answer w.tokens with
  | error e =>
    obtain ⟨reason, rfl⟩ := Credential.exists_reason_of_answer hanswer
    rw [hanswer] at hauth
    rw [send_attempt_of_unauthorized hauth]
    exact ⟨[], [], hquiet, traced_of_unsent (fun _ _ => nofun), List.forall_mem_nil _⟩
  | ok value =>
    rw [hanswer] at hauth
    cases hm : r.message? value with
    | none =>
      rw [send_attempt_of_refused hauth hm]
      exact ⟨[], [], hquiet, traced_of_unsent (fun _ _ => nofun), List.forall_mem_nil _⟩
    | some m =>
      obtain ⟨n, hn, hrun⟩ := @send_attempt_of_message client r expected c w value m hauth hm
      rw [hrun]
      obtain rfl := Request.eq_of_message? hm
      refine ⟨_, _, ⟨rfl, rfl, rfl⟩, traced_of_isLeast hn, fun m hmem => ⟨value, ?_⟩⟩
      have hsent := List.eq_of_mem_replicate (Service.reached_subset hmem)
      rwa [hsent]

/-- **A trace is faithful.** What a request reports is one warning for each retry, with the number of the
retry and the status of the reply before it, and after them, exactly if a reply is what failed, its
status and its kind. So there is one warning less than there are messages, if there are any. -/
theorem send_traced (client : Client) (r : Request) (expected : List Status) (c : Classification)
    (w : World) :
    ∃ outcome messages events w', recorded (client.send r expected c).attempt w =
        ((outcome, messages, events), w') ∧
      client.Traced r expected c w outcome messages events ∧
      events.countP (·.level = .warn) = messages.length - 1 := by
  obtain ⟨messages, events, htold, htraced, -⟩ :=
    client.told_send r expected c { w with messages := [], events := [] }
  rcases hsend : (client.send r expected c).attempt { w with messages := [], events := [] } with
    ⟨outcome, w'⟩
  rw [hsend] at htold htraced
  obtain rfl : w'.messages = messages := htold.messages
  obtain rfl : w'.events = events := htold.events
  exact ⟨outcome, _, _, _, recorded_of_eq hsend, { htraced with }, htraced.countP_warn⟩

example : (recorded (publicCloud.send (.get publicCloud.endpoint) [200] .standard).attempt
    { service := .scripted [.reply ⟨503, [], some []⟩, .reply ⟨404, [], some []⟩] }).1.2.2 =
    [⟨.warn, "transient error, retrying",
        [("status", .number 503), ("attempt", .number 0), ("backoff_ms", .number 500)], []⟩,
      ⟨.debug, "request failed",
        [("status", .number 404), ("kind", .text "Resource not found")], []⟩] := by decide +kernel

end Client

end JitAccess
