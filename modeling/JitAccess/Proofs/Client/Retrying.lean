import JitAccess.Client.Sending
import JitAccess.Proofs.Run.World
import Mathlib.Order.Bounds.Defs

/-!
# Retries

A message is sent until an answer ends the retries or their number does, and the last answer alone
decides. The main statement is `send_settled`. Its proof is an induction over the retries that are
left, in which `sendRepeatedly_attempt` says everything that the loop does to the world: the
messages, the jitters it draws and the events it reports.
-/

namespace JitAccess

open Http Trace

/-! ## Single answers -/

/-- The status that an answer comes with; zero where there is none. -/
def Answer.status : Answer → Status
  | .reply r => r.status
  | .dropped | .silent => 0

theorem Answer.status_of_outcome {a : Answer} {method : String} {r : Reply}
    (h : a.outcome method = .ok r) : r.status = a.status := by
  cases a with
  | reply r' =>
    obtain rfl := Except.ok.inj h
    unfold Reply.delivered Answer.status
    split <;> rfl
  | dropped => cases h
  | silent => cases h

/-- An answer that is no reply is a broken connection or none in time. -/
theorem Answer.eq_of_outcome_error {a : Answer} {method : String} {e : Failure}
    (h : a.outcome method = .error e) : e = .request .broken ∨ e = .request .timedOut := by
  cases a with
  | reply r => cases h
  | dropped => exact .inl (Except.error.inj h).symm
  | silent => exact .inr (Except.error.inj h).symm

/-- Whether an outcome ends the retries, however many are left. -/
def EndsRetries (expected : List Status) (c : Classification) : Except Failure Reply → Prop
  | .error _ => True
  | .ok r => r.status ∈ expected ∨ isRetriable r.status = false ∨ (c.kind? r.status).isSome

/-- What the last outcome makes of a request. -/
def settle (expected : List Status) (c : Classification) :
    Except Failure Reply → Except Failure Reply
  | .error e => .error e
  | .ok r => if r.status ∈ expected then .ok r else .error (.http (c.classify r.status) (.ofReply r))

theorem settle_eq_ok_iff {expected : List Status} {c : Classification}
    {outcome : Except Failure Reply} {reply : Reply} :
    settle expected c outcome = .ok reply ↔ outcome = .ok reply ∧ reply.status ∈ expected := by
  cases outcome with
  | error e => simp [settle]
  | ok r =>
    by_cases hexpected : r.status ∈ expected
    · simp only [settle, if_pos hexpected, Except.ok.injEq]
      constructor
      · rintro rfl
        exact ⟨rfl, hexpected⟩
      · exact And.left
    · simp only [settle, if_neg hexpected, Except.ok.injEq, reduceCtorEq, false_iff]
      rintro ⟨rfl, hmem⟩
      exact hexpected hmem

/-- A request fails for a reply exactly if this is its last outcome and not a success. -/
theorem settle_outcome_eq_http_iff {expected : List Status} {c : Classification} {a : Answer}
    {method : String} {kind : FailureKind} {failed : FailedReply} :
    settle expected c (a.outcome method) = .error (.http kind failed) ↔
      ∃ reply, a.outcome method = .ok reply ∧ reply.status ∉ expected ∧
        kind = c.classify reply.status ∧ failed = .ofReply reply := by
  cases ha : a.outcome method with
  | error e => rcases Answer.eq_of_outcome_error ha with rfl | rfl <;> simp [settle]
  | ok reply =>
    by_cases hexpected : reply.status ∈ expected
    · simp [settle, hexpected]
    · rw [settle, if_neg hexpected]
      constructor
      · intro h
        cases h
        exact ⟨reply, rfl, hexpected, rfl, rfl⟩
      · rintro ⟨_, hreply, -, rfl, rfl⟩
        rw [Except.ok.inj hreply]

/-- What is reported of a last outcome. -/
def closingEvents (expected : List Status) (c : Classification) (spans : List Span) :
    Except Failure Reply → List Event
  | .error _ => []
  | .ok r =>
    if r.status ∈ expected then []
    else
      [⟨.debug, "request failed",
        [("status", .number r.status.toNat), ("kind", .text (c.classify r.status).message)], spans⟩]

/-- What is reported of a retry. -/
def retryEvent (policy : RetryPolicy) (spans : List Span) (attempt : Nat) (status : Status)
    (jitter : Jitter) : Event :=
  ⟨.warn, "transient error, retrying",
    [("status", .number status.toNat), ("attempt", .number attempt),
      ("backoff_ms", .number (UInt64.ofNat (policy.backoff attempt jitter).millis).toNat)], spans⟩

/-- What is reported of some retries, the first of them the one of number `first`. -/
def retryEvents (policy : RetryPolicy) (w : World) (first n : Nat) : List Event :=
  (List.range n).map fun i =>
    retryEvent policy w.spans (first + i) (w.service.answer i).status (w.jitters.getD i .neutral)

theorem failWith_attempt (c : Classification) (r : Reply) (w : World) :
    (failWith c r : Run Reply).attempt w =
      (.error (.http (c.classify r.status) (.ofReply r)),
        { w with events := w.events ++ [⟨.debug, "request failed",
          [("status", .number r.status.toNat), ("kind", .text (c.classify r.status).message)],
          w.spans⟩] }) := rfl

/-! ## The loop -/

/-- The world after a message has been sent until the outcome of index `n`. -/
def World.afterRetries (w : World) (policy : RetryPolicy) (expected : List Status)
    (c : Classification) (m : Message) (first n : Nat) : World :=
  { w.afterMessages m (n + 1) with
    jitters := w.jitters.drop n
    events := w.events ++ (retryEvents policy w first n ++
      closingEvents expected c w.spans ((w.service.answer n).outcome m.method)) }

theorem sendRepeatedly_attempt_of_ends {policy : RetryPolicy} {expected : List Status}
    {c : Classification} {m : Message} {attempt : UInt32} {w : World}
    (h : EndsRetries expected c ((w.service.answer 0).outcome m.method) ∨
      policy.maxRetries ≤ attempt) :
    (sendRepeatedly policy expected c m attempt).attempt w =
      (settle expected c ((w.service.answer 0).outcome m.method),
        w.afterRetries policy expected c m attempt.toNat 0) := by
  have hx := exchange_attempt m w
  rw [sendRepeatedly]
  unfold World.afterRetries
  cases hr : (w.service.answer 0).outcome m.method with
  | error e =>
    rw [hr] at hx
    rw [Run.attempt_bind_error hx]
    simp [settle, closingEvents, retryEvents, World.afterMessages]
  | ok r =>
    rw [hr] at hx h
    rw [Run.attempt_bind_ok hx]
    by_cases hexp : r.status ∈ expected
    · simp [hexp, settle, closingEvents, retryEvents, World.afterMessages]
    · have hfail : settle expected c (.ok r) = .error (.http (c.classify r.status) (.ofReply r)) :=
        if_neg hexp
      rw [if_neg (by simpa using hexp), hfail]
      by_cases hkind : isRetriable r.status = false ∨ (c.kind? r.status).isSome
      · rw [if_pos (by simpa using hkind), failWith_attempt]
        simp [hexp, closingEvents, retryEvents, World.afterMessages]
      · have hlast : policy.maxRetries ≤ attempt := h.resolve_left fun h => h.elim hexp hkind
        rw [if_neg (by simpa using hkind), dif_pos hlast, failWith_attempt]
        simp [hexp, closingEvents, retryEvents, World.afterMessages]

/-- The world after one try and the pause before the next. -/
def World.afterRetry (w : World) (policy : RetryPolicy) (m : Message) (attempt : Nat) : World :=
  { w.afterMessages m 1 with
    jitters := w.jitters.drop 1
    events := w.events ++ [retryEvent policy w.spans attempt (w.service.answer 0).status
      (w.jitters.getD 0 .neutral)] }

theorem sendRepeatedly_attempt_of_retry {policy : RetryPolicy} {expected : List Status}
    {c : Classification} {m : Message} {attempt : UInt32} {w : World}
    (h : ¬ EndsRetries expected c ((w.service.answer 0).outcome m.method))
    (hleft : attempt < policy.maxRetries) :
    (sendRepeatedly policy expected c m attempt).attempt w =
      (sendRepeatedly policy expected c m (attempt + 1)).attempt
        (w.afterRetry policy m attempt.toNat) := by
  have hx := exchange_attempt m w
  cases hr : (w.service.answer 0).outcome m.method with
  | error e => exact absurd (by rw [hr]; trivial) h
  | ok r =>
    rw [hr] at hx h
    obtain ⟨hexp, hkind⟩ := not_or.1 h
    rw [sendRepeatedly, Run.attempt_bind_ok hx, if_neg (by simpa using hexp),
      if_neg (by simpa using hkind), dif_neg (UInt32.not_le.2 hleft), Answer.status_of_outcome hr]
    rw [Run.attempt_bind, Run.attempt_lift, drawJitter_apply]
    rfl

theorem World.afterRetries_afterRetry (w : World) (policy : RetryPolicy) (expected : List Status)
    (c : Classification) (m : Message) (first n : Nat) :
    (w.afterRetry policy m first).afterRetries policy expected c m (first + 1) n =
      w.afterRetries policy expected c m first (n + 1) := by
  have hservice : (w.afterRetry policy m first).service = w.service.after 1 := rfl
  have hanswer (i : Nat) : (w.service.after 1).answer i = w.service.answer (i + 1) := by
    rw [Service.answer_after, Nat.add_comm]
  have hretries : retryEvents policy w first (n + 1) =
      retryEvent policy w.spans first (w.service.answer 0).status (w.jitters.getD 0 .neutral) ::
        retryEvents policy (w.afterRetry policy m first) (first + 1) n := by
    simp [retryEvents, List.range_succ_eq_map, hanswer, Function.comp_def,
      World.afterRetry, World.afterMessages, Nat.add_assoc, Nat.add_comm 1]
  unfold World.afterRetries
  rw [hretries, hservice, hanswer]
  simp [World.afterRetry, World.afterMessages, Service.after_after, Service.reached_append,
    List.replicate_succ, Nat.add_comm 1]

/-- What the loop does, whatever it begins with. -/
theorem sendRepeatedly_attempt (policy : RetryPolicy) (expected : List Status)
    (c : Classification) (m : Message) (left : Nat) (attempt : UInt32) (w : World)
    (hleft : attempt.toNat + left = policy.maxRetries.toNat) :
    ∃ n, IsLeast
        {i | EndsRetries expected c ((w.service.answer i).outcome m.method) ∨ i = left} n ∧
      (sendRepeatedly policy expected c m attempt).attempt w =
        (settle expected c ((w.service.answer n).outcome m.method),
          w.afterRetries policy expected c m attempt.toNat n) := by
  induction left generalizing attempt w with
  | zero =>
    have hlast : policy.maxRetries ≤ attempt := UInt32.le_iff_toNat_le.2 (by omega)
    exact ⟨0, ⟨Or.inr rfl, fun i _ => Nat.zero_le i⟩, sendRepeatedly_attempt_of_ends (Or.inr hlast)⟩
  | succ left ih =>
    by_cases hends : EndsRetries expected c ((w.service.answer 0).outcome m.method)
    · exact ⟨0, ⟨Or.inl hends, fun i _ => Nat.zero_le i⟩,
        sendRepeatedly_attempt_of_ends (Or.inl hends)⟩
    · -- What is left is the same loop one try later, where each answer has the index before its own.
      have hlt : attempt < policy.maxRetries := UInt32.lt_iff_toNat_lt.2 (by omega)
      have hsucc := toNat_add_one_of_lt (UInt32.lt_iff_toNat_lt.1 hlt)
      obtain ⟨n, hn, hrun⟩ := ih (attempt + 1) (w.afterRetry policy m attempt.toNat) (by omega)
      have hanswer (i : Nat) : (w.afterRetry policy m attempt.toNat).service.answer i =
          w.service.answer (i + 1) := by
        show (w.service.after 1).answer i = _
        rw [Service.answer_after, Nat.add_comm]
      simp only [hanswer] at hn hrun
      refine ⟨n + 1, ⟨?_, ?_⟩, ?_⟩
      · exact hn.1.imp id (congrArg (· + 1))
      · rintro (_ | i) hi
        · exact absurd hi (not_or.2 ⟨hends, by omega⟩)
        · exact Nat.succ_le_succ (hn.2 (hi.imp id Nat.succ.inj))
      · rw [sendRepeatedly_attempt_of_retry hends hlt, hrun, hsucc,
          World.afterRetries_afterRetry]

/-! ## Whole requests -/

/-- The scopes that a credential asks for to authorize one request. -/
def Credential.asks : Credential → List String
  | .accessToken _ => []
  | .tokenSource => [managementScope]

/-- The world after a credential has been asked once. -/
def World.afterAsking (w : World) (k : Credential) : World :=
  { w with
    scopes := w.scopes ++ k.asks
    tokens := w.tokens.drop k.asks.length }

/-- What a credential answers with, from the tokens that its source has left. -/
def Credential.answer : Credential → List (Except String String) → Except Failure String
  | .accessToken token, _ => .ok (bearer token)
  | .tokenSource, [] => .error (.auth noTokenLeft)
  | .tokenSource, answer :: _ => (answer.map bearer).mapError .auth

theorem Credential.authorize_attempt_eq (k : Credential) (w : World) :
    k.authorize.attempt w = (k.answer w.tokens, w.afterAsking k) := by
  obtain ⟨service, tokens, jitters, spans, messages, scopes, events⟩ := w
  cases k with
  | accessToken token => simp [authorize, World.afterAsking, asks, answer]
  | tokenSource => rcases tokens with _ | ⟨reason | token, rest⟩ <;> rfl

theorem Credential.exists_reason_of_answer {k : Credential} {tokens : List (Except String String)}
    {e : Failure} (h : k.answer tokens = .error e) : ∃ reason, e = .auth reason := by
  cases k with
  | accessToken token => cases h
  | tokenSource =>
    rcases tokens with _ | ⟨reason | token, rest⟩
    · exact ⟨noTokenLeft, (Except.error.inj h).symm⟩
    · exact ⟨reason, (Except.error.inj h).symm⟩
    · cases h

theorem Credential.authorize_attempt (k : Credential) (w : World) :
    ∃ authorized, k.authorize.attempt w = (authorized, w.afterAsking k) ∧
      ∀ e, authorized = .error e → ∃ reason, e = .auth reason :=
  ⟨_, k.authorize_attempt_eq w, fun _ => exists_reason_of_answer⟩

theorem Http.Request.message?_eq_none_iff {r : Request} {authorization : String} :
    r.message? authorization = none ↔
      isSendable r.url = false ∨ ∃ f ∈ r.allFields authorization, isField f = false := by
  have hall : (∃ f ∈ r.allFields authorization, isField f = false) ↔
      (r.allFields authorization).all isField = false := by simp
  rw [hall, message?]
  cases isSendable r.url <;> cases (r.allFields authorization).all isField <;> simp

theorem Http.Request.eq_of_message? {r : Request} {authorization : String} {m : Message}
    (h : r.message? authorization = some m) :
    m = ⟨r.method, (locator r.url).text, r.allFields authorization, r.body⟩ := by
  simp only [message?] at h
  split at h
  · exact (Option.some.inj h).symm
  · cases h

namespace Client

variable {client : Client} {r : Request} {expected : List Status} {c : Classification} {w : World}

theorem send_attempt_of_unauthorized {e : Failure}
    (h : client.credential.authorize.attempt w = (.error e, w.afterAsking client.credential)) :
    (client.send r expected c).attempt w = (.error e, w.afterAsking client.credential) := by
  rw [send, Run.attempt_bind_error h]

theorem send_attempt_of_refused {value : String}
    (h : client.credential.authorize.attempt w = (.ok value, w.afterAsking client.credential))
    (hm : r.message? value = none) :
    (client.send r expected c).attempt w =
      (.error (.request .refused), w.afterAsking client.credential) := by
  rw [send, Run.attempt_bind_ok h]
  simp only [hm, Run.attempt_throw]

theorem send_attempt_of_message {value : String} {m : Message}
    (h : client.credential.authorize.attempt w = (.ok value, w.afterAsking client.credential))
    (hm : r.message? value = some m) :
    ∃ n, IsLeast {i | EndsRetries expected c ((w.service.answer i).outcome r.method) ∨
        i = client.retry.maxRetries.toNat} n ∧
      (client.send r expected c).attempt w =
        (settle expected c ((w.service.answer n).outcome r.method),
          (w.afterAsking client.credential).afterRetries client.retry expected c m 0 n) := by
  have hmethod : m.method = r.method := by rw [Request.eq_of_message? hm]
  obtain ⟨n, hn, hrun⟩ := sendRepeatedly_attempt client.retry expected c m
    client.retry.maxRetries.toNat 0 (w.afterAsking client.credential) (by simp)
  rw [hmethod] at hn hrun
  refine ⟨n, hn, ?_⟩
  rw [send, Run.attempt_bind_ok h]
  simp only [hm]
  exact hrun

/-- A request either fails before anything is sent, or is settled by the answer to its message. -/
theorem send_cases (client : Client) (r : Request) (expected : List Status) (c : Classification)
    (w : World) :
    (∃ e, (client.send r expected c).attempt w = (.error e, w.afterAsking client.credential)) ∨
      ∃ value m n, r.message? value = some m ∧ (client.send r expected c).attempt w =
        (settle expected c ((w.service.answer n).outcome r.method),
          (w.afterAsking client.credential).afterRetries client.retry expected c m 0 n) := by
  obtain ⟨authorized, hauth, -⟩ := client.credential.authorize_attempt w
  cases authorized with
  | error e => exact Or.inl ⟨e, send_attempt_of_unauthorized hauth⟩
  | ok value =>
    cases hm : r.message? value with
    | none => exact Or.inl ⟨_, send_attempt_of_refused hauth hm⟩
    | some m =>
      obtain ⟨n, -, hrun⟩ := send_attempt_of_message hauth hm
      exact Or.inr ⟨value, m, n, hm, hrun⟩

theorem spans_send (client : Client) (r : Request) (expected : List Status) (c : Classification)
    (w : World) : ((client.send r expected c).attempt w).2.spans = w.spans := by
  rcases client.send_cases r expected c w with ⟨e, h⟩ | ⟨_, m, n, -, h⟩ <;> rw [h] <;> rfl

/-- A reply that is a success is the service's answer to the last message that was sent. -/
theorem service_of_send_ok {reply : Reply} {w' : World}
    (h : (client.send r expected c).attempt w = (.ok reply, w')) :
    ∃ n, (w.service.answer n).outcome r.method = .ok reply ∧ reply.status ∈ expected ∧
      w'.service = w.service.after (n + 1) := by
  rcases client.send_cases r expected c w with ⟨e, h'⟩ | ⟨_, m, n, -, h'⟩
  · rw [h'] at h
    cases h
  · rw [h, Prod.mk.injEq] at h'
    obtain ⟨hsettle, hworld⟩ := h'
    obtain ⟨houtcome, hexpected⟩ := settle_eq_ok_iff.1 hsettle.symm
    exact ⟨n, houtcome, hexpected, by rw [hworld]; rfl⟩

/-- Whether a request is authorized and allowed, and the last outcome that it meets with: that of the
first answer that ends the retries or comes when none is left. -/
def Meets (client : Client) (r : Request) (expected : List Status) (c : Classification) (w : World)
    (last : Except Failure Reply) : Prop :=
  ∃ value m n, client.credential.answer w.tokens = .ok value ∧ r.message? value = some m ∧
    IsLeast {i | EndsRetries expected c ((w.service.answer i).outcome r.method) ∨
      i = client.retry.maxRetries.toNat} n ∧
    (w.service.answer n).outcome r.method = last

/-- The last outcome settles the request. -/
theorem Meets.outcome_send {last : Except Failure Reply} (h : client.Meets r expected c w last) :
    ((client.send r expected c).attempt w).1 = settle expected c last := by
  obtain ⟨value, m, n, hanswer, hm, hn, rfl⟩ := h
  have hauth := client.credential.authorize_attempt_eq w
  rw [hanswer] at hauth
  obtain ⟨n', hn', hrun⟩ := @send_attempt_of_message client r expected c w value m hauth hm
  obtain rfl : n = n' := Nat.le_antisymm (hn.2 hn'.1) (hn'.2 hn.1)
  rw [hrun]

/-- What a request comes to: it is not authorized, not allowed, or settled by its last outcome. -/
theorem outcome_send_cases (client : Client) (r : Request) (expected : List Status)
    (c : Classification) (w : World) :
    (∃ reason, ((client.send r expected c).attempt w).1 = .error (.auth reason)) ∨
      ((client.send r expected c).attempt w).1 = .error (.request .refused) ∨
        ∃ last, client.Meets r expected c w last := by
  have hauth := client.credential.authorize_attempt_eq w
  cases hanswer : client.credential.answer w.tokens with
  | error e =>
    obtain ⟨reason, rfl⟩ := Credential.exists_reason_of_answer hanswer
    rw [hanswer] at hauth
    left
    exact ⟨reason, by rw [send_attempt_of_unauthorized hauth]⟩
  | ok value =>
    rw [hanswer] at hauth
    right
    cases hm : r.message? value with
    | none =>
      left
      rw [send_attempt_of_refused hauth hm]
    | some m =>
      right
      obtain ⟨n, hn, -⟩ := @send_attempt_of_message client r expected c w value m hauth hm
      exact ⟨_, value, m, n, hanswer, hm, hn, rfl⟩

/-- A request is a success exactly if it is settled by a reply with an expected status. -/
theorem outcome_send_eq_ok_iff {reply : Reply} :
    ((client.send r expected c).attempt w).1 = .ok reply ↔
      client.Meets r expected c w (.ok reply) ∧ reply.status ∈ expected := by
  constructor
  · intro h
    rcases client.outcome_send_cases r expected c w with ⟨reason, h'⟩ | h' | ⟨last, hmeets⟩
    · rw [h'] at h
      cases h
    · rw [h'] at h
      cases h
    · rw [hmeets.outcome_send] at h
      obtain ⟨rfl, hexpected⟩ := settle_eq_ok_iff.1 h
      exact ⟨hmeets, hexpected⟩
  · intro h
    rw [h.1.outcome_send]
    exact settle_eq_ok_iff.2 ⟨rfl, h.2⟩

/-- From two worlds with the same service and the same tokens, a request comes to the same, and does the
same to both. -/
theorem send_attempt_congr (client : Client) (r : Request) (expected : List Status)
    (c : Classification) {w w' : World} (hservice : w.service = w'.service)
    (htokens : w.tokens = w'.tokens) :
    ∃ outcome,
      ((client.send r expected c).attempt w = (outcome, w.afterAsking client.credential) ∧
        (client.send r expected c).attempt w' = (outcome, w'.afterAsking client.credential)) ∨
      ∃ m n, (client.send r expected c).attempt w =
          (outcome, (w.afterAsking client.credential).afterRetries client.retry expected c m 0 n) ∧
        (client.send r expected c).attempt w' =
          (outcome, (w'.afterAsking client.credential).afterRetries client.retry expected c m 0 n) := by
  have hauth := client.credential.authorize_attempt_eq w
  have hauth' := client.credential.authorize_attempt_eq w'
  rw [← htokens] at hauth'
  cases hanswer : client.credential.answer w.tokens with
  | error e =>
    rw [hanswer] at hauth hauth'
    exact ⟨_, .inl ⟨send_attempt_of_unauthorized hauth, send_attempt_of_unauthorized hauth'⟩⟩
  | ok value =>
    rw [hanswer] at hauth hauth'
    cases hm : r.message? value with
    | none =>
      exact ⟨_, .inl ⟨send_attempt_of_refused hauth hm, send_attempt_of_refused hauth' hm⟩⟩
    | some m =>
      obtain ⟨n, hn, hrun⟩ := @send_attempt_of_message client r expected c w value m hauth hm
      obtain ⟨n', hn', hrun'⟩ := @send_attempt_of_message client r expected c w' value m hauth' hm
      rw [← hservice] at hn' hrun'
      obtain rfl : n = n' := Nat.le_antisymm (hn.2 hn'.1) (hn'.2 hn.1)
      exact ⟨_, .inr ⟨m, n, hrun, hrun'⟩⟩

/-- **The last answer decides.** A credential is asked once, before anything is sent; if it fails, or
HTTP does not allow the request, nothing is sent. Otherwise one and the same message is sent until the
first answer that ends the retries or comes when none is left, and that answer alone settles the
request. The count of retries is kept in 32 bits, the index of the answer is not. -/
theorem send_settled (client : Client) (r : Request) (expected : List Status)
    (c : Classification) (w : World) :
    ∃ authorized, client.credential.authorize.attempt w =
        (authorized, w.afterAsking client.credential) ∧
      match authorized with
      | .error e => (∃ reason, e = .auth reason) ∧
        (client.send r expected c).attempt w = (.error e, w.afterAsking client.credential)
      | .ok value =>
        (r.message? value = none ↔
          isSendable r.url = false ∨ ∃ f ∈ r.allFields value, isField f = false) ∧
        match r.message? value with
        | none => (client.send r expected c).attempt w =
            (.error (.request .refused), w.afterAsking client.credential)
        | some m => m = ⟨r.method, (locator r.url).text, r.allFields value, r.body⟩ ∧
          ∃ n w', IsLeast {i | EndsRetries expected c ((w.service.answer i).outcome r.method) ∨
                i = client.retry.maxRetries.toNat} n ∧
            (client.send r expected c).attempt w =
              (settle expected c ((w.service.answer n).outcome r.method), w') ∧
            w'.messages = w.messages ++ w.service.reached (List.replicate (n + 1) m) ∧
            w'.service = w.service.after (n + 1) ∧
            w'.events = w.events ++ (retryEvents client.retry w 0 n ++
              closingEvents expected c w.spans ((w.service.answer n).outcome r.method)) ∧
            w'.scopes = w.scopes ++ client.credential.asks ∧
            w'.tokens = w.tokens.drop client.credential.asks.length := by
  obtain ⟨authorized, hauth, hreason⟩ := client.credential.authorize_attempt w
  refine ⟨authorized, hauth, ?_⟩
  cases authorized with
  | error e => exact ⟨hreason e rfl, send_attempt_of_unauthorized hauth⟩
  | ok value =>
    refine ⟨Request.message?_eq_none_iff, ?_⟩
    cases hm : r.message? value with
    | none => exact send_attempt_of_refused hauth hm
    | some m =>
      obtain ⟨n, hn, hrun⟩ := send_attempt_of_message hauth hm
      obtain rfl := Request.eq_of_message? hm
      exact ⟨rfl, n, _, hn, hrun, rfl, rfl, rfl, rfl, rfl⟩

end Client

end JitAccess
