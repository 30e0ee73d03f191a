import JitAccess.Listing.Basic
import JitAccess.Proofs.Client.Retrying

/-!
# One page of a service

A page is asked for with one request, inside the spans in which the listing was made. `Feed.getPage` says
what becomes of the request, without the monads and the spans around it.

* `Feed.next_apply`: a feed gives the page that its next request gets.
* `Feed.supply_lt_of_getPage`: each page takes an answer of the service.
-/

namespace JitAccess

open Http Trace

variable {α : Type}

theorem Page.nextLink_eq_none_iff {p : Page α} :
    p.nextLink = none ↔ p.continuation = none ∨ p.continuation = some "" := by
  rw [nextLink]
  cases p.continuation <;> simp

/-- The page of a reply, or why there is none. -/
def pageOf (read : List UInt8 → Option (Fetched α)) :
    Except Failure Reply → Except Failure (Fetched α)
  | .error e => .error e
  | .ok reply =>
    match reply.body with
    | none => .error (.request .broken)
    | some body =>
      match read body with
      | none => .error .serialization
      | some fetched => .ok fetched

/-- What is reported of a page. -/
def pageEvent (fetched : Fetched α) (spans : List Span) : Event :=
  ⟨.debug, "page fetched",
    [("items", .number fetched.count), ("has_next", .flag fetched.page.nextLink.isSome)], spans⟩

namespace Feed

/-- The spans that are open while a page is fetched. -/
def openSpans (f : Feed α) (r : Request) (w : World) : List Span :=
  (if f.spans.isEmpty then w.spans else f.spans) ++ [f.fetchSpan r]

/-- What becomes of a request for a page, and the world after it. -/
def getPage (f : Feed α) (r : Request) (w : World) : Except Failure (Page α) × World :=
  let (sent, w') :=
    (f.client.send r [200] f.classification).attempt { w with spans := f.openSpans r w }
  match pageOf f.read sent with
  | .error e => (.error e, { w' with spans := w.spans })
  | .ok fetched =>
    (.ok fetched.page,
      { w' with
        spans := w.spans
        events := w'.events ++ [pageEvent fetched (f.openSpans r w)] })

theorem inSpans_inSpan_apply {γ : Type} (f : Feed α) (r : Request) (act : Act γ) (w : World) :
    f.inSpans (inSpan (f.fetchSpan r) act) w =
      ((act { w with spans := f.openSpans r w }).1,
        { (act { w with spans := f.openSpans r w }).2 with spans := w.spans }) := by
  unfold inSpans openSpans
  split <;> rfl

theorem fetch_attempt (f : Feed α) (r : Request) (w : World) :
    (f.fetch r).attempt w =
      match pageOf f.read ((f.client.send r [200] f.classification).attempt w).1 with
      | .error e => (.error e, ((f.client.send r [200] f.classification).attempt w).2)
      | .ok fetched =>
        (.ok fetched,
          { ((f.client.send r [200] f.classification).attempt w).2 with
            events := ((f.client.send r [200] f.classification).attempt w).2.events ++
              [pageEvent fetched w.spans] }) := by
  have hspans := f.client.spans_send r [200] f.classification w
  rcases hsend : (f.client.send r [200] f.classification).attempt w with ⟨sent, w'⟩
  rw [hsend] at hspans
  cases sent with
  | error e => rw [fetch, Run.attempt_bind_error hsend]; rfl
  | ok reply =>
    rw [fetch, Run.attempt_bind_ok hsend]
    cases hbody : reply.body with
    | none =>
      have hread : reply.readBody.attempt w' = (.error (.request .broken), w') := by
        rw [Reply.readBody, hbody]; rfl
      simp [Run.attempt_bind_error hread, pageOf, hbody]
    | some body =>
      have hread : reply.readBody.attempt w' = (.ok body, w') := by
        rw [Reply.readBody, hbody]; rfl
      rw [Run.attempt_bind_ok hread]
      cases hpage : f.read body with
      | none => simp [pageOf, hbody, hpage]
      | some fetched =>
        simp only [pageOf, hbody, hpage, ← hspans]
        rfl

/-- After a page the next request is for the page that it links to. -/
theorem request?_advance (f : Feed α) (p : Page α) :
    (f.advance p).request? =
      p.nextLink.map fun link => (f.client.continuation link).map Request.get := by
  unfold request? advance
  cases p.nextLink <;> rfl

theorem request?_advance_of_last (f : Feed α) {p : Page α} (h : p.nextLink = none) :
    (f.advance p).request? = none := by
  rw [request?_advance, h]
  rfl

theorem request?_advance_of_link (f : Feed α) {p : Page α} {link : String}
    (h : p.nextLink = some link) :
    (f.advance p).request? = some ((f.client.continuation link).map Request.get) := by
  rw [request?_advance, h]
  rfl

theorem next_apply (f : Feed α) (w : World) :
    f.next w = match f.request? with
      | none => ((none, f), w)
      | some (.error e) => ((some (.error e), f.finished), w)
      | some (.ok r) =>
        match f.getPage r w with
        | (.error e, w') => ((some (.error e), f.finished), w')
        | (.ok p, w') => ((some (.ok p), f.advance p), w') := by
  unfold next
  rcases f.request? with _ | e | r
  · rfl
  · rfl
  · dsimp only
    rw [Act.bind_apply, inSpans_inSpan_apply, fetch_attempt, getPage]
    rcases (f.client.send r [200] f.classification).attempt
      { w with spans := f.openSpans r w } with ⟨sent, w'⟩
    dsimp only
    cases pageOf f.read sent <;> rfl

theorem lt_length_of_ok {answers : List Answer} {n : Nat} {method : String} {reply : Reply}
    (h : ((Service.scripted answers).answer n).outcome method = .ok reply)
    (hok : reply.status ∈ [200]) : n < answers.length := by
  refine Nat.lt_of_not_le fun hn => ?_
  have hlast : (Service.scripted answers).answer n = .reply exhaustedReply := by
    simp [Service.answer, hn]
  rw [Answer.status_of_outcome h, hlast] at hok
  exact absurd hok (by decide)

/-- A page that is there took an answer of the service. -/
theorem supply_lt_of_getPage {f g : Feed α} {r : Request} {p : Page α} {w w' : World}
    (h : f.getPage r w = (.ok p, w')) :
    (Source.feed g).supply w' < (Source.feed f).supply w := by
  unfold getPage at h
  rcases hsend : (f.client.send r [200] f.classification).attempt
    { w with spans := f.openSpans r w } with ⟨_ | reply, w₁⟩
  · rw [hsend] at h
    cases h
  · obtain ⟨n, hreply, hok, hservice⟩ := Client.service_of_send_ok hsend
    have hw' : w'.service = w.service.after (n + 1) := by
      rw [hsend] at h
      dsimp only at h
      split at h <;> cases h
      exact hservice
    cases hw : w.service with
    | unreachable => simp [Service.answer, hw, Answer.outcome] at hreply
    | scripted answers =>
      have hn : n < answers.length := lt_length_of_ok (hw ▸ hreply) hok
      simp only [Source.supply, hw', hw, Service.after, List.length_drop]
      omega

end Feed

end JitAccess
