import JitAccess.Proofs.Client.Isolation
import JitAccess.Proofs.Listing.Pulling
import JitAccess.Session.Step

/-!
# Listings that keep to their own answers

The cursor of a listing is its own, so the pages it gets are decided by the answers to its own requests.
How many pages there may be is bounded by all answers that a service has left, also by those for others;
`Listing.next_nil` and `Listing.attempt_collect_eq` read on page by page and do without that bound.

* `Source.isolated_next`: one page more.
* `Listing.isolated_next`, `Listing.isolated_collect`: one item more, and all that are left.
* `ListingOrigin.isolated_listing`: the listing that an origin opens.
-/

namespace JitAccess

open Http Trace

variable {α : Type} {c : Client}

/-! ## Pages -/

namespace Feed

variable {f : Feed α}

theorem isolated_inSpans {γ : Type} {act : Act γ} {P : γ → Prop} (h : Isolated act P) (f : Feed α) :
    Isolated (f.inSpans act) P := by
  unfold inSpans
  split
  · exact h
  · exact h.within f.spans

theorem isolated_fetch (h : f.client.HasToken) (r : Request) :
    Isolated (f.fetch r).attempt fun _ => True := by
  refine .run_bind (Client.isolated_send h r _ _) fun reply => ?_
  refine .run_bind (Client.isolated_readBody reply) fun body => ?_
  split
  · exact .pure trivial
  · exact .lift_bind .report fun _ => .pure trivial

/-- A page of a service. The feed after it has the same client. -/
theorem isolated_next (h : f.client.HasToken) :
    Isolated f.next fun r => r.2.client.HasToken := by
  unfold next
  split
  · exact .pure h
  · exact .pure h
  next r hr =>
    have hfetch : Isolated (f.inSpans (inSpan (f.fetchSpan r) (f.fetch r).attempt)) fun _ => True :=
      isolated_inSpans ((isolated_fetch h r).inSpan _) f
    refine hfetch.bind fun fetched _ => ?_
    cases fetched with
    | error e => exact .pure h
    | ok fetched => exact .pure h

end Feed

/-- Whether a source has an access token of its own, if it asks a service at all. -/
def Source.HasToken : Source α → Prop
  | .feed f => f.client.HasToken
  | .ready _ => True

theorem Source.HasToken.map {β : Type} {s : Source α} (h : s.HasToken) (g : List α → List β) :
    (s.map g).HasToken := by
  cases s with
  | feed f => exact h
  | ready pages => trivial

/-- The next page. -/
theorem Source.isolated_next {s : Source α} (h : s.HasToken) :
    Isolated s.next fun r => r.2.HasToken := by
  cases s with
  | feed f => exact .map (Feed.isolated_next h) fun _ h => h
  | ready pages =>
    cases pages with
    | nil => exact .pure trivial
    | cons page rest => exact .pure trivial

/-! ## Items -/

namespace Listing

/-- Reading on page by page, whatever bounds the pages. -/
theorem next_eq_bind (s : Source α) : next ⟨s, []⟩ = s.next >>= fun
    | (none, s') => pure (none, ⟨s', []⟩)
    | (some (.error e), s') => pure (some (.error e), ⟨s', []⟩)
    | (some (.ok p), s') => next ⟨s', p.items⟩ := by
  funext w
  rw [next_nil, Act.bind_apply]
  rcases s.next w with ⟨⟨_ | _ | _, _⟩, _⟩ <;> rfl

/-- Draining page by page, whatever bounds the pages. -/
theorem attempt_collect_eq_bind (s : Source α) (buffered : List α) :
    (collect ⟨s, buffered⟩).attempt = s.next >>= fun
      | (none, _) => pure (.ok buffered)
      | (some (.error e), _) => pure (.error e)
      | (some (.ok p), s') => do
        return (← (collect ⟨s', p.items⟩).attempt).map (buffered ++ ·) := by
  funext w
  rw [attempt_collect_eq, Act.bind_apply]
  rcases s.next w with ⟨⟨_ | _ | _, _⟩, _⟩ <;> rfl

/-- The next item. -/
theorem isolated_next {l : Listing α} (h : l.source.HasToken) :
    Isolated l.next fun r => r.2.source.HasToken := by
  intro w
  obtain ⟨s, buffered⟩ := l
  -- The pages that are passed over are followed in the world in which they come.
  induction s, w using Source.pages_induction generalizing buffered with
  | step s w ih =>
    cases buffered with
    | cons item rest => exact .pure h
    | nil =>
      rw [next_eq_bind]
      refine (Source.isolated_next h w).bind fun hs' => ?_
      rcases hnext : s.next w with ⟨⟨_ | e | p, s'⟩, w'⟩
      · rw [hnext] at hs'
        exact .pure hs'
      · rw [hnext] at hs'
        exact .pure hs'
      · rw [hnext] at hs'
        exact ih p s' w' hnext p.items hs'

/-- All items that are left. -/
theorem isolated_collect {l : Listing α} (h : l.source.HasToken) :
    Isolated l.collect.attempt fun _ => True := by
  intro w
  obtain ⟨s, buffered⟩ := l
  induction s, w using Source.pages_induction generalizing buffered with
  | step s w ih =>
    rw [attempt_collect_eq_bind]
    refine (Source.isolated_next h w).bind fun hs' => ?_
    rcases hnext : s.next w with ⟨⟨_ | e | p, s'⟩, w'⟩
    · exact .pure trivial
    · exact .pure trivial
    · rw [hnext] at hs'
      have hrest := ih p s' w' hnext p.items hs'
      exact hrest.map fun _ _ => trivial

end Listing

/-! ## Opening -/

/-- A listing is made without asking for anything, and keeps the spans that are open. -/
theorem Listing.isolated_ofRequest (h : c.HasToken) (first : Except Failure Request)
    (options : CallOptions) (item : Json.Decoder α) :
    Isolated (ofRequest c first options item) fun l => l.source.HasToken := by
  refine .of_quiet (fun _ => ⟨rfl, rfl, rfl⟩) ?_ fun _ => h
  intro v w hspans
  unfold ofRequest
  rw [hspans]

theorem ListingOrigin.isolated_listing (h : c.HasToken) (options : CallOptions)
    (origin : ListingOrigin) :
    Isolated (origin.listing c options) fun l => l.source.HasToken := by
  have hlistIn (scope : ListScope) :
      Isolated (c.listIn scope options) fun l => l.source.HasToken :=
    .bind .report fun _ _ => Listing.isolated_ofRequest h _ _ _
  cases origin with
  | policies scope => exact .map ((hlistIn scope).inSpan _) fun _ hl => Source.HasToken.map hl _
  | policiesIn scope => exact .map (hlistIn scope) fun _ hl => Source.HasToken.map hl _
  | values route params => exact Listing.isolated_ofRequest h _ _ _
  | pages ready => exact .pure trivial

end JitAccess
