import JitAccess.Proofs.Client.Discretion
import JitAccess.Session.Step

/-!
# Listings that do not give a token away

The feed of a listing has the client's token in it. Two listings that differ in this token alone give the
same pages and the same items, fail alike, and stay such listings.

* `Source.discreet_next`: one page more.
* `Listing.discreet_next`, `Listing.discreet_collect`: one item more, and all that are left.
* `ListingOrigin.discreet_listing`: the listing that an origin opens.
-/

namespace JitAccess

open Http Trace

variable {α β : Type} {token token' : String}

/-! ## Listings with a token -/

/-- The feed with an access token of its own. -/
def Feed.withToken (f : Feed α) (token : String) : Feed α :=
  { f with client := f.client.withToken token }

/-- The source with an access token of its own, if it asks a service at all. -/
def Source.withToken (s : Source α) (token : String) : Source α :=
  match s with
  | .feed f => .feed (f.withToken token)
  | .ready pages => .ready pages

/-- The listing with an access token of its own, if it asks a service at all. -/
def Listing.withToken (l : Listing α) (token : String) : Listing α :=
  ⟨l.source.withToken token, l.buffered⟩

theorem Listing.mapPages_withToken (l : Listing α) (g : List α → List β) (token : String) :
    (l.withToken token).mapPages g = (l.mapPages g).withToken token := by
  obtain ⟨s, buffered⟩ := l
  cases s <;> rfl

/-- Two outcomes that are the same, and with the same rest but for its token. -/
def SameUpTo (rest : β → String → β) (token token' : String) (r r' : α × β) : Prop :=
  ∃ a b, r = (a, rest b token) ∧ r' = (a, rest b token')

/-! ## Pages -/

namespace Feed

variable {f : Feed α}

theorem request?_withToken (f : Feed α) (token : String) :
    (f.withToken token).request? = f.request? := by
  obtain ⟨_, _, _, _, _, cursor⟩ := f
  cases cursor <;> rfl

theorem discreet_inSpans {value value' : String} {γ : Type} {act act' : Act γ} {R : γ → γ → Prop}
    (h : Discreet value value' act act' R) (f : Feed α) :
    Discreet value value' ((f.withToken token).inSpans act) ((f.withToken token').inSpans act') R := by
  show Discreet _ _ (f.inSpans act) (f.inSpans act') R
  unfold inSpans
  split
  · exact h
  · exact h.within f.spans

theorem discreet_fetch (h : BothAllowed token token') (f : Feed α) (r : Request) :
    Discreet (bearer token) (bearer token') ((f.withToken token).fetch r).attempt
      ((f.withToken token').fetch r).attempt Eq := by
  refine .run_bind (Client.discreet_send h r _ _) fun reply => ?_
  refine .run_bind (Client.discreet_readBody _ _ reply) fun body => ?_
  have hread (token : String) : (f.withToken token).read body = f.read body := rfl
  simp only [hread]
  split
  · exact .pure rfl
  · exact .lift_bind .report fun _ _ _ => .pure rfl

/-- A page of a service. -/
theorem discreet_next (h : BothAllowed token token') (f : Feed α) :
    Discreet (bearer token) (bearer token') (f.withToken token).next (f.withToken token').next
      (SameUpTo withToken token token') := by
  unfold next
  rw [request?_withToken, request?_withToken]
  split
  · exact .pure ⟨_, f, rfl, rfl⟩
  · exact .pure ⟨_, f.finished, rfl, rfl⟩
  next r _ =>
    refine (discreet_inSpans ((discreet_fetch h f r).inSpan _) f).bind ?_
    rintro fetched _ rfl
    cases fetched with
    | error e => exact .pure ⟨_, f.finished, rfl, rfl⟩
    | ok fetched => exact .pure ⟨_, f.advance fetched.page, rfl, rfl⟩

end Feed

/-- The next page. -/
theorem Source.discreet_next (h : BothAllowed token token') (s : Source α) :
    Discreet (bearer token) (bearer token') (s.withToken token).next (s.withToken token').next
      (SameUpTo withToken token token') := by
  cases s with
  | feed f =>
    refine (Feed.discreet_next h f).map ?_
    rintro _ _ ⟨page, f', rfl, rfl⟩
    exact ⟨page, .feed f', rfl, rfl⟩
  | ready pages =>
    cases pages with
    | nil => exact .pure ⟨none, .ready [], rfl, rfl⟩
    | cons page rest => exact .pure ⟨some page, .ready rest, rfl, rfl⟩

/-! ## Items -/

namespace Listing

theorem discreet_nextWithin (h : BothAllowed token token') (n : Nat) (l : Listing α) :
    Discreet (bearer token) (bearer token') (nextWithin n (l.withToken token))
      (nextWithin n (l.withToken token')) (SameUpTo withToken token token') := by
  induction n generalizing l with
  | zero =>
    obtain ⟨s, _ | ⟨item, rest⟩⟩ := l
    · exact .pure ⟨none, ⟨s, []⟩, rfl, rfl⟩
    · exact .pure ⟨some (.ok item), ⟨s, rest⟩, rfl, rfl⟩
  | succ n ih =>
    obtain ⟨s, _ | ⟨item, rest⟩⟩ := l
    · refine (Source.discreet_next h s).bind ?_
      rintro _ _ ⟨page, s', rfl, rfl⟩
      rcases page with _ | e | p
      · exact .pure ⟨none, ⟨s', []⟩, rfl, rfl⟩
      · exact .pure ⟨some (.error e), ⟨s', []⟩, rfl, rfl⟩
      · exact ih ⟨s', p.items⟩
    · exact .pure ⟨some (.ok item), ⟨s, rest⟩, rfl, rfl⟩

theorem discreet_collectWithin (h : BothAllowed token token') (n : Nat) (s : Source α) :
    Discreet (bearer token) (bearer token') (collectWithin n (s.withToken token)).attempt
      (collectWithin n (s.withToken token')).attempt Eq := by
  induction n generalizing s with
  | zero => exact .pure rfl
  | succ n ih =>
    refine .lift_bind (Source.discreet_next h s) ?_
    rintro _ _ ⟨page, s', rfl, rfl⟩
    rcases page with _ | e | p
    · exact .pure rfl
    · exact .pure rfl
    · exact .run_bind (ih s') fun _ => .pure rfl

/-- What bounds the pages is the same in two worlds that differ in messages alone. -/
theorem supply_withToken (s : Source α) {value value' : String} {w w' : World}
    (hw : w.Reauthorized value value' w') :
    (s.withToken token).supply w = s.supply w ∧ (s.withToken token).supply w' = s.supply w := by
  obtain ⟨messages', rfl, -⟩ := hw
  obtain ⟨service, _, _, _, _, _, _⟩ := w
  cases s <;> cases service <;> exact ⟨rfl, rfl⟩

/-- The next item. -/
theorem discreet_next (h : BothAllowed token token') (l : Listing α) :
    Discreet (bearer token) (bearer token') (l.withToken token).next (l.withToken token').next
      (SameUpTo withToken token token') := by
  intro w w' hw
  rw [next, next]
  dsimp only [withToken]
  rw [(supply_withToken l.source hw).1, (supply_withToken l.source hw).2]
  exact discreet_nextWithin h (l.source.supply w + 1) l w w' hw

/-- All items that are left. -/
theorem discreet_collect (h : BothAllowed token token') (l : Listing α) :
    Discreet (bearer token) (bearer token') (l.withToken token).collect.attempt
      (l.withToken token').collect.attempt Eq := by
  intro w w' hw
  have hrest := discreet_collectWithin h (l.source.supply w + 1) l.source
  have hall := hrest.run_bind fun items : List α =>
    .pure (Eq.refl (Except.ok (l.buffered ++ items)))
  rw [collect, collect, Run.attempt_ofAct, Run.attempt_ofAct]
  dsimp only [withToken]
  rw [(supply_withToken l.source hw).1, (supply_withToken l.source hw).2]
  exact hall w w' hw

end Listing

/-! ## Opening -/

/-- A listing is made without asking for anything, and keeps the spans that are open. -/
theorem Listing.discreet_ofRequest (c : Client) (first : Except Failure Request)
    (options : CallOptions) (item : Json.Decoder α) :
    Discreet (bearer token) (bearer token') (ofRequest (c.withToken token) first options item)
      (ofRequest (c.withToken token') first options item)
      fun l l' => ∃ l₀ : Listing α, l = l₀.withToken token ∧ l' = l₀.withToken token' := by
  rintro w _ ⟨messages', rfl, hmessages⟩
  exact ⟨⟨(ofRequest c first options item w).1, rfl, rfl⟩, messages', rfl, hmessages⟩

theorem ListingOrigin.discreet_listing (origin : ListingOrigin) (c : Client)
    (options : CallOptions) :
    Discreet (bearer token) (bearer token') (origin.listing (c.withToken token) options)
      (origin.listing (c.withToken token') options)
      fun l l' => ∃ l₀, l = Listing.withToken l₀ token ∧ l' = l₀.withToken token' := by
  have hlistIn (scope : ListScope) : Discreet (bearer token) (bearer token')
      ((c.withToken token).listIn scope options) ((c.withToken token').listIn scope options)
      fun l l' => ∃ l₀, l = Listing.withToken l₀ token ∧ l' = l₀.withToken token' :=
    .bind .report fun _ _ _ => Listing.discreet_ofRequest c _ options _
  cases origin with
  | policies scope =>
    refine ((hlistIn scope).inSpan _).map ?_
    rintro _ _ ⟨l₀, rfl, rfl⟩
    exact ⟨l₀.mapPages _, by rw [Listing.mapPages_withToken], by rw [Listing.mapPages_withToken]⟩
  | policiesIn scope =>
    refine (hlistIn scope).map ?_
    rintro _ _ ⟨l₀, rfl, rfl⟩
    exact ⟨l₀.mapPages _, by rw [Listing.mapPages_withToken], by rw [Listing.mapPages_withToken]⟩
  | values route params => exact Listing.discreet_ofRequest c _ options _
  | pages ready => exact .pure ⟨.ofPages ready, rfl, rfl⟩

end JitAccess
