import JitAccess.Proofs.Client.Tracing
import JitAccess.Proofs.Listing.Mapping

/-!
# The trace of a listing

Whenever a page is wanted, a feed is at its end, cannot make a request, or makes one, inside the spans in
which the feed was made and one more that is numbered. What is reported is decided by these pulls alone,
and what comes of a request by the world in which it is made. As the items of a page do not matter for any
of this, neither do changes of them, and pulls are told of a feed without items.

* `Feed.Pulls`, `Feed.Pulled`: which pulls a feed goes through, from one world to another.
* `Feed.told_next`, `Listing.told_next`, `Listing.told_collect`: what a page, an item and draining tell.
* `Feed.Follows`: pulls of a feed with anything else done between them.
* `Feed.Follows.page_eq`, `Feed.Follows.spans_eq`, `Feed.Follows.goes_on`: the page of a fetch, its number,
  and what the page announces.
-/

namespace JitAccess

open Http Trace

variable {α β : Type}

/-! ## Feeds without items -/

/-- The feed with no items on any page. -/
def Feed.bare (f : Feed α) : Feed Unit := f.map fun _ => []

/-- The source with no items on any page. -/
def Source.bare (s : Source α) : Source Unit := s.map fun _ => []

theorem Source.bare_map (g : List α → List β) (s : Source α) : (s.map g).bare = s.bare :=
  map_map g _ s

/-! ## Pulls -/

/-- A request for a page: the spans around it, what came of it, and what was sent and told until then. -/
structure Fetch where
  request : Request
  spans : List Span
  reply : Except Failure Reply
  messages : List Message
  told : List Event
  page : Except Failure (Fetched Unit)

/-- What is reported of the page of a fetch, if there is one. -/
def Fetch.pageEvents (x : Fetch) : List Event :=
  match x.page with
  | .ok fetched => [pageEvent fetched x.spans]
  | .error _ => []

/-- What is reported of a fetch: what its request tells, and its page. -/
def Fetch.events (x : Fetch) : List Event := x.told ++ x.pageEvents

/-- What happens when a page is wanted. -/
inductive Pull
  | ended
  | refused (e : Failure)
  | fetched (x : Fetch)

namespace Pull

/-- Whether a request is made. -/
def isFetch : Pull → Bool
  | .fetched _ => true
  | .ended | .refused _ => false

/-- What there was to be requested. -/
def request? : Pull → Option (Except Failure Request)
  | .ended => none
  | .refused e => some (.error e)
  | .fetched x => some (.ok x.request)

/-- The messages that are sent. -/
def messages : Pull → List Message
  | .fetched x => x.messages
  | .ended | .refused _ => []

/-- The events that are reported. -/
def events : Pull → List Event
  | .fetched x => x.events
  | .ended | .refused _ => []

/-- Whether there is a page, or why not, unless this is the end. -/
def outcome : Pull → Option (Except Failure Unit)
  | .ended => none
  | .refused e => some (.error e)
  | .fetched x => some (x.page.map fun _ => ())

/-- What some pulls come to, which is up to the last. Without any there still was something at hand. -/
def answer (pulls : List Pull) : Option (Except Failure Unit) :=
  (pulls.getLast?.map outcome).getD (some (.ok ()))

theorem request?_eq_none_iff {pull : Pull} : pull.request? = none ↔ pull = .ended := by
  cases pull <;> simp [request?]

theorem answer_concat (pulls : List Pull) (pull : Pull) : answer (pulls ++ [pull]) = pull.outcome := by
  simp [answer]

end Pull

namespace Feed

/-- The feed after a fetch. -/
def afterPage (f : Feed Unit) : Except Failure (Fetched Unit) → Feed Unit
  | .ok fetched => f.advance fetched.page
  | .error _ => f.finished

/-- The feed after a pull. -/
def after (f : Feed Unit) : Pull → Feed Unit
  | .ended => f
  | .refused _ => f.finished
  | .fetched x => f.afterPage x.page

/-- The feed after some pulls. -/
def afterAll (f : Feed Unit) (pulls : List Pull) : Feed Unit := pulls.foldl after f

/-- Whether a fetch is the next of a feed in a world, and leads to another world: its request is sent in
that world, inside the spans of the feed and one for the fetch, and the page is what the feed reads of the
reply. -/
structure Makes (f : Feed Unit) (w : World) (x : Fetch) (w' : World) : Prop where
  request : f.request? = some (.ok x.request)
  spans : x.spans = f.spans ++ [f.fetchSpan x.request]
  page : x.page = pageOf f.read x.reply
  sent : ∃ w₁, (f.client.send x.request [200] f.classification).attempt { w with spans := x.spans } =
      (x.reply, w₁) ∧
    World.Told { w with spans := x.spans } x.messages x.told w₁ ∧
    w' = { w₁ with spans := w.spans, events := w₁.events ++ x.pageEvents }

/-- Whether a pull is what happens to a feed next in a world, and leads to another world. -/
inductive Pulls (f : Feed Unit) (w : World) : Pull → World → Prop
  | ended (hrequest : f.request? = none) : f.Pulls w .ended w
  | refused {e : Failure} (hrequest : f.request? = some (.error e)) : f.Pulls w (.refused e) w
  | fetched {x : Fetch} {w' : World} (hmakes : f.Makes w x w') : f.Pulls w (.fetched x) w'

/-- Whether some pulls are what happens to a feed from a world on, one after the other, and lead to another
world. -/
inductive Pulled : Feed Unit → World → List Pull → World → Prop
  | nil (f : Feed Unit) (w : World) : f.Pulled w [] w
  | cons {f : Feed Unit} {w w₁ w' : World} {pull : Pull} {pulls : List Pull} (hpull : f.Pulls w pull w₁)
      (rest : (f.after pull).Pulled w₁ pulls w') : f.Pulled w (pull :: pulls) w'

/-- Whether some pulls are what happens to a feed, each in some world. -/
def Follows : Feed Unit → List Pull → Prop
  | _, [] => True
  | f, pull :: pulls => (∃ w w', f.Pulls w pull w') ∧ (f.after pull).Follows pulls

variable {f : Feed Unit} {w w₁ w₂ : World} {pull : Pull} {pulls pulls' : List Pull} {x : Fetch}

theorem follows_append :
    f.Follows (pulls ++ pulls') ↔ f.Follows pulls ∧ (f.afterAll pulls).Follows pulls' := by
  induction pulls generalizing f with
  | nil => exact (and_iff_right trivial).symm
  | cons pull pulls ih =>
    show _ ∧ (f.after pull).Follows (pulls ++ pulls') ↔ (_ ∧ _) ∧ _
    rw [ih, and_assoc]
    rfl

theorem afterAll_append (f : Feed Unit) (pulls pulls' : List Pull) :
    f.afterAll (pulls ++ pulls') = (f.afterAll pulls).afterAll pulls' :=
  List.foldl_append

/-- Pulls change the cursor of a feed and its count, and nothing else. -/
theorem exists_afterAll (f : Feed Unit) (pulls : List Pull) :
    ∃ fetches cursor, f.afterAll pulls = { f with fetches := fetches, cursor := cursor } := by
  induction pulls generalizing f with
  | nil => exact ⟨f.fetches, f.cursor, rfl⟩
  | cons pull pulls ih =>
    obtain ⟨fetches, cursor, hafter⟩ := ih (f.after pull)
    refine ⟨fetches, cursor, hafter.trans ?_⟩
    cases pull with
    | ended => rfl
    | refused e => rfl
    | fetched x =>
      simp only [after, afterPage]
      cases x.page <;> rfl

theorem spans_afterAll (f : Feed Unit) (pulls : List Pull) : (f.afterAll pulls).spans = f.spans := by
  obtain ⟨fetches, cursor, hafter⟩ := f.exists_afterAll pulls
  rw [hafter]

theorem read_afterAll (f : Feed Unit) (pulls : List Pull) : (f.afterAll pulls).read = f.read := by
  obtain ⟨fetches, cursor, hafter⟩ := f.exists_afterAll pulls
  rw [hafter]

theorem Pulled.single (h : f.Pulls w pull w₁) : f.Pulled w [pull] w₁ := .cons h (.nil _ _)

theorem Pulled.append (h : f.Pulled w pulls w₁) (h' : (f.afterAll pulls).Pulled w₁ pulls' w₂) :
    f.Pulled w (pulls ++ pulls') w₂ := by
  induction h with
  | nil => exact h'
  | cons hpull rest ih => exact .cons hpull (ih h')

theorem Pulled.follows (h : f.Pulled w pulls w₁) : f.Follows pulls := by
  induction h with
  | nil => trivial
  | cons hpull rest ih => exact ⟨⟨_, _, hpull⟩, ih⟩

theorem Pulls.request?_eq (h : f.Pulls w pull w₁) : f.request? = pull.request? := by
  cases h with
  | ended hrequest => exact hrequest
  | refused hrequest => exact hrequest
  | fetched hmakes => exact hmakes.request

/-- What a pull tells a world on its way. -/
theorem Pulls.told (h : f.Pulls w pull w₁) : w.Told pull.messages pull.events w₁ := by
  cases h with
  | ended | refused => exact .refl w
  | fetched hmakes =>
    obtain ⟨w', -, htold, rfl⟩ := hmakes.sent
    refine ⟨htold.messages, ?_, rfl⟩
    show w'.events ++ _ = w.events ++ _
    rw [htold.events, Pull.events, Fetch.events, List.append_assoc]

theorem Pulled.told (h : f.Pulled w pulls w₁) :
    w.Told (pulls.flatMap Pull.messages) (pulls.flatMap Pull.events) w₁ := by
  induction h with
  | nil => exact .refl _
  | cons hpull rest ih => exact hpull.told.append ih

/-! ## Pages -/

/-- What happens to a feed when a page is wanted. Spans that are open elsewhere do not matter, unless
the feed was made inside none. -/
theorem told_next (f : Feed Unit) (w : World) (hspans : f.spans = [] → w.spans = []) :
    ∃ pull, f.Pulled w [pull] (f.next w).2 ∧ (f.next w).1.2 = f.after pull ∧
      (f.next w).1.1.map (Except.map fun _ => ()) = pull.outcome := by
  rw [next_apply]
  rcases hrequest : f.request? with _ | e | r
  · exact ⟨.ended, .single (.ended hrequest), rfl, rfl⟩
  · exact ⟨.refused e, .single (.refused hrequest), rfl, rfl⟩
  · have hopen : f.openSpans r w = f.spans ++ [f.fetchSpan r] := by
      unfold openSpans
      cases hfeed : f.spans with
      | nil => rw [hspans hfeed]; rfl
      | cons => rfl
    obtain ⟨messages, told, htold, -⟩ :=
      f.client.told_send r [200] f.classification { w with spans := f.openSpans r w }
    rcases hsend : (f.client.send r [200] f.classification).attempt
      { w with spans := f.openSpans r w } with ⟨reply, w₁⟩
    rw [hsend] at htold
    simp only [getPage, hsend]
    cases hpage : pageOf f.read reply with
    | error e =>
      have hmakes : f.Makes w ⟨r, f.openSpans r w, reply, messages, told, .error e⟩
          { w₁ with spans := w.spans } :=
        ⟨hrequest, hopen, hpage.symm, w₁, hsend, htold, by simp [Fetch.pageEvents]⟩
      exact ⟨_, .single (.fetched hmakes), rfl, rfl⟩
    | ok fetched =>
      have hmakes : f.Makes w ⟨r, f.openSpans r w, reply, messages, told, .ok fetched⟩
          { w₁ with
            spans := w.spans
            events := w₁.events ++ [pageEvent fetched (f.openSpans r w)] } :=
        ⟨hrequest, hopen, hpage.symm, w₁, hsend, htold, rfl⟩
      exact ⟨_, .single (.fetched hmakes), rfl, rfl⟩

/-! ## What follows on what -/

theorem toOption_pageOf (read : List UInt8 → Option (Fetched Unit)) (reply : Except Failure Reply) :
    (pageOf read reply).toOption = (reply.toOption.bind (·.body)).bind read := by
  rcases reply with e | ⟨status, fields, _ | body⟩
  · rfl
  · rfl
  · simp only [pageOf, Except.toOption, Option.bind_some]
    cases read body <;> rfl

/-- A fetch is made by the feed as it is after the pulls before it. -/
theorem Follows.makes {before rest : List Pull} (h : f.Follows (before ++ .fetched x :: rest)) :
    ∃ w w', (f.afterAll before).Makes w x w' := by
  obtain ⟨-, ⟨w, w', hpull⟩, -⟩ := follows_append.1 h
  cases hpull with
  | fetched hmakes => exact ⟨w, w', hmakes⟩

/-- The page of a fetch is what a feed reads of the body of the reply, whichever fetch it is. -/
theorem Follows.page_eq {before rest : List Pull} (h : f.Follows (before ++ .fetched x :: rest)) :
    x.page.toOption = (x.reply.toOption.bind (·.body)).bind f.read := by
  obtain ⟨w, w', hmakes⟩ := h.makes
  rw [hmakes.page, toOption_pageOf, read_afterAll]

/-- At its end a feed stays as it is. -/
theorem afterAll_of_ended (hended : f.request? = none) (h : f.Follows pulls) :
    f.afterAll pulls = f := by
  induction pulls with
  | nil => rfl
  | cons pull pulls ih =>
    obtain ⟨⟨w, w', hpull⟩, hrest⟩ := h
    obtain rfl : pull = .ended := Pull.request?_eq_none_iff.1 (hpull.request?_eq ▸ hended)
    exact ih hrest

/-- As long as there is something to be requested, the fetches are counted. -/
theorem fetches_afterAll (h : f.Follows pulls) (hnext : (f.afterAll pulls).request? ≠ none) :
    (f.afterAll pulls).fetches = f.fetches + .ofNat (pulls.countP Pull.isFetch) := by
  induction pulls generalizing f with
  | nil => exact (UInt32.add_zero _).symm
  | cons pull pulls ih =>
    obtain ⟨⟨w, w', hpull⟩, hrest⟩ := h
    have hcount : ((f.after pull).afterAll pulls).fetches =
        (f.after pull).fetches + .ofNat (pulls.countP Pull.isFetch) := ih hrest hnext
    have hgoes : (f.after pull).request? ≠ none := by
      intro hended
      apply hnext
      show ((f.after pull).afterAll pulls).request? = none
      rwa [afterAll_of_ended hended hrest]
    cases pull with
    | ended => exact absurd hpull.request?_eq hgoes
    | refused e => exact absurd rfl hgoes
    | fetched x =>
      cases hpage : x.page with
      | error e =>
        rw [after, hpage] at hgoes
        exact absurd rfl hgoes
      | ok fetched =>
        have hafter : (f.after (.fetched x)).fetches = f.fetches + 1 := by
          rw [after, hpage]
          rfl
        rw [hafter] at hcount
        rw [List.countP_cons_of_pos rfl, UInt32.ofNat_add, UInt32.add_comm (.ofNat _),
          ← UInt32.add_assoc]
        exact hcount

/-- The number of a fetch counts those before it. -/
theorem Follows.spans_eq {before rest : List Pull} (h : f.Follows (before ++ .fetched x :: rest)) :
    x.spans = f.spans ++ [⟨"security::pager::fetch_page",
      [("page", .number (f.fetches + .ofNat (before.countP Pull.isFetch) + 1).toNat),
        ("path", .text x.request.url.path.text)]⟩] := by
  obtain ⟨w, w', hmakes⟩ := h.makes
  have hnext : (f.afterAll before).request? ≠ none := by
    rw [hmakes.request]
    exact nofun
  rw [hmakes.spans, spans_afterAll, fetchSpan, fetches_afterAll (follows_append.1 h).1 hnext]

/-- A page announces another one exactly if there is an attempt to get it when it is wanted. -/
theorem Follows.goes_on {before rest : List Pull} {fetched : Fetched Unit}
    (h : f.Follows (before ++ .fetched x :: pull :: rest)) (hpage : x.page = .ok fetched) :
    fetched.page.nextLink.isSome ↔ pull ≠ .ended := by
  obtain ⟨-, -, ⟨w, w', hpull⟩, -⟩ := follows_append.1 h
  have hrequest := hpull.request?_eq
  rw [after, hpage] at hrequest
  have hlink : pull.request? = none ↔ fetched.page.nextLink = none := by
    rw [← hrequest, afterPage, request?_advance, Option.map_eq_none_iff]
  rw [Option.isSome_iff_ne_none, Ne, ← hlink, Pull.request?_eq_none_iff]

/-- All that a fetch sends is its request, and all that it reports until it has a page, it reports inside
its spans. -/
theorem Makes.own (h : f.Makes w x w₁) :
    (∀ m ∈ x.messages, ∃ value, x.request.message? value = some m) ∧
      ∀ e ∈ x.told, e.spans = x.spans ∧ e.message ≠ "page fetched" := by
  obtain ⟨w', hsend, htold, -⟩ := h.sent
  obtain ⟨messages, events, htold', htraced, hrequest⟩ :=
    f.client.told_send x.request [200] f.classification { w with spans := x.spans }
  rw [hsend] at htold'
  obtain rfl : x.messages = messages :=
    List.append_cancel_left (htold.messages.symm.trans htold'.messages)
  obtain rfl : x.told = events :=
    List.append_cancel_left (htold.events.symm.trans htold'.events)
  refine ⟨hrequest, fun e he => ?_⟩
  obtain ⟨hinside, hmessage⟩ := htraced.of_mem he
  refine ⟨hinside, ?_⟩
  intro hpage
  rw [hpage] at hmessage
  exact absurd hmessage (by decide)

/-- Whatever is done for a page, the same spans are open afterwards. -/
theorem spans_next (f : Feed α) (w : World) : (f.next w).2.spans = w.spans := by
  rw [next_apply]
  rcases f.request? with _ | e | r
  · rfl
  · rfl
  · simp only [getPage]
    rcases (f.client.send r [200] f.classification).attempt { w with spans := f.openSpans r w } with
      ⟨reply, w'⟩
    cases hpage : pageOf f.read reply <;> simp [hpage]

end Feed

/-! ## Sources -/

namespace Source

variable {f : Feed Unit} {s s' : Source α} {w w' : World}

theorem told_next (h : s.bare = .feed f) (w : World) (hspans : f.spans = [] → w.spans = []) :
    ∃ pull, f.Pulled w [pull] (s.next w).2 ∧ (s.next w).1.2.bare = .feed (f.after pull) ∧
      (s.next w).1.1.map (Except.map fun _ => ()) = pull.outcome := by
  obtain ⟨pull, hpulled, hafter, houtcome⟩ := f.told_next w hspans
  have hbare : s.bare.next w = _ := s.next_map (fun _ => []) w
  rw [h, next_feed, Prod.mk.injEq, Prod.mk.injEq, hafter] at hbare
  obtain ⟨⟨hpage, hsource⟩, hworld⟩ := hbare
  refine ⟨pull, hworld ▸ hpulled, hsource.symm, ?_⟩
  rw [← houtcome, hpage]
  rcases (s.next w).1.1 with _ | _ | _ <;> rfl

theorem spans_next (s : Source α) (w : World) : (s.next w).2.spans = w.spans := by
  cases s with
  | feed f => exact f.spans_next w
  | ready pages => cases pages <;> rfl

theorem Gives.spans_eq {pages : List (Page α)} (h : s.Gives w pages s' w') : w'.spans = w.spans := by
  induction h with
  | nil => rfl
  | @cons s _ _ w _ _ _ _ hnext _ ih =>
    have hspans := s.spans_next w
    rw [hnext] at hspans
    exact ih.trans hspans

theorem Gives.told {pages : List (Page α)} (hgives : s.Gives w pages s' w') (h : s.bare = .feed f)
    (hspans : f.spans = [] → w.spans = []) :
    ∃ pulls, f.Pulled w pulls w' ∧ s'.bare = .feed (f.afterAll pulls) := by
  induction hgives generalizing f with
  | nil s w => exact ⟨[], .nil f w, h⟩
  | @cons s s₁ s' w w₁ w' p pages hnext rest ih =>
    obtain ⟨pull, hpulled, hbare, -⟩ := told_next h w hspans
    rw [hnext] at hpulled hbare
    have hspans' : (f.after pull).spans = [] → w₁.spans = [] := by
      have hafter : (f.after pull).spans = f.spans := f.spans_afterAll [pull]
      rw [hafter, hpulled.told.spans]
      exact hspans
    obtain ⟨pulls, hrest, hlast⟩ := ih hbare hspans'
    exact ⟨pull :: pulls, hpulled.append hrest, hlast⟩

end Source

/-! ## Listings -/

namespace Listing

variable {f : Feed Unit}

/-- One more pull after the pages that a source gives. -/
theorem told_next_of_gives {s s₁ : Source α} {w w₁ : World} {pages : List (Page α)}
    (hgives : s.Gives w pages s₁ w₁) (h : s.bare = .feed f) (hspans : f.spans = [] → w.spans = []) :
    ∃ pulls, f.Pulled w pulls (s₁.next w₁).2 ∧ (s₁.next w₁).1.2.bare = .feed (f.afterAll pulls) ∧
      (s₁.next w₁).1.1.map (Except.map fun _ => ()) = Pull.answer pulls := by
  obtain ⟨pulls, hpulled, hbare⟩ := hgives.told h hspans
  have hspans' : (f.afterAll pulls).spans = [] → w₁.spans = [] := by
    rw [f.spans_afterAll, hpulled.told.spans]
    exact hspans
  obtain ⟨pull, hlast, hafter, houtcome⟩ := Source.told_next hbare w₁ hspans'
  refine ⟨pulls ++ [pull], hpulled.append hlast, ?_, ?_⟩
  · rw [hafter, f.afterAll_append]
    rfl
  · rw [houtcome, Pull.answer_concat]

/-- What the next item tells: the pulls that it takes to come to a page with items. -/
theorem told_next {l : Listing α} (h : l.source.bare = .feed f) (w : World)
    (hspans : f.spans = [] → w.spans = []) :
    ∃ pulls, f.Pulled w pulls (l.next w).2 ∧
      (l.next w).1.2.source.bare = .feed (f.afterAll pulls) ∧
      (l.next w).1.1.map (Except.map fun _ => ()) = Pull.answer pulls := by
  obtain ⟨s, _ | ⟨item, buffered⟩⟩ := l
  · obtain ⟨passed, s₁, w₁, hgives, -, hfound, hanswer⟩ := next_passes s w
    obtain ⟨pulls, hpulled, hbare, houtcome⟩ := told_next_of_gives hgives h hspans
    rw [hanswer]
    refine ⟨pulls, hpulled, ?_, ?_⟩
    · rcases hpage : (s₁.next w₁).1 with ⟨_ | _ | p, s₂⟩
      · rwa [hpage] at hbare
      · rwa [hpage] at hbare
      · rwa [hpage] at hbare
    · rw [← houtcome]
      rcases hpage : (s₁.next w₁).1 with ⟨_ | _ | p, s₂⟩
      · rfl
      · rfl
      · have hitems := hfound p (by rw [hpage])
        obtain ⟨item, rest, hp⟩ := List.exists_cons_of_ne_nil hitems
        simp [ofPull, hp, Except.map]
  · exact ⟨[], .nil f w, h, rfl⟩

theorem spans_next (l : Listing α) (w : World) : (l.next w).2.spans = w.spans := by
  obtain ⟨s, _ | ⟨item, buffered⟩⟩ := l
  · obtain ⟨passed, s₁, w₁, hgives, -, -, hanswer⟩ := next_passes s w
    rw [hanswer]
    exact (s₁.spans_next w₁).trans hgives.spans_eq
  · rfl

theorem spans_collect (l : Listing α) (w : World) : (l.collect.attempt w).2.spans = w.spans := by
  obtain ⟨pages, ending, w', hruns⟩ := l.source.exists_runs w
  have hcollect := attempt_collect_of_runs hruns l.buffered
  obtain ⟨last, w₁, hgives, s', hlast⟩ := hruns
  have hspans := last.spans_next w₁
  rw [hlast] at hspans
  rw [hcollect]
  exact hspans.trans hgives.spans_eq

/-- What draining tells: all pulls up to the end or a failure. -/
theorem told_collect {l : Listing α} (h : l.source.bare = .feed f) (w : World)
    (hspans : f.spans = [] → w.spans = []) :
    ∃ (pulls : List Pull) (ending : Option Failure) (items : List α),
      f.Pulled w pulls (l.collect.attempt w).2 ∧
      (l.collect.attempt w).1 = ending.elim (.ok items) .error ∧
      Pull.answer pulls = ending.map .error := by
  obtain ⟨pages, ending, w', hruns⟩ := l.source.exists_runs w
  have hcollect := attempt_collect_of_runs hruns l.buffered
  obtain ⟨last, w₁, hgives, s', hlast⟩ := hruns
  obtain ⟨pulls, hpulled, -, houtcome⟩ := told_next_of_gives hgives h hspans
  rw [hlast] at hpulled houtcome
  refine ⟨pulls, ending, l.buffered ++ pages.flatMap (·.items), ?_, ?_, ?_⟩
  · rwa [hcollect]
  · rw [hcollect]
  · rw [← houtcome]
    cases ending <;> rfl

end Listing

end JitAccess
