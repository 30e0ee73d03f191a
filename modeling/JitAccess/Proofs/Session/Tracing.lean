import JitAccess.Proofs.Listing.Tracing
import JitAccess.Proofs.Session.Interleaving

/-!
# The trace of the listings of a session

Pages are fetched when they are wanted, long after the listing was opened and with other steps in
between. Each step on a listing tells of the pulls that it makes, and of nothing else. Taken together,
the pulls of all these steps are those of the feed that the listing was opened with, whose fetches are
made inside the spans that were open then.

* `ListingOrigin.feed?`: this feed.
* `Step.traces_perform`: one step on the listing.
* `Step.keepsSpans_perform`: no step leaves other spans open.
* `Client.session_traces_listings`: all steps on the listing, whatever else is done between them.
-/

namespace JitAccess

open Http Trace

variable {c : Client}

/-- The feed of the policies in a scope, inside some spans. -/
def ListScope.feed (scope : ListScope) (c : Client) (options : CallOptions) (spans : List Span) :
    Feed Policy :=
  .start c (c.firstRequest scope.route (scope.params c.subscription) options) options Policy.decoder
    spans

/-- The feed that a listing is opened with, if it asks a service, from the spans that are open then. -/
def ListingOrigin.feed? (c : Client) (options : CallOptions) (spans : List Span) :
    ListingOrigin → Option (Feed Unit)
  | .policies scope => some (scope.feed c options (spans ++ [scope.span])).bare
  | .policiesIn scope => some (scope.feed c options spans).bare
  | .values route params => some (Feed.start c (c.firstRequest route params options) options
      Json.Decoder.value spans).bare
  | .pages _ => none

/-- How many items a body has, if it is a page of a listing. -/
def ListingOrigin.items? (body : List UInt8) : ListingOrigin → Option Nat
  | .policies _ | .policiesIn _ =>
    (Json.Decoder.run (Page.decoder Policy.decoder) body).map (·.items.length)
  | .values _ _ => (Json.Decoder.run (Page.decoder Json.Decoder.value) body).map (·.items.length)
  | .pages _ => none

theorem ListingOrigin.count_read {origin : ListingOrigin} {options : CallOptions}
    {spans : List Span} {f : Feed Unit} (h : origin.feed? c options spans = some f)
    (body : List UInt8) : (f.read body).map (·.count) = origin.items? body := by
  have hcount {α : Type} (page : Option (Page α)) :
      (((page.map fun p => (⟨p.items.length, p⟩ : Fetched α)).map fun x =>
        (⟨x.count, x.page.withItems fun _ => []⟩ : Fetched Unit)).map (·.count)) =
        page.map (·.items.length) := by
    cases page <;> rfl
  cases origin with
  | policies | policiesIn | values =>
    cases h
    exact hcount _
  | pages ready => cases h

theorem ListingOrigin.fetches_eq_zero {origin : ListingOrigin} {options : CallOptions}
    {spans : List Span} {f : Feed Unit} (h : origin.feed? c options spans = some f) : f.fetches = 0 := by
  cases origin with
  | policies | policiesIn | values =>
    cases h
    rfl
  | pages ready => cases h

theorem ListingOrigin.spans_eq_nil {origin : ListingOrigin} {options : CallOptions}
    {spans : List Span} {f : Feed Unit} (h : origin.feed? c options spans = some f)
    (hspans : f.spans = []) : spans = [] := by
  cases origin with
  | policies scope =>
    cases h
    exact absurd hspans (List.append_ne_nil_of_right_ne_nil _ (List.cons_ne_nil _ _))
  | policiesIn | values =>
    cases h
    exact hspans
  | pages ready => cases h

/-- Where the pages of an open listing come from. -/
def OpenListing.source : OpenListing → Source Json.Value
  | .items listing => listing.source
  | .pages source => source

/-- Whether the listing of a name, if there is one, has a feed. -/
def OpenListings.Feeds (l : OpenListings) (name : String) (f : Feed Unit) : Prop :=
  ∀ listing, l.lookup name = some listing → listing.source.bare = .feed f

namespace Step

/-- Whether a step opens the listing of a name. -/
def opens (name : String) : Step → Bool
  | .openListing own _ _ => own == name
  | _ => false

/-- What an outcome says about the pages of a listing: that they are at their end, that there was a
failure, or nothing of the kind. -/
def answer : Except Failure Result → Option (Except Failure Unit)
  | .error e => some (.error e)
  | .ok .ended => none
  | .ok (.items _) => none
  | .ok _ => some (.ok ())

/-- Whether some work on the listing of a name does what it does by some pulls of a feed. -/
def Traces (name : String) (f : Feed Unit) (act : Act Outcome) : Prop :=
  ∀ w : World, (f.spans = [] → w.spans = []) → ∃ pulls, f.Pulled w pulls (act w).2 ∧
    answer (act w).1.1 = Pull.answer pulls ∧ (act w).1.2.Feeds name (f.afterAll pulls)

variable {l : OpenListings} {name : String} {f : Feed Unit} {step : Step}

/-! ## Steps on a listing -/

/-- Work that neither fetches nor ends. -/
theorem traces_return {outcome : Except Failure Result} (h : l.Feeds name f)
    (hanswer : answer outcome = some (.ok ())) : Traces name f (return (outcome, l)) :=
  fun w _ => ⟨[], .nil f w, hanswer, h⟩

theorem traces_onItems (h : l.Feeds name f) {work : Listing Json.Value → Act Outcome}
    (hwork : ∀ listing, listing.source.bare = .feed f → Traces name f (work listing)) :
    Traces name f (onItems l name work) := by
  unfold onItems
  split
  next listing hlookup => exact hwork listing (h _ hlookup)
  · exact traces_return h rfl

theorem feeds_put (l : OpenListings) (name : String) {listing : OpenListing}
    (h : listing.source.bare = .feed f) : (l.put name listing).Feeds name f := by
  intro listing' hlookup
  rw [OpenListings.lookup_put_self, Option.some.injEq] at hlookup
  rwa [← hlookup]

theorem feeds_erase (l : OpenListings) (name : String) (f : Feed Unit) :
    (l.erase name).Feeds name f := by
  intro listing hlookup
  rw [OpenListings.lookup_erase_self] at hlookup
  cases hlookup

theorem answer_more {α : Type} {g : α → Result} (hg : ∀ a, answer (.ok (g a)) = some (.ok ()))
    (next : Option (Except Failure α)) : answer (more g next) = next.map (Except.map fun _ => ()) := by
  rcases next with _ | _ | a
  · rfl
  · rfl
  · exact hg a

theorem traces_advance (h : l.Feeds name f) : Traces name f (advance l name) := by
  unfold advance
  split
  next listing hlookup =>
    intro w hspans
    obtain ⟨pulls, hpulled, hbare, hanswer⟩ := Listing.told_next (h _ hlookup) w hspans
    exact ⟨pulls, hpulled, (answer_more (fun _ => rfl) _).trans hanswer, feeds_put l name hbare⟩
  next source hlookup =>
    intro w hspans
    obtain ⟨pull, hpulled, hbare, hanswer⟩ := Source.told_next (h _ hlookup) w hspans
    exact ⟨[pull], hpulled, (answer_more (fun _ => rfl) _).trans hanswer, feeds_put l name hbare⟩
  · exact traces_return h rfl

/-- Each step on a listing, unless it opens another one in its place. -/
theorem traces_perform (hstep : step.concerns name = true) (hopens : step.opens name = false)
    (h : l.Feeds name f) : Traces name f (step.perform c l) := by
  have hname {own : String} (hlisting : step.listing? = some own) : own = name := by
    simpa [concerns, hlisting] using hstep
  cases step with
  | openListing own origin options => simp [opens, hname rfl] at hopens
  | next own =>
    obtain rfl := hname rfl
    exact traces_advance h
  | describe own =>
    obtain rfl := hname rfl
    exact traces_onItems h fun _ _ => traces_return h rfl
  | collect own =>
    obtain rfl := hname rfl
    refine traces_onItems h fun listing hlisting w hspans => ?_
    obtain ⟨pulls, ending, items, hpulled, hcollect, hanswer⟩ :=
      Listing.told_collect hlisting w hspans
    refine ⟨pulls, hpulled, ?_, feeds_erase l own _⟩
    show answer ((listing.collect.attempt w).1.map .items) = _
    rw [hcollect, hanswer]
    cases ending <;> rfl
  | mapPages own g =>
    obtain rfl := hname rfl
    refine traces_onItems h fun listing hlisting => traces_return (feeds_put l own ?_) rfl
    exact (listing.source.bare_map g).trans hlisting
  | intoPages own =>
    obtain rfl := hname rfl
    exact traces_onItems h fun listing hlisting => traces_return (feeds_put l own hlisting) rfl
  | close own =>
    obtain rfl := hname rfl
    exact traces_return (feeds_erase l own f) rfl
  | get | write | delete | initiate | send => cases hstep

/-! ## Steps and the spans around them -/

/-- Whether the same spans are open after some work as before. -/
def KeepsSpans {α : Type} (act : Act α) : Prop := ∀ w, (act w).2.spans = w.spans

section

variable {α β : Type}

theorem keepsSpans_inSpan (span : Span) (run : Run α) : KeepsSpans (Run.inSpan span run).attempt :=
  fun _ => rfl

theorem keepsSpans_bind {act : Act α} {g : α → Act β} (h : KeepsSpans act)
    (hg : ∀ a, KeepsSpans (g a)) : KeepsSpans (act >>= g) :=
  fun w => (hg _ _).trans (h w)

theorem keepsSpans_run_bind {run : Run α} {g : α → Run β} (h : KeepsSpans run.attempt)
    (hg : ∀ a, KeepsSpans (g a).attempt) : KeepsSpans (run >>= g).attempt := by
  intro w
  have hspans := h w
  rw [Run.attempt_bind]
  rcases hrun : run.attempt w with ⟨e | a, w'⟩
  · rwa [hrun] at hspans
  · rw [hrun] at hspans
    exact (hg a w').trans hspans

theorem keepsSpans_apart (g : α → Result) {run : Run α} (h : KeepsSpans run.attempt) :
    KeepsSpans (apart l g run) :=
  keepsSpans_bind h fun _ _ => rfl

end

theorem keepsSpans_onItems {work : Listing Json.Value → Act Outcome}
    (h : ∀ listing, KeepsSpans (work listing)) : KeepsSpans (onItems l name work) := by
  unfold onItems
  split
  next listing _ => exact h listing
  · exact fun _ => rfl

theorem keepsSpans_advance (l : OpenListings) (name : String) : KeepsSpans (advance l name) := by
  unfold advance
  split
  next listing _ => exact keepsSpans_bind listing.spans_next fun _ _ => rfl
  next source _ => exact keepsSpans_bind source.spans_next fun _ _ => rfl
  · exact fun _ => rfl

/-- After each step the same spans are open as before. -/
theorem keepsSpans_perform (c : Client) (l : OpenListings) (step : Step) :
    KeepsSpans (step.perform c l) := by
  cases step with
  | openListing name origin options =>
    cases origin with
    | policies | policiesIn | values | pages => exact fun _ => rfl
  | next name => exact keepsSpans_advance l name
  | describe name => exact keepsSpans_onItems fun _ _ => rfl
  | collect name =>
    refine keepsSpans_onItems fun listing => ?_
    exact keepsSpans_bind listing.spans_collect fun _ _ => rfl
  | mapPages name g => exact keepsSpans_onItems fun _ _ => rfl
  | intoPages name => exact keepsSpans_onItems fun _ _ => rfl
  | close name => exact fun _ => rfl
  | get policy options => exact keepsSpans_apart _ (keepsSpans_inSpan _ _)
  | write policy content options =>
    cases content with
    | error e => exact fun _ => rfl
    | ok content => exact keepsSpans_apart _ (keepsSpans_inSpan _ _)
  | delete policy options => exact keepsSpans_apart _ (keepsSpans_inSpan _ _)
  | initiate policy order options =>
    cases order with
    | error e => exact fun _ => rfl
    | ok order => exact keepsSpans_apart _ (keepsSpans_inSpan _ _)
  | send request expected k =>
    refine keepsSpans_apart _ (keepsSpans_run_bind (c.spans_send request expected k) fun reply => ?_)
    refine keepsSpans_run_bind ?_ fun _ _ => rfl
    unfold Http.Reply.readBody
    split
    · exact fun _ => rfl
    · exact fun _ => rfl

theorem spans_taken (c : Client) (l : OpenListings) (step : Step) (w : World) :
    (step.taken c l w).2.spans = w.spans :=
  keepsSpans_perform c l step _

end Step

/-! ## Sessions -/

/-- Whether a step that was taken in a world did just what some pulls of a feed do there, and came to what
they come to. The journal of a step begins with the step. -/
structure StepReport.Tells (r : StepReport) (f : Feed Unit) (w : World) (pulls : List Pull) : Prop where
  pulled : ∃ w', f.Pulled { w with messages := [], events := [] } pulls w'
  messages : r.messages = pulls.flatMap Pull.messages
  events : r.events = pulls.flatMap Pull.events
  answer : Step.answer r.outcome = Pull.answer pulls

/-- Whether steps, each with the world in which it was taken, did just what some pulls of a feed do, one
step going on where another left off. -/
inductive Feed.Tells : Feed Unit → List (World × StepReport) → List (List Pull) → Prop
  | nil (f : Feed Unit) : f.Tells [] []
  | cons {f : Feed Unit} {w : World} {r : StepReport} {steps : List (World × StepReport)}
      {own : List Pull} {pulls : List (List Pull)} (hstep : r.Tells f w own)
      (rest : (f.afterAll own).Tells steps pulls) : f.Tells ((w, r) :: steps) (own :: pulls)

/-- The pulls of all steps together follow on each other. -/
theorem Feed.Tells.follows {f : Feed Unit} {steps : List (World × StepReport)}
    {pulls : List (List Pull)} {all : List Pull} (h : f.Tells steps pulls)
    (hall : pulls.flatten = all) : f.Follows all := by
  subst hall
  induction h with
  | nil => trivial
  | cons hstep rest ih =>
    obtain ⟨w', hpulled⟩ := hstep.pulled
    exact Feed.follows_append.2 ⟨hpulled.follows, ih⟩

theorem Step.Traces.reported {name : String} {f : Feed Unit} {act : Act Outcome}
    (h : Traces name f act) (w : World) (hspans : f.spans = [] → w.spans = []) :
    ∃ pulls, (reported act w).1.1.Tells f w pulls ∧
      (Step.reported act w).1.2.Feeds name (f.afterAll pulls) := by
  obtain ⟨pulls, hpulled, hanswer, hfeeds⟩ := h { w with messages := [], events := [] } hspans
  exact ⟨pulls, ⟨⟨_, hpulled⟩, hpulled.told.messages, hpulled.told.events, hanswer⟩, hfeeds⟩

namespace Client

/-- The worlds in which the steps of a session are taken, each after the steps before it. -/
def worlds (c : Client) (l : OpenListings) (steps : List Step) (w : World) : List World :=
  (List.range steps.length).map fun i => (c.session l (steps.take i) w).2

theorem worlds_cons (c : Client) (l : OpenListings) (step : Step) (steps : List Step) (w : World) :
    c.worlds l (step :: steps) w =
      w :: c.worlds (step.taken c l w).1.2 steps (step.taken c l w).2 := by
  unfold worlds
  rw [List.length_cons, List.range_succ_eq_map, List.map_cons, List.map_map]
  rfl

/-- What the steps on a listing did, told by the pulls that each of them made in its world, where `items?`
counts the items of a body that is a page. -/
structure TracesListing (f : Feed Unit) (items? : List UInt8 → Option Nat)
    (steps : List (World × StepReport)) (pulls : List (List Pull)) : Prop where
  tells : f.Tells steps pulls
  /-- A fetch is made inside the spans of the feed and one more, which has its number and its path. -/
  numbered : ∀ before x rest, pulls.flatten = before ++ .fetched x :: rest →
    before.countP Pull.isFetch + 1 < 2 ^ 32 →
    x.spans = f.spans ++ [⟨"security::pager::fetch_page",
      [("page", .number (before.countP Pull.isFetch + 1)),
        ("path", .text x.request.url.path.text)]⟩]
  /-- All that a fetch sends is its request, and up to its page all that it reports is told inside its
  spans, which are those of the feed and one more. -/
  inside : ∀ before x rest, pulls.flatten = before ++ .fetched x :: rest →
    (∃ span, x.spans = f.spans ++ [span]) ∧
    (∀ m ∈ x.messages, ∃ value, x.request.message? value = some m) ∧
    ∀ e ∈ x.told, e.spans = x.spans ∧ e.message ≠ "page fetched"
  /-- A fetch has a page, and tells of it, exactly if the body of its reply is one, with all its items. -/
  counts : ∀ before x rest, pulls.flatten = before ++ .fetched x :: rest →
    x.page.toOption.map (·.count) = (x.reply.toOption.bind (·.body)).bind items?
  /-- A page announces another one exactly if there is an attempt to get it when it is wanted. -/
  announces : ∀ before x pull rest fetched, pulls.flatten = before ++ .fetched x :: pull :: rest →
    x.page = .ok fetched → (fetched.page.nextLink.isSome ↔ pull ≠ .ended)

/-- What steps tell of a listing that is open, up to some point of the session. -/
theorem exists_tells {l : OpenListings} {name : String} {f : Feed Unit} (h : l.Feeds name f)
    (steps later : List Step) (hsteps : ∀ step ∈ steps, step.opens name = false) (w : World)
    (hspans : f.spans = [] → w.spans = []) :
    ∃ pulls, f.Tells (Step.ownOf name steps
      ((c.worlds l (steps ++ later) w).zip (c.session l (steps ++ later) w).1)) pulls := by
  induction steps generalizing l f w with
  | nil => exact ⟨[], .nil f⟩
  | cons step steps ih =>
    obtain ⟨hopens, hsteps⟩ := List.forall_mem_cons.1 hsteps
    have hspans' := Step.spans_taken c l step w
    rw [List.cons_append, reports_cons, worlds_cons, List.zip_cons_cons, Step.ownOf_cons]
    cases hstep : step.concerns name with
    | false =>
      have hfeeds : (step.taken c l w).1.2.Feeds name f := by
        unfold OpenListings.Feeds
        rwa [Step.lookup_taken hstep]
      exact ih hfeeds hsteps _ (hspans'.symm ▸ hspans)
    | true =>
      obtain ⟨own, htells, hfeeds⟩ :=
        (Step.traces_perform (c := c) hstep hopens h).reported w hspans
      have hafter : (f.afterAll own).spans = [] → (step.taken c l w).2.spans = [] := by
        rw [f.spans_afterAll, hspans']
        exact hspans
      obtain ⟨pulls, hrest⟩ := ih hfeeds hsteps _ hafter
      exact ⟨own :: pulls, .cons htells hrest⟩

theorem TracesListing.of_tells {f : Feed Unit} {items? : List UInt8 → Option Nat}
    {steps : List (World × StepReport)} {pulls : List (List Pull)} (hfetches : f.fetches = 0)
    (hcount : ∀ body, (f.read body).map (·.count) = items? body) (htells : f.Tells steps pulls) :
    TracesListing f items? steps pulls where
  tells := htells
  numbered before x rest hpulls hbound := by
    have hnumber : (f.fetches + .ofNat (before.countP Pull.isFetch) + 1).toNat =
        before.countP Pull.isFetch + 1 := by
      rw [hfetches, UInt32.zero_add, ← UInt32.ofNat_one, ← UInt32.ofNat_add]
      exact UInt32.toNat_ofNat_of_lt hbound
    rw [(htells.follows hpulls).spans_eq, hnumber]
  inside before x rest hpulls := by
    obtain ⟨w, w', hmakes⟩ := (htells.follows hpulls).makes
    exact ⟨⟨_, (htells.follows hpulls).spans_eq⟩, hmakes.own⟩
  counts before x rest hpulls := by
    rw [(htells.follows hpulls).page_eq, Option.map_bind]
    exact congrArg _ (funext hcount)
  announces before x pull rest fetched hpulls hpage := (htells.follows hpulls).goes_on hpage

/-- A listing is opened without a request, and with the feed of its origin. -/
theorem feeds_opened {origin : ListingOrigin} {options : CallOptions} {f : Feed Unit} {w : World}
    (h : origin.feed? c options w.spans = some f) (l : OpenListings) (name : String) :
    (Step.taken c l (.openListing name origin options) w).1.1.messages = [] ∧
      (∀ e ∈ (Step.taken c l (.openListing name origin options) w).1.1.events,
        e.message = "listing policies") ∧
      (Step.taken c l (.openListing name origin options) w).1.2.Feeds name f := by
  have hone (spans : List Span) (scope : ListScope) : ∀ e ∈ [(⟨.debug, "listing policies",
      [("template", .text scope.route.template)], spans⟩ : Event)], e.message = "listing policies" := by
    simp
  have hbare (scope : ListScope) (spans : List Span) :
      ((Source.feed (scope.feed c options spans)).map (·.map Policy.toJson)).bare =
        .feed (scope.feed c options spans).bare :=
    Source.bare_map _ _
  cases origin with
  | policies scope =>
    cases h
    exact ⟨rfl, hone _ scope, Step.feeds_put l name (hbare scope (w.spans ++ [scope.span]))⟩
  | policiesIn scope =>
    cases h
    exact ⟨rfl, hone _ scope, Step.feeds_put l name (hbare scope w.spans)⟩
  | values route params =>
    cases h
    exact ⟨rfl, List.forall_mem_nil _, Step.feeds_put l name rfl⟩
  | pages ready => cases h

/-- Steps on a listing of policies and on another listing, in turns. -/
def policyTurns : List Step := [.next "a", .next "b", .collect "a", .next "a"]

/-- A service that has a page of policies, a page of something else, a failure that passes and then the
last page of policies. -/
def policyPages : World where
  service := .scripted
    [replyOf 200
        ("\x7b\"value\":[\x7b\"properties\":\x7b\"virtualMachines\":[]\x7d\x7d]," ++
          "\"nextLink\":\"/next\"\x7d"),
      replyOf 200 "\x7b\"value\":[\"vm3\",\"vm4\"]\x7d", replyOf 503 "", replyOf 200 "\x7b\x7d"]

end Client

end JitAccess
