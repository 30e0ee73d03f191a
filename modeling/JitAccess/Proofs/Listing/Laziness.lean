import JitAccess.Proofs.Client.Continuation
import JitAccess.Proofs.Client.Dispatch
import JitAccess.Proofs.Listing.Course
import Mathlib.Data.Nat.Find

/-!
# Laziness

A listing sends nothing before an item is wanted, and no more than what the items that were wanted take.
The invariant ties three things together: how many calls of `next` were answered with an item, which
pages have been pulled, and what is left of these.

* `Source.Gives.sent`: a page that is pulled is one request.
* `Listing.ReadsAhead`: the invariant, for the pages that a source gives.
* `Listing.readsAhead_of_runs`: it holds after any number of items.
* `Listing.reads_lazily`: all of a listing's laziness.
-/

namespace JitAccess

open Http

variable {α : Type}

/-! ## Requests for pages -/

theorem Feed.sent_getPage (f : Feed α) (r : Request) (w : World) :
    ∃ d, w.Sent f.client.credential [d] (f.getPage r w).2 := by
  obtain ⟨ds, hsent, d, rfl, -⟩ := f.client.sends_send r [200] f.classification
    { w with spans := f.openSpans r w }
  refine ⟨d, ?_⟩
  unfold getPage
  rcases hsend : (f.client.send r [200] f.classification).attempt
    { w with spans := f.openSpans r w } with ⟨sent, w'⟩
  rw [hsend] at hsent
  dsimp only
  cases pageOf f.read sent <;> exact ⟨hsent.messages, hsent.served, hsent.authorized, hsent.tokens⟩

/-- Each page that a service gives is one request, for which the credential is asked on its own. -/
theorem Source.Gives.sent {f : Feed α} {s' : Source α} {w w' : World} {pages : List (Page α)}
    (h : (Source.feed f).Gives w pages s' w') :
    ∃ ds, w.Sent f.client.credential ds w' ∧ ds.length = pages.length := by
  generalize hs : Source.feed f = s at h
  induction h generalizing f with
  | nil s w => exact ⟨[], .of_quiet rfl rfl rfl, rfl⟩
  | @cons _ _ _ w w₁ w' p pages hnext rest ih =>
    subst hs
    obtain ⟨r, -, hpage, rfl⟩ := request_of_next hnext
    obtain ⟨d, hsent⟩ := f.sent_getPage r w
    rw [hpage] at hsent
    obtain ⟨ds, hrest, hlength⟩ := ih rfl
    exact ⟨d :: ds, hsent.append hrest, congrArg (· + 1) hlength⟩

namespace Listing

/-! ## How far a listing reads -/

/-- What a source has given when some calls of `next` have been answered with items: the least number
of pages that have so many, one request for each page. The listing has at hand what the calls did not
take of these pages. -/
structure ReadsAhead (f : Feed α) (w : World) (pages : List (Page α)) (k n : Nat) (l : Listing α)
    (w' : World) : Prop where
  least : IsLeast {n | k ≤ ((pages.take n).flatMap (·.items)).length} n
  pulled : (Source.feed f).Gives w (pages.take n) l.source w'
  requests : ∃ ds, w.Sent f.client.credential ds w' ∧ ds.length = n
  buffered : l.buffered = ((pages.take n).flatMap (·.items)).drop k
  described : l.debugText = "Pager \x7b buffered: " ++
    toString (((pages.take n).flatMap (·.items)).length - k) ++ ", .. \x7d"

theorem debugText_of_length {l : Listing α} {n : Nat} (h : l.buffered.length = n) :
    l.debugText = "Pager \x7b buffered: " ++ toString n ++ ", .. \x7d" := by
  subst h
  rfl

theorem exists_isLeast_take {pages : List (Page α)} {k : Nat}
    (hk : k ≤ (pages.flatMap (·.items)).length) :
    ∃ n, IsLeast {n | k ≤ ((pages.take n).flatMap (·.items)).length} n ∧ n ≤ pages.length := by
  have hall : k ≤ ((pages.take pages.length).flatMap (·.items)).length := by
    rwa [List.take_length]
  have hexists : ∃ n, k ≤ ((pages.take n).flatMap (·.items)).length := ⟨_, hall⟩
  exact ⟨Nat.find hexists, ⟨Nat.find_spec hexists, fun n hn => Nat.find_min' hexists hn⟩,
    Nat.find_min' hexists hall⟩

/-- However many of the items of a source's pages have been read, the listing has pulled the pages
that have so many, and no page after them. -/
theorem readsAhead_of_runs {f : Feed α} {w w' : World} {pages : List (Page α)}
    {ending : Option Failure} (h : (Source.feed f).Runs w pages ending w') {k : Nat}
    (hk : k ≤ (pages.flatMap (·.items)).length) :
    ∃ n, ReadsAhead f w pages k n (answers k ⟨.feed f, []⟩ w).1.2 (answers k ⟨.feed f, []⟩ w).2 := by
  obtain ⟨n, hleast, hn⟩ := exists_isLeast_take hk
  obtain ⟨last, w₁, hgives, -⟩ := h
  have hsplit : (Source.feed f).Gives w (pages.take n ++ pages.drop n) last w₁ := by
    rwa [List.take_append_drop]
  obtain ⟨s', w'', hpulled, -⟩ := hsplit.split
  -- One page less has not enough items, so the last call is answered from the last page.
  have hlast (hne : pages.take n ≠ []) :
      (([] : List α) ++ (pages.take n).dropLast.flatMap (·.items)).length < k := by
    have hpages : n ≠ 0 := by
      rintro rfl
      exact hne rfl
    rw [List.dropLast_eq_take, List.length_take_of_le hn, List.take_take,
      Nat.min_eq_left (Nat.sub_le n 1), List.nil_append]
    refine Nat.lt_of_not_le fun hless => ?_
    have hle := hleast.2 hless
    omega
  have henough : k ≤ (([] : List α) ++ (pages.take n).flatMap (·.items)).length := hleast.1
  have hrun := answers_of_gives hpulled henough hlast
  rw [List.nil_append] at hrun
  obtain ⟨ds, hsent, hlength⟩ := hpulled.sent
  rw [List.length_take_of_le hn] at hlength
  rw [hrun]
  exact ⟨n, hleast, hpulled, ⟨ds, hsent, hlength⟩, rfl, debugText_of_length List.length_drop⟩

/-- Calls that are all answered with items are answered with as many as there are. -/
theorem le_length_of_items {pages : List (Page α)} {ending : Option Failure} {k : Nat}
    (h : ∀ answer ∈ (List.range k).map ((outcomes pages ending)[·]?), ∃ a, answer = some (.ok a)) :
    k ≤ (pages.flatMap (·.items)).length := by
  refine Nat.le_of_not_lt fun hlt => ?_
  obtain ⟨a, ha⟩ := h _ (List.mem_map.2 ⟨_, List.mem_range.2 hlt, rfl⟩)
  cases ending <;> simp [outcomes] at ha

/-- **A listing is lazy.** To make one sends nothing. Some calls of `next` that were all answered with
items have pulled the least number of pages that have so many, with one request for each, and what is
left of these pages is at hand. A call for an item at hand changes nothing else; any other passes over
pages without items, and pulls none after the first that has any, nor after the end or a failure. -/
theorem reads_lazily (client : Client) (first : Except Failure Request) (options : CallOptions)
    (item : Json.Decoder α) (w : World) :
    (ofRequest client first options item w).2 = w ∧
      (∃ pages ending w',
        (Feed.start client first options item w.spans).Course first w pages ending w' ∧
        ∀ k, (∀ answer ∈ ((ofRequest client first options item >>= answers k) w).1.1,
            ∃ a, answer = some (.ok a)) →
          ∃ n, ReadsAhead (Feed.start client first options item w.spans) w pages k n
            ((ofRequest client first options item >>= answers k) w).1.2
            ((ofRequest client first options item >>= answers k) w).2) ∧
      (∀ (s : Source α) (a : α) (rest : List α) (w₁ : World),
        next ⟨s, a :: rest⟩ w₁ = ((some (.ok a), ⟨s, rest⟩), w₁)) ∧
      ∀ (s : Source α) (w₁ : World), ∃ passed s' w₂, s.Gives w₁ passed s' w₂ ∧
        (∀ p ∈ passed, p.items = []) ∧
        (∀ p, (s'.next w₂).1.1 = some (.ok p) → p.items ≠ []) ∧
        next ⟨s, []⟩ w₁ = (ofPull (s'.next w₂).1, (s'.next w₂).2) := by
  refine ⟨rfl, ?_, next_cons, next_passes⟩
  obtain ⟨pages, ending, w', course⟩ :=
    (Feed.start client first options item w.spans).exists_course first w
  have hremains : Remains ⟨.feed (Feed.start client first options item w.spans), []⟩ w
      (outcomes pages ending) w' := .fetching [] rfl course
  refine ⟨pages, ending, w', course, fun k hitems => ?_⟩
  have hanswers : ((ofRequest client first options item >>= answers k) w).1.1 =
      (List.range k).map ((outcomes pages ending)[·]?) := (answers_of_remains hremains k).1
  rw [hanswers] at hitems
  exact readsAhead_of_runs (course.runs rfl) (le_length_of_items hitems)

/-- A service that has an empty page between two others. -/
def sparseWorld : World where
  service := .scripted <| ["\x7b\"value\":[\"vm1\"],\"nextLink\":\"/next\"\x7d",
    "\x7b\"nextLink\":\"/next\"\x7d", "\x7b\"value\":[\"vm2\",\"vm3\"]\x7d"].map fun body =>
      .reply ⟨200, [], some (Text.Utf8.encode body.toList)⟩

/-- The texts that the service lists. -/
def sparseTexts : Act (Listing String) :=
  ofRequest Client.publicCloud (.ok (.get (Client.publicNext "page=1" none))) {} Json.Decoder.string

theorem reads_lazily_past_empty_page :
    ((sparseTexts >>= answers 2) sparseWorld).1.1 = [some (.ok "vm1"), some (.ok "vm2")] ∧
      ((sparseTexts >>= answers 2) sparseWorld).1.2.debugText = "Pager \x7b buffered: 1, .. \x7d" ∧
      ∃ f pages n, ReadsAhead f sparseWorld pages 2 n ((sparseTexts >>= answers 2) sparseWorld).1.2
        ((sparseTexts >>= answers 2) sparseWorld).2 := by
  have hanswers : ((sparseTexts >>= answers 2) sparseWorld).1.1 =
      [some (.ok "vm1"), some (.ok "vm2")] := by decide +kernel
  refine ⟨hanswers, by decide +kernel, ?_⟩
  obtain ⟨-, ⟨pages, ending, w', -, hreads⟩, -⟩ := reads_lazily Client.publicCloud
    (.ok (.get (Client.publicNext "page=1" none))) {} Json.Decoder.string sparseWorld
  obtain ⟨n, hn⟩ := hreads 2 (by
    show ∀ answer ∈ ((sparseTexts >>= answers 2) sparseWorld).1.1, _
    rw [hanswers]
    simp)
  exact ⟨_, pages, n, hn⟩

end Listing

end JitAccess
