import JitAccess.Proofs.Listing.Pulling

/-!
# Other items on every page

A listing can be given other items page by page. The pages themselves are pulled as before: the same
requests, failures and links, at the same calls. So what the listing is drained of is what the change
makes of each page that was still to come, and two changes are one.

* `Feed.getPage_map`, `Source.next_map`: one page.
* `Source.answers_map`, `Source.Runs.map`: some pages, and all of them.
* `Listing.mapPages_keeps_pages`: all together.
-/

namespace JitAccess

open Http

variable {α β : Type}

/-! ## One page -/

namespace Feed

variable (g : List α → List β) (f : Feed α)

theorem request?_map : (f.map g).request? = f.request? := rfl

theorem pageOf_map (sent : Except Failure Reply) :
    pageOf (f.map g).read sent =
      (pageOf f.read sent).map fun x => (⟨x.count, x.page.withItems g⟩ : Fetched β) := by
  cases sent with
  | error e => rfl
  | ok reply =>
    obtain ⟨status, fields, _ | body⟩ := reply
    · rfl
    · simp only [pageOf, map]
      cases f.read body <;> rfl

/-- A request for a page does not depend on what becomes of its items, nor does what is reported. -/
theorem getPage_map (r : Request) (w : World) :
    (f.map g).getPage r w = ((f.getPage r w).1.map (Page.withItems g), (f.getPage r w).2) := by
  have hsend : (f.map g).client.send r [200] (f.map g).classification =
      f.client.send r [200] f.classification := rfl
  have hspans : (f.map g).openSpans r w = f.openSpans r w := rfl
  unfold getPage
  rw [hsend, hspans]
  rcases (f.client.send r [200] f.classification).attempt { w with spans := f.openSpans r w } with
    ⟨sent, w'⟩
  dsimp only
  rw [pageOf_map]
  cases pageOf f.read sent <;> rfl

end Feed

namespace Source

/-- A page is pulled from a source with other items as it is without them. -/
theorem next_map (g : List α → List β) (s : Source α) (w : World) :
    (s.map g).next w =
      (((s.next w).1.1.map (Except.map (Page.withItems g)), (s.next w).1.2.map g), (s.next w).2) := by
  cases s with
  | feed f =>
    show (Source.feed (f.map g)).next w = _
    rw [next_feed, next_feed, Feed.next_apply, Feed.next_apply, Feed.request?_map]
    rcases f.request? with _ | e | r
    · rfl
    · rfl
    · dsimp only
      rw [Feed.getPage_map]
      rcases f.getPage r w with ⟨_ | _, _⟩ <;> rfl
  | ready pages => cases pages <;> rfl

/-! ## More pages -/

/-- What `n` calls of `next` answer, and the source after them. -/
def answers : Nat → Source α → Act (List (Option (Except Failure (Page α))) × Source α)
  | 0, s => return ([], s)
  | n + 1, s => do
    let (answer, s) ← s.next
    let (rest, s) ← answers n s
    return (answer :: rest, s)

theorem answers_succ (n : Nat) (s : Source α) (w : World) :
    answers (n + 1) s w =
      (((s.next w).1.1 :: (answers n (s.next w).1.2 (s.next w).2).1.1,
        (answers n (s.next w).1.2 (s.next w).2).1.2), (answers n (s.next w).1.2 (s.next w).2).2) :=
  rfl

theorem answers_map (g : List α → List β) (n : Nat) (s : Source α) (w : World) :
    answers n (s.map g) w =
      (((answers n s w).1.1.map (Option.map (Except.map (Page.withItems g))),
        (answers n s w).1.2.map g), (answers n s w).2) := by
  induction n generalizing s w with
  | zero => rfl
  | succ n ih =>
    rw [answers_succ, answers_succ, next_map, ih]
    rfl

variable {s s' : Source α} {w w' : World} {pages : List (Page α)} {ending : Option Failure}

theorem Gives.map (h : s.Gives w pages s' w') (g : List α → List β) :
    (s.map g).Gives w (pages.map (Page.withItems g)) (s'.map g) w' := by
  induction h with
  | nil s w => exact .nil _ w
  | cons hnext rest ih =>
    refine .cons ?_ ih
    rw [next_map, hnext]
    rfl

theorem Runs.map (h : s.Runs w pages ending w') (g : List α → List β) :
    (s.map g).Runs w (pages.map (Page.withItems g)) ending w' := by
  obtain ⟨last, w₁, hgives, s', hlast⟩ := h
  refine ⟨last.map g, w₁, hgives.map g, s'.map g, ?_⟩
  rw [next_map, hlast]
  cases ending <;> rfl

theorem map_map {γ : Type} (f : List α → List β) (g : List β → List γ) (s : Source α) :
    (s.map f).map g = s.map (g ∘ f) := by
  cases s with
  | feed f' => simp [map, Feed.map, Page.withItems, Function.comp_def]
  | ready pages =>
    simp only [map, List.map_map, ready.injEq]
    refine List.map_congr_left fun page _ => ?_
    cases page <;> rfl

end Source

namespace Listing

/-- **Other items do not change the pages.** From any listing, and whatever the service does: calls for
pages change the world alike whether the pages have been given other items or not, and answer with the
same failures and with pages that have the same links. A listing with other items is drained of what
these are on each page that was still to come, or fails as the listing itself does. What is done to the
items twice is done at once. -/
theorem mapPages_keeps_pages (l : Listing α) (f : List α → List β) (w : World) :
    (∀ n, (l.mapPages f).intoPages.answers n w =
      (((l.intoPages.answers n w).1.1.map (Option.map (Except.map (Page.withItems f))),
        (l.intoPages.answers n w).1.2.map f), (l.intoPages.answers n w).2)) ∧
      (∃ pages ending w', l.intoPages.Runs w pages ending w' ∧
        l.collect.attempt w =
          (ending.elim (.ok (l.buffered ++ pages.flatMap (·.items))) .error, w') ∧
        (l.mapPages f).collect.attempt w =
          (ending.elim (.ok (pages.flatMap fun p => f p.items)) .error, w')) ∧
      ∀ (γ : Type) (g : List β → List γ), (l.mapPages f).mapPages g = l.mapPages (g ∘ f) := by
  refine ⟨fun n => Source.answers_map f n l.source w, ?_, fun γ g => ?_⟩
  · obtain ⟨pages, ending, w', hruns⟩ := l.source.exists_runs w
    refine ⟨pages, ending, w', hruns, attempt_collect_of_runs hruns l.buffered, ?_⟩
    have hmapped := attempt_collect_of_runs (hruns.map f) []
    rwa [List.nil_append, List.flatMap_map] at hmapped
  · show (⟨(l.source.map f).map g, []⟩ : Listing γ) = ⟨l.source.map (g ∘ f), []⟩
    rw [Source.map_map]

end Listing

end JitAccess
