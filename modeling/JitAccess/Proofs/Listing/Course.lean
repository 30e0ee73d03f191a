import JitAccess.Proofs.Listing.Pulling

/-!
# The course of a listing

A listing is read one item at a time, from a buffer that is filled page by page. `Feed.Course` says
what it should come to, without a buffer: which pages a service gives from a first request on, one
request after the other, and how they end. The main statement, `answers_ofRequest`, is that any number
of calls of `next` answer with the items of these pages in order, and then with how they end.

* `Feed.exists_course`: every listing has a course, since each page takes an answer of the service.
* `Listing.Remains`: the invariant of reading, which is what is left of the course.
* `Listing.next_takes`: one call of `next` takes the first of what remains.
-/

namespace JitAccess

open Http Trace

variable {α : Type}

/-! ## All pages -/

namespace Feed

/-- What a listing fetches from, when nothing has been fetched yet. -/
def start (client : Client) (first : Except Failure Request) (options : CallOptions)
    (item : Json.Decoder α) (spans : List Span) : Feed α where
  client := client
  classification := options.classification
  read body := (Json.Decoder.run (Page.decoder item) body).map fun p => ⟨p.items.length, p⟩
  spans := spans
  fetches := 0
  cursor := .first first

/-- The course of a listing: the pages that a service gives from a request on, how they end, and
the world after that. Each page is asked for with the link of the page before it. -/
inductive Course : Feed α → Except Failure Request → World →
    List (Page α) → Option Failure → World → Prop
  | refused (f : Feed α) (e : Failure) (w : World) : Course f (.error e) w [] (some e) w
  | failed {f : Feed α} {r : Request} {w w' : World} {e : Failure}
      (hpage : f.getPage r w = (.error e, w')) : Course f (.ok r) w [] (some e) w'
  | last {f : Feed α} {r : Request} {w w' : World} {p : Page α}
      (hpage : f.getPage r w = (.ok p, w')) (hlink : p.nextLink = none) :
      Course f (.ok r) w [p] none w'
  | more {f : Feed α} {r : Request} {w w₁ w' : World} {p : Page α} {link : String}
      {pages : List (Page α)} {ending : Option Failure}
      (hpage : f.getPage r w = (.ok p, w₁)) (hlink : p.nextLink = some link)
      (rest : Course (f.advance p) ((f.client.continuation link).map Request.get) w₁
        pages ending w') :
      Course f (.ok r) w (p :: pages) ending w'

variable {f : Feed α} {request : Except Failure Request} {w w' : World} {pages : List (Page α)}
  {ending : Option Failure}

/-- Every listing has a course. -/
theorem exists_course (f : Feed α) (request : Except Failure Request) (w : World) :
    ∃ pages ending w', Course f request w pages ending w' := by
  induction hn : (Source.feed f).supply w using Nat.strongRecOn
    generalizing f request w with
  | _ n ih =>
    cases request with
    | error e => exact ⟨[], some e, w, .refused f e w⟩
    | ok r =>
      rcases hpage : f.getPage r w with ⟨e | p, w₁⟩
      · exact ⟨[], some e, w₁, .failed hpage⟩
      · cases hlink : p.nextLink with
        | none => exact ⟨[p], none, w₁, .last hpage hlink⟩
        | some link =>
          have hlt := supply_lt_of_getPage (g := f.advance p) hpage
          obtain ⟨pages, ending, w', rest⟩ := ih _ (hn ▸ hlt) (f.advance p)
            ((f.client.continuation link).map Request.get) w₁ rfl
          exact ⟨p :: pages, ending, w', .more hpage hlink rest⟩

/-- A listing has one course. -/
theorem Course.unique (h : Course f request w pages ending w') {pages' : List (Page α)}
    {ending' : Option Failure} {w'' : World} (h' : Course f request w pages' ending' w'') :
    pages = pages' ∧ ending = ending' ∧ w' = w'' := by
  induction h generalizing pages' with
  | refused => cases h'; exact ⟨rfl, rfl, rfl⟩
  | failed hpage => cases h' <;> simp_all
  | last hpage hlink => cases h' <;> simp_all
  | more hpage hlink rest ih =>
    cases h' with
    | failed hpage' => rw [hpage] at hpage'; cases hpage'
    | last hpage' hlink' => simp_all
    | more hpage' hlink' rest' =>
      rw [hpage] at hpage'
      cases hpage'
      rw [hlink] at hlink'
      cases hlink'
      obtain ⟨rfl, rfl, rfl⟩ := ih rest'
      exact ⟨rfl, rfl, rfl⟩

/-- A listing ends well exactly with a page without a link. -/
theorem Course.ending_eq_none_iff (h : Course f request w pages ending w') :
    ending = none ↔ ∃ p ∈ pages.getLast?, p.nextLink = none := by
  induction h with
  | refused | failed => simp
  | last hpage hlink => simp [hlink]
  | @more _ _ _ _ _ _ _ pages _ _ hlink _ ih =>
    rw [ih]
    cases pages <;> simp [hlink]

end Feed

/-- The course of a listing is what its source gives. -/
theorem Feed.Course.runs {f : Feed α} {request : Except Failure Request} {w w' : World}
    {pages : List (Page α)} {ending : Option Failure} (course : f.Course request w pages ending w')
    (hrequest : f.request? = some request) : (Source.feed f).Runs w pages ending w' := by
  induction course with
  | refused f e w => exact ⟨_, _, .nil _ _, _, Source.next_feed_of_refused hrequest w⟩
  | failed hpage => exact ⟨_, _, .nil _ _, _, Source.next_feed_of_failure hrequest hpage⟩
  | @last f r w w' p hpage hlink =>
    have hdone := f.request?_advance_of_last hlink
    have hends : (Source.feed (f.advance p)).Runs w' [] none w' :=
      ⟨_, _, .nil _ _, _, Source.next_feed_of_done hdone w'⟩
    exact hends.cons (Source.next_feed_of_page hrequest hpage)
  | @more f r w w₁ w' p link pages ending hpage hlink rest ih =>
    have hruns := ih (f.request?_advance_of_link hlink)
    exact hruns.cons (Source.next_feed_of_page hrequest hpage)

/-! ## Reading -/

namespace Listing

/-- The items of some pages in order, and then how they end. -/
def outcomes (pages : List (Page α)) (ending : Option Failure) : List (Except Failure α) :=
  (pages.flatMap (·.items)).map .ok ++ (ending.map .error).toList

/-- What a listing is still to answer before it ends, and the world in which it ends: the rest of a
course, after the items that have been fetched. -/
inductive Remains : Listing α → World → List (Except Failure α) → World → Prop
  | ended {f : Feed α} (buffered : List α) (w : World) (hdone : f.request? = none) :
      Remains ⟨.feed f, buffered⟩ w (buffered.map .ok) w
  | fetching {f : Feed α} {request : Except Failure Request} {w w' : World} {pages : List (Page α)}
      {ending : Option Failure} (buffered : List α) (hrequest : f.request? = some request)
      (course : Feed.Course f request w pages ending w') :
      Remains ⟨.feed f, buffered⟩ w (buffered.map .ok ++ outcomes pages ending) w'

/-- What one call of `next` does to what remains: it takes the first answer. A call that does not
answer with an item leaves the world in which the listing ends. -/
def Takes (rest : List (Except Failure α)) (w' : World)
    (called : (Option (Except Failure α) × Listing α) × World) : Prop :=
  called.1.1 = rest.head? ∧ Remains called.1.2 called.2 rest.tail w' ∧
    ((∀ a, rest.head? ≠ some (.ok a)) → rest.tail = [] ∧ called.2 = w')

theorem takes_cons {s : Source α} {a : α} {buffered : List α} {w w' : World}
    {rest : List (Except Failure α)} (h : Remains ⟨s, a :: buffered⟩ w rest w') :
    Takes rest w' (next ⟨s, a :: buffered⟩ w) := by
  cases h with
  | ended _ _ hdone => exact ⟨rfl, .ended buffered _ hdone, fun ha => absurd rfl (ha a)⟩
  | fetching _ hrequest course =>
    exact ⟨rfl, .fetching buffered hrequest course, fun ha => absurd rfl (ha a)⟩

theorem takes_done {f : Feed α} (hdone : f.request? = none) (w : World) :
    Takes [] w (next ⟨.feed f, []⟩ w) := by
  rw [next_nil, Source.next_feed_of_done hdone]
  exact ⟨rfl, .ended [] _ hdone, fun _ => ⟨rfl, rfl⟩⟩

/-- Without an item at hand the first page of the course is pulled, and the next one if it has none. -/
theorem takes_course {f : Feed α} {request : Except Failure Request} {w w' : World}
    {pages : List (Page α)} {ending : Option Failure} (course : f.Course request w pages ending w')
    (hrequest : f.request? = some request) :
    Takes (outcomes pages ending) w' (next ⟨.feed f, []⟩ w) := by
  induction course with
  | refused f e w =>
    rw [next_nil, Source.next_feed_of_refused hrequest]
    exact ⟨rfl, .ended [] _ rfl, fun _ => ⟨rfl, rfl⟩⟩
  | failed hpage =>
    rw [next_nil, Source.next_feed_of_failure hrequest hpage]
    exact ⟨rfl, .ended [] _ rfl, fun _ => ⟨rfl, rfl⟩⟩
  | @last f _ _ w' p hpage hlink =>
    have hdone := f.request?_advance_of_last hlink
    have hp : outcomes [p] none = p.items.map .ok := by simp [outcomes]
    rw [next_nil_of_page (Source.next_feed_of_page hrequest hpage), hp]
    cases p.items with
    | nil => exact takes_done hdone w'
    | cons a rest => exact takes_cons (.ended _ w' hdone)
  | @more f _ _ w₁ w' p link pages ending hpage hlink course ih =>
    have hnext := f.request?_advance_of_link hlink
    have hp : outcomes (p :: pages) ending = p.items.map .ok ++ outcomes pages ending := by
      simp [outcomes]
    rw [next_nil_of_page (Source.next_feed_of_page hrequest hpage), hp]
    cases p.items with
    | nil => exact ih hnext
    | cons a rest => exact takes_cons (.fetching _ hnext course)

theorem next_takes {l : Listing α} {w w' : World} {rest : List (Except Failure α)}
    (h : Remains l w rest w') : Takes rest w' (l.next w) := by
  obtain ⟨s, _ | ⟨a, buffered⟩⟩ := l
  · cases h with
    | ended _ _ hdone => exact takes_done hdone w
    | fetching _ hrequest course => exact takes_course course hrequest
  · exact takes_cons h

theorem answers_of_remains {l : Listing α} {w w' : World} {rest : List (Except Failure α)}
    (h : Remains l w rest w') (n : Nat) :
    (answers n l w).1.1 = (List.range n).map (rest[·]?) ∧
      ((∃ i < n, ∀ a, rest[i]? ≠ some (.ok a)) → (answers n l w).2 = w') := by
  induction n generalizing l w rest with
  | zero => exact ⟨rfl, nofun⟩
  | succ n ih =>
    obtain ⟨hanswer, hremains, hend⟩ := next_takes h
    obtain ⟨hanswers, hworld⟩ := ih hremains
    rw [answers_succ]
    refine ⟨?_, ?_⟩
    · simp [hanswers, hanswer, List.range_succ_eq_map, List.head?_eq_getElem?]
    · rintro ⟨i | i, hi, hitem⟩
      · obtain ⟨htail, hw'⟩ := hend (by simpa [List.head?_eq_getElem?] using hitem)
        cases n with
        | zero => exact hw'
        | succ n => exact hworld ⟨0, Nat.succ_pos n, by simp [htail]⟩
      · exact hworld ⟨i, by omega, by simpa using hitem⟩

/-- **Every listing is its pages, one after the other.** From any first request or its failure on, and
whatever the service does, calls of `next` answer with the items of the pages that the service gives,
in order, and then, if it came to a failure, with that; after this they have no answer and nothing
changes any more. It comes to no failure exactly when the last page is without a link. -/
theorem answers_ofRequest (client : Client) (first : Except Failure Request)
    (options : CallOptions) (item : Json.Decoder α) (w : World) :
    ∃ pages ending w',
      (Feed.start client first options item w.spans).Course first w pages ending w' ∧
      (ending = none ↔ ∃ p ∈ pages.getLast?, p.continuation = none ∨ p.continuation = some "") ∧
      (∀ n, ((ofRequest client first options item >>= answers n) w).1.1 =
        (List.range n).map ((outcomes pages ending)[·]?)) ∧
      ∀ n, ((ofRequest client first options item >>=
        answers ((pages.flatMap (·.items)).length + 1 + n)) w).2 = w' := by
  obtain ⟨pages, ending, w', course⟩ :=
    (Feed.start client first options item w.spans).exists_course first w
  have hremains : Remains ⟨.feed (Feed.start client first options item w.spans), []⟩ w
      (outcomes pages ending) w' := .fetching [] rfl course
  refine ⟨pages, ending, w', course, ?_, fun n => (answers_of_remains hremains n).1, fun n => ?_⟩
  · simp only [course.ending_eq_none_iff, Page.nextLink_eq_none_iff]
  · refine (answers_of_remains hremains _).2
      ⟨(pages.flatMap (·.items)).length, by omega, fun a => ?_⟩
    cases ending <;> simp [outcomes]

end Listing

end JitAccess
