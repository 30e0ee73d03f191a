import JitAccess.Proofs.Listing.Fetching

/-!
# Pages as they are pulled

A source gives one page after the other, and a listing pulls as many as it takes to come to an item.
The library bounds the number of pages by what the service has answers for. Here the bound goes: a
listing satisfies the equations of a loop without one, and everything else about pulling follows from
these by induction on the pages that are still to come.

* `Source.pages_induction`: this induction.
* `Listing.next_nil`, `Listing.attempt_collect_eq`: the next item and draining, page by page.
* `Source.Gives`, `Source.Runs`: some pages that a source gives, and all of them with their end.
* `Listing.next_passes`: pages without items are passed over, and no more are pulled.
* `Listing.answers_of_gives`: what has been pulled after some calls of `next`.
-/

namespace JitAccess

open Http

variable {α β : Type}

/-! ## Pages to come -/

namespace Source

theorem next_feed (f : Feed α) (w : World) :
    (Source.feed f).next w = (((f.next w).1.1, .feed (f.next w).1.2), (f.next w).2) := rfl

theorem next_feed_of_done {f : Feed α} (h : f.request? = none) (w : World) :
    (Source.feed f).next w = ((none, .feed f), w) := by
  rw [next_feed, Feed.next_apply, h]

theorem next_feed_of_refused {f : Feed α} {e : Failure} (h : f.request? = some (.error e))
    (w : World) : (Source.feed f).next w = ((some (.error e), .feed f.finished), w) := by
  rw [next_feed, Feed.next_apply, h]

theorem next_feed_of_failure {f : Feed α} {r : Request} {e : Failure} {w w' : World}
    (h : f.request? = some (.ok r)) (hpage : f.getPage r w = (.error e, w')) :
    (Source.feed f).next w = ((some (.error e), .feed f.finished), w') := by
  rw [next_feed, Feed.next_apply, h]
  dsimp only
  rw [hpage]

theorem next_feed_of_page {f : Feed α} {r : Request} {p : Page α} {w w' : World}
    (h : f.request? = some (.ok r)) (hpage : f.getPage r w = (.ok p, w')) :
    (Source.feed f).next w = ((some (.ok p), .feed (f.advance p)), w') := by
  rw [next_feed, Feed.next_apply, h]
  dsimp only
  rw [hpage]

/-- A page of a service was asked for, and the next one is what it links to. -/
theorem request_of_next {f : Feed α} {s' : Source α} {p : Page α} {w w' : World}
    (h : (Source.feed f).next w = ((some (.ok p), s'), w')) :
    ∃ r, f.request? = some (.ok r) ∧ f.getPage r w = (.ok p, w') ∧ s' = .feed (f.advance p) := by
  rw [next_feed, Feed.next_apply] at h
  split at h
  · cases h
  · cases h
  next r hr =>
    rcases hpage : f.getPage r w with ⟨e | p', w₁⟩
    · rw [hpage] at h
      cases h
    · rw [hpage] at h
      dsimp only at h
      cases h
      exact ⟨r, hr, hpage, rfl⟩

/-- A page that is pulled takes from the supply. -/
theorem supply_lt_of_next {s s' : Source α} {p : Page α} {w w' : World}
    (h : s.next w = ((some (.ok p), s'), w')) : s'.supply w' < s.supply w := by
  cases s with
  | feed f =>
    obtain ⟨r, -, hpage, rfl⟩ := request_of_next h
    exact Feed.supply_lt_of_getPage hpage
  | ready pages =>
    cases pages with
    | nil => cases h
    | cons page rest =>
      cases h
      exact Nat.lt_succ_self _

/-- What holds of a source if it holds of what the source is after its next page holds of all. -/
theorem pages_induction {motive : Source α → World → Prop}
    (step : ∀ s w, (∀ p s' w', s.next w = ((some (.ok p), s'), w') → motive s' w') → motive s w)
    (s : Source α) (w : World) : motive s w := by
  induction hn : s.supply w using Nat.strongRecOn generalizing s w with
  | _ n ih => exact step s w fun p s' w' h => ih _ (hn ▸ supply_lt_of_next h) s' w' rfl

/-- Which pages a source gives one after the other, and what it is after them. -/
inductive Gives : Source α → World → List (Page α) → Source α → World → Prop
  | nil (s : Source α) (w : World) : Gives s w [] s w
  | cons {s s₁ s' : Source α} {w w₁ w' : World} {p : Page α} {pages : List (Page α)}
      (hnext : s.next w = ((some (.ok p), s₁), w₁)) (rest : Gives s₁ w₁ pages s' w') :
      Gives s w (p :: pages) s' w'

/-- All pages that a source gives, and how they end. -/
def Runs (s : Source α) (w : World) (pages : List (Page α)) (ending : Option Failure)
    (w' : World) : Prop :=
  ∃ last w₁, s.Gives w pages last w₁ ∧ ∃ s', last.next w₁ = ((ending.map .error, s'), w')

variable {s s' : Source α} {w w' : World} {pages pages' : List (Page α)} {ending : Option Failure}

theorem Gives.split (h : s.Gives w (pages ++ pages') s' w') :
    ∃ s₁ w₁, s.Gives w pages s₁ w₁ ∧ s₁.Gives w₁ pages' s' w' := by
  induction pages generalizing s w with
  | nil => exact ⟨s, w, .nil s w, h⟩
  | cons p pages ih =>
    cases h with
    | cons hnext rest =>
      obtain ⟨s₁, w₁, hgives, hgives'⟩ := ih rest
      exact ⟨s₁, w₁, .cons hnext hgives, hgives'⟩

/-- Pages of a service leave a source that asks the service. -/
theorem Gives.feed {f : Feed α} (h : (Source.feed f).Gives w pages s' w') :
    ∃ f', s' = .feed f' := by
  generalize hs : Source.feed f = s at h
  induction h generalizing f with
  | nil => exact ⟨f, hs.symm⟩
  | cons hnext rest ih =>
    subst hs
    obtain ⟨r, -, -, rfl⟩ := request_of_next hnext
    exact ih rfl

theorem Runs.cons {p : Page α} {s₁ : Source α} {w₁ : World}
    (hnext : s.next w = ((some (.ok p), s₁), w₁)) (h : s₁.Runs w₁ pages ending w') :
    s.Runs w (p :: pages) ending w' := by
  obtain ⟨last, w₂, hgives, hlast⟩ := h
  exact ⟨last, w₂, .cons hnext hgives, hlast⟩

/-- The pages of every source come to an end. -/
theorem exists_runs (s : Source α) (w : World) : ∃ pages ending w', s.Runs w pages ending w' := by
  induction s, w using pages_induction with
  | step s w ih =>
    rcases hnext : s.next w with ⟨⟨_ | e | p, s'⟩, w'⟩
    · exact ⟨[], none, w', s, w, .nil s w, s', hnext⟩
    · exact ⟨[], some e, w', s, w, .nil s w, s', hnext⟩
    · obtain ⟨pages, ending, w'', h⟩ := ih p s' w' hnext
      exact ⟨p :: pages, ending, w'', h.cons hnext⟩

end Source

/-! ## The next item -/

namespace Listing

@[simp] theorem next_cons (s : Source α) (item : α) (rest : List α) (w : World) :
    next ⟨s, item :: rest⟩ w = ((some (.ok item), ⟨s, rest⟩), w) := rfl

theorem nextWithin_nil (n : Nat) (s : Source α) (w : World) :
    nextWithin (n + 1) ⟨s, []⟩ w = match s.next w with
      | ((none, s'), w') => ((none, ⟨s', []⟩), w')
      | ((some (.error e), s'), w') => ((some (.error e), ⟨s', []⟩), w')
      | ((some (.ok p), s'), w') => nextWithin n ⟨s', p.items⟩ w' := by
  rw [nextWithin, Act.bind_apply]
  rcases s.next w with ⟨⟨_ | _ | _, _⟩, _⟩ <;> rfl

/-- The bound on the pages does not matter if it is above the supply. -/
theorem nextWithin_congr {l : Listing α} {w : World} {n m : Nat} (hn : l.source.supply w < n)
    (hm : l.source.supply w < m) : nextWithin n l w = nextWithin m l w := by
  induction n generalizing l w m with
  | zero => omega
  | succ n ih =>
    obtain ⟨m, rfl⟩ := Nat.exists_eq_add_one.2 (Nat.zero_lt_of_lt hm)
    obtain ⟨s, _ | ⟨item, rest⟩⟩ := l
    · rw [nextWithin_nil, nextWithin_nil]
      rcases hnext : s.next w with ⟨⟨_ | e | p, s'⟩, w'⟩
      · rfl
      · rfl
      · have hlt := Source.supply_lt_of_next hnext
        exact ih (l := ⟨s', p.items⟩) (by dsimp only at *; omega) (by dsimp only at *; omega)
    · rfl

/-- A listing without an item at hand takes the first of the next page, or of the pages after it. -/
theorem next_nil (s : Source α) (w : World) :
    next ⟨s, []⟩ w = match s.next w with
      | ((none, s'), w') => ((none, ⟨s', []⟩), w')
      | ((some (.error e), s'), w') => ((some (.error e), ⟨s', []⟩), w')
      | ((some (.ok p), s'), w') => next ⟨s', p.items⟩ w' := by
  rw [next, nextWithin_nil]
  rcases hnext : s.next w with ⟨⟨_ | e | p, s'⟩, w'⟩
  · rfl
  · rfl
  · exact nextWithin_congr (l := ⟨s', p.items⟩) (Source.supply_lt_of_next hnext)
      (Nat.lt_succ_self _)

theorem next_nil_of_page {s s' : Source α} {p : Page α} {w w' : World}
    (h : s.next w = ((some (.ok p), s'), w')) : next ⟨s, []⟩ w = next ⟨s', p.items⟩ w' := by
  rw [next_nil, h]

/-- What the next item is if it is on a page that has just been pulled. -/
def ofPull : Option (Except Failure (Page α)) × Source α → Option (Except Failure α) × Listing α
  | (none, s) => (none, ⟨s, []⟩)
  | (some (.error e), s) => (some (.error e), ⟨s, []⟩)
  | (some (.ok p), s) => (p.items.head?.map .ok, ⟨s, p.items.tail⟩)

/-- Pages without items are passed over, and nothing is pulled after the first that has any. -/
theorem next_passes (s : Source α) (w : World) :
    ∃ passed s₁ w₁, s.Gives w passed s₁ w₁ ∧ (∀ p ∈ passed, p.items = []) ∧
      (∀ p, (s₁.next w₁).1.1 = some (.ok p) → p.items ≠ []) ∧
      next ⟨s, []⟩ w = (ofPull (s₁.next w₁).1, (s₁.next w₁).2) := by
  induction s, w using Source.pages_induction with
  | step s w ih =>
    rcases hnext : s.next w with ⟨⟨_ | e | p, s'⟩, w'⟩
    · exact ⟨[], s, w, .nil s w, by simp, by simp [hnext], by rw [next_nil, hnext]; rfl⟩
    · exact ⟨[], s, w, .nil s w, by simp, by simp [hnext], by rw [next_nil, hnext]; rfl⟩
    · cases hitems : p.items with
      | nil =>
        obtain ⟨passed, s₁, w₁, hgives, hpassed, hfound, hanswer⟩ := ih p s' w' hnext
        refine ⟨p :: passed, s₁, w₁, .cons hnext hgives, ?_, hfound, ?_⟩
        · exact List.forall_mem_cons.2 ⟨hitems, hpassed⟩
        · rw [next_nil_of_page hnext, hitems, hanswer]
      | cons item rest =>
        refine ⟨[], s, w, .nil s w, by simp, ?_, ?_⟩
        · rintro p' hp'
          rw [hnext] at hp'
          cases hp'
          simp [hitems]
        · rw [next_nil_of_page hnext, hnext, hitems]
          simp [ofPull, hitems]

/-! ## Some items -/

/-- What `n` calls of `next` answer, and the listing after them. -/
def answers : Nat → Listing α → Act (List (Option (Except Failure α)) × Listing α)
  | 0, l => return ([], l)
  | n + 1, l => do
    let (answer, l) ← l.next
    let (rest, l) ← answers n l
    return (answer :: rest, l)

theorem answers_succ (n : Nat) (l : Listing α) (w : World) :
    answers (n + 1) l w =
      (((l.next w).1.1 :: (answers n (l.next w).1.2 (l.next w).2).1.1,
        (answers n (l.next w).1.2 (l.next w).2).1.2), (answers n (l.next w).1.2 (l.next w).2).2) :=
  rfl

theorem answers_of_le (s : Source α) {buffered : List α} {k : Nat} (hk : k ≤ buffered.length)
    (w : World) : answers k ⟨s, buffered⟩ w =
      (((buffered.take k).map fun item => some (.ok item), ⟨s, buffered.drop k⟩), w) := by
  induction k generalizing buffered with
  | zero => rfl
  | succ k ih =>
    cases buffered with
    | nil => cases hk
    | cons item rest =>
      rw [answers_succ, next_cons, ih (Nat.le_of_succ_le_succ hk)]
      rfl

theorem answers_buffered_add (s : Source α) (buffered : List α) (k : Nat) (w : World) :
    answers (buffered.length + k) ⟨s, buffered⟩ w =
      ((buffered.map (fun item => some (.ok item)) ++ (answers k ⟨s, []⟩ w).1.1,
        (answers k ⟨s, []⟩ w).1.2), (answers k ⟨s, []⟩ w).2) := by
  induction buffered with
  | nil => rw [List.length_nil, Nat.zero_add]; rfl
  | cons item rest ih =>
    rw [List.length_cons, Nat.add_right_comm, answers_succ, next_cons, ih]
    rfl

theorem answers_nil_of_page {s s' : Source α} {p : Page α} {w w' : World}
    (h : s.next w = ((some (.ok p), s'), w')) {k : Nat} (hk : 0 < k) :
    answers k ⟨s, []⟩ w = answers k ⟨s', p.items⟩ w' := by
  obtain ⟨k, rfl⟩ := Nat.exists_eq_add_one.2 hk
  rw [answers_succ, answers_succ, next_nil_of_page h]

/-- Calls of `next` that come to the last of some pages have pulled these pages, and leave the items
that they did not answer with. -/
theorem answers_of_gives {s s' : Source α} {w w' : World} {pages : List (Page α)}
    (h : s.Gives w pages s' w') {buffered : List α} {k : Nat}
    (hk : k ≤ (buffered ++ pages.flatMap (·.items)).length)
    (hlast : pages ≠ [] → (buffered ++ pages.dropLast.flatMap (·.items)).length < k) :
    answers k ⟨s, buffered⟩ w =
      ((((buffered ++ pages.flatMap (·.items)).take k).map fun item => some (.ok item),
        ⟨s', (buffered ++ pages.flatMap (·.items)).drop k⟩), w') := by
  -- Each page is in turn the buffer of the listing that reads on.
  induction h generalizing buffered k with
  | nil s w =>
    rw [List.flatMap_nil, List.append_nil] at hk ⊢
    exact answers_of_le s hk w
  | @cons s s₁ s' w w₁ w' p pages hnext rest ih =>
    have hbeyond := hlast (List.cons_ne_nil _ _)
    rw [List.flatMap_cons, List.length_append, List.length_append] at hk
    rw [List.length_append] at hbeyond
    obtain ⟨j, rfl⟩ : ∃ j, k = buffered.length + j := Nat.exists_eq_add_of_le (by omega)
    have hj : j ≤ (p.items ++ pages.flatMap (·.items)).length := by
      rw [List.length_append]
      omega
    have hjlast (hpages : pages ≠ []) :
        (p.items ++ pages.dropLast.flatMap (·.items)).length < j := by
      rw [List.dropLast_cons_of_ne_nil hpages, List.flatMap_cons] at hbeyond
      omega
    rw [answers_buffered_add, answers_nil_of_page hnext (by omega), ih hj hjlast,
      List.flatMap_cons, List.take_length_add_append, List.drop_length_add_append, List.map_append]

/-! ## Draining -/

theorem attempt_collectWithin_succ (n : Nat) (s : Source α) (w : World) :
    (collectWithin (n + 1) s).attempt w = match s.next w with
      | ((none, _), w') => (.ok [], w')
      | ((some (.error e), _), w') => (.error e, w')
      | ((some (.ok p), s'), w') =>
        let (items, w'') := (collectWithin n s').attempt w'
        (items.map (p.items ++ ·), w'') := by
  rw [collectWithin, Run.attempt_bind, Run.attempt_lift]
  rcases s.next w with ⟨⟨_ | e | p, s'⟩, w'⟩
  · rfl
  · rfl
  · dsimp only
    rw [Run.attempt_bind]
    rcases (collectWithin n s').attempt w' with ⟨_ | _, _⟩ <;> rfl

/-- Like `nextWithin_congr`, for draining. -/
theorem collectWithin_congr {s : Source α} {w : World} {n m : Nat} (hn : s.supply w < n)
    (hm : s.supply w < m) : (collectWithin n s).attempt w = (collectWithin m s).attempt w := by
  induction n generalizing s w m with
  | zero => omega
  | succ n ih =>
    obtain ⟨m, rfl⟩ := Nat.exists_eq_add_one.2 (Nat.zero_lt_of_lt hm)
    rw [attempt_collectWithin_succ, attempt_collectWithin_succ]
    rcases hnext : s.next w with ⟨⟨_ | e | p, s'⟩, w'⟩
    · rfl
    · rfl
    · have hlt := Source.supply_lt_of_next hnext
      dsimp only
      rw [ih (m := m) (by omega) (by omega)]

theorem attempt_collect (l : Listing α) (w : World) :
    l.collect.attempt w =
      let (items, w') := (collectWithin (l.source.supply w + 1) l.source).attempt w
      (items.map (l.buffered ++ ·), w') := by
  show ((collectWithin (l.source.supply w + 1) l.source) >>= fun items =>
    (pure (l.buffered ++ items) : Run (List α))).attempt w = _
  rw [Run.attempt_bind]
  rcases (collectWithin (l.source.supply w + 1) l.source).attempt w with ⟨_ | _, _⟩ <;> rfl

/-- Draining gives the items at hand and those of the next page, and so on. -/
theorem attempt_collect_eq (s : Source α) (buffered : List α) (w : World) :
    (collect ⟨s, buffered⟩).attempt w = match s.next w with
      | ((none, _), w') => (.ok buffered, w')
      | ((some (.error e), _), w') => (.error e, w')
      | ((some (.ok p), s'), w') =>
        let (items, w'') := (collect ⟨s', p.items⟩).attempt w'
        (items.map (buffered ++ ·), w'') := by
  rw [attempt_collect, attempt_collectWithin_succ]
  rcases hnext : s.next w with ⟨⟨_ | e | p, s'⟩, w'⟩
  · simp [Except.map]
  · rfl
  · dsimp only
    rw [attempt_collect, collectWithin_congr (Source.supply_lt_of_next hnext)
      (Nat.lt_succ_self _)]

/-- A listing is drained of the items at hand and of all pages, or fails as these end. -/
theorem attempt_collect_of_runs {s : Source α} {w w' : World} {pages : List (Page α)}
    {ending : Option Failure} (h : s.Runs w pages ending w') (buffered : List α) :
    (collect ⟨s, buffered⟩).attempt w =
      (ending.elim (.ok (buffered ++ pages.flatMap (·.items))) .error, w') := by
  obtain ⟨last, w₁, hgives, s', hlast⟩ := h
  induction hgives generalizing buffered with
  | nil s w =>
    rw [attempt_collect_eq, hlast]
    cases ending <;> simp
  | @cons _ _ _ _ _ _ p _ hnext rest ih =>
    rw [attempt_collect_eq, hnext]
    dsimp only
    rw [ih p.items hlast]
    cases ending <;> simp [Except.map]

end Listing

end JitAccess
