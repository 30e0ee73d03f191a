import JitAccess.Proofs.Listing.Reading

/-!
# After a failure

A source that asks a service is finished by its first failure. Pages that are ready are a list in
which a failure is an entry like any other, and a listing of them reads on after it. So what a listing
answers after a failure depends on where its pages come from, and on nothing else that was done with it.

* `Listing.source_of_next_failure`: what a failure leaves of a listing.
* `Listing.answers_of_done`: a finished source is silent.
* `Listing.answers_ready`: a listing of ready pages is the list of what they hold.
* `Listing.silent_after_failure_iff`: when a failure is the end.
-/

namespace JitAccess

open Http

variable {α : Type}

namespace Source

/-- Whether there is neither an item nor a failure among the pages that are ready. -/
def HoldsNothing : Source α → Prop
  | .feed _ => True
  | .ready pages => ∀ page ∈ pages, ∃ p, page = .ok p ∧ p.items = []

/-- A failure leaves a source that asks a service without a next request. -/
theorem request?_of_next_failure {s : Source α} {f : Feed α} {e : Failure} {w w' : World}
    (h : s.next w = ((some (.error e), .feed f), w')) : f.request? = none := by
  cases s with
  | feed f' =>
    rw [next_feed, Feed.next_apply] at h
    split at h
    · cases h
    · cases h
      rfl
    next r _ =>
      rcases hpage : f'.getPage r w with ⟨e' | p, w₁⟩
      · rw [hpage] at h
        cases h
        rfl
      · rw [hpage] at h
        cases h
  | ready pages => cases pages <;> cases h

end Source

namespace Listing

/-! ## What a failure leaves -/

/-- A failure leaves no items, and no request to a service. -/
theorem source_of_next_failure {l : Listing α} {w : World} {e : Failure}
    (h : (l.next w).1.1 = some (.error e)) :
    (l.next w).1.2.buffered = [] ∧ ∀ f, (l.next w).1.2.source = .feed f → f.request? = none := by
  obtain ⟨s, _ | ⟨item, rest⟩⟩ := l
  · obtain ⟨passed, s₁, w₁, -, -, -, hanswer⟩ := next_passes s w
    rw [hanswer] at h ⊢
    rcases hnext : s₁.next w₁ with ⟨⟨_ | e' | p, s'⟩, w'⟩
    · rw [hnext] at h
      cases h
    · refine ⟨rfl, ?_⟩
      rintro f rfl
      exact Source.request?_of_next_failure hnext
    · rw [hnext] at h
      obtain ⟨item, -, hitem⟩ := Option.map_eq_some_iff.1 h
      cases hitem
  · cases h

/-- A listing that asks a service goes on asking it. -/
theorem source_next_feed (f : Feed α) (buffered : List α) (w : World) :
    ∃ f', (next ⟨.feed f, buffered⟩ w).1.2.source = .feed f' := by
  cases buffered with
  | nil =>
    obtain ⟨passed, s₁, w₁, hgives, -, -, hanswer⟩ := next_passes (.feed f) w
    obtain ⟨f₁, rfl⟩ := hgives.feed
    rw [hanswer, Source.next_feed]
    refine ⟨(f₁.next w₁).1.2, ?_⟩
    rcases (f₁.next w₁).1.1 with _ | _ | _ <;> rfl
  | cons item rest => exact ⟨f, rfl⟩

/-! ## Silence -/

/-- A source without a next request gives nothing more, and nothing changes. -/
theorem answers_of_done {f : Feed α} (h : f.request? = none) (n : Nat) (w : World) :
    answers n ⟨.feed f, []⟩ w = ((List.replicate n none, ⟨.feed f, []⟩), w) := by
  induction n with
  | zero => rfl
  | succ n ih =>
    have hnext : next ⟨.feed f, []⟩ w = ((none, ⟨.feed f, []⟩), w) := by
      rw [next_nil, Source.next_feed_of_done h]
    rw [answers_succ, hnext, ih]
    rfl

/-! ## Pages that are ready -/

/-- What a listing answers for a page that is ready. -/
def readyOutcomes : Except Failure (Page α) → List (Except Failure α)
  | .ok p => p.items.map .ok
  | .error e => [.error e]

/-- What a listing of ready pages is still to answer. -/
def held (pages : List (Except Failure (Page α))) (buffered : List α) : List (Except Failure α) :=
  buffered.map .ok ++ pages.flatMap readyOutcomes

/-- One call takes the first of what is held. -/
theorem next_ready (pages : List (Except Failure (Page α))) (buffered : List α) (w : World) :
    ∃ pages' buffered', next ⟨.ready pages, buffered⟩ w =
        (((held pages buffered).head?, ⟨.ready pages', buffered'⟩), w) ∧
      held pages' buffered' = (held pages buffered).tail := by
  cases buffered with
  | cons item rest => exact ⟨pages, rest, rfl, rfl⟩
  | nil =>
    induction pages with
    | nil =>
      refine ⟨[], [], ?_, rfl⟩
      rw [next_nil]
      rfl
    | cons page pages ih =>
      rw [next_nil]
      cases page with
      | error e => exact ⟨pages, [], rfl, rfl⟩
      | ok p =>
        obtain ⟨items, continuation⟩ := p
        cases items with
        | nil => exact ih
        | cons item rest => exact ⟨pages, rest, rfl, rfl⟩

/-- A listing of ready pages answers with what they hold, failures included, in order. -/
theorem answers_ready (n : Nat) (pages : List (Except Failure (Page α))) (buffered : List α)
    (w : World) :
    (answers n ⟨.ready pages, buffered⟩ w).1.1 = (List.range n).map ((held pages buffered)[·]?) ∧
      (answers n ⟨.ready pages, buffered⟩ w).2 = w := by
  induction n generalizing pages buffered with
  | zero => exact ⟨rfl, rfl⟩
  | succ n ih =>
    obtain ⟨pages', buffered', hnext, hheld⟩ := next_ready pages buffered w
    obtain ⟨hanswers, hworld⟩ := ih pages' buffered'
    rw [answers_succ, hnext]
    refine ⟨?_, hworld⟩
    rw [hanswers, hheld, List.range_succ_eq_map]
    simp [List.head?_eq_getElem?]

theorem held_nil_eq_nil_iff {pages : List (Except Failure (Page α))} :
    held pages [] = [] ↔ (Source.ready pages).HoldsNothing := by
  rw [held, List.map_nil, List.nil_append, List.flatMap_eq_nil_iff]
  refine forall₂_congr fun page _ => ?_
  cases page with
  | error e => simp [readyOutcomes]
  | ok p => simp [readyOutcomes]

theorem forall_range_map_eq_replicate_iff {outcomes : List (Except Failure α)} :
    (∀ n, (List.range n).map (outcomes[·]?) = List.replicate n none) ↔ outcomes = [] := by
  constructor
  · intro h
    have hfirst := h 1
    simpa using hfirst
  · rintro rfl n
    simp [List.map_const']

/-- **A failure is the end of what a service gives, and not of pages that are ready.** However a
listing was made and however far it has been read: after an answer that is a failure nothing is sent
and nothing else changes. There are no more answers if the listing asks a service; otherwise there are
none exactly if no page after the failed one has an item or is a failure. -/
theorem silent_after_failure_iff (l : Listing α) (w : World) (e : Failure)
    (h : (l.next w).1.1 = some (.error e)) :
    (∀ n w', ((l.next w).1.2.answers n w').2 = w') ∧
      ((∀ n w', ((l.next w).1.2.answers n w').1.1 = List.replicate n none) ↔
        (l.next w).1.2.source.HoldsNothing) ∧
      ∀ f, l.source = .feed f → (l.next w).1.2.source.HoldsNothing := by
  obtain ⟨hbuffered, hdone⟩ := source_of_next_failure h
  have hfeed (f : Feed α) (hf : l.source = .feed f) : (l.next w).1.2.source.HoldsNothing := by
    obtain ⟨s, buffered⟩ := l
    obtain rfl : s = .feed f := hf
    obtain ⟨f', hf'⟩ := source_next_feed f buffered w
    rw [hf']
    trivial
  rcases hl : (l.next w).1.2 with ⟨f | pages, buffered⟩
  · rw [hl] at hbuffered hdone hfeed
    obtain rfl : buffered = [] := hbuffered
    have hsilent (n : Nat) (w' : World) := answers_of_done (hdone f rfl) n w'
    refine ⟨fun n w' => by rw [hsilent], iff_of_true (fun n w' => by rw [hsilent]) trivial, hfeed⟩
  · rw [hl] at hbuffered hfeed
    obtain rfl : buffered = [] := hbuffered
    refine ⟨fun n w' => (answers_ready n pages [] w').2, ?_, hfeed⟩
    rw [← held_nil_eq_nil_iff, ← forall_range_map_eq_replicate_iff]
    refine forall_congr' fun n => ⟨fun hn => ?_, fun hn w' => ?_⟩
    · rw [← (answers_ready n pages [] w).1, hn w]
    · rw [(answers_ready n pages [] w').1, hn]

/-- A listing over a service that is not reached, with its items in reverse. -/
def unreachedTexts : Listing String :=
  mapPages List.reverse ⟨.feed (.start Client.publicCloud
    (.ok (.get (Client.publicNext "page=1" none))) {} Json.Decoder.string []), []⟩

theorem silent_after_broken_request :
    (unreachedTexts.next { service := .unreachable }).1.1 = some (.error (.request .broken)) ∧
      ∀ n w', ((unreachedTexts.next { service := .unreachable }).1.2.answers n w').1.1 =
        List.replicate n none := by
  have hfails : (unreachedTexts.next { service := .unreachable }).1.1 =
      some (.error (.request .broken)) := by decide +kernel
  obtain ⟨-, hsilent, hfeed⟩ := silent_after_failure_iff unreachedTexts { service := .unreachable }
    (.request .broken) hfails
  exact ⟨hfails, hsilent.2 (hfeed _ rfl)⟩

/-- Not every listing ends with its first failure. -/
theorem not_forall_silent_after_failure :
    ¬ ∀ (l : Listing String) (w : World) (e : Failure), (l.next w).1.1 = some (.error e) →
      ∀ n, ((l.next w).1.2.answers n (l.next w).2).1.1 = List.replicate n none := by
  intro h
  have hsilent := h (ofPages [.error (.draft (.other "broken")), .ok ⟨["vm"], none⟩])
    { service := .unreachable } (.draft (.other "broken")) (by decide) 1
  exact absurd hsilent (by decide)

end Listing

end JitAccess
