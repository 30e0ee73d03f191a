import JitAccess.Proofs.Client.Continuation
import JitAccess.Proofs.Listing.Course

/-!
# Reading and draining

A listing can be read item by item for a while and then be drained. What remains of its course decides
both: draining gives all items that remain, or the failure among them.

* `Listing.remains_answers`: what remains after some calls of `next`.
* `Listing.attempt_collect_of_remains`: what draining gives.
* `Feed.Course.of_leadsAway`: a page with a link that is not followed is the last one.
* `Listing.breaksOff_of_leadsAway`: how such a listing is read and drained.
-/

namespace JitAccess

open Http

variable {α : Type}

/-! ## Reading on -/

namespace Listing

/-- After some calls of `next` there remains what they did not answer with. -/
theorem remains_answers {l : Listing α} {w w' : World} {rest : List (Except Failure α)}
    (h : Remains l w rest w') (n : Nat) :
    Remains (answers n l w).1.2 (answers n l w).2 (rest.drop n) w' := by
  induction n generalizing l w rest with
  | zero => exact h
  | succ n ih =>
    obtain ⟨-, hremains, -⟩ := next_takes h
    rw [answers_succ, ← List.drop_tail]
    exact ih hremains

/-! ## Draining -/

theorem mapM_map_ok_append (items : List α) (rest : List (Except Failure α)) :
    (items.map Except.ok ++ rest).mapM id = (rest.mapM id).map (items ++ ·) := by
  induction items with
  | nil =>
    show rest.mapM id = _
    cases rest.mapM id <;> rfl
  | cons item items ih =>
    rw [List.map_cons, List.cons_append, List.mapM_cons, ih]
    cases rest.mapM id <;> rfl

theorem mapM_drop_error (items : List α) (e : Failure) (n : Nat) :
    ((items.map Except.ok ++ [Except.error e]).drop n).mapM id =
      if n ≤ items.length then Except.error e else Except.ok [] := by
  by_cases hn : n ≤ items.length
  · have hlength : n ≤ (items.map (Except.ok : α → Except Failure α)).length := by
      rwa [List.length_map]
    rw [if_pos hn, List.drop_append_of_le_length hlength, ← List.map_drop, mapM_map_ok_append]
    rfl
  · have hlength : (items.map Except.ok ++ [Except.error e]).length ≤ n := by
      simp
      omega
    rw [if_neg hn, List.drop_of_length_le hlength]
    rfl

theorem mapM_outcomes (buffered : List α) (pages : List (Page α)) (ending : Option Failure) :
    (buffered.map Except.ok ++ outcomes pages ending).mapM id =
      ending.elim (.ok (buffered ++ pages.flatMap (·.items))) .error := by
  rw [outcomes, mapM_map_ok_append, mapM_map_ok_append]
  cases ending with
  | none => exact congrArg (fun items => Except.ok (buffered ++ items)) (List.append_nil _)
  | some e => rfl

/-- Draining gives all items that remain, or the failure that the listing comes to. -/
theorem attempt_collect_of_remains {l : Listing α} {w w' : World} {rest : List (Except Failure α)}
    (h : Remains l w rest w') : l.collect.attempt w = (rest.mapM id, w') := by
  cases h with
  | @ended f buffered w hdone =>
    have hruns : (Source.feed f).Runs w [] none w :=
      ⟨_, _, .nil _ _, _, Source.next_feed_of_done hdone w⟩
    have hrest := mapM_outcomes buffered [] none
    rw [attempt_collect_of_runs hruns, ← hrest]
    simp [outcomes]
  | fetching buffered hrequest course =>
    rw [attempt_collect_of_runs (course.runs hrequest), mapM_outcomes]

/-! ## Fetching -/

variable {f : Feed α}

/-- The call after the buffered items fetches a page, which takes the place of the empty buffer. -/
theorem world_answers_of_page {r : Request} {p : Page α} {w w' : World} {n : Nat}
    {buffered : List α} (h : f.request? = some (.ok r)) (hpage : f.getPage r w = (.ok p, w'))
    (hn : buffered.length < n) :
    (answers n ⟨.feed f, buffered⟩ w).2 =
      (answers (n - buffered.length) ⟨.feed (f.advance p), p.items⟩ w').2 := by
  obtain ⟨j, rfl⟩ := Nat.exists_eq_add_of_le (Nat.le_of_lt hn)
  rw [answers_buffered_add, answers_nil_of_page (Source.next_feed_of_page h hpage) (by omega),
    Nat.add_sub_cancel_left]

/-- A feed without a request that could be sent leaves the world alone. -/
theorem world_answers_of_idle (hidle : ∀ r, f.request? ≠ some (.ok r)) (buffered : List α)
    (n : Nat) (w : World) : (answers n ⟨.feed f, buffered⟩ w).2 = w := by
  induction n generalizing f buffered with
  | zero => rfl
  | succ n ih =>
    rw [answers_succ]
    cases buffered with
    | cons item rest => exact ih hidle rest
    | nil =>
      rw [next_nil]
      rcases hrequest : f.request? with _ | e | r
      · rw [Source.next_feed_of_done hrequest]
        exact ih hidle []
      · rw [Source.next_feed_of_refused hrequest]
        refine ih (fun r hr => ?_) []
        cases hr
      · exact absurd hrequest (hidle r)

end Listing

/-! ## Links that are not followed -/

namespace Feed.Course

variable {f : Feed α} {request : Except Failure Request} {w w' : World} {pages : List (Page α)}
  {ending : Option Failure} {p : Page α} {link : String} {fault : AddressFault}

theorem head_of_leadsAway (course : f.Course request w (p :: pages) ending w')
    (hlink : p.nextLink = some link) (haway : f.client.LeadsAway link fault) :
    pages = [] ∧ ending = some (.address fault) ∧
      ∃ r, request = .ok r ∧ f.getPage r w = (.ok p, w') := by
  cases course with
  | last hpage hlast =>
    rw [hlast] at hlink
    cases hlink
  | @more _ r _ w₁ _ _ link' _ _ hpage hlink' rest =>
    obtain rfl : link' = link := Option.some.inj (hlink'.symm.trans hlink)
    rw [Client.continuation_of_leadsAway haway] at rest
    cases rest with
    | refused => exact ⟨rfl, rfl, r, rfl, hpage⟩

/-- A page with a link that is not followed is the last one of its listing, which fails for the
link. -/
theorem of_leadsAway (course : f.Course request w pages ending w') (hp : p ∈ pages)
    (hlink : p.nextLink = some link) (haway : f.client.LeadsAway link fault) :
    ending = some (.address fault) ∧ ∃ before, pages = before ++ [p] := by
  induction course with
  | refused | failed => cases hp
  | @last f r w w' p' hpage hlast =>
    obtain rfl := List.mem_singleton.1 hp
    rw [hlast] at hlink
    cases hlink
  | @more f r w w₁ w' p' link' pages ending hpage hlink' rest ih =>
    rcases List.mem_cons.1 hp with rfl | hp
    · obtain ⟨rfl, hending, -⟩ := head_of_leadsAway (.more hpage hlink' rest) hlink haway
      exact ⟨hending, [], rfl⟩
    · obtain ⟨hending, before, hpages⟩ := ih hp haway
      exact ⟨hending, p' :: before, congrArg (p' :: ·) hpages⟩

end Feed.Course

namespace Listing

/-- How a listing goes on if it breaks off after a page. It answers with its items up to this page's
and then once with the failure. The call that fetches the page is the last to change the world. If the
listing is drained at any time, it fails, or gives nothing if it has failed before. -/
structure BreaksOff (l : Listing α) (w : World) (before : List (Page α)) (p : Page α) (e : Failure)
    (w' : World) : Prop where
  answers (n : Nat) : (l.answers n w).1.1 = (List.range n).map
    (((l.buffered ++ (before ++ [p]).flatMap (·.items)).map .ok ++ [.error e])[·]?)
  quiet (n : Nat) (hn : l.buffered.length + (before.flatMap (·.items)).length < n) :
    (l.answers n w).2 = w'
  drained (n : Nat) : (l.answers n w).1.2.collect.attempt (l.answers n w).2 =
    (if n ≤ (l.buffered ++ (before ++ [p]).flatMap (·.items)).length then .error e else .ok [], w')

variable {f : Feed α} {request : Except Failure Request} {w w' : World} {p : Page α}
  {link : String} {fault : AddressFault}

theorem world_answers_of_leadsAway {before : List (Page α)} {ending : Option Failure}
    (course : f.Course request w (before ++ [p]) ending w') (hrequest : f.request? = some request)
    (hlink : p.nextLink = some link) (haway : f.client.LeadsAway link fault) (buffered : List α)
    (n : Nat) (hn : buffered.length + (before.flatMap (·.items)).length < n) :
    (Listing.answers n ⟨.feed f, buffered⟩ w).2 = w' := by
  -- Each page of the course is in turn the buffer of the listing that reads on.
  induction before generalizing f request w buffered n with
  | nil =>
    obtain ⟨-, -, r, rfl, hpage⟩ := course.head_of_leadsAway hlink haway
    rw [world_answers_of_page hrequest hpage (by omega)]
    refine world_answers_of_idle (fun r' hr' => ?_) p.items _ w'
    rw [f.request?_advance_of_link hlink, Client.continuation_of_leadsAway haway] at hr'
    cases hr'
  | cons p' before ih =>
    rw [List.flatMap_cons, List.length_append] at hn
    rw [List.cons_append] at course
    generalize hpages : before ++ [p] = pages at course
    cases course with
    | last => simp at hpages
    | more hpage hlink' rest =>
      subst hpages
      rw [world_answers_of_page hrequest hpage (by omega)]
      exact ih rest (f.request?_advance_of_link hlink') haway p'.items _ (by omega)

/-- A listing breaks off after a page with a link that is not followed. -/
theorem breaksOff_of_leadsAway {before : List (Page α)} {ending : Option Failure}
    (course : f.Course request w (before ++ [p]) ending w') (hrequest : f.request? = some request)
    (hlink : p.nextLink = some link) (haway : f.client.LeadsAway link fault) (buffered : List α) :
    BreaksOff ⟨.feed f, buffered⟩ w before p (.address fault) w' := by
  obtain ⟨rfl, -⟩ := course.of_leadsAway (by simp) hlink haway
  have hremains : Remains ⟨.feed f, buffered⟩ w (buffered.map .ok ++
      outcomes (before ++ [p]) (some (.address fault))) w' := .fetching buffered hrequest course
  have hrest : buffered.map .ok ++ outcomes (before ++ [p]) (some (.address fault)) =
      (buffered ++ (before ++ [p]).flatMap (·.items)).map .ok ++
        [(.error (.address fault) : Except Failure α)] := by
    simp [outcomes]
  rw [hrest] at hremains
  constructor
  · exact fun n => (answers_of_remains hremains n).1
  · exact fun n hn => world_answers_of_leadsAway course hrequest hlink haway buffered n hn
  · intro n
    rw [attempt_collect_of_remains (remains_answers hremains n), mapM_drop_error]

end Listing

end JitAccess
