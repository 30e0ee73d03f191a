import JitAccess.Proofs.Listing.Laziness
import JitAccess.Proofs.Listing.Mapping

/-!
# Ways to consume a listing

A listing can be read item by item, drained, or turned into its pages, and what has been read does not
decide which of these is done with the rest. The invariant of reading is `Consumed`: the items that were
given and those at hand are the items of the pages that were pulled, and those at hand are the end of the
last page. All that comes after is decided by the source, which gives the same pages in each way.

* `Listing.Consumed.next`, `Listing.consumed_of_answers`: one item more, and any number of items.
* `Source.answers_of_gives_add`: pages after some that were pulled.
* `Listing.answers_of_runs`: items up to the end.
* `Listing.goesOn_of_answers`: all ways together.
-/

namespace JitAccess

open Http

variable {α : Type}

/-! ## Pages after pages -/

namespace Source

variable {s s₁ s' : Source α} {w w₁ w' : World} {pages pages' : List (Page α)}
  {ending : Option Failure}

theorem Gives.append (h : s.Gives w pages s₁ w₁) (h' : s₁.Gives w₁ pages' s' w') :
    s.Gives w (pages ++ pages') s' w' := by
  induction h with
  | nil => exact h'
  | cons hnext _ ih => exact .cons hnext (ih h')

theorem Gives.runs (h : s.Gives w pages s₁ w₁) (h' : s₁.Runs w₁ pages' ending w') :
    s.Runs w (pages ++ pages') ending w' := by
  induction h with
  | nil => exact h'
  | cons hnext _ ih => exact (ih h').cons hnext

/-- Calls for pages answer with those that a source gives, and then as the source that it leaves. -/
theorem answers_of_gives_add (h : s.Gives w pages s' w') (n : Nat) :
    answers (pages.length + n) s w =
      ((pages.map (fun p => some (.ok p)) ++ (answers n s' w').1.1, (answers n s' w').1.2),
        (answers n s' w').2) := by
  induction h with
  | nil s w => rw [List.length_nil, Nat.zero_add]; rfl
  | cons hnext _ ih =>
    rw [List.length_cons, Nat.add_right_comm, answers_succ, hnext, ih]
    rfl

end Source

namespace Listing

/-! ## What has been consumed -/

/-- What some items that were given have taken from a listing: pages have been pulled, their items are
those that were given and those that are now at hand, and the latter are the end of the last page, or of
the items that were at hand before if no page has been pulled. -/
structure Consumed (l : Listing α) (w : World) (given : List α) (pulled : List (Page α))
    (l' : Listing α) (w' : World) : Prop where
  gives : l.intoPages.Gives w pulled l'.intoPages w'
  items : l.buffered ++ pulled.flatMap (·.items) = given ++ l'.buffered
  rest : l'.buffered <:+ (pulled.getLast?.map (·.items)).getD l.buffered

variable {l l₁ l' : Listing α} {w w₁ w' : World} {given given' : List α} {pulled pulled' : List (Page α)}

theorem Consumed.refl (l : Listing α) (w : World) : Consumed l w [] [] l w :=
  ⟨.nil _ w, List.append_nil _, List.suffix_rfl⟩

theorem Consumed.append (h : Consumed l w given pulled l₁ w₁)
    (h' : Consumed l₁ w₁ given' pulled' l' w') :
    Consumed l w (given ++ given') (pulled ++ pulled') l' w' := by
  refine ⟨h.gives.append h'.gives, ?_, ?_⟩
  · rw [List.flatMap_append, ← List.append_assoc, h.items, List.append_assoc, h'.items,
      List.append_assoc]
  · have hrest := h'.rest
    rw [List.getLast?_append]
    cases hlast : pulled'.getLast? with
    | none =>
      rw [hlast] at hrest
      exact hrest.trans h.rest
    | some p =>
      rw [hlast] at hrest
      exact hrest

/-- One item more. Without one at hand pages are pulled up to the first that has any. -/
theorem Consumed.next {a : α} (h : l.next w = ((some (.ok a), l'), w')) :
    ∃ pulled, Consumed l w [a] pulled l' w' := by
  obtain ⟨s, _ | ⟨item, rest⟩⟩ := l
  · obtain ⟨passed, s₁, w₁, hgives, hpassed, -, hnext⟩ := next_passes s w
    rw [h] at hnext
    rcases hpage : s₁.next w₁ with ⟨⟨_ | e | p, s'⟩, w₂⟩
    · rw [hpage] at hnext
      cases hnext
    · rw [hpage] at hnext
      cases hnext
    · rw [hpage, ofPull, Prod.mk.injEq, Prod.mk.injEq] at hnext
      obtain ⟨⟨hitem, rfl⟩, rfl⟩ := hnext
      obtain ⟨items, continuation⟩ := p
      cases items with
      | nil => cases hitem
      | cons item rest =>
        cases hitem
        have hnone : passed.flatMap (·.items) = [] := List.flatMap_eq_nil_iff.2 hpassed
        refine ⟨passed ++ [⟨a :: rest, continuation⟩], ?_, ?_, ?_⟩
        · exact hgives.append (.cons hpage (.nil _ _))
        · simp [hnone]
        · rw [List.getLast?_concat]
          exact List.suffix_cons a rest
  · cases h
    exact ⟨[], .nil _ w, by simp, List.suffix_cons a rest⟩

/-- Any number of items. -/
theorem consumed_of_answers
    (h : answers given.length l w = ((given.map fun a => some (.ok a), l'), w')) :
    ∃ pulled, Consumed l w given pulled l' w' := by
  induction given generalizing l w with
  | nil =>
    cases h
    exact ⟨[], .refl _ _⟩
  | cons a given ih =>
    rw [List.length_cons, answers_succ, List.map_cons, Prod.mk.injEq, Prod.mk.injEq,
      List.cons.injEq] at h
    obtain ⟨⟨⟨hfirst, hrest⟩, hlisting⟩, hworld⟩ := h
    obtain ⟨pulled, hconsumed⟩ := Consumed.next (Prod.ext (Prod.ext hfirst rfl) rfl)
    obtain ⟨pulled', hconsumed'⟩ := ih (Prod.ext (Prod.ext hrest hlisting) hworld)
    exact ⟨pulled ++ pulled', hconsumed.append hconsumed'⟩

/-! ## What is left -/

/-- Calls of `next` answer with the items at hand and those of all pages, and then with the end. -/
theorem answers_of_runs {s : Source α} {pages : List (Page α)} {ending : Option Failure}
    (h : s.Runs w pages ending w') (buffered : List α) :
    ∃ l', answers ((buffered ++ pages.flatMap (·.items)).length + 1) ⟨s, buffered⟩ w =
      (((buffered ++ pages.flatMap (·.items)).map (fun a => some (.ok a)) ++ [ending.map .error], l'),
        w') := by
  obtain ⟨last, w₁, hgives, s', hlast⟩ := h
  induction hgives generalizing buffered with
  | nil s w =>
    refine ⟨⟨s', []⟩, ?_⟩
    have hend : next ⟨s, []⟩ w = ((ending.map .error, ⟨s', []⟩), w') := by
      rw [next_nil, hlast]
      cases ending <;> rfl
    rw [List.flatMap_nil, List.append_nil, answers_buffered_add, answers_succ, hend]
    rfl
  | @cons s s₁ last w w₁ w₂ p pages hnext _ ih =>
    obtain ⟨l', hrest⟩ := ih p.items hlast
    refine ⟨l', ?_⟩
    rw [List.flatMap_cons, List.length_append, Nat.add_assoc, answers_buffered_add,
      answers_nil_of_page hnext (Nat.succ_pos _), hrest]
    simp only [List.map_append, List.append_assoc]

/-- How a listing goes on after it has given some items, in each way in which it can be consumed. Its
pages are those of the listing at the beginning but for the ones that were pulled, as they were. Reading
on gives the items at hand and those of these pages up to the end or a failure; draining gives the same
items or fails in this way, and leaves the same world. To have drained the listing at the beginning would
have given all of these items. -/
structure GoesOn (l : Listing α) (w : World) (given : List α) (l' : Listing α) (w' : World)
    (pulled pages : List (Page α)) (ending : Option Failure) (w'' : World) : Prop
    extends Consumed l w given pulled l' w' where
  remaining : ∀ n, l.intoPages.answers (pulled.length + n) w =
    ((pulled.map (fun p => some (.ok p)) ++ (l'.intoPages.answers n w').1.1,
      (l'.intoPages.answers n w').1.2), (l'.intoPages.answers n w').2)
  runs : l'.intoPages.Runs w' pages ending w''
  read : ∃ l'', answers ((l'.buffered ++ pages.flatMap (·.items)).length + 1) l' w' =
    (((l'.buffered ++ pages.flatMap (·.items)).map (fun a => some (.ok a)) ++ [ending.map .error],
      l''), w'')
  drained : l'.collect.attempt w' =
    (ending.elim (.ok (l'.buffered ++ pages.flatMap (·.items))) .error, w'')
  whole : l.collect.attempt w =
    (ending.elim (.ok (given ++ l'.buffered ++ pages.flatMap (·.items))) .error, w'')

/-- **The ways of consuming a listing agree.** Whatever listing it is, whatever the service does, and
however many items it has given: reading on, draining and going on page by page come to the same pages,
items and failure, with the same messages, and nothing of the listing is lost or given twice. -/
theorem goesOn_of_answers
    (h : answers given.length l w = ((given.map fun a => some (.ok a), l'), w')) :
    ∃ pulled pages ending w'', GoesOn l w given l' w' pulled pages ending w'' := by
  obtain ⟨pulled, hconsumed⟩ := consumed_of_answers h
  obtain ⟨pages, ending, w'', hruns⟩ := l'.intoPages.exists_runs w'
  refine ⟨pulled, pages, ending, w'', hconsumed, Source.answers_of_gives_add hconsumed.gives, hruns,
    answers_of_runs hruns l'.buffered, attempt_collect_of_runs hruns l'.buffered, ?_⟩
  have hwhole : l.buffered ++ (pulled ++ pages).flatMap (·.items) =
      given ++ l'.buffered ++ pages.flatMap (·.items) := by
    rw [List.flatMap_append, ← List.append_assoc, hconsumed.items]
  have hdrained := attempt_collect_of_runs (hconsumed.gives.runs hruns) l.buffered
  rwa [hwhole] at hdrained

/-- Two items are read past an empty page, and one is left of the last page. -/
theorem goesOn_past_empty_page :
    ∃ (l l' : Listing String) (w' : World),
      answers 2 l sparseWorld = (([some (.ok "vm1"), some (.ok "vm2")], l'), w') ∧
        l'.buffered = ["vm3"] ∧ ∃ pulled pages ending w'',
          GoesOn l sparseWorld ["vm1", "vm2"] l' w' pulled pages ending w'' := by
  obtain ⟨l, hl⟩ : ∃ l, (sparseTexts sparseWorld).1 = l := ⟨_, rfl⟩
  have hgiven : (answers 2 l sparseWorld).1.1 = [some (.ok "vm1"), some (.ok "vm2")] := by
    rw [← hl]
    decide +kernel
  have hrest : (answers 2 l sparseWorld).1.2.buffered = ["vm3"] := by
    rw [← hl]
    decide +kernel
  have h : answers 2 l sparseWorld = (([some (.ok "vm1"), some (.ok "vm2")],
      (answers 2 l sparseWorld).1.2), (answers 2 l sparseWorld).2) :=
    Prod.ext (Prod.ext hgiven rfl) rfl
  exact ⟨l, _, _, h, hrest, goesOn_of_answers h⟩

end Listing

end JitAccess
