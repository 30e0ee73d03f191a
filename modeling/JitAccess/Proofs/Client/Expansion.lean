import JitAccess.Proofs.Client.Filling
import Mathlib.Data.List.Forall2

/-!
# What a route is filled with

Which parts a route has, and what becomes of each of them, said without the functions that find out:
the parts are what stands between slashes, and a part is a placeholder if it is a name in braces, whatever
the name. `Fills` has one rule for each way in which a part is filled or keeps the route from being filled.

* `exists_pieces`: the parts of a route.
* `fillPart_eq_iff`: a part is filled as the rules of `Fills` say.
* `expand_eq_ok_iff`, `expand_eq_error_iff`: the whole route, part by part, and its leftmost fault.
* `expand_congr`: only the first value of each name counts, and only for names in the route.
* `expand_exact`: all together.
-/

namespace JitAccess.Route

variable {params params' : List (String × String)} {part : List Char} {name value : String}
  {outcome : Except DraftFault String}

/-! ## Parts -/

theorem not_mem_of_mem_splitOn {α : Type} [BEq α] [LawfulBEq α] {a : α} {l piece : List α}
    (h : piece ∈ l.splitOn a) : a ∉ piece := by
  induction l generalizing piece with
  | nil =>
    rw [List.splitOn_nil, List.mem_singleton] at h
    rw [h]
    exact List.not_mem_nil
  | cons b l ih =>
    rw [List.splitOn_cons_eq_if_modifyHead] at h
    split at h
    · rcases List.mem_cons.1 h with rfl | h
      · exact List.not_mem_nil
      · exact ih h
    next hb =>
      obtain ⟨first, rest, hsplit⟩ := List.exists_cons_of_ne_nil (List.splitOn_ne_nil a l)
      rw [hsplit] at h ih
      rcases List.mem_cons.1 h with rfl | h
      · have hne : a ≠ b := fun hab => hb (beq_iff_eq.2 hab.symm)
        exact List.not_mem_cons_of_ne_of_not_mem hne (ih List.mem_cons_self)
      · exact ih (List.mem_cons_of_mem first h)

/-- The parts of a route are what stands between the slashes of its template, where anything does. -/
theorem exists_pieces (r : Route) : ∃ pieces, r.template.toList = ['/'].intercalate pieces ∧
    (∀ piece ∈ pieces, '/' ∉ piece) ∧ r.parts = pieces.filter (!·.isEmpty) :=
  ⟨r.template.toList.splitOn '/', (List.intercalate_splitOn '/').symm,
    fun _ => not_mem_of_mem_splitOn, rfl⟩

/-- The placeholder of a name. -/
def placeholder (name : String) : List Char := '\x7b' :: (name.toList ++ ['\x7d'])

theorem placeholder?_eq_some_iff : placeholder? part = some name ↔ part = placeholder name := by
  constructor
  · intro h
    unfold placeholder? at h
    split at h
    next rest =>
      split at h
      next hlast =>
        have hrest := List.dropLast_append_getLast? _ (beq_iff_eq.1 hlast)
        rw [← Option.some.inj h, placeholder, String.toList_ofList, hrest]
      · cases h
    · cases h
  · rintro rfl
    simp [placeholder, placeholder?]

theorem placeholder_injective {name name' : String} (h : placeholder name = placeholder name') :
    name = name' :=
  Option.some.inj ((placeholder?_eq_some_iff.2 rfl).symm.trans (placeholder?_eq_some_iff.2 h))

/-! ## Rules -/

/-- Whether a value is the first that is given for a name. -/
def FirstValue (params : List (String × String)) (name value : String) : Prop :=
  ∃ before after, params = before ++ (name, value) :: after ∧ ∀ p ∈ before, p.1 ≠ name

theorem lookup_eq_some_iff_firstValue :
    params.lookup name = some value ↔ FirstValue params name value := by
  rw [List.lookup_eq_some_iff]
  refine exists_congr fun before => exists_congr fun after => and_congr_right fun _ => ?_
  refine forall₂_congr fun p _ => ?_
  rw [bne_iff_ne, ne_comm]

/-- How the parts of a route are filled, and what keeps one from being filled. -/
inductive Fills (params : List (String × String)) : List Char → Except DraftFault String → Prop
  | text {part : List Char} (h : ∀ name, part ≠ placeholder name) :
      Fills params part (.ok (String.ofList part))
  | missing {name : String} (h : ∀ value, (name, value) ∉ params) :
      Fills params (placeholder name) (.error (.missingParameter name))
  | blank {name value : String} (h : FirstValue params name value)
      (hblank : Text.isBlank value = true) :
      Fills params (placeholder name) (.error (.blankParameter name))
  | dots {name value : String} (h : FirstValue params name value)
      (hblank : Text.isBlank value = false) (hdots : value = "." ∨ value = "..") :
      Fills params (placeholder name) (.error (.dotParameter name))
  | value {name value : String} (h : FirstValue params name value)
      (hblank : Text.isBlank value = false) (hdots : value ≠ "." ∧ value ≠ "..") :
      Fills params (placeholder name) (.ok value)

theorem fillPart_placeholder (params : List (String × String)) (name : String) :
    fillPart params (placeholder name) = fill params name := by
  rw [fillPart, placeholder?_eq_some_iff.2 rfl]

theorem lookup_eq_none_iff_not_mem :
    params.lookup name = none ↔ ∀ value, (name, value) ∉ params := by
  rw [List.lookup_eq_none_iff]
  constructor
  · intro h value hmem
    exact bne_iff_ne.1 (h _ hmem) rfl
  · rintro h ⟨name', value⟩ hmem
    refine bne_iff_ne.2 ?_
    rintro rfl
    exact h value hmem

theorem fills_fillPart (params : List (String × String)) (part : List Char) :
    Fills params part (fillPart params part) := by
  cases hname : placeholder? part with
  | none =>
    rw [fillPart, hname]
    refine .text fun name hpart => ?_
    rw [placeholder?_eq_some_iff.2 hpart] at hname
    cases hname
  | some name =>
    obtain rfl := placeholder?_eq_some_iff.1 hname
    rw [fillPart_placeholder, fill]
    cases hvalue : params.lookup name with
    | none => exact .missing (lookup_eq_none_iff_not_mem.1 hvalue)
    | some value =>
      have hfirst := lookup_eq_some_iff_firstValue.1 hvalue
      dsimp only
      by_cases hblank : Text.isBlank value = true
      · rw [if_pos hblank]
        exact .blank hfirst hblank
      · have hblank' : Text.isBlank value = false := Bool.eq_false_iff.2 hblank
        rw [if_neg hblank]
        by_cases hdots : value = "." ∨ value = ".."
        · rw [if_pos (by simpa using hdots)]
          exact .dots hfirst hblank' hdots
        · rw [if_neg (by simpa using hdots)]
          exact .value hfirst hblank' (not_or.1 hdots)

/-- A part is filled as the rules say, and in no other way. -/
theorem fillPart_eq_iff : fillPart params part = outcome ↔ Fills params part outcome := by
  constructor
  · rintro rfl
    exact fills_fillPart params part
  · intro h
    cases h with
    | text h =>
      have hnone : placeholder? part = none :=
        Option.eq_none_iff_forall_ne_some.2 fun name hname =>
          h name (placeholder?_eq_some_iff.1 hname)
      rw [fillPart, hnone]
    | missing h =>
      rw [fillPart_placeholder, fill, lookup_eq_none_iff_not_mem.2 h]
    | blank h hblank =>
      rw [fillPart_placeholder, fill, lookup_eq_some_iff_firstValue.2 h]
      dsimp only
      rw [if_pos hblank]
    | dots h hblank hdots =>
      rw [fillPart_placeholder, fill, lookup_eq_some_iff_firstValue.2 h]
      dsimp only
      rw [if_neg (Bool.eq_false_iff.1 hblank), if_pos (by simpa using hdots)]
    | value h hblank hdots =>
      rw [fillPart_placeholder, fill, lookup_eq_some_iff_firstValue.2 h]
      dsimp only
      rw [if_neg (Bool.eq_false_iff.1 hblank), if_neg (by simpa using hdots)]

theorem fills_placeholder_ok_iff : Fills params (placeholder name) (.ok value) ↔
    FirstValue params name value ∧ Text.isBlank value = false ∧ value ≠ "." ∧ value ≠ ".." := by
  constructor
  · intro h
    generalize hpart : placeholder name = part at h
    generalize houtcome : Except.ok value = outcome at h
    cases h with
    | text h => exact absurd hpart.symm (h name)
    | missing | blank | dots => cases houtcome
    | value hfirst hblank hdots =>
      obtain rfl := placeholder_injective hpart
      cases houtcome
      exact ⟨hfirst, hblank, hdots⟩
  · rintro ⟨hfirst, hblank, hdots⟩
    exact .value hfirst hblank hdots

/-! ## Whole routes -/

/-- A route is filled exactly if each part is, with one segment for each. -/
theorem expand_eq_ok_iff {r : Route} {segments : List String} :
    r.expand params = .ok segments ↔
      List.Forall₂ (fun part segment => Fills params part (.ok segment)) r.parts segments := by
  unfold expand
  simp only [← fillPart_eq_iff]
  generalize r.parts = parts
  induction parts generalizing segments with
  | nil =>
    rw [List.mapM_nil, List.forall₂_nil_left_iff]
    exact ⟨fun h => (Except.ok.inj h).symm, fun h => by rw [h]; rfl⟩
  | cons part parts ih =>
    rw [List.mapM_cons, List.forall₂_cons_left_iff]
    simp only [← ih]
    cases fillPart params part with
    | error fault => exact ⟨nofun, fun ⟨_, _, h, _⟩ => nomatch h⟩
    | ok segment =>
      cases parts.mapM (fillPart params) with
      | error fault => exact ⟨nofun, fun ⟨_, _, _, h, _⟩ => nomatch h⟩
      | ok rest =>
        constructor
        · intro h
          exact ⟨segment, rest, rfl, rfl, (Except.ok.inj h).symm⟩
        · rintro ⟨_, _, hsegment, hrest, rfl⟩
          cases hsegment
          cases hrest
          rfl

/-- A route that cannot be filled has the fault of its leftmost part that has one. -/
theorem expand_eq_error_iff {r : Route} {fault : DraftFault} :
    r.expand params = .error fault ↔ ∃ before part after, r.parts = before ++ part :: after ∧
      (∀ p ∈ before, ∃ segment, Fills params p (.ok segment)) ∧ Fills params part (.error fault) := by
  have hfault (p : List Char) (fault : DraftFault) :
      partFault? params p = some fault ↔ Fills params p (.error fault) := by
    rw [← fillPart_eq_iff, fillPart_eq]
    cases partFault? params p <;> simp
  have hfilled (p : List Char) :
      partFault? params p = none ↔ ∃ segment, Fills params p (.ok segment) := by
    simp only [← fillPart_eq_iff, fillPart_eq]
    cases partFault? params p <;> simp
  have hexpand : r.expand params = .error fault ↔
      r.parts.findSome? (partFault? params) = some fault := by
    rw [expand_eq]
    cases r.parts.findSome? (partFault? params) <;> simp
  rw [hexpand, List.findSome?_eq_some_iff]
  simp only [hfault, hfilled]
  exact exists_congr fun _ => exists_congr fun _ => exists_congr fun _ =>
    and_congr_right fun _ => and_comm

theorem exists_expand_eq_ok_iff {r : Route} : (∃ segments, r.expand params = .ok segments) ↔
    ∀ part ∈ r.parts, ∃ segment, Fills params part (.ok segment) := by
  constructor
  · rintro ⟨segments, h⟩ part hpart
    exact ⟨_, fillPart_eq_iff.1 ((mapM_fillPart_ok h).2 part hpart)⟩
  · intro h
    cases hexpand : r.expand params with
    | ok segments => exact ⟨segments, rfl⟩
    | error fault =>
      -- The part with the fault is filled as well, against the rules.
      obtain ⟨before, part, after, hparts, -, hfault⟩ := expand_eq_error_iff.1 hexpand
      obtain ⟨segment, hsegment⟩ := h part (by rw [hparts]; exact List.mem_append_cons_self)
      have heq := (fillPart_eq_iff.2 hsegment).symm.trans (fillPart_eq_iff.2 hfault)
      cases heq

/-- A route can be filled exactly if each placeholder in it has a value that is allowed. -/
theorem exists_expand_eq_ok_iff_values {r : Route} : (∃ segments, r.expand params = .ok segments) ↔
    ∀ name, placeholder name ∈ r.parts → ∃ value, FirstValue params name value ∧
      Text.isBlank value = false ∧ value ≠ "." ∧ value ≠ ".." := by
  rw [exists_expand_eq_ok_iff]
  constructor
  · intro h name hname
    obtain ⟨value, hvalue⟩ := h _ hname
    exact ⟨value, fills_placeholder_ok_iff.1 hvalue⟩
  · intro h part hpart
    by_cases hname : ∃ name, part = placeholder name
    · obtain ⟨name, rfl⟩ := hname
      obtain ⟨value, hvalue⟩ := h name hpart
      exact ⟨value, fills_placeholder_ok_iff.2 hvalue⟩
    · exact ⟨_, .text fun name hp => hname ⟨name, hp⟩⟩

/-- Only the first values of the names in a route count. -/
theorem expand_congr {r : Route}
    (h : ∀ name, placeholder name ∈ r.parts → params.lookup name = params'.lookup name) :
    r.expand params = r.expand params' := by
  have hpart : ∀ part ∈ r.parts, fillPart params part = fillPart params' part := by
    intro part hpart
    unfold fillPart
    cases hname : placeholder? part with
    | none => rfl
    | some name =>
      rw [placeholder?_eq_some_iff.1 hname] at hpart
      show fill params name = fill params' name
      rw [fill, fill, h name hpart]
  unfold expand
  generalize r.parts = parts at hpart
  induction parts with
  | nil => rfl
  | cons part parts ih =>
    rw [List.mapM_cons, List.mapM_cons, hpart part List.mem_cons_self,
      ih fun p hp => hpart p (List.mem_cons_of_mem part hp)]

/-- A value counts for nothing if its name is not in the route, or has been given a value before. -/
theorem expand_append_cons {r : Route} {before after : List (String × String)}
    (h : placeholder name ∉ r.parts ∨ ∃ earlier, (name, earlier) ∈ before) :
    r.expand (before ++ (name, value) :: after) = r.expand (before ++ after) := by
  refine expand_congr fun name' hname' => ?_
  rw [List.lookup_append, List.lookup_append, List.lookup_cons]
  by_cases hsame : name' = name
  · subst hsame
    obtain ⟨earlier, hearlier⟩ := h.resolve_left (not_not_intro hname')
    cases hbefore : before.lookup name' with
    | none => exact absurd hearlier (lookup_eq_none_iff_not_mem.1 hbefore earlier)
    | some first => rfl
  · rw [beq_false_of_ne hsame]

/-- **Filling a route is exact.** Its parts are the texts between slashes that are not empty. It can be
filled exactly if each placeholder among them has a first value that is neither blank nor a dot segment;
then there is one segment for each part, the value as it is for a placeholder and the text of any other
part. Otherwise the fault is that of the leftmost part that has one. Values for other names, and values
after the first, have no effect. -/
theorem expand_exact (r : Route) (params : List (String × String)) :
    (∃ pieces, r.template.toList = ['/'].intercalate pieces ∧ (∀ piece ∈ pieces, '/' ∉ piece) ∧
        r.parts = pieces.filter (!·.isEmpty)) ∧
      ((∃ segments, r.expand params = .ok segments) ↔
        ∀ name, placeholder name ∈ r.parts → ∃ value, FirstValue params name value ∧
          Text.isBlank value = false ∧ value ≠ "." ∧ value ≠ "..") ∧
      (∀ segments, r.expand params = .ok segments ↔
        List.Forall₂ (fun part segment => Fills params part (.ok segment)) r.parts segments) ∧
      (∀ fault, r.expand params = .error fault ↔
        ∃ before part after, r.parts = before ++ part :: after ∧
          (∀ p ∈ before, ∃ segment, Fills params p (.ok segment)) ∧
          Fills params part (.error fault)) ∧
      ∀ before after name value, params = before ++ (name, value) :: after →
        (placeholder name ∉ r.parts ∨ ∃ earlier, (name, earlier) ∈ before) →
          r.expand params = r.expand (before ++ after) := by
  refine ⟨r.exists_pieces, exists_expand_eq_ok_iff_values, fun _ => expand_eq_ok_iff,
    fun _ => expand_eq_error_iff, ?_⟩
  rintro before after name value rfl h
  exact expand_append_cons h

example : (Route.mk "a//\x7bx\x7d/\x7b\x7d/\x7by/z\x7d").expand [("x", "1"), ("", "2"), ("x", "3")] =
    .ok ["a", "1", "2", "\x7by", "z\x7d"] := by decide +kernel

end JitAccess.Route
