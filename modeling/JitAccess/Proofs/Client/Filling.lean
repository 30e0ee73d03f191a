import JitAccess.Client.Route

/-!
# Filled routes

A route is filled from the left. The first placeholder whose value is missing, blank or a dot segment
is what is wrong with all of it; if there is none, each part gives one segment.

* `Route.fillPart_eq`: what becomes of one part.
* `Route.expand_eq`: what becomes of the whole route.
* `Route.mapM_fillPart_ok`: what the segments of a filled route are.
-/

namespace JitAccess.Route

variable {params : List (String × String)} {part : List Char} {segments : List String}
  {s name : String}

/-- What keeps a value from the place of a placeholder. -/
def valueFault? (name value : String) : Option DraftFault :=
  if Text.isBlank value then some (.blankParameter name)
  else if value = "." ∨ value = ".." then some (.dotParameter name)
  else none

/-- What keeps a part of a route from being filled. -/
def partFault? (params : List (String × String)) (part : List Char) : Option DraftFault :=
  match placeholder? part with
  | none => none
  | some name =>
    match params.lookup name with
    | none => some (.missingParameter name)
    | some value => valueFault? name value

/-- A part of a route with its placeholder filled, whether or not the value is allowed. -/
def filled (params : List (String × String)) (part : List Char) : String :=
  match placeholder? part with
  | some name => (params.lookup name).getD ""
  | none => String.ofList part

/-- A part is filled unless there is a fault. -/
theorem fillPart_eq (params : List (String × String)) (part : List Char) :
    fillPart params part = (partFault? params part).elim (.ok (filled params part)) .error := by
  unfold fillPart partFault? filled
  cases placeholder? part with
  | none => rfl
  | some name =>
    show fill params name = _
    unfold fill
    dsimp only
    cases params.lookup name with
    | none => rfl
    | some value =>
      by_cases hblank : Text.isBlank value
      · simp [valueFault?, hblank]
      · by_cases hdots : value = "." ∨ value = ".."
        · simp [valueFault?, hblank, hdots]
        · simp [valueFault?, hblank, hdots]

theorem fill_ok (h : fill params name = .ok s) :
    params.lookup name = some s ∧ s ≠ "" ∧ s ≠ "." ∧ s ≠ ".." := by
  unfold fill at h
  split at h
  · cases h
  next value hvalue =>
    split at h
    · cases h
    next hblank =>
      split at h
      · cases h
      next hdots =>
        cases h
        refine ⟨hvalue, ?_, by simpa using hdots⟩
        rintro rfl
        exact hblank Text.isBlank_empty

/-- The parts of a route are filled unless there is a fault. The leftmost is told. -/
theorem mapM_fillPart (params : List (String × String)) (parts : List (List Char)) :
    parts.mapM (fillPart params) =
      (parts.findSome? (partFault? params)).elim (.ok (parts.map (filled params))) .error := by
  induction parts with
  | nil => rfl
  | cons part parts ih =>
    rw [List.mapM_cons, fillPart_eq, ih, List.findSome?_cons]
    cases partFault? params part with
    | some fault => rfl
    | none => cases parts.findSome? (partFault? params) <;> rfl

/-- A route is filled unless there is a fault. The leftmost is told. -/
theorem expand_eq (r : Route) (params : List (String × String)) :
    r.expand params =
      (r.parts.findSome? (partFault? params)).elim (.ok (r.parts.map (filled params))) .error :=
  mapM_fillPart params r.parts

theorem mapM_fillPart_ok {parts : List (List Char)}
    (h : parts.mapM (fillPart params) = .ok segments) :
    segments = parts.map (filled params) ∧
      ∀ part ∈ parts, fillPart params part = .ok (filled params part) := by
  rw [mapM_fillPart] at h
  cases hfault : parts.findSome? (partFault? params) with
  | some fault =>
    rw [hfault] at h
    cases h
  | none =>
    rw [hfault] at h
    refine ⟨(Except.ok.inj h).symm, ?_⟩
    intro part hpart
    rw [fillPart_eq, List.findSome?_eq_none_iff.1 hfault part hpart]
    rfl

end JitAccess.Route
