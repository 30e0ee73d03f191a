import JitAccess.Failure.Redaction
import Mathlib.Data.List.TakeWhile

/-!
# Tokens and what they influence

`redact` goes through a text once and takes up its search after each token. A marker that stands
inside a token is therefore not seen, and the text after it is kept as it is.

* `endsInToken`: whether the token of a marker that is seen reaches the end of a text.
* `redact_append_marker`: where no token is open, a marker is seen and its token struck out.
* `endsInToken_append_marker`: of markers with no delimiter between them every other one is seen.
* `redact_independent_iff`: what follows a marker is without influence exactly where the marker is
  seen.
-/

namespace JitAccess.Redaction

/-! ## The scan -/

/-- What is shown for the token at the front of a text. -/
def mask (cs : List Char) : List Char := if (token cs).isEmpty then [] else redacted

theorem redact_nil : redact [] = [] := by
  rw [redact, dif_neg (by decide)]

theorem redact_marker (y : List Char) :
    redact (marker ++ y) = marker ++ mask y ++ redact (afterToken y) := by
  have h : marker.isPrefixOf (marker ++ y) = true := List.isPrefixOf_iff_prefix.2 ⟨y, rfl⟩
  rw [redact, dif_pos h]
  simp [mask]

theorem redact_cons {c : Char} {rest : List Char} (h : ¬ marker <+: c :: rest) :
    redact (c :: rest) = c :: redact rest := by
  rw [redact, dif_neg (by simpa using h)]

/-- Induction along the scan: over the markers that are seen and the characters between tokens. -/
theorem scan_induction {P : List Char → Prop} (nil : P [])
    (marked : ∀ y, P (afterToken y) → P (marker ++ y))
    (cons : ∀ c rest, ¬ marker <+: c :: rest → P rest → P (c :: rest)) (cs : List Char) : P cs := by
  fun_induction redact cs with
  | case1 cs h rest ih =>
    obtain ⟨y, rfl⟩ := List.isPrefixOf_iff_prefix.1 h
    exact marked y (by simpa [rest] using ih)
  | case2 h => exact nil
  | case3 c rest h ih => exact cons c rest (by simpa using h) ih

/-- Whether a text ends inside a token: the token of the last marker that is seen reaches its
end. -/
def endsInToken (cs : List Char) : Bool :=
  if _h : marker.isPrefixOf cs then
    (afterToken (cs.drop marker.length)).isEmpty ||
      endsInToken (afterToken (cs.drop marker.length))
  else
    match cs with
    | [] => false
    | _ :: rest => endsInToken rest
termination_by cs.length
decreasing_by
  · have hlen : marker.length ≤ cs.length := (List.isPrefixOf_iff_prefix.1 _h).length_le
    have hdrop := length_afterToken_le (cs.drop marker.length)
    have hmark : marker.length = 7 := rfl
    simp only [List.length_drop] at hdrop
    omega
  · simp

theorem endsInToken_nil : endsInToken [] = false := by
  rw [endsInToken, dif_neg (by decide)]

theorem endsInToken_marker (y : List Char) :
    endsInToken (marker ++ y) = ((afterToken y).isEmpty || endsInToken (afterToken y)) := by
  have h : marker.isPrefixOf (marker ++ y) = true := List.isPrefixOf_iff_prefix.2 ⟨y, rfl⟩
  rw [endsInToken, dif_pos h]
  simp

theorem endsInToken_cons {c : Char} {rest : List Char} (h : ¬ marker <+: c :: rest) :
    endsInToken (c :: rest) = endsInToken rest := by
  rw [endsInToken, dif_neg (by simpa using h)]

/-! ## Tokens in longer texts -/

/-- A text without delimiters. -/
def IsUndelimited (cs : List Char) : Prop := ∀ c ∈ cs, isDelimiter c = false

instance (cs : List Char) : Decidable (IsUndelimited cs) :=
  decidable_of_iff (cs.all (!isDelimiter ·) = true) (by simp [IsUndelimited])

/-- A text that is one bearer token. -/
def IsToken (cs : List Char) : Prop := cs ≠ [] ∧ IsUndelimited cs

instance (cs : List Char) : Decidable (IsToken cs) :=
  inferInstanceAs (Decidable (cs ≠ [] ∧ IsUndelimited cs))

theorem afterToken_eq_nil_iff {cs : List Char} : afterToken cs = [] ↔ IsUndelimited cs := by
  rw [afterToken, List.dropWhile_eq_nil_iff]
  simp [IsUndelimited]

theorem token_append_afterToken (cs : List Char) : token cs ++ afterToken cs = cs :=
  List.takeWhile_append_dropWhile

theorem afterToken_append {cs : List Char} (h : afterToken cs ≠ []) (z : List Char) :
    afterToken (cs ++ z) = afterToken cs ++ z := by
  rw [afterToken, List.dropWhile_append,
    if_neg (by simpa only [afterToken, List.isEmpty_iff] using h), afterToken]

theorem token_append {cs : List Char} (h : afterToken cs ≠ []) (z : List Char) :
    token (cs ++ z) = token cs := by
  refine (List.append_left_inj (afterToken cs ++ z)).1 ?_
  calc token (cs ++ z) ++ (afterToken cs ++ z)
      = token (cs ++ z) ++ afterToken (cs ++ z) := by rw [afterToken_append h]
    _ = cs ++ z := token_append_afterToken _
    _ = token cs ++ (afterToken cs ++ z) := by rw [← List.append_assoc, token_append_afterToken]

theorem token_undelimited_append {t : List Char} (ht : IsUndelimited t) (z : List Char) :
    token (t ++ z) = t ++ token z :=
  List.takeWhile_append_of_pos fun c hc => by simp [ht c hc]

theorem afterToken_undelimited_append {t : List Char} (ht : IsUndelimited t) (z : List Char) :
    afterToken (t ++ z) = afterToken z :=
  List.dropWhile_append_of_pos fun c hc => by simp [ht c hc]

theorem mask_append {cs : List Char} (h : afterToken cs ≠ []) (z : List Char) :
    mask (cs ++ z) = mask cs := by
  rw [mask, token_append h, mask]

theorem mask_of_isToken_append {t : List Char} (ht : IsToken t) (z : List Char) :
    mask (t ++ z) = redacted := by
  rw [mask, token_undelimited_append ht.2]
  simp [ht.1]

theorem afterToken_of_head {q : List Char} (hq : ∀ c ∈ q.head?, isDelimiter c) :
    afterToken q = q := by
  cases q with
  | nil => rfl
  | cons c rest => simp [afterToken, hq c rfl]

/-! ## Markers -/

theorem marker_eq : marker = "Bearer".toList ++ [' '] := rfl

theorem isUndelimited_bearer : IsUndelimited "Bearer".toList := by decide +kernel

theorem afterToken_marker_append (y : List Char) : afterToken (marker ++ y) = ' ' :: y := by
  rw [marker_eq, List.append_assoc, afterToken_undelimited_append isUndelimited_bearer]
  rfl

theorem not_marker_prefix_cons {c : Char} (hc : c ≠ 'B') (rest : List Char) :
    ¬ marker <+: c :: rest := by
  rintro ⟨y, hy⟩
  exact hc (List.cons.inj hy).1.symm

theorem not_marker_prefix_of_isUndelimited {r : List Char} (hr : IsUndelimited r) :
    ¬ marker <+: r := by
  rintro ⟨y, rfl⟩
  exact absurd (hr ' ' (by simp [marker_eq])) (by decide)

/-- No end of the marker is a beginning of it, so two markers in a text do not overlap. -/
theorem marker_borderless {n : Nat} (hpos : 0 < n) (hlt : n < 7) : ¬ marker.drop n <+: marker := by
  have h : ∀ i : Fin 7, 0 < i.val → ¬ marker.drop i.val <+: marker := by decide
  exact h ⟨n, hlt⟩ hpos

theorem not_marker_prefix_append {cs : List Char} (hne : cs ≠ []) (h : ¬ marker <+: cs)
    (y : List Char) : ¬ marker <+: cs ++ (marker ++ y) := by
  rintro ⟨z, hz⟩
  rcases List.append_eq_append_iff.1 hz with ⟨a, ha, hrest⟩ | ⟨a, ha, hrest⟩
  · exact h ⟨a, ha.symm⟩
  · -- The marker begins in `cs` and ends in the marker after it.
    have hlen : cs.length + a.length = 7 := by
      rw [← List.length_append, ← ha]; rfl
    have hcs : 0 < cs.length := List.length_pos_iff.2 hne
    have hdrop : marker.drop cs.length = a := by rw [ha, List.drop_left]
    by_cases ha0 : a = []
    · exact h ⟨[], by rw [List.append_nil, ha, ha0, List.append_nil]⟩
    · have hapos : 0 < a.length := List.length_pos_iff.2 ha0
      refine marker_borderless hcs (by omega) ?_
      rw [hdrop]
      exact List.prefix_of_prefix_length_le ⟨z, hrest.symm⟩ ⟨y, rfl⟩ (by
        have : marker.length = 7 := rfl
        omega)

/-! ## Markers after a text -/

/-- Where no token is open, the scan of a text leaves off at a marker that follows it. -/
theorem redact_append_marker {p : List Char} (h : endsInToken p = false) (y : List Char) :
    redact (p ++ (marker ++ y)) = redact p ++ redact (marker ++ y) := by
  induction p using scan_induction with
  | nil => rw [List.nil_append, redact_nil, List.nil_append]
  | marked r ih =>
    rw [endsInToken_marker, Bool.or_eq_false_iff] at h
    have hne : afterToken r ≠ [] := by simpa using h.1
    rw [List.append_assoc, redact_marker, redact_marker r, mask_append hne, afterToken_append hne,
      ih h.2, List.append_assoc _ _ (redact (marker ++ y))]
  | cons c rest hc ih =>
    rw [endsInToken_cons hc] at h
    rw [List.cons_append, redact_cons, ih h, redact_cons hc, List.cons_append]
    exact not_marker_prefix_append (List.cons_ne_nil c rest) hc y

/-- Where a token is open, a marker that follows is part of it up to its space, and the search is
taken up there. -/
theorem redact_append_marker_of_endsInToken {p : List Char} (h : endsInToken p = true) :
    ∃ shown, ∀ y, redact (p ++ (marker ++ y)) = shown ++ redact (' ' :: y) := by
  induction p using scan_induction with
  | nil => rw [endsInToken_nil] at h; contradiction
  | marked r ih =>
    by_cases hr : afterToken r = []
    · have hund : IsUndelimited r := afterToken_eq_nil_iff.1 hr
      refine ⟨marker ++ redacted, fun y => ?_⟩
      have htoken : r ++ (marker ++ y) = r ++ "Bearer".toList ++ (' ' :: y) := by
        simp [marker_eq]
      have hund' : IsUndelimited (r ++ "Bearer".toList) := fun c hc =>
        (List.mem_append.1 hc).elim (hund c) (isUndelimited_bearer c)
      rw [List.append_assoc, redact_marker, htoken, mask_of_isToken_append ⟨by simp, hund'⟩,
        afterToken_undelimited_append hund']
      rfl
    · rw [endsInToken_marker, Bool.or_eq_true, List.isEmpty_iff] at h
      obtain ⟨shown, hshown⟩ := ih (h.resolve_left hr)
      refine ⟨marker ++ mask r ++ shown, fun y => ?_⟩
      rw [List.append_assoc, redact_marker, mask_append hr, afterToken_append hr, hshown]
      simp only [List.append_assoc]
  | cons c rest hc ih =>
    rw [endsInToken_cons hc] at h
    obtain ⟨shown, hshown⟩ := ih h
    refine ⟨c :: shown, fun y => ?_⟩
    rw [List.cons_append, redact_cons, hshown, List.cons_append]
    exact not_marker_prefix_append (List.cons_ne_nil c rest) hc y

theorem endsInToken_of_isUndelimited {r : List Char} (hr : IsUndelimited r) :
    endsInToken r = false := by
  induction r with
  | nil => exact endsInToken_nil
  | cons c rest ih =>
    rw [endsInToken_cons (not_marker_prefix_of_isUndelimited hr)]
    exact ih fun d hd => hr d (List.mem_cons_of_mem c hd)

/-- A marker with no delimiter after it begins a token exactly where none is open. So of markers
that no delimiter but their own space is between, every other one is seen. -/
theorem endsInToken_append_marker (p : List Char) {r : List Char} (hr : IsUndelimited r) :
    endsInToken (p ++ (marker ++ r)) = !endsInToken p := by
  induction p using scan_induction with
  | nil => rw [List.nil_append, endsInToken_marker, afterToken_eq_nil_iff.2 hr, endsInToken_nil]; rfl
  | marked s ih =>
    by_cases hs : afterToken s = []
    · -- The open token takes in the marker up to its space, after which nothing is open.
      have hspace : ¬ marker <+: ' ' :: r := not_marker_prefix_cons (by decide) r
      rw [List.append_assoc, endsInToken_marker, endsInToken_marker, hs,
        afterToken_undelimited_append (afterToken_eq_nil_iff.1 hs), afterToken_marker_append,
        endsInToken_cons hspace, endsInToken_of_isUndelimited hr]
      rfl
    · have hs' : (afterToken s).isEmpty = false := by simpa using hs
      have happ : (afterToken s ++ (marker ++ r)).isEmpty = false := by simp [hs]
      rw [List.append_assoc, endsInToken_marker, endsInToken_marker, afterToken_append hs, ih, happ,
        hs', Bool.false_or, Bool.false_or]
  | cons c rest hc ih =>
    rw [List.cons_append, endsInToken_cons, ih, endsInToken_cons hc]
    exact not_marker_prefix_append (List.cons_ne_nil c rest) hc r

/-! ## What follows a marker -/

/-- A token after a marker that is seen is struck out, and the search taken up after it. -/
theorem redact_token {p t q : List Char} (h : endsInToken p = false) (ht : IsToken t)
    (hq : ∀ c ∈ q.head?, isDelimiter c) :
    redact (p ++ (marker ++ (t ++ q))) = redact p ++ (marker ++ redacted ++ redact q) := by
  rw [redact_append_marker h, redact_marker, mask_of_isToken_append ht,
    afterToken_undelimited_append ht.2, afterToken_of_head hq]

/-- A character other than the marker's first is kept where the search meets it. -/
theorem redact_cons_of_ne {c : Char} (hc : c ≠ 'B') (rest : List Char) :
    redact (c :: rest) = c :: redact rest :=
  redact_cons (not_marker_prefix_cons hc rest)

/-- **Tokens without influence.** A token after a marker has no influence on the redacted text
exactly where no token is open before the marker. -/
theorem redact_independent_iff {p q : List Char} (hq : ∀ c ∈ q.head?, isDelimiter c) :
    (∀ t₁ t₂, IsToken t₁ → IsToken t₂ →
      redact (p ++ marker ++ t₁ ++ q) = redact (p ++ marker ++ t₂ ++ q)) ↔
    endsInToken p = false := by
  simp only [List.append_assoc]
  constructor
  · intro hsame
    by_contra hopen
    obtain ⟨shown, hshown⟩ :=
      redact_append_marker_of_endsInToken ((Bool.not_eq_false _).mp hopen)
    have hab := hsame ['a'] ['b'] (by decide +kernel) (by decide +kernel)
    rw [hshown, hshown] at hab
    have htail := List.append_cancel_left hab
    rw [redact_cons_of_ne (by decide), redact_cons_of_ne (by decide), List.cons_append,
      List.cons_append, redact_cons_of_ne (by decide), redact_cons_of_ne (by decide)] at htail
    exact absurd (List.cons.inj (List.cons.inj htail).2).1 (by decide)
  · intro hclosed t₁ t₂ ht₁ ht₂
    rw [redact_token hclosed ht₁ hq, redact_token hclosed ht₂ hq]

/-- After a text without a marker, and before a comma, a token is without influence. -/
theorem redact_independent_after_text :
    (∀ c ∈ [','].head?, isDelimiter c) ∧ endsInToken "token: ".toList = false ∧
      ∀ t₁ t₂, IsToken t₁ → IsToken t₂ →
        redact ("token: ".toList ++ marker ++ t₁ ++ [',']) =
          redact ("token: ".toList ++ marker ++ t₂ ++ [',']) :=
  have hq : ∀ c ∈ [','].head?, isDelimiter c := fun c hc => by cases hc; decide
  have hclosed : endsInToken "token: ".toList = false := by decide +kernel
  ⟨hq, hclosed, (redact_independent_iff hq).2 hclosed⟩

/-- Not every marker is seen: one that stands in a token is not, and what follows it is shown. -/
theorem not_forall_redact_independent :
    ¬ ∀ p q t₁ t₂ : List Char, (∀ c ∈ q.head?, isDelimiter c) → IsToken t₁ → IsToken t₂ →
      redact (p ++ marker ++ t₁ ++ q) = redact (p ++ marker ++ t₂ ++ q) := by
  intro h
  have hsame := h "Bearer x".toList [] "secret".toList "other".toList nofun (by decide +kernel)
    (by decide +kernel)
  have hshown : redact "Bearer xBearer secret".toList = "Bearer [REDACTED] secret".toList := by
    decide +kernel
  have hother : redact "Bearer xBearer other".toList = "Bearer [REDACTED] other".toList := by
    decide +kernel
  exact absurd (hshown.symm.trans (hsame.trans hother)) (by decide +kernel)

end JitAccess.Redaction
