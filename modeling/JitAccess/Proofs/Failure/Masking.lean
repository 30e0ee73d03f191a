import JitAccess.Proofs.Failure.Concealment

/-!
# The shape of redacted texts

Redaction puts a mask in the place of some tokens and changes nothing else, and there is nothing left
to do once it is done.

* `StrikesOut`: how a text is related to the same text with some of its tokens struck out.
* `redact_redact`: a redacted text is its own redaction. The scan comes to the same markers in both,
  since nothing that redaction writes begins like one, and takes each mask for the token it stands for.
* `redact_shape`: what is known of a redacted text.
-/

namespace JitAccess.Redaction

variable {cs ds rest : List Char}

/-! ## Struck tokens -/

/-- Whether a text is another with the mask in the place of some tokens. Each of them comes right
after a marker and goes on to a delimiter or the end. -/
inductive StrikesOut : List Char → List Char → Prop
  | refl (cs : List Char) : StrikesOut cs cs
  | struck (front : List Char) {t rest rest' : List Char} (ht : IsToken t)
      (hrest : ∀ c ∈ rest.head?, isDelimiter c = true) (h : StrikesOut rest rest') :
      StrikesOut (front ++ marker ++ t ++ rest) (front ++ marker ++ redacted ++ rest')

theorem StrikesOut.append_left (h : StrikesOut cs ds) (front : List Char) :
    StrikesOut (front ++ cs) (front ++ ds) := by
  cases h with
  | refl => exact .refl _
  | struck front' ht hrest h =>
    have hstruck := StrikesOut.struck (front ++ front') ht hrest h
    simpa only [List.append_assoc] using hstruck

/-- Nothing can be struck out of a text without a marker. -/
theorem StrikesOut.eq_of_no_marker (h : StrikesOut cs ds) (hmarker : ¬ marker <:+: cs) : ds = cs := by
  cases h with
  | refl => rfl
  | @struck front t rest rest' =>
    apply absurd _ hmarker
    exact ⟨front, t ++ rest, by simp only [List.append_assoc]⟩

theorem isUndelimited_token (cs : List Char) : IsUndelimited (token cs) := by
  intro c hc
  simpa using List.mem_takeWhile_imp hc

/-- Redaction strikes out tokens and does nothing else. -/
theorem strikesOut_redact (cs : List Char) : StrikesOut cs (redact cs) := by
  induction cs using scan_induction with
  | nil =>
    rw [redact_nil]
    exact .refl []
  | marked y ih =>
    have hy := token_append_afterToken y
    rw [redact_marker]
    by_cases ht : token y = []
    · have hafter : afterToken y = y := by rw [ht] at hy; exact hy
      rw [hafter] at ih
      simpa [mask, ht, hafter] using ih.append_left marker
    · have hstruck := StrikesOut.struck [] ⟨ht, isUndelimited_token y⟩ (head_afterToken y) ih
      have hmask : mask y = redacted := by simp [mask, ht]
      rw [List.nil_append, List.append_assoc marker, hy] at hstruck
      rw [hmask]
      exact hstruck
  | cons c rest hc ih =>
    rw [redact_cons hc]
    exact ih.append_left [c]

/-! ## Redacting once more -/

theorem isToken_redacted : IsToken redacted := by decide +kernel

/-- The mask of a token is what the scan takes for the token of a redacted text. -/
theorem mask_mask_append (hrest : ∀ c ∈ rest.head?, isDelimiter c = true) (cs : List Char) :
    mask (mask cs ++ rest) = mask cs ∧ afterToken (mask cs ++ rest) = rest := by
  have hafter := afterToken_of_head hrest
  by_cases ht : token cs = []
  · have htoken : token rest = [] := by
      have hsplit := token_append_afterToken rest
      rw [hafter] at hsplit
      exact List.append_left_eq_self.1 hsplit
    have hmask : mask cs = [] := by simp [mask, ht]
    rw [hmask]
    exact ⟨by simp [mask, htoken], hafter⟩
  · have hmask : mask cs = redacted := by simp [mask, ht]
    rw [hmask, mask_of_isToken_append isToken_redacted,
      afterToken_undelimited_append isToken_redacted.2, hafter]
    exact ⟨rfl, rfl⟩

theorem redact_redact (cs : List Char) : redact (redact cs) = redact cs := by
  induction cs using scan_induction with
  | nil => rw [redact_nil, redact_nil]
  | marked y ih =>
    obtain ⟨hmask, hafter⟩ := mask_mask_append (head_redact (head_afterToken y)) y
    rw [redact_marker, List.append_assoc, redact_marker, hmask, hafter, ih, List.append_assoc]
  | cons c rest hc ih => rw [redact_cons hc, redact_cons (not_marker_prefix_cons_redact hc), ih]

/-- **The shape of redacted texts.** Every marker of a redacted text, seen by the scan or not, is
followed by the end, by a delimiter, or by a mask that one of these follows. The text is the given one
with a mask in the place of some tokens, so that one without a marker stays as it is, and to redact it
again changes nothing. -/
theorem redact_shape (cs : List Char) :
    EachMarker Struck (redact cs) ∧ StrikesOut cs (redact cs) ∧
      (¬ marker <:+: cs → redact cs = cs) ∧ redact (redact cs) = redact cs :=
  ⟨eachMarker_redact cs, strikesOut_redact cs, (strikesOut_redact cs).eq_of_no_marker,
    redact_redact cs⟩

example : redact "Bearer a, Bearer Bearer b \"Bearer \"".toList =
    "Bearer [REDACTED], Bearer [REDACTED] b \"Bearer \"".toList := by decide +kernel

end JitAccess.Redaction
