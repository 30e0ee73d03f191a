import JitAccess.Proofs.Failure.Masking
import JitAccess.Proofs.Text.Boundary

/-!
# Cut texts

What is too long to be shown is cut between two characters, at the last place that leaves no more bytes
than the limit. The cut is made character by character here. One that is looked for in the bytes, from
the limit back, comes to the same and cannot fail. Since tokens are struck out before the text is cut,
no token decides where that is.

* `prefix_fitting`, `lt_byteLength_fitting_add_four`: what fits, and how much of it.
* `IsCut`, `isCut_fitting`: where a text is cut, as its characters and as its bytes tell it.
* `presentable?`, `presentable?_eq`: the cut that is looked for in the bytes.
* `endsInToken_of_no_marker`: a text without a marker leaves no token open.
* `presentable_exact`: all that is known of a text that may be shown.
-/

namespace JitAccess.Redaction

open Text.Utf8

variable {cs ds front : List Char} {limit : Nat}

/-! ## What fits -/

theorem length_encode (cs : List Char) : (encode cs).length = byteLength cs := by
  induction cs with
  | nil => rfl
  | cons c cs ih =>
    rw [encode_cons, List.length_append, String.length_utf8EncodeChar, ih, byteLength]

/-- Every beginning that fits is one of the longest that fits. -/
theorem prefix_fitting (h : front <+: cs) (hfits : byteLength front ≤ limit) :
    front <+: fitting limit cs := by
  induction front generalizing cs limit with
  | nil => exact List.nil_prefix
  | cons c front ih =>
    cases cs with
    | nil => exact absurd (List.prefix_nil.1 h) (List.cons_ne_nil c front)
    | cons d rest =>
      obtain ⟨rfl, hrest⟩ := List.cons_prefix_cons.1 h
      rw [byteLength] at hfits
      rw [fitting, if_pos (by omega)]
      exact List.cons_prefix_cons.2 ⟨rfl, ih hrest (by omega)⟩

/-- What fits of a text that is too long is short of the limit by less than a character. -/
theorem lt_byteLength_fitting_add_four (h : limit < byteLength cs) :
    limit < byteLength (fitting limit cs) + 4 := by
  induction cs generalizing limit with
  | nil => exact absurd h (Nat.not_lt_zero limit)
  | cons c rest ih =>
    rw [byteLength] at h
    unfold fitting
    split
    · have hrest : limit - c.utf8Size < byteLength (fitting (limit - c.utf8Size) rest) + 4 :=
        ih (by omega)
      rw [byteLength]
      omega
    · have hsize := c.utf8Size_le_four
      rw [byteLength]
      omega

/-! ## The cut -/

/-- Whether a beginning of a text is the longest of no more bytes than a limit. In the bytes of the text
it ends at the greatest boundary up to there. -/
structure IsCut (limit : Nat) (text front : List Char) : Prop where
  beginning : front <+: text
  fits : byteLength front ≤ limit
  longest : ∀ other, other <+: text → byteLength other ≤ limit → other <+: front
  boundary : IsGreatest {n | isBoundary (encode text) n = true ∧ n ≤ limit} (byteLength front)

theorem byteLength_le_of_prefix (h : front <+: cs) : byteLength front ≤ byteLength cs := by
  obtain ⟨back, rfl⟩ := h
  rw [byteLength_append]
  exact Nat.le_add_right _ _

theorem isCut_fitting (limit : Nat) (cs : List Char) : IsCut limit cs (fitting limit cs) := by
  have hbeginning : fitting limit cs <+: cs := fitting_prefix limit cs
  have hfits := byteLength_fitting_le limit cs
  refine ⟨hbeginning, hfits, fun other hother hle => prefix_fitting hother hle, ⟨?_, ?_⟩⟩
  · exact ⟨isBoundary_encode_iff.2 ⟨_, hbeginning, length_encode _⟩, hfits⟩
  · rintro n ⟨hn, hle⟩
    obtain ⟨other, hother, rfl⟩ := isBoundary_encode_iff.1 hn
    rw [length_encode] at hle ⊢
    exact byteLength_le_of_prefix (prefix_fitting hother hle)

/-- The text as it is shown, where the place of the cut is looked for in the bytes, from the limit back.
The search may go beyond the beginning, and the bytes before the place may be those of no text. -/
def presentable? (cs : List Char) : Option (List Char) :=
  let text := redact cs
  if (encode text).length ≤ byteLimit then some text
  else do
    let place ← lastBoundary? (encode text) byteLimit
    let front ← slice? (encode text) place
    return front ++ truncated

/-- Neither the search nor the reading fails, and the text is the same. -/
theorem presentable?_eq (cs : List Char) : presentable? cs = some (presentable cs) := by
  unfold presentable? presentable
  dsimp only
  rw [length_encode]
  split
  · rfl
  · have hcut := isCut_fitting byteLimit (redact cs)
    have hslice := slice?_encode hcut.beginning
    rw [length_encode] at hslice
    rw [lastBoundary?_eq_some_iff.2 hcut.boundary, Option.bind_eq_bind, Option.bind_some, hslice]
    rfl

/-! ## Tokens and the cut -/

/-- Whether a marker at the end of a text is the first one there. -/
def FirstAfter (cs : List Char) : Prop :=
  ∀ before after, cs ++ marker = before ++ marker ++ after → before = cs

/-- It is the first exactly if there is none in the text itself, since markers do not overlap. -/
theorem firstAfter_iff : FirstAfter cs ↔ ¬ marker <:+: cs := by
  constructor
  · rintro h ⟨before, after, rfl⟩
    have hbefore := h before (after ++ marker) (List.append_assoc _ _ _)
    have hlength := congrArg List.length hbefore
    have hmarker : marker.length = 7 := rfl
    simp only [List.length_append] at hlength
    omega
  · intro h before after heq
    rw [List.append_assoc] at heq
    rcases List.append_eq_append_iff.1 heq with ⟨between, rfl, hmarker⟩ | ⟨between, rfl, hmarker⟩
    · have hlength := congrArg List.length hmarker
      simp only [List.length_append] at hlength
      rw [List.length_eq_zero_iff.1 (by omega : between.length = 0), List.append_nil]
    · by_cases hbetween : between = []
      · rw [hbetween, List.append_nil]
      · have hnone : ¬ marker <+: between := fun hfront =>
          h (hfront.isInfix.trans (List.suffix_append before between).isInfix)
        refine absurd ?_ (not_marker_prefix_append hbetween hnone [])
        exact ⟨after, by rw [List.append_nil, hmarker]⟩

/-- Without a marker there is no token that could be open at the end. -/
theorem endsInToken_of_no_marker (h : ¬ marker <:+: cs) : endsInToken cs = false := by
  induction cs using scan_induction with
  | nil => exact endsInToken_nil
  | marked y _ => exact absurd (List.prefix_append marker y).isInfix h
  | cons c rest hc ih =>
    rw [endsInToken_cons hc]
    exact ih fun hrest => h (List.infix_cons hrest)

/-- Texts that are the same when they are redacted are shown alike. -/
theorem presentable_congr (h : redact cs = redact ds) : presentable cs = presentable ds := by
  rw [presentable, presentable, h]

/-- **Cutting is exact and safe.** The place of a cut is always found in the bytes, between two
characters. A redacted text of no more than 1000 bytes is shown as it is. Of any other the longest
beginning of no more than 1000 bytes is shown, which has at least 997, and a note that it was cut. What
follows the first marker of a text has no influence on what is shown as far as it is a token, however
long it is. -/
theorem presentable_exact (cs : List Char) :
    presentable? cs = some (presentable cs) ∧
      (byteLength (redact cs) ≤ 1000 → presentable cs = redact cs) ∧
      (1000 < byteLength (redact cs) → ∃ front,
        presentable cs = front ++ "... (truncated)".toList ∧
          IsCut 1000 (redact cs) front ∧ 997 ≤ byteLength front) ∧
      ∀ p q t₁ t₂ : List Char, FirstAfter p → (∀ c ∈ q.head?, isDelimiter c) →
        IsToken t₁ → IsToken t₂ →
          presentable (p ++ marker ++ t₁ ++ q) = presentable (p ++ marker ++ t₂ ++ q) := by
  refine ⟨presentable?_eq cs, fun hshort => if_pos hshort, fun hlong => ?_,
    fun p q t₁ t₂ hp hq ht₁ ht₂ => ?_⟩
  · refine ⟨fitting 1000 (redact cs), if_neg (Nat.not_le.2 hlong), isCut_fitting _ _, ?_⟩
    have hfull := lt_byteLength_fitting_add_four hlong
    omega
  · have hclosed := endsInToken_of_no_marker (firstAfter_iff.1 hp)
    refine presentable_congr ?_
    simp only [List.append_assoc]
    rw [redact_token hclosed ht₁ hq, redact_token hclosed ht₂ hq]

/-- A text of 600 characters of two bytes each is cut, and a token of any length is struck out. -/
theorem presentable_exact_of_long_texts :
    (1000 < byteLength (redact (List.replicate 600 'é')) ∧ ∃ front,
      presentable (List.replicate 600 'é') = front ++ "... (truncated)".toList ∧
        IsCut 1000 (redact (List.replicate 600 'é')) front ∧ 997 ≤ byteLength front) ∧
      FirstAfter "denied: ".toList ∧ IsToken (List.replicate 2000 'x') ∧ IsToken ['y'] ∧
        presentable ("denied: ".toList ++ marker ++ List.replicate 2000 'x' ++ [',']) =
          presentable ("denied: ".toList ++ marker ++ ['y'] ++ [',']) := by
  have hmarker : ¬ marker <:+: List.replicate 600 'é' := by
    intro h
    have hB : 'B' ∈ List.replicate 600 'é' := h.subset (by decide)
    exact absurd (List.eq_of_mem_replicate hB) (by decide)
  have hredact := (strikesOut_redact (List.replicate 600 'é')).eq_of_no_marker hmarker
  have hlong : 1000 < byteLength (redact (List.replicate 600 'é')) := by
    rw [hredact]
    decide +kernel
  have hfirst : FirstAfter "denied: ".toList := firstAfter_iff.2 (by decide +kernel)
  have htoken : IsToken (List.replicate 2000 'x') := by
    refine ⟨List.ne_nil_of_length_pos (by rw [List.length_replicate]; decide), fun c hc => ?_⟩
    rw [List.eq_of_mem_replicate hc]
    decide
  have hother : IsToken ['y'] := by decide +kernel
  obtain ⟨-, -, hcut, hindependent⟩ := presentable_exact (List.replicate 600 'é')
  refine ⟨⟨hlong, hcut hlong⟩, hfirst, htoken, hother, ?_⟩
  exact hindependent _ _ _ _ hfirst (fun c hc => by cases hc; decide) htoken hother

end JitAccess.Redaction
