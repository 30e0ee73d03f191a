import JitAccess.Proofs.Failure.Redaction

/-!
# Texts that tell of no token

In a redacted text a marker is followed by nothing that could be a token, and cutting the text does
not change this.

* `eachMarker_redact`: what follows the markers of a redacted text, seen by the scan or not.
* `eachMarker_presentable`: the same of a text that may be shown, also where it is cut.
* `byteLength_presentable_le`: how long such a text is at most.
-/

namespace JitAccess.Redaction

variable {P Q : List Char → Prop} {c : Char} {cs rest : List Char}

/-! ## Markers of a text -/

/-- Whether what follows each marker of a text has a property. -/
def EachMarker (P : List Char → Prop) (cs : List Char) : Prop :=
  ∀ before after, cs = before ++ marker ++ after → P after

theorem eachMarker_cons : EachMarker P (c :: rest) ↔
    (∀ after, c :: rest = marker ++ after → P after) ∧ EachMarker P rest := by
  constructor
  · intro h
    refine ⟨fun after heq => h [] after heq, fun before after heq => ?_⟩
    exact h (c :: before) after (congrArg (c :: ·) heq)
  · rintro ⟨hfirst, hrest⟩ before after heq
    cases before with
    | nil => exact hfirst after heq
    | cons d before => exact hrest before after (List.cons.inj heq).2

theorem eachMarker_nil : EachMarker P [] := by
  intro before after heq
  have hlength := congrArg List.length heq
  have hmarker : marker.length = 7 := rfl
  simp only [List.length_nil, List.length_append] at hlength
  omega

theorem eachMarker_cons_of_ne (hc : c ≠ 'B') : EachMarker P (c :: rest) ↔ EachMarker P rest := by
  rw [eachMarker_cons, and_iff_right]
  intro after heq
  exact absurd ⟨after, heq.symm⟩ (not_marker_prefix_cons hc rest)

theorem eachMarker_append_of_not_mem {front : List Char} (h : 'B' ∉ front) :
    EachMarker P (front ++ cs) ↔ EachMarker P cs := by
  induction front with
  | nil => rfl
  | cons d front ih =>
    have hd : d ≠ 'B' := (List.ne_of_not_mem_cons h).symm
    rw [List.cons_append, eachMarker_cons_of_ne hd]
    exact ih (List.not_mem_of_not_mem_cons h)

theorem eachMarker_of_not_mem (h : 'B' ∉ cs) : EachMarker P cs := by
  rw [← List.append_nil cs, eachMarker_append_of_not_mem h]
  exact eachMarker_nil

theorem eachMarker_marker_append : EachMarker P (marker ++ cs) ↔ P cs ∧ EachMarker P cs := by
  have hmarker : marker ++ cs = 'B' :: ("earer ".toList ++ cs) := rfl
  have htail : 'B' ∉ "earer ".toList := by decide
  rw [hmarker, eachMarker_cons, eachMarker_append_of_not_mem htail, ← hmarker]
  refine and_congr_left fun _ => ⟨fun h => h cs rfl, fun h after heq => ?_⟩
  exact List.append_cancel_left heq ▸ h

theorem EachMarker.mono (h : EachMarker P cs) (himp : ∀ after, P after → Q after) :
    EachMarker Q cs :=
  fun before after heq => himp after (h before after heq)

/-! ## Redacted texts -/

/-- What follows a marker of a redacted text: its end, a delimiter, or the mask of a token, itself
followed by the end or a delimiter. -/
inductive Struck : List Char → Prop
  | ended : Struck []
  | delimited {c : Char} (hc : isDelimiter c = true) (rest : List Char) : Struck (c :: rest)
  | masked {rest : List Char} (hrest : ∀ c ∈ rest.head?, isDelimiter c = true) :
      Struck (redacted ++ rest)

theorem struck_of_head (h : ∀ c ∈ cs.head?, isDelimiter c = true) : Struck cs := by
  cases cs with
  | nil => exact .ended
  | cons c rest => exact .delimited (h c rfl) rest

theorem ne_of_isDelimiter (hc : isDelimiter c = true) : c ≠ 'B' := by
  rintro rfl
  exact absurd hc (by decide)

/-- The redaction of a text begins with a delimiter if the text does. -/
theorem head_redact (h : ∀ c ∈ cs.head?, isDelimiter c = true) :
    ∀ c ∈ (redact cs).head?, isDelimiter c = true := by
  cases cs with
  | nil =>
    rw [redact_nil]
    exact h
  | cons d rest =>
    rw [redact_cons_of_ne (ne_of_isDelimiter (h d rfl))]
    exact h

theorem head_afterToken (cs : List Char) : ∀ c ∈ (afterToken cs).head?, isDelimiter c = true := by
  intro c hc
  have hhead := List.head?_dropWhile_not (!isDelimiter ·) cs
  rw [← afterToken, hc] at hhead
  simpa using hhead

/-- What follows a marker that the scan has seen. -/
theorem struck_mask_append (cs : List Char) : Struck (mask cs ++ redact (afterToken cs)) := by
  have hhead := head_redact (head_afterToken cs)
  unfold mask
  split
  · exact struck_of_head hhead
  · exact .masked hhead

/-- Redaction makes no beginning that was not there, unless it begins as a marker does. -/
theorem prefix_of_prefix_redact {front : List Char} (hfront : 'B' ∉ front)
    (h : front <+: redact cs) : front <+: cs := by
  induction front generalizing cs with
  | nil => exact List.nil_prefix
  | cons d front ih =>
    have hd : d ≠ 'B' := (List.ne_of_not_mem_cons hfront).symm
    cases cs using scan_induction with
    | nil =>
      rw [redact_nil] at h
      exact h
    | marked y _ =>
      rw [redact_marker] at h
      exact absurd (List.cons_prefix_cons.1 h).1 hd
    | cons c rest hc _ =>
      rw [redact_cons hc] at h
      obtain ⟨rfl, hrest⟩ := List.cons_prefix_cons.1 h
      exact List.cons_prefix_cons.2
        ⟨rfl, ih (List.not_mem_of_not_mem_cons hfront) hrest⟩

/-- A character that begins no marker in a text begins none in its redaction. -/
theorem not_marker_prefix_cons_redact (h : ¬ marker <+: c :: rest) :
    ¬ marker <+: c :: redact rest := by
  intro hmarker
  have htail : 'B' ∉ "earer ".toList := by decide
  obtain ⟨rfl, hrest⟩ := List.cons_prefix_cons.1 hmarker
  exact h (List.cons_prefix_cons.2 ⟨rfl, prefix_of_prefix_redact htail hrest⟩)

/-- In a redacted text no token follows a marker, whether the scan saw the marker or not. -/
theorem eachMarker_redact (cs : List Char) : EachMarker Struck (redact cs) := by
  induction cs using scan_induction with
  | nil =>
    rw [redact_nil]
    exact eachMarker_nil
  | marked y ih =>
    have hmask : 'B' ∉ mask y := by
      unfold mask
      split <;> decide
    rw [redact_marker, List.append_assoc, eachMarker_marker_append,
      eachMarker_append_of_not_mem hmask]
    exact ⟨struck_mask_append y, ih⟩
  | cons c rest hc ih =>
    rw [redact_cons hc, eachMarker_cons]
    refine ⟨fun after heq => ?_, ih⟩
    -- A marker at this place would have been one before, too.
    exact absurd ⟨after, heq.symm⟩ (not_marker_prefix_cons_redact hc)

/-! ## Cut texts -/

/-- What follows a marker of a text that may be shown: as in a redacted text, or else the cut, which
may leave a part of a mask. -/
def Concealed (after : List Char) : Prop :=
  Struck after ∨ ∃ part, part <+: redacted ∧ after = part ++ truncated

theorem concealed_of_struck_append {a rest : List Char} (h : Struck (a ++ rest)) :
    Concealed (a ++ truncated) := by
  generalize htext : a ++ rest = text at h
  cases h with
  | ended =>
    obtain rfl := (List.append_eq_nil_iff.1 htext).1
    exact Or.inr ⟨[], List.nil_prefix, rfl⟩
  | delimited hc rest' =>
    cases a with
    | nil => exact Or.inr ⟨[], List.nil_prefix, rfl⟩
    | cons d a =>
      obtain rfl := (List.cons.inj htext).1
      exact Or.inl (.delimited hc _)
  | @masked rest' hrest =>
    rcases List.append_eq_append_iff.1 htext with ⟨b, hb, -⟩ | ⟨b, rfl, rfl⟩
    · exact Or.inr ⟨a, ⟨b, hb.symm⟩, rfl⟩
    · cases b with
      | nil => exact Or.inr ⟨redacted, List.prefix_rfl, by rw [List.append_nil]⟩
      | cons d b =>
        rw [List.append_assoc]
        exact Or.inl (.masked hrest)

/-- What follows a marker tells of a token where it begins with a character of one. -/
theorem not_concealed_cons (hc : isDelimiter c = false) (hmask : c ≠ '[') (hcut : c ≠ '.') :
    ¬ Concealed (c :: rest) := by
  rintro (hstruck | ⟨part, ⟨back, hpart⟩, hafter⟩)
  · generalize htext : c :: rest = text at hstruck
    cases hstruck with
    | ended => cases htext
    | delimited hd rest =>
      obtain rfl := (List.cons.inj htext).1
      rw [hc] at hd
      cases hd
    | masked hrest => exact hmask (List.cons.inj htext).1
  · cases part with
    | nil => exact hcut (List.cons.inj hafter).1
    | cons d part =>
      exact hmask ((List.cons.inj hafter).1.trans (List.cons.inj hpart).1)

/-- A beginning that a text has with a cut after it, it has without, if it has nothing of the cut. -/
theorem prefix_of_prefix_append {front a : List Char} (hdot : '.' ∉ front)
    (h : front <+: a ++ truncated) : front <+: a := by
  induction front generalizing a with
  | nil => exact List.nil_prefix
  | cons d front ih =>
    cases a with
    | nil =>
      obtain ⟨rfl, -⟩ := List.cons_prefix_cons.1 h
      exact absurd List.mem_cons_self hdot
    | cons e a =>
      obtain ⟨rfl, hrest⟩ := List.cons_prefix_cons.1 h
      exact List.cons_prefix_cons.2 ⟨rfl, ih (fun hd => hdot (List.mem_cons_of_mem d hd)) hrest⟩

/-- A redacted text may be cut anywhere. -/
theorem eachMarker_append_truncated {a : List Char} (h : EachMarker Struck (a ++ rest)) :
    EachMarker Concealed (a ++ truncated) := by
  induction a with
  | nil =>
    exact eachMarker_of_not_mem (by decide)
  | cons d a ih =>
    rw [List.cons_append, eachMarker_cons] at h
    rw [List.cons_append, eachMarker_cons]
    refine ⟨fun after heq => ?_, ih h.2⟩
    have hfront : marker <+: (d :: a) ++ truncated := ⟨after, heq.symm⟩
    obtain ⟨y, hy⟩ := prefix_of_prefix_append (by decide) hfront
    have hafter : after = y ++ truncated := by
      rw [← List.cons_append, ← hy, List.append_assoc] at heq
      exact (List.append_cancel_left heq).symm
    have hstruck : Struck (y ++ rest) := by
      refine h.1 _ ?_
      rw [← List.cons_append, ← hy, List.append_assoc]
    rw [hafter]
    exact concealed_of_struck_append hstruck

theorem fitting_prefix (limit : Nat) (cs : List Char) : fitting limit cs <+: cs := by
  induction cs generalizing limit with
  | nil => exact List.prefix_rfl
  | cons c rest ih =>
    unfold fitting
    split
    · exact List.cons_prefix_cons.2 ⟨rfl, ih _⟩
    · exact List.nil_prefix

/-- A text that may be shown tells of no token, also where it is cut. -/
theorem eachMarker_presentable (cs : List Char) : EachMarker Concealed (presentable cs) := by
  unfold presentable
  dsimp only
  split
  · exact (eachMarker_redact cs).mono fun _ => Or.inl
  · obtain ⟨rest, hrest⟩ := fitting_prefix byteLimit (redact cs)
    have hwhole := eachMarker_redact cs
    rw [← hrest] at hwhole
    exact eachMarker_append_truncated hwhole

/-! ## Bytes -/

theorem byteLength_append (cs ds : List Char) :
    byteLength (cs ++ ds) = byteLength cs + byteLength ds := by
  induction cs with
  | nil => exact (Nat.zero_add _).symm
  | cons c cs ih => rw [List.cons_append, byteLength, byteLength, ih, Nat.add_assoc]

theorem byteLength_fitting_le (limit : Nat) (cs : List Char) :
    byteLength (fitting limit cs) ≤ limit := by
  induction cs generalizing limit with
  | nil => exact Nat.zero_le _
  | cons c rest ih =>
    unfold fitting
    split
    next hfits =>
      have hrest := ih (limit - c.utf8Size)
      rw [byteLength]
      omega
    · exact Nat.zero_le _

theorem byteLength_presentable_le (cs : List Char) : byteLength (presentable cs) ≤ 1015 := by
  unfold presentable
  dsimp only
  split
  next hshort => exact Nat.le_trans hshort (by decide)
  · have hfitting := byteLength_fitting_le byteLimit (redact cs)
    have hlimit : byteLimit = 1000 := rfl
    have htruncated : byteLength truncated = 15 := by decide +kernel
    rw [byteLength_append]
    omega

theorem byteLength_eq_length (h : ∀ c ∈ cs, c.isDigit = true) : byteLength cs = cs.length := by
  induction cs with
  | nil => rfl
  | cons c cs ih =>
    have hc := h c List.mem_cons_self
    have hsize : c.utf8Size = 1 := by
      simp only [Char.isDigit, ge_iff_le, Bool.and_eq_true, decide_eq_true_eq] at hc
      rw [Char.utf8Size_eq_one_iff]
      exact UInt32.le_trans hc.2 (by decide)
    rw [byteLength, ih fun d hd => h d (List.mem_cons_of_mem c hd), hsize, List.length_cons,
      Nat.add_comm]

end JitAccess.Redaction
