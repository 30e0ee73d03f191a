import JitAccess.Proofs.Url.Percent
import JitAccess.Url.Segment

/-!
# Longer paths

A text without tabs and line breaks that is not empty and not a dot segment becomes one more segment
of a path, and decodes to itself. A tab or line break is lost on the way into the path, and no
segment made of texts decodes to one.

* `foldl_addSegment`: the path of some segments and of texts that lose nothing.
* `AllFrom.foldl_addSegment`: what holds of all segments that are made from texts holds of those that
  are added to a path.
* `CleanFrom.foldl_addSegment`: no segment from some index on decodes to a tab or line break, whatever
  the texts are.
* `locates_extendPath_iff`: a path is extended by exactly some texts if and only if none has a tab or
  a line break.
-/

namespace JitAccess.Url

open Text

variable {scheme : String} {segments base : List String} {raw s : String}

/-! ## The bytes of a segment -/

/-- The bytes that a segment stands for. -/
def bytes (s : String) : List UInt8 := Percent.decode s.toList

/-- The encode set of a text that becomes a segment. -/
def segmentSet (scheme : String) : Percent.EncodeSet :=
  if isSpecial scheme then Percent.specialSegment else Percent.segment

/-- The segment that a text becomes if nothing of it is lost. -/
def segmentText (scheme raw : String) : String :=
  String.ofList (Percent.encode (segmentSet scheme) raw.toList)

theorem segmentSet_percent : segmentSet scheme '%' = true := by
  unfold segmentSet
  split <;> decide

theorem bytes_encode (cs : List Char) :
    bytes (String.ofList (Percent.encode (segmentSet scheme) cs)) = Utf8.encode cs := by
  rw [bytes, String.toList_ofList, Percent.decode_encode segmentSet_percent]

theorem bytes_segmentText : bytes (segmentText scheme raw) = Utf8.encode raw.toList :=
  bytes_encode raw.toList

theorem segmentText_ne_empty (h : raw ≠ "") : segmentText scheme raw ≠ "" := by
  intro h'
  have hbytes : Utf8.encode raw.toList = [] := by rw [← bytes_segmentText, h']; rfl
  exact h (String.toList_eq_nil_iff.1 (Utf8.encode_eq_nil.1 hbytes))

/-! ## Dot segments -/

theorem eq_of_toLower {c d : Char} (h : c.toLower = d) (hd : d.isLower = false) : c = d := by
  unfold Char.toLower at h
  split at h
  next hc =>
    rw [← h] at hd
    unfold Char.isLower at hd
    simp only [ge_iff_le, Bool.and_eq_false_iff, decide_eq_false_iff_not,
      UInt32.le_iff_toNat_le, UInt32.toNat_add] at hd hc
    simp at hd hc
    omega
  · exact h

theorem eq_or_of_toLower_e {c : Char} (h : c.toLower = 'e') : c = 'e' ∨ c = 'E' := by
  unfold Char.toLower at h
  split at h
  next hc =>
    have hval := congrArg (·.val.toNat) h
    simp only [UInt32.toNat_add, ge_iff_le, UInt32.le_iff_toNat_le] at hval hc
    refine Or.inr (Char.toNat_inj.1 ?_)
    simp at hval hc ⊢
    omega
  · exact Or.inl h

theorem decode_of_dot {cs ds : List Char} (h : cs.map Char.toLower = '.' :: ds) :
    ∃ rest, rest.map Char.toLower = ds ∧ Percent.decode cs = 0x2E :: Percent.decode rest := by
  obtain ⟨c, rest, rfl, hc, hrest⟩ := List.map_eq_cons_iff.1 h
  obtain rfl := eq_of_toLower hc rfl
  exact ⟨rest, hrest, Percent.decode_cons_of_ne (by decide) rest⟩

theorem decode_of_escapedDot {cs ds : List Char}
    (h : cs.map Char.toLower = '%' :: '2' :: 'e' :: ds) :
    ∃ rest, rest.map Char.toLower = ds ∧ Percent.decode cs = 0x2E :: Percent.decode rest := by
  obtain ⟨c₁, _, rfl, h₁, h⟩ := List.map_eq_cons_iff.1 h
  obtain ⟨c₂, _, rfl, h₂, h⟩ := List.map_eq_cons_iff.1 h
  obtain ⟨c₃, rest, rfl, h₃, hrest⟩ := List.map_eq_cons_iff.1 h
  obtain rfl := eq_of_toLower h₁ rfl
  obtain rfl := eq_of_toLower h₂ rfl
  exact ⟨rest, hrest, by rcases eq_or_of_toLower_e h₃ with rfl | rfl <;> rfl⟩

theorem toList_toLower (s : String) : s.toLower.toList = s.toList.map Char.toLower :=
  String.toList_map

theorem bytes_of_isSingleDot (h : isSingleDot s = true) : bytes s = [0x2E] := by
  simp only [isSingleDot, List.contains_eq_mem, decide_eq_true_eq, List.mem_cons,
    List.not_mem_nil, or_false, ← String.toList_inj, toList_toLower] at h
  rcases h with h | h
  · obtain ⟨_, hrest, hs⟩ := decode_of_dot h
    rw [bytes, hs, List.map_eq_nil_iff.1 hrest]
    rfl
  · obtain ⟨_, hrest, hs⟩ := decode_of_escapedDot h
    rw [bytes, hs, List.map_eq_nil_iff.1 hrest]
    rfl

theorem bytes_of_isDoubleDot (h : isDoubleDot s = true) : bytes s = [0x2E, 0x2E] := by
  simp only [isDoubleDot, List.contains_eq_mem, decide_eq_true_eq, List.mem_cons,
    List.not_mem_nil, or_false, ← String.toList_inj, toList_toLower] at h
  have htwo : ∃ rest, rest.map Char.toLower = [] ∧
      bytes s = 0x2E :: 0x2E :: Percent.decode rest := by
    rcases h with h | h | h | h
    · obtain ⟨_, h, hs⟩ := decode_of_dot h
      obtain ⟨rest, hrest, hs'⟩ := decode_of_dot h
      exact ⟨rest, hrest, by rw [bytes, hs, hs']⟩
    · obtain ⟨_, h, hs⟩ := decode_of_dot h
      obtain ⟨rest, hrest, hs'⟩ := decode_of_escapedDot h
      exact ⟨rest, hrest, by rw [bytes, hs, hs']⟩
    · obtain ⟨_, h, hs⟩ := decode_of_escapedDot h
      obtain ⟨rest, hrest, hs'⟩ := decode_of_dot h
      exact ⟨rest, hrest, by rw [bytes, hs, hs']⟩
    · obtain ⟨_, h, hs⟩ := decode_of_escapedDot h
      obtain ⟨rest, hrest, hs'⟩ := decode_of_escapedDot h
      exact ⟨rest, hrest, by rw [bytes, hs, hs']⟩
  obtain ⟨rest, hrest, hs⟩ := htwo
  rw [hs, List.map_eq_nil_iff.1 hrest]
  rfl

theorem isSingleDot_segmentText (h : raw ≠ ".") : isSingleDot (segmentText scheme raw) = false := by
  refine Bool.eq_false_iff.2 fun hdot => h (String.toList_inj.1 (Utf8.encode_injective ?_))
  rw [← bytes_segmentText, bytes_of_isSingleDot hdot]
  rfl

theorem isDoubleDot_segmentText (h : raw ≠ "..") :
    isDoubleDot (segmentText scheme raw) = false := by
  refine Bool.eq_false_iff.2 fun hdot => h (String.toList_inj.1 (Utf8.encode_injective ?_))
  rw [← bytes_segmentText, bytes_of_isDoubleDot hdot]
  rfl

/-! ## Texts without tabs and line breaks -/

/-- Whether a text has a tab or a line break. -/
def hasBreak (raw : String) : Bool := raw.toList.any isBreak

theorem withoutBreaks_of_not_hasBreak (h : hasBreak raw = false) :
    withoutBreaks raw.toList = raw.toList :=
  List.filter_eq_self.2 fun c hc => by simpa using List.any_eq_false.1 h c hc

theorem splitDrive?_of_not_hasBreak (h : hasBreak raw = false) : splitDrive? raw.toList = none := by
  unfold splitDrive?
  split
  next b _ _ hb =>
    have hmem : b ∈ raw.toList :=
      List.dropWhile_subset _ (List.drop_subset 1 _ (hb ▸ List.mem_cons_self))
    rw [Bool.eq_false_iff.2 (List.any_eq_false.1 h b hmem), Bool.and_false]
    rfl
  · rfl

/-- Whether a text becomes a segment of its own. -/
structure IsPlain (raw : String) : Prop where
  ne_empty : raw ≠ ""
  ne_dot : raw ≠ "."
  ne_dots : raw ≠ ".."
  no_break : hasBreak raw = false

theorem addText_of_not_hasBreak (h : hasBreak raw = false) (t : Trail) (last : Bool) :
    t.addText scheme (segmentSet scheme) raw.toList last =
      t.add scheme (segmentText scheme raw) last := by
  unfold Trail.addText segmentText
  simp only [splitDrive?_of_not_hasBreak h, withoutBreaks_of_not_hasBreak h, ite_self]

theorem add_of_isPlain (h : IsPlain raw) {t : Trail} (last : Bool)
    (hdrive : t.segments = [] → isDrive (segmentText scheme raw) = false) :
    t.add scheme (segmentText scheme raw) last =
      { t with segments := t.segments ++ [segmentText scheme raw] } := by
  have hfile : (scheme == "file" && t.segments.isEmpty && isDrive (segmentText scheme raw)) =
      false := by
    cases hempty : t.segments.isEmpty with
    | false => simp
    | true => simp [hdrive (List.isEmpty_iff.1 hempty)]
  rw [Trail.add, isDoubleDot_segmentText h.ne_dots, isSingleDot_segmentText h.ne_dot, hfile]
  rfl

theorem fromNonempty_of_head {s : String} (h : s ≠ "") (rest : List String) :
    fromNonempty (s :: rest) = s :: rest := by
  simp [fromNonempty, h]

theorem addSegment_eq :
    addSegment scheme segments raw =
      if raw == "." || raw == ".." then segments
      else if scheme == "file" then
        fromNonempty ((Trail.after (if segments == [""] then [] else segments)).addText scheme
          (segmentSet scheme) raw.toList true).segments
      else ((Trail.after (if segments == [""] then [] else segments)).addText scheme
        (segmentSet scheme) raw.toList true).segments := rfl

theorem addSegment_of_isPlain (h : IsPlain raw) (hsegments : ∀ s ∈ segments, s ≠ "")
    (hdrive : segments = [] → isDrive (segmentText scheme raw) = false) :
    addSegment scheme segments raw = segments ++ [segmentText scheme raw] := by
  have hdots : (raw == "." || raw == "..") = false := by simp [h.ne_dot, h.ne_dots]
  have hbefore : (if segments == [""] then [] else segments) = segments := by
    refine if_neg fun heq => hsegments "" ?_ rfl
    rw [beq_iff_eq.1 heq]
    exact List.mem_singleton_self ""
  have hadded : ((Trail.after segments).addText scheme (segmentSet scheme) raw.toList true).segments =
      segments ++ [segmentText scheme raw] := by
    rw [addText_of_not_hasBreak h.no_break, add_of_isPlain h true hdrive]
    rfl
  have hkept : fromNonempty (segments ++ [segmentText scheme raw]) =
      segments ++ [segmentText scheme raw] := by
    cases segments with
    | nil => exact fromNonempty_of_head (segmentText_ne_empty h.ne_empty) []
    | cons s rest => exact fromNonempty_of_head (hsegments s List.mem_cons_self) _
  rw [addSegment_eq, hdots, hbefore, hadded]
  simp only [hkept, ite_self, Bool.false_eq_true, if_false]

theorem foldl_addSegment {raws : List String} (hraws : ∀ raw ∈ raws, IsPlain raw)
    (hbase : ∀ s ∈ base, s ≠ "")
    (hdrive : base = [] → ∀ raw ∈ raws.head?, isDrive (segmentText scheme raw) = false) :
    raws.foldl (addSegment scheme) base = base ++ raws.map (segmentText scheme) := by
  induction raws generalizing base with
  | nil => simp
  | cons raw raws ih =>
    have hraw := hraws raw List.mem_cons_self
    rw [List.foldl_cons, addSegment_of_isPlain hraw hbase fun h => hdrive h raw rfl]
    rw [ih (fun r hr => hraws r (List.mem_cons_of_mem _ hr)), List.append_assoc]
    · rfl
    · intro s hs
      rcases List.mem_append.1 hs with hs | hs
      · exact hbase s hs
      · rw [List.mem_singleton.1 hs]
        exact segmentText_ne_empty hraw.ne_empty
    · simp

/-! ## What holds of all segments -/

theorem isBreak_of_mem_withoutBreaks {raw : List Char} :
    ∀ c ∈ withoutBreaks raw, isBreak c = false := fun c hc => by
  simpa using (List.mem_filter.1 hc).2

theorem append_of_splitDrive? {raw drive rest : List Char}
    (h : splitDrive? raw = some (drive, rest)) : drive ++ rest = withoutBreaks raw := by
  unfold splitDrive? at h
  split at h
  next hraw _ =>
    split at h
    · cases h
      exact hraw.symm
    · cases h
  · cases h

/-- Whether a property holds of all segments that are made from texts under an encode set. -/
structure HoldsOfSegments (P : String → Prop) (set : Percent.EncodeSet) : Prop where
  empty : P ""
  drive (s : String) : isDrive s = true → P (plainDrive s)
  encode (cs : List Char) : (∀ c ∈ cs, isBreak c = false) →
    P (String.ofList (Percent.encode set cs))

/-- Whether a property holds of the segments from an index on. -/
def AllFrom (P : String → Prop) (k : Nat) (segments : List String) : Prop :=
  ∀ s ∈ segments.drop k, P s

namespace AllFrom

variable {P : String → Prop} {set : Percent.EncodeSet} {k : Nat} {t : Trail}

theorem append_singleton (h : AllFrom P k segments) (hs : P s) : AllFrom P k (segments ++ [s]) := by
  intro r hr
  rw [List.drop_append] at hr
  rcases List.mem_append.1 hr with hr | hr
  · exact h r hr
  · rw [List.mem_singleton.1 (List.mem_of_mem_drop hr)]
    exact hs

theorem dropLast (h : AllFrom P k segments) : AllFrom P k segments.dropLast := by
  intro r hr
  rw [List.dropLast_eq_take, List.drop_take] at hr
  exact h r (List.mem_of_mem_take hr)

theorem climb (h : AllFrom P k segments) : AllFrom P k (climb segments) := by
  unfold Url.climb
  split
  · exact h
  · exact h.dropLast

theorem of_forall (h : ∀ s ∈ segments, P s) : AllFrom P k segments :=
  fun s hs => h s (List.mem_of_mem_drop hs)

theorem fromNonempty (hempty : P "") (h : AllFrom P k segments) :
    AllFrom P k (fromNonempty segments) := by
  have hdrop : ∃ n, segments.dropWhile (·.isEmpty) = segments.drop n :=
    ⟨_, List.dropWhile_eq_drop_findIdx_not⟩
  unfold Url.fromNonempty
  split
  · exact of_forall (by simpa using hempty)
  · obtain ⟨n, hn⟩ := hdrop
    intro r hr
    rw [hn, List.drop_drop, Nat.add_comm, ← List.drop_drop] at hr
    exact h r (List.mem_of_mem_drop hr)

theorem add (hP : HoldsOfSegments P set) (h : AllFrom P k t.segments) (hs : P s) (last : Bool) :
    AllFrom P k (t.add scheme s last).segments := by
  unfold Trail.add
  split
  · cases last
    · exact h.climb
    · exact h.climb.append_singleton hP.empty
  · split
    · cases last
      · exact h
      · exact h.append_singleton hP.empty
    · split
      next hdrive =>
        simp only [Bool.and_eq_true] at hdrive
        exact of_forall (by simpa using hP.drive s hdrive.2)
      · exact h.append_singleton hs

theorem addText (hP : HoldsOfSegments P set) (h : AllFrom P k t.segments) (raw : List Char)
    (last : Bool) : AllFrom P k (t.addText scheme set raw last).segments := by
  unfold Trail.addText
  split
  next drive rest hsplit =>
    split at hsplit
    · have happend := append_of_splitDrive? hsplit
      have hbreak : ∀ c ∈ drive ++ rest, isBreak c = false :=
        happend ▸ isBreak_of_mem_withoutBreaks
      refine of_forall fun s hs => ?_
      simp only [List.mem_cons, List.not_mem_nil, or_false] at hs
      rcases hs with rfl | rfl
      · exact hP.encode _ fun c hc => hbreak c (List.mem_append_left _ hc)
      · exact hP.encode _ fun c hc => hbreak c (List.mem_append_right _ hc)
    · cases hsplit
  · exact add hP h (hP.encode _ isBreak_of_mem_withoutBreaks) last

theorem addTexts (hP : HoldsOfSegments P set) (h : AllFrom P k t.segments)
    (raws : List (List Char)) : AllFrom P k (t.addTexts scheme set raws).segments := by
  fun_induction Trail.addTexts scheme set t raws with
  | case1 t => exact h
  | case2 t raw => exact addText hP h raw true
  | case3 t raw rest _ ih => exact ih (addText hP h raw false)

theorem addSegment (hP : HoldsOfSegments P (segmentSet scheme)) (h : AllFrom P k segments)
    (raw : String) : AllFrom P k (addSegment scheme segments raw) := by
  have hbefore : AllFrom P k (if segments == [""] then [] else segments) := by
    split
    · exact of_forall nofun
    · exact h
  rw [addSegment_eq]
  split
  · exact h
  · split
    · exact fromNonempty hP.empty (addText (t := .after _) hP hbefore raw.toList true)
    · exact addText (t := .after _) hP hbefore raw.toList true

theorem foldl_addSegment (hP : HoldsOfSegments P (segmentSet scheme)) (h : AllFrom P k segments)
    (raws : List String) : AllFrom P k (raws.foldl (Url.addSegment scheme) segments) := by
  induction raws generalizing segments with
  | nil => exact h
  | cons raw raws ih => exact ih (h.addSegment hP raw)

end AllFrom

/-! ## Texts that lose something -/

/-- Whether a segment decodes to no tab and no line break. -/
def IsClean (s : String) : Prop := ∀ b ∈ bytes s, b ≠ 0x09 ∧ b ≠ 0x0A ∧ b ≠ 0x0D

theorem isClean_empty : IsClean "" := nofun

theorem isClean_of_bytes {cs : List Char} (hbytes : bytes s = Utf8.encode cs)
    (h : ∀ c ∈ cs, isBreak c = false) : IsClean s := by
  intro b hb
  rw [hbytes] at hb
  obtain ⟨c, hc, hbc⟩ := List.mem_flatMap.1 hb
  have hne : c ≠ '\t' ∧ c ≠ '\n' ∧ c ≠ '\r' := by simpa [isBreak, and_assoc] using h c hc
  have hbyte (d : Char) (hd : d.toNat < 0x80) (hcd : c ≠ d) : b ≠ UInt8.ofNat d.toNat := by
    intro heq
    have hb : b.toNat = d.toNat := by rw [heq, UInt8.toNat_ofNat']; omega
    exact hcd (Char.toNat_inj.1 (by rw [Utf8.toNat_eq_of_mem_utf8EncodeChar hbc (by omega), hb]))
  exact ⟨hbyte '\t' (by decide) hne.1, hbyte '\n' (by decide) hne.2.1,
    hbyte '\r' (by decide) hne.2.2⟩

theorem isClean_encode {cs : List Char} (h : ∀ c ∈ cs, isBreak c = false) :
    IsClean (String.ofList (Percent.encode (segmentSet scheme) cs)) :=
  isClean_of_bytes (bytes_encode cs) h

theorem isClean_plainDrive (h : isDrive s = true) : IsClean (plainDrive s) := by
  unfold isDrive at h
  split at h
  next c d hs =>
    have halpha : c.isAlpha := (Bool.and_eq_true_iff.1 h).1
    have hpercent : c ≠ '%' := by rintro rfl; exact absurd halpha (by decide)
    have hbreak : isBreak c = false := by
      refine Bool.eq_false_iff.2 fun hc => ?_
      simp only [isBreak, Bool.or_eq_true, beq_iff_eq] at hc
      rcases hc with (rfl | rfl) | rfl <;> exact absurd halpha (by decide)
    have hdrive : plainDrive s = String.ofList [c, ':'] := by rw [plainDrive, hs]; rfl
    have hbytes : bytes (plainDrive s) = Utf8.encode [c, ':'] := by
      rw [hdrive, bytes, String.toList_ofList, Percent.decode_cons_of_ne hpercent]
      rfl
    exact isClean_of_bytes hbytes (by simpa using ⟨hbreak, by decide⟩)
  · cases h

theorem holdsOfSegments_isClean : HoldsOfSegments IsClean (segmentSet scheme) where
  empty := isClean_empty
  drive _ h := isClean_plainDrive h
  encode _ h := isClean_encode h

/-- Whether no segment from an index on decodes to a tab or a line break. -/
def CleanFrom (k : Nat) (segments : List String) : Prop := ∀ s ∈ segments.drop k, IsClean s

theorem CleanFrom.foldl_addSegment {k : Nat} (h : CleanFrom k segments) (raws : List String) :
    CleanFrom k (raws.foldl (Url.addSegment scheme) segments) :=
  AllFrom.foldl_addSegment holdsOfSegments_isClean h raws

/-! ## Whole paths -/

/-- Some segments, an empty last one apart. -/
def trunk (segments : List String) : List String :=
  if segments.getLast? = some "" then segments.dropLast else segments

/-- Whether a path is that of another URL, a trailing slash apart, and after it one segment for each
of some texts, in order, that decodes to the text. -/
def Locates (u base : Url) (texts : List String) : Prop :=
  ∃ added, u.pathSegments = trunk base.pathSegments ++ added ∧
    added.map bytes = texts.map fun t => Utf8.encode t.toList

theorem Locates.unique {u u' base : Url} {texts texts' : List String}
    (h : u.Locates base texts) (h' : u'.Locates base texts')
    (hpath : u.pathSegments = u'.pathSegments) : texts = texts' := by
  obtain ⟨added, hadded, hbytes⟩ := h
  obtain ⟨added', hadded', hbytes'⟩ := h'
  obtain rfl : added = added' := by
    rw [hadded, hadded'] at hpath
    exact List.append_cancel_left hpath
  have hinj : ∀ s t : String, Utf8.encode s.toList = Utf8.encode t.toList → s = t :=
    fun s t hst => String.toList_inj.1 (Utf8.encode_injective hst)
  exact (List.map_inj_right hinj).1 (hbytes.symm.trans hbytes')

theorem trunk_ne_empty (h : ∀ s ∈ segments.dropLast, s ≠ "") : ∀ s ∈ trunk segments, s ≠ "" := by
  unfold trunk
  split
  · exact h
  next hlast =>
    intro s hs
    have hne := List.ne_nil_of_mem hs
    rw [← List.dropLast_concat_getLast hne] at hs
    rcases List.mem_append.1 hs with hs | hs
    · exact h s hs
    · rintro rfl
      exact hlast (by rw [List.getLast?_eq_some_getLast hne, ← List.mem_singleton.1 hs])

theorem addSegment_withoutTrailingSlash (h : (raw == "." || raw == "..") = false) :
    addSegment scheme (withoutTrailingSlash segments) raw =
      addSegment scheme (trunk segments) raw := by
  by_cases hroot : segments = [""]
  · subst hroot
    rw [addSegment_eq, h, addSegment_eq, h]
    rfl
  · have htrunk : withoutTrailingSlash segments = trunk segments := by
      unfold withoutTrailingSlash trunk
      match segments, hroot with
      | [], _ => rfl
      | [s], hroot => simp_all
      | _ :: _ :: _, _ => simp
    rw [htrunk]

theorem not_hasBreak_of_isClean {s : String} (hs : IsClean s)
    (hbytes : bytes s = Utf8.encode raw.toList) : hasBreak raw = false := by
  refine List.any_eq_false.2 fun c hc hbreak => ?_
  have hmem : ∀ b ∈ String.utf8EncodeChar c, b ∈ bytes s := fun b hb =>
    hbytes ▸ List.mem_flatMap.2 ⟨c, hc, hb⟩
  simp only [isBreak, Bool.or_eq_true, beq_iff_eq] at hbreak
  rcases hbreak with (rfl | rfl) | rfl
  · exact (hs 0x09 (hmem _ (by decide))).1 rfl
  · exact (hs 0x0A (hmem _ (by decide))).2.1 rfl
  · exact (hs 0x0D (hmem _ (by decide))).2.2 rfl

theorem pathSegments_extendPath {u : Url} (h : u.isBase = true) (raws : List String) :
    (u.extendPath raws).pathSegments =
      raws.foldl (addSegment u.scheme) (withoutTrailingSlash u.pathSegments) := by
  obtain ⟨_, _, _, path, _, _⟩ := u
  cases path with
  | rootless => cases h
  | segments => rfl

/-- A path is extended by exactly some texts if and only if none has a tab or a line break. -/
theorem locates_extendPath_iff {u : Url} (hbase : u.isBase = true)
    (hempty : ∀ s ∈ u.pathSegments.dropLast, s ≠ "") {raws : List String} (hne : raws ≠ [])
    (hraws : ∀ raw ∈ raws, raw ≠ "" ∧ raw ≠ "." ∧ raw ≠ "..")
    (hdrive : ∀ raw ∈ raws.head?, isDrive (segmentText u.scheme raw) = false) :
    (u.extendPath raws).Locates u raws ↔ ∀ raw ∈ raws, hasBreak raw = false := by
  have hpath : (u.extendPath raws).pathSegments =
      raws.foldl (addSegment u.scheme) (trunk u.pathSegments) := by
    obtain ⟨raw, rest, rfl⟩ := List.exists_cons_of_ne_nil hne
    have hdots : (raw == "." || raw == "..") = false := by
      simpa using (hraws raw List.mem_cons_self).2
    rw [pathSegments_extendPath hbase, List.foldl_cons, List.foldl_cons,
      addSegment_withoutTrailingSlash hdots]
  unfold Locates
  rw [hpath]
  constructor
  · rintro ⟨added, hadded, hbytes⟩ raw hraw
    have hclean : CleanFrom (trunk u.pathSegments).length (trunk u.pathSegments) := by
      simp [CleanFrom]
    have hall : CleanFrom _ (raws.foldl (addSegment u.scheme) _) := hclean.foldl_addSegment raws
    rw [hadded, CleanFrom, List.drop_left] at hall
    have hmem : Utf8.encode raw.toList ∈ added.map bytes := hbytes ▸ List.mem_map_of_mem hraw
    obtain ⟨s, hs, hsraw⟩ := List.mem_map.1 hmem
    exact not_hasBreak_of_isClean (hall s hs) hsraw
  · intro hbreak
    have hplain (raw : String) (hraw : raw ∈ raws) : IsPlain raw :=
      ⟨(hraws raw hraw).1, (hraws raw hraw).2.1, (hraws raw hraw).2.2, hbreak raw hraw⟩
    refine ⟨raws.map (segmentText u.scheme), foldl_addSegment hplain (trunk_ne_empty hempty)
      fun _ => hdrive, ?_⟩
    rw [List.map_map]
    exact List.map_congr_left fun raw _ => bytes_segmentText

end JitAccess.Url
