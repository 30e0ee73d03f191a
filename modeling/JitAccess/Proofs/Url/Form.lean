import JitAccess.Proofs.Url.Percent
import JitAccess.Url.Form

/-!
# Form-encoded pairs are read as they were written

A name or value is written without `&` and `=`, so these stand only between names, values and pairs,
and without a plus sign that does not stand for a space.

* `readBytes_write`: a name or value is read as the bytes of its text.
* `readBytePairs_writePairs`, `readPairs_writePairs`: pairs are read as they were written.
-/

namespace JitAccess.Url.Form

open Text

/-! ## Single bytes -/

/-- Whether a character has a meaning of its own where pairs are read. -/
def isMarker (c : Char) : Bool := "&=+%".toList.contains c

theorem isMarker_iff {c : Char} : isMarker c = true ↔ c = '&' ∨ c = '=' ∨ c = '+' ∨ c = '%' := by
  simp [isMarker]

theorem isMarker_upperHexDigit {n : Nat} (h : n < 16) : isMarker (upperHexDigit n) = false := by
  revert n; decide

theorem toNat_ofNat_byte (b : UInt8) : (Char.ofNat b.toNat).toNat = b.toNat := by
  have hlt : b.toNat < 256 := b.toNat_lt
  have hvalid : b.toNat.isValidChar := Or.inl (by omega)
  rw [Char.ofNat, dif_pos hvalid]
  rfl

theorem toNat_lt_of_isPlain {b : UInt8} (h : isPlain b = true) : b.toNat < 0x80 := by
  simp only [isPlain, Bool.or_eq_true, Bool.and_eq_true, decide_eq_true_eq, beq_iff_eq,
    UInt8.le_iff_toNat_le, ← UInt8.toNat_inj] at h
  simp at h
  omega

/-- A byte is written as itself only if its character has no other use. -/
theorem ofNat_ne_of_isPlain {b : UInt8} (h : isPlain b = true) {d : Char}
    (hd : isPlain (UInt8.ofNat d.toNat) = false) : Char.ofNat b.toNat ≠ d := by
  intro heq
  have hb : b = UInt8.ofNat d.toNat := by rw [← heq, toNat_ofNat_byte, UInt8.ofNat_toNat]
  rw [← hb, h] at hd
  cases hd

theorem isMarker_of_isPlain {b : UInt8} (h : isPlain b = true) :
    isMarker (Char.ofNat b.toNat) = false := by
  refine Bool.eq_false_iff.2 fun hmarker => ?_
  rcases isMarker_iff.1 hmarker with hc | hc | hc | hc
  · exact ofNat_ne_of_isPlain h (d := '&') (by decide) hc
  · exact ofNat_ne_of_isPlain h (d := '=') (by decide) hc
  · exact ofNat_ne_of_isPlain h (d := '+') (by decide) hc
  · exact ofNat_ne_of_isPlain h (d := '%') (by decide) hc

theorem utf8EncodeChar_of_isPlain {b : UInt8} (h : isPlain b = true) :
    String.utf8EncodeChar (Char.ofNat b.toNat) = [b] := by
  have hlt : (Char.ofNat b.toNat).toNat < 0x80 := by
    rw [toNat_ofNat_byte]
    exact toNat_lt_of_isPlain h
  rw [Utf8.utf8EncodeChar_of_lt hlt, toNat_ofNat_byte, UInt8.ofNat_toNat]

/-- A character of a text that is to be decoded, where a plus sign stands for a space. -/
def unplus (c : Char) : Char := if c == '+' then ' ' else c

theorem unplus_of_not_isMarker {c : Char} (h : isMarker c = false) : unplus c = c := by
  refine if_neg ?_
  rw [beq_iff_eq]
  rintro rfl
  cases h

theorem map_unplus_escape (b : UInt8) : (Percent.escape b).map unplus = Percent.escape b := by
  have hlt : b.toNat < 256 := b.toNat_lt
  simp only [Percent.escape, List.map_cons, List.map_nil]
  rw [unplus_of_not_isMarker (isMarker_upperHexDigit (by omega)),
    unplus_of_not_isMarker (isMarker_upperHexDigit (by omega))]
  rfl

theorem readBytes_writeByte (b : UInt8) (rest : List Char) :
    readBytes (writeByte b ++ rest) = b :: readBytes rest := by
  show Percent.decode ((writeByte b ++ rest).map unplus) = b :: Percent.decode (rest.map unplus)
  rw [List.map_append]
  unfold writeByte
  split
  next hspace =>
    obtain rfl := beq_iff_eq.1 hspace
    exact Percent.decode_cons_of_ne (by decide) _
  · split
    next hplain =>
      have hmarker := isMarker_of_isPlain hplain
      have hpercent : Char.ofNat b.toNat ≠ '%' := by
        intro h
        rw [h] at hmarker
        cases hmarker
      rw [List.map_singleton, unplus_of_not_isMarker hmarker, List.singleton_append,
        Percent.decode_cons_of_ne hpercent, utf8EncodeChar_of_isPlain hplain]
      rfl
    · rw [map_unplus_escape, Percent.decode_escape]

/-- Whether a character is not written for any byte. -/
def isUnwritten (d : Char) : Bool := !isPlain (UInt8.ofNat d.toNat) && d != '+' && d != '%'

theorem isPlain_upperHexDigit {n : Nat} (h : n < 16) :
    isPlain (UInt8.ofNat (upperHexDigit n).toNat) = true := by
  revert n; decide

/-- What is written for a byte separates nothing. -/
theorem ne_of_mem_writeByte {b : UInt8} {c d : Char} (hd : isUnwritten d = true)
    (h : c ∈ writeByte b) : c ≠ d := by
  have hlt : b.toNat < 256 := b.toNat_lt
  simp only [isUnwritten, Bool.and_eq_true, bne_iff_ne, Bool.not_eq_true'] at hd
  obtain ⟨⟨hplain, hplus⟩, hpercent⟩ := hd
  have hdigit {n : Nat} (hn : n < 16) : upperHexDigit n ≠ d := by
    rintro rfl
    rw [isPlain_upperHexDigit hn] at hplain
    cases hplain
  unfold writeByte at h
  split at h
  · obtain rfl := List.mem_singleton.1 h
    exact hplus.symm
  · split at h
    next hb =>
      obtain rfl := List.mem_singleton.1 h
      exact ofNat_ne_of_isPlain hb hplain
    · simp only [Percent.escape, List.mem_cons, List.not_mem_nil, or_false] at h
      rcases h with rfl | rfl | rfl
      · exact hpercent.symm
      · exact hdigit (by omega)
      · exact hdigit (by omega)

/-! ## Names and values -/

theorem readBytes_write (s : String) : readBytes (write s) = Utf8.encode s.toList := by
  unfold write
  induction Utf8.encode s.toList with
  | nil => rfl
  | cons b bs ih => rw [List.flatMap_cons, readBytes_writeByte, ih]

theorem ne_of_mem_write {s : String} {c d : Char} (hd : isUnwritten d = true)
    (h : c ∈ write s) : c ≠ d := by
  obtain ⟨b, -, hc⟩ := List.mem_flatMap.1 h
  exact ne_of_mem_writeByte hd hc

theorem textOf_encode (s : String) : textOf (Utf8.encode s.toList) = s := by
  rw [textOf, Utf8.decodeLossy_encode, String.ofList_toList]

/-! ## Pairs -/

/-- The bytes of a name and of its value. -/
def pairBytes (p : String × String) : List UInt8 × List UInt8 :=
  (Utf8.encode p.1.toList, Utf8.encode p.2.toList)

theorem readPair_writePair (p : String × String) : readPair (writePair p) = pairBytes p := by
  have hname : ∀ c ∈ write p.1, (c != '=') = true := fun c hc =>
    bne_iff_ne.2 (ne_of_mem_write (by decide) hc)
  unfold readPair writePair
  rw [List.takeWhile_append_of_pos hname, List.dropWhile_append_of_pos hname]
  simp [readBytes_write, pairBytes]

theorem not_mem_writePair {d : Char} (hd : isUnwritten d = true) (hequals : d ≠ '=')
    (p : String × String) : d ∉ writePair p := by
  intro h
  rcases List.mem_append.1 h with h | h
  · exact ne_of_mem_write hd h rfl
  · rcases List.mem_cons.1 h with h | h
    · exact hequals h
    · exact ne_of_mem_write hd h rfl

/-- What separates no pairs, and neither names from values, is not written at all. -/
theorem not_mem_writePairs {d : Char} (hd : isUnwritten d = true) (hequals : d ≠ '=')
    (hand : d ≠ '&') (ps : List (String × String)) : d ∉ writePairs ps := by
  unfold writePairs
  induction ps with
  | nil => exact List.not_mem_nil
  | cons p ps ih =>
    cases ps with
    | nil =>
      show d ∉ ['&'].intercalate [writePair p]
      rw [List.intercalate_singleton]
      exact not_mem_writePair hd hequals p
    | cons q ps =>
      rw [List.map_cons, List.map_cons, List.intercalate_cons_cons]
      intro h
      rcases List.mem_append.1 h with h | h
      · rcases List.mem_append.1 h with h | h
        · exact not_mem_writePair hd hequals p h
        · exact hand (List.mem_singleton.1 h)
      · exact ih h

/-- **Pairs are read as they were written**, down to the bytes of names and values. -/
theorem readBytePairs_writePairs (ps : List (String × String)) :
    readBytePairs (writePairs ps) = ps.map pairBytes := by
  unfold readBytePairs writePairs
  cases ps with
  | nil => rfl
  | cons p ps =>
    have hsplit : (['&'].intercalate ((p :: ps).map writePair)).splitOn '&' =
        (p :: ps).map writePair := by
      refine List.splitOn_intercalate '&' ?_ (by simp)
      intro cs hcs
      obtain ⟨q, -, rfl⟩ := List.mem_map.1 hcs
      exact not_mem_writePair (by decide) (by decide) q
    have hnonempty : ((p :: ps).map writePair).filter (!·.isEmpty) = (p :: ps).map writePair := by
      refine List.filter_eq_self.2 fun cs hcs => ?_
      obtain ⟨q, -, rfl⟩ := List.mem_map.1 hcs
      simp [writePair]
    rw [hsplit, hnonempty, List.map_map]
    exact List.map_congr_left fun q _ => readPair_writePair q

theorem readPairs_writePairs (ps : List (String × String)) : readPairs (writePairs ps) = ps := by
  rw [readPairs, readBytePairs_writePairs, List.map_map]
  refine (List.map_congr_left fun p _ => ?_).trans (List.map_id ps)
  show (textOf (Utf8.encode p.1.toList), textOf (Utf8.encode p.2.toList)) = p
  rw [textOf_encode, textOf_encode]

end JitAccess.Url.Form
