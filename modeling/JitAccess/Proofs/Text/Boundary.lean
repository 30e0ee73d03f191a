import JitAccess.Proofs.Text.Utf8
import Mathlib.Order.Bounds.Defs

/-!
# Boundaries of characters

A text may be cut between two of its characters, but from its bytes this can be seen only byte by byte:
a place is a boundary if the byte after it does not go on with a character. Here a boundary is looked
for backwards, and the bytes up to it are read. Either can fail for bytes in general; for those of a
text neither does.

* `isBoundary_encode_iff`: the boundaries in the bytes of a text are the ends of its beginnings.
* `lastBoundary?_eq_some_iff`: what the search finds.
* `slice?_encode`: the bytes up to a boundary are those of a text.
-/

namespace JitAccess.Text.Utf8

variable {bytes : List UInt8} {n k : Nat}

/-! ## Places in bytes -/

/-- Whether a byte goes on with a character. -/
def isTail (b : UInt8) : Bool := 0x80 ≤ b && b ≤ 0xBF

/-- Whether a place in some bytes is one between characters. The beginning and the end are. -/
def isBoundary (bytes : List UInt8) (n : Nat) : Bool :=
  n == 0 || match bytes[n]? with
    | some b => !isTail b
    | none => n == bytes.length

/-- The last boundary, from some place back. The search fails if it goes beyond the beginning. -/
def lastBoundary? (bytes : List UInt8) : Nat → Option Nat
  | 0 => if isBoundary bytes 0 then some 0 else none
  | n + 1 => if isBoundary bytes (n + 1) then some (n + 1) else lastBoundary? bytes n

/-- The text of the bytes up to a place. It fails where that is no boundary. -/
def slice? (bytes : List UInt8) (n : Nat) : Option (List Char) :=
  if isBoundary bytes n then decode? (bytes.take n) else none

theorem isBoundary_zero (bytes : List UInt8) : isBoundary bytes 0 = true := rfl

/-- The search finds the greatest boundary, and does not fail since the beginning is one. -/
theorem lastBoundary?_eq_some_iff :
    lastBoundary? bytes n = some k ↔ IsGreatest {i | isBoundary bytes i = true ∧ i ≤ n} k := by
  induction n with
  | zero =>
    rw [lastBoundary?, if_pos (isBoundary_zero bytes), Option.some.injEq]
    constructor
    · rintro rfl
      exact ⟨⟨isBoundary_zero bytes, Nat.le_refl 0⟩, fun i hi => hi.2⟩
    · intro h
      exact (Nat.le_zero.1 h.1.2).symm
  | succ n ih =>
    rw [lastBoundary?]
    split
    next hboundary =>
      rw [Option.some.injEq]
      constructor
      · rintro rfl
        exact ⟨⟨hboundary, Nat.le_refl _⟩, fun i hi => hi.2⟩
      · intro h
        exact Nat.le_antisymm (h.2 ⟨hboundary, Nat.le_refl _⟩) h.1.2
    next hboundary =>
      have hset : {i | isBoundary bytes i = true ∧ i ≤ n + 1} =
          {i | isBoundary bytes i = true ∧ i ≤ n} := by
        ext i
        refine and_congr_right fun hi => ⟨fun hle => ?_, fun hle => Nat.le_succ_of_le hle⟩
        refine Nat.le_of_lt_succ (Nat.lt_of_le_of_ne hle ?_)
        rintro rfl
        exact hboundary hi
      rw [ih, hset]

/-! ## Bytes of a text -/

theorem isTail_ofNat_iff (h : n < 256) : isTail (UInt8.ofNat n) = true ↔ 0x80 ≤ n ∧ n ≤ 0xBF := by
  have hlow : (0x80 : UInt8).toNat = 0x80 := rfl
  have hhigh : (0xBF : UInt8).toNat = 0xBF := rfl
  simp only [isTail, Bool.and_eq_true, decide_eq_true_eq, UInt8.le_iff_toNat_le,
    UInt8.toNat_ofNat_of_lt' h, hlow, hhigh]

/-- The first byte of a character does not go on with one, and all others do. -/
theorem exists_cons_utf8EncodeChar (c : Char) :
    ∃ b tails, String.utf8EncodeChar c = b :: tails ∧ isTail b = false ∧
      ∀ t ∈ tails, isTail t = true := by
  have htail (m : Nat) : isTail (UInt8.ofNat (m % 64 + 128)) = true :=
    (isTail_ofNat_iff (by omega)).2 (by omega)
  have hhead (m : Nat) (hm : m < 256) (hout : m < 0x80 ∨ 0xBF < m) :
      isTail (UInt8.ofNat m) = false := by
    rw [Bool.eq_false_iff, ne_eq, isTail_ofNat_iff hm]
    omega
  unfold String.utf8EncodeChar
  dsimp only
  split
  · exact ⟨_, _, rfl, hhead _ (by omega) (by omega), nofun⟩
  · have hnil : ∀ t ∈ ([] : List UInt8), isTail t = true := nofun
    split
    · refine ⟨_, _, rfl, hhead _ (by omega) (by omega), ?_⟩
      exact List.forall_mem_cons.2 ⟨htail _, hnil⟩
    · split
      · refine ⟨_, _, rfl, hhead _ (by omega) (by omega), ?_⟩
        exact List.forall_mem_cons.2 ⟨htail _, List.forall_mem_cons.2 ⟨htail _, hnil⟩⟩
      · refine ⟨_, _, rfl, hhead _ (by omega) (by omega), ?_⟩
        exact List.forall_mem_cons.2 ⟨htail _, List.forall_mem_cons.2 ⟨htail _,
          List.forall_mem_cons.2 ⟨htail _, hnil⟩⟩⟩

theorem encode_append (cs ds : List Char) : encode (cs ++ ds) = encode cs ++ encode ds :=
  List.flatMap_append

/-- No place inside the bytes of a character is a boundary. -/
theorem isBoundary_inside (c : Char) (rest : List UInt8) (hpos : 0 < n) (hlt : n < c.utf8Size) :
    isBoundary (String.utf8EncodeChar c ++ rest) n = false := by
  obtain ⟨b, tails, hbytes, -, htails⟩ := exists_cons_utf8EncodeChar c
  have hlength : tails.length + 1 = c.utf8Size := by
    rw [← String.length_utf8EncodeChar, hbytes, List.length_cons]
  obtain ⟨m, rfl⟩ := Nat.exists_eq_add_one.2 hpos
  have hm : m < tails.length := by omega
  have hbyte : (String.utf8EncodeChar c ++ rest)[m + 1]? = some tails[m] := by
    rw [hbytes, List.cons_append, List.getElem?_cons_succ, List.getElem?_append_left hm,
      List.getElem?_eq_getElem hm]
  rw [isBoundary, hbyte]
  simp [htails _ (List.getElem_mem hm)]

/-- After a character the boundaries are those of the text that follows. -/
theorem isBoundary_beyond (c : Char) (cs : List Char) (n : Nat) :
    isBoundary (String.utf8EncodeChar c ++ encode cs) (c.utf8Size + n) = isBoundary (encode cs) n := by
  have hsize := c.utf8Size_pos
  have hlength := String.length_utf8EncodeChar c
  have hbyte : (String.utf8EncodeChar c ++ encode cs)[c.utf8Size + n]? = (encode cs)[n]? := by
    rw [List.getElem?_append_right (by omega), hlength, Nat.add_sub_cancel_left]
  have hzero : (c.utf8Size + n == 0) = false := by simp; omega
  have hend : (c.utf8Size + n == (String.utf8EncodeChar c ++ encode cs).length) =
      (n == (encode cs).length) := by
    rw [List.length_append, hlength, Bool.eq_iff_iff, beq_iff_eq, beq_iff_eq]
    omega
  rw [isBoundary, isBoundary, hbyte, hzero, hend, Bool.false_or]
  cases n with
  | succ n => rfl
  | zero =>
    -- What follows begins with the first byte of a character, or is at its end.
    cases cs with
    | nil => rfl
    | cons d ds =>
      obtain ⟨b, tails, hbytes, hb, -⟩ := exists_cons_utf8EncodeChar d
      rw [encode_cons, hbytes, List.cons_append, List.getElem?_cons_zero]
      simp only [hb, Bool.not_false, Bool.or_true]

/-- The boundaries in the bytes of a text are the ends of the beginnings of the text. -/
theorem isBoundary_encode_iff {cs : List Char} :
    isBoundary (encode cs) n = true ↔ ∃ front, front <+: cs ∧ (encode front).length = n := by
  induction cs generalizing n with
  | nil =>
    constructor
    · intro h
      have hn : n = 0 := by simpa [isBoundary] using h
      exact ⟨[], List.prefix_rfl, hn.symm⟩
    · rintro ⟨front, hfront, rfl⟩
      rw [List.prefix_nil.1 hfront]
      rfl
  | cons c cs ih =>
    rw [encode_cons]
    constructor
    · intro h
      rcases Nat.eq_zero_or_pos n with rfl | hpos
      · exact ⟨[], List.nil_prefix, rfl⟩
      · have hsize : c.utf8Size ≤ n := by
          refine Nat.le_of_not_lt fun hlt => ?_
          rw [isBoundary_inside c _ hpos hlt] at h
          contradiction
        obtain ⟨m, rfl⟩ := Nat.exists_eq_add_of_le hsize
        rw [isBoundary_beyond, ih] at h
        obtain ⟨front, hfront, rfl⟩ := h
        refine ⟨c :: front, List.cons_prefix_cons.2 ⟨rfl, hfront⟩, ?_⟩
        rw [encode_cons, List.length_append, String.length_utf8EncodeChar]
    · rintro ⟨front, hfront, rfl⟩
      cases front with
      | nil => exact isBoundary_zero _
      | cons d front =>
        obtain ⟨rfl, hrest⟩ := List.cons_prefix_cons.1 hfront
        rw [encode_cons, List.length_append, String.length_utf8EncodeChar, isBoundary_beyond, ih]
        exact ⟨front, hrest, rfl⟩

/-- The bytes up to the end of a beginning are that beginning. -/
theorem slice?_encode {front cs : List Char} (h : front <+: cs) :
    slice? (encode cs) (encode front).length = some front := by
  have hboundary : isBoundary (encode cs) (encode front).length = true :=
    isBoundary_encode_iff.2 ⟨front, h, rfl⟩
  obtain ⟨back, rfl⟩ := h
  rw [slice?, if_pos hboundary, encode_append, List.take_left, decode?_encode]

end JitAccess.Text.Utf8
