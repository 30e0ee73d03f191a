import JitAccess.Json.Value
import JitAccess.Proofs.Text.Utf8
import Mathlib

/-!
# Strings and integers as they are written

A string is read a character at a time, each as the character that was written, whatever follows. An
integer is read up to the first byte that does not go on a number.

* `exists_readString?_writeString`: strings.
* `readNumeral?_int`, `number?_numeralOf`: integers, and what they mean.
-/

namespace JitAccess.Text

theorem digits_ne_nil (base n : Nat) : digits base n ≠ [] := by
  unfold digits
  split <;> simp

/-- No number but zero begins with the digit zero. -/
theorem length_digits_of_head? {base n : Nat} (h : (digits base n).head? = some 0) :
    (digits base n).length = 1 := by
  fun_induction digits base n with
  | case1 n _ => rfl
  | case2 n hn ih =>
    rw [List.head?_append_of_ne_nil _ (digits_ne_nil base (n / base))] at h
    obtain ⟨d, hd⟩ := List.length_eq_one_iff.1 (ih h)
    rw [hd, List.head?_cons, Option.some.injEq] at h
    have hzero := ofDigits_digits base (n / base)
    rw [hd, h] at hzero
    have hpos : 0 < n / base := Nat.div_pos (by omega) (by omega)
    simp [ofDigits] at hzero
    omega

end JitAccess.Text

namespace JitAccess.Json

open JitAccess.Text

/-! ## Strings -/

/-- Whether a byte stands for itself in a string. -/
def IsVerbatim (b : UInt8) : Prop := 0x20 ≤ b.toNat ∧ b ≠ 0x22 ∧ b ≠ 0x5C

theorem readString?_verbatim {b : UInt8} (h : IsVerbatim b) (rest : List UInt8) :
    Document.readString? (b :: rest) =
      (Document.readString? rest).map fun r => (.byte b :: r.1, r.2) := by
  obtain ⟨hcontrol, hquote, hslash⟩ := h
  have hlt : ¬ b < 0x20 := by
    rw [UInt8.lt_iff_toNat_lt]
    exact Nat.not_lt.2 hcontrol
  rw [Document.readString?]
  · cases Document.readString? rest <;> simp [hlt, hslash]
  · intro h; exact hquote h
  · intro _ _ _ _ _ h; exact absurd h hslash
  · intro _ _ h; exact absurd h hslash

/-- Whether some bytes of a string are read as some marks, whatever follows. -/
def Spells (bytes : List UInt8) (marks : List Mark) : Prop :=
  ∀ rest, Document.readString? (bytes ++ rest) =
    (Document.readString? rest).map fun r => (marks ++ r.1, r.2)

/-- Whether some marks stand for some bytes, whatever follows. -/
def StandsFor (marks : List Mark) (bytes : List UInt8) : Prop :=
  ∀ more, markBytes? (marks ++ more) = (markBytes? more).map (bytes ++ ·)

theorem Spells.append {bytes bytes' : List UInt8} {marks marks' : List Mark}
    (h : Spells bytes marks) (h' : Spells bytes' marks') :
    Spells (bytes ++ bytes') (marks ++ marks') := by
  intro rest
  rw [List.append_assoc, h, h', Option.map_map]
  simp [Function.comp_def]

theorem StandsFor.append {bytes bytes' : List UInt8} {marks marks' : List Mark}
    (h : StandsFor marks bytes) (h' : StandsFor marks' bytes') :
    StandsFor (marks ++ marks') (bytes ++ bytes') := by
  intro more
  rw [List.append_assoc, h, h', Option.map_map]
  simp [Function.comp_def]

theorem spells_verbatim {bytes : List UInt8} (h : ∀ b ∈ bytes, IsVerbatim b) :
    Spells bytes (bytes.map .byte) := by
  intro rest
  induction bytes with
  | nil => simp
  | cons b bytes ih =>
    rw [List.forall_mem_cons] at h
    rw [List.cons_append, readString?_verbatim h.1, ih h.2, Option.map_map]
    rfl

theorem standsFor_bytes (bytes : List UInt8) : StandsFor (bytes.map .byte) bytes := by
  intro more
  induction bytes with
  | nil => simp
  | cons b bytes ih =>
    rw [List.map_cons, List.cons_append, markBytes?, ih, Option.map_map]
    rfl

theorem spells_escape {e b : UInt8} (h : Document.shortEscape? e = some b) (he : e ≠ 0x75) :
    Spells [0x5C, e] [.byte b] := by
  intro rest
  rw [List.cons_append, List.cons_append, Document.readString?]
  · cases hrest : Document.readString? rest <;> simp [h, hrest]
  · intro _ _ _ _ _ h; exact absurd h he

/-- Marks that stand for the bytes of a text are that text. -/
theorem StandsFor.markText?_eq {marks : List Mark} {s : String}
    (h : StandsFor marks (Utf8.encode s.toList)) : markText? marks = some s := by
  have hbytes := h []
  rw [List.append_nil, markBytes?, Option.map_some, List.append_nil] at hbytes
  rw [markText?, hbytes, Option.bind_some, Utf8.decode?_encode, Option.map_some,
    String.ofList_toList]

/-- The escape of a control character. -/
theorem control_escape : ∀ n < 0x20, ∃ a b,
    ascii (String.ofList [lowerHexDigit (n / 16), lowerHexDigit (n % 16)]) = [a, b] ∧
      Document.codeUnit? 0x30 0x30 a b = some (UInt16.ofNat n) := by
  have hdigits : ∀ n < 0x20,
      let a := UInt8.ofNat (lowerHexDigit (n / 16)).toNat
      let b := UInt8.ofNat (lowerHexDigit (n % 16)).toNat
      ascii (String.ofList [lowerHexDigit (n / 16), lowerHexDigit (n % 16)]) = [a, b] ∧
        Document.codeUnit? 0x30 0x30 a b = some (UInt16.ofNat n) := by
    decide +kernel
  exact fun n hn => ⟨_, _, hdigits n hn⟩

theorem spells_control {n : Nat} (hn : n < 0x20) :
    Spells ([0x5C, 0x75, 0x30, 0x30] ++
      ascii (String.ofList [lowerHexDigit (n / 16), lowerHexDigit (n % 16)]))
      [.code (UInt16.ofNat n)] := by
  obtain ⟨a, b, hascii, hunit⟩ := control_escape n hn
  intro rest
  rw [hascii]
  simp only [List.cons_append, List.nil_append]
  rw [Document.readString?, hunit]
  cases Document.readString? rest <;> simp

theorem standsFor_control {c : Char} (hc : c.toNat < 0x20) :
    StandsFor [.code (UInt16.ofNat c.toNat)] (String.utf8EncodeChar c) := by
  intro more
  have hunit : (UInt16.ofNat c.toNat).toNat = c.toNat := by
    rw [UInt16.toNat_ofNat']
    omega
  have hhigh : isHighSurrogate (UInt16.ofNat c.toNat) = false := by
    simp [isHighSurrogate, UInt16.le_iff_toNat_le, hunit]
    omega
  have hlow : isLowSurrogate (UInt16.ofNat c.toNat) = false := by
    simp [isLowSurrogate, UInt16.le_iff_toNat_le, hunit]
    omega
  rw [List.singleton_append, markBytes?.eq_def]
  simp only [hhigh, hlow, hunit, Char.ofNat_toNat, Bool.false_eq_true, if_false]

theorem isVerbatim_of_mem_utf8EncodeChar {c : Char} (hcontrol : 0x20 ≤ c.toNat) (hquote : c ≠ '"')
    (hslash : c ≠ '\\') : ∀ b ∈ String.utf8EncodeChar c, IsVerbatim b := by
  intro b hb
  by_cases hlt : b.toNat < 0x80
  · have hc := Utf8.toNat_eq_of_mem_utf8EncodeChar hb hlt
    refine ⟨hc ▸ hcontrol, ?_, ?_⟩
    · rintro rfl
      exact hquote (Char.toNat_inj.1 hc)
    · rintro rfl
      exact hslash (Char.toNat_inj.1 hc)
  · refine ⟨by omega, ?_, ?_⟩
    · rintro rfl
      exact hlt (by decide)
    · rintro rfl
      exact hlt (by decide)

/-- A character as it is written is read as that character. -/
theorem exists_spells_writeChar (c : Char) :
    ∃ marks, Spells (writeChar c) marks ∧ StandsFor marks (String.utf8EncodeChar c) := by
  have hshort (e b : UInt8) (he : Document.shortEscape? e = some b) (hne : e ≠ 0x75)
      (hc : String.utf8EncodeChar c = [b]) :
      ∃ marks, Spells [0x5C, e] marks ∧ StandsFor marks (String.utf8EncodeChar c) :=
    ⟨[.byte b], spells_escape he hne, hc ▸ standsFor_bytes [b]⟩
  unfold writeChar
  split_ifs with hquote hslash hback hfeed hline hreturn htab hcontrol
  · obtain rfl := eq_of_beq hquote
    exact hshort _ 0x22 rfl (by decide) rfl
  · obtain rfl := eq_of_beq hslash
    exact hshort _ 0x5C rfl (by decide) rfl
  · obtain rfl := eq_of_beq hback
    exact hshort _ 0x08 rfl (by decide) rfl
  · obtain rfl := eq_of_beq hfeed
    exact hshort _ 0x0C rfl (by decide) rfl
  · obtain rfl := eq_of_beq hline
    exact hshort _ 0x0A rfl (by decide) rfl
  · obtain rfl := eq_of_beq hreturn
    exact hshort _ 0x0D rfl (by decide) rfl
  · obtain rfl := eq_of_beq htab
    exact hshort _ 0x09 rfl (by decide) rfl
  · exact ⟨_, spells_control hcontrol, standsFor_control hcontrol⟩
  · have hverbatim := isVerbatim_of_mem_utf8EncodeChar (Nat.le_of_not_lt hcontrol)
      (by simpa using hquote) (by simpa using hslash)
    exact ⟨_, spells_verbatim hverbatim, standsFor_bytes _⟩

theorem exists_spells_flatMap (cs : List Char) :
    ∃ marks, Spells (cs.flatMap writeChar) marks ∧ StandsFor marks (Utf8.encode cs) := by
  induction cs with
  | nil => exact ⟨[], spells_verbatim (by simp), standsFor_bytes []⟩
  | cons c cs ih =>
    obtain ⟨marks, hspells, hstands⟩ := exists_spells_writeChar c
    obtain ⟨more, hspells', hstands'⟩ := ih
    exact ⟨marks ++ more, hspells.append hspells', hstands.append hstands'⟩

/-- A text as it is written is read as that text, whatever follows its closing quote. -/
theorem exists_readString?_writeString (s : String) : ∃ marks, markText? marks = some s ∧
    ∀ rest, Document.readString? (s.toList.flatMap writeChar ++ 0x22 :: rest) =
      some (marks, rest) := by
  obtain ⟨marks, hspells, hstands⟩ := exists_spells_flatMap s.toList
  refine ⟨marks, hstands.markText?_eq, fun rest => ?_⟩
  rw [hspells, Document.readString?, Option.map_some, List.append_nil]

/-! ## Numbers -/

theorem le_foldl_digits (ds : List Nat) (n : Nat) : n ≤ ds.foldl (fun n d => n * 10 + d) n := by
  induction ds generalizing n with
  | nil => exact Nat.le_refl n
  | cons d ds ih => exact Nat.le_trans (by omega) (ih (n * 10 + d))

theorem accumulate_of_lt {ds : List Nat} {significand : Nat}
    (h : ds.foldl (fun n d => n * 10 + d) significand < wordLimit) :
    accumulate significand ds = (ds.foldl (fun n d => n * 10 + d) significand, 0) := by
  induction ds generalizing significand with
  | nil => rfl
  | cons d ds ih =>
    have hle := le_foldl_digits ds (significand * 10 + d)
    rw [List.foldl_cons] at h
    rw [accumulate, if_neg (by omega), ih h, List.foldl_cons]

theorem accumulate_digits {n : Nat} (h : n < wordLimit) : accumulate 0 (digits 10 n) = (n, 0) := by
  have hvalue : (digits 10 n).foldl (fun n d => n * 10 + d) 0 = n := ofDigits_digits 10 n
  rw [accumulate_of_lt (by rw [hvalue]; exact h), hvalue]

/-- The numeral of an integer. -/
def numeralOf (i : Int) : Numeral := ⟨i < 0, digits 10 i.natAbs, [], none⟩

theorem number?_numeralOf {i : Int} (hlow : -(wordLimit / 2 : Nat) ≤ i) (hhigh : i < wordLimit) :
    (numeralOf i).number? = some (.int i) := by
  have hlt : i.natAbs < wordLimit := by
    unfold wordLimit at *
    omega
  by_cases hneg : i < 0
  · have hpos : 0 < i.natAbs := by omega
    have hle : i.natAbs ≤ wordLimit / 2 := by omega
    simp [Numeral.number?, numeralOf, accumulate_digits hlt, hneg, hpos, hle, abs_of_neg hneg]
  · have hi : (i.natAbs : Int) = i := by omega
    simp [Numeral.number?, numeralOf, accumulate_digits hlt, hneg, hi]

/-- The byte of a digit. -/
def digitByte (d : Nat) : UInt8 := UInt8.ofNat (0x30 + d)

theorem isDigit_digitByte {d : Nat} (hd : d < 10) :
    Document.isDigit (digitByte d) = true ∧ (digitByte d).toNat - 0x30 = d := by
  revert d
  decide +kernel

theorem exists_cons_digits (n : Nat) : ∃ d ds, digits 10 n = d :: ds ∧ d < 10 := by
  obtain ⟨d, ds, hds⟩ := List.exists_cons_of_ne_nil (digits_ne_nil 10 n)
  exact ⟨d, ds, hds, lt_of_mem_digits (by decide) n d (by simp [hds])⟩

theorem ascii_decimal (n : Nat) : ascii (Real64.decimal n) = (digits 10 n).map digitByte := by
  have hbyte : ∀ d < 10, String.utf8EncodeChar (upperHexDigit d) = [digitByte d] := by
    decide +kernel
  have hlt := lt_of_mem_digits (show 2 ≤ 10 by decide) n
  rw [ascii, Real64.decimal, String.toList_ofList, Utf8.encode, List.flatMap_map]
  generalize digits 10 n = ds at hlt ⊢
  induction ds with
  | nil => rfl
  | cons d ds ih =>
    rw [List.forall_mem_cons] at hlt
    rw [List.flatMap_cons, hbyte d hlt.1, ih hlt.2]
    rfl

theorem ascii_int (i : Int) : ascii (Number.int i).text =
    (if i < 0 then [0x2D] else []) ++ (digits 10 i.natAbs).map digitByte := by
  rw [← ascii_decimal, Number.text, ascii, String.toList_append, Utf8.encode, List.flatMap_append]
  split <;> rfl

/-- Whether a text does not go on a number that stands before it. -/
def EndsNumber (rest : List UInt8) : Prop :=
  ∀ b ∈ rest.head?, Document.isDigit b = false ∧ b ≠ 0x2E ∧ b ≠ 0x65 ∧ b ≠ 0x45

theorem readDigits_digits (n : Nat) {rest : List UInt8} (hrest : EndsNumber rest) :
    Document.readDigits ((digits 10 n).map digitByte ++ rest) = (digits 10 n, rest) := by
  have hlt := lt_of_mem_digits (show 2 ≤ 10 by decide) n
  have hdigits : ∀ b ∈ (digits 10 n).map digitByte, Document.isDigit b = true := by
    rw [List.forall_mem_map]
    exact fun d hd => (isDigit_digitByte (hlt d hd)).1
  have htake : rest.takeWhile Document.isDigit = [] ∧ rest.dropWhile Document.isDigit = rest := by
    cases rest with
    | nil => exact ⟨rfl, rfl⟩
    | cons b rest => simp [(hrest b rfl).1]
  rw [Document.readDigits, List.takeWhile_append_of_pos hdigits,
    List.dropWhile_append_of_pos hdigits, htake.1, htake.2, List.append_nil, List.map_map]
  congr 1
  exact (List.map_congr_left fun d hd => (isDigit_digitByte (hlt d hd)).2).trans (List.map_id' _)

theorem readFraction?_of_endsNumber {rest : List UInt8} (hrest : EndsNumber rest) :
    Document.readFraction? rest = some ([], rest) := by
  cases rest with
  | nil => rfl
  | cons b rest =>
    unfold Document.readFraction?
    split
    next heq => exact absurd (List.cons.inj heq).1 (hrest _ rfl).2.1
    next => rfl

theorem readExponent?_of_endsNumber {rest : List UInt8} (hrest : EndsNumber rest) :
    Document.readExponent? rest = some (none, rest) := by
  cases rest with
  | nil => rfl
  | cons b rest =>
    obtain ⟨-, -, hlower, hupper⟩ := hrest b rfl
    simp [Document.readExponent?, hlower, hupper]

/-- The digits of a number do not begin with a sign. -/
theorem digits_no_minus (n : Nat) (rest more : List UInt8) :
    (digits 10 n).map digitByte ++ rest ≠ 0x2D :: more := by
  obtain ⟨d, ds, hds, hd⟩ := exists_cons_digits n
  have hdigit := (isDigit_digitByte hd).1
  rw [hds, List.map_cons, List.cons_append]
  intro h
  rw [(List.cons.inj h).1] at hdigit
  cases hdigit

/-- An integer as it is written is read as its numeral. -/
theorem readNumeral?_int (i : Int) {rest : List UInt8} (hrest : EndsNumber rest) :
    Document.readNumeral? (ascii (Number.int i).text ++ rest) = some (numeralOf i, rest) := by
  have hdigits := readDigits_digits i.natAbs hrest
  have hempty : (digits 10 i.natAbs).isEmpty = false := by simp [digits_ne_nil]
  have hzero : ((digits 10 i.natAbs).head? == some 0 && decide (1 < (digits 10 i.natAbs).length)) =
      false := by
    by_cases h : (digits 10 i.natAbs).head? = some 0
    · simp [length_digits_of_head? h]
    · simp [h]
  rw [ascii_int]
  by_cases hneg : i < 0
  · rw [if_pos hneg, List.singleton_append, List.cons_append]
    simp only [Document.readNumeral?, hdigits, hempty, hzero]
    simp [readFraction?_of_endsNumber hrest, readExponent?_of_endsNumber hrest, numeralOf, hneg]
  · rw [if_neg hneg, List.nil_append]
    -- That there is no sign decides which equation of the reader applies.
    have hminus := digits_no_minus i.natAbs rest
    simp only [Document.readNumeral?, hdigits, hempty, hzero]
    simp [readFraction?_of_endsNumber hrest, readExponent?_of_endsNumber hrest, numeralOf, hneg]

theorem exists_cons_ascii_int (i : Int) : ∃ b bytes, ascii (Number.int i).text = b :: bytes ∧
    (b = 0x2D ∨ Document.isDigit b = true) := by
  obtain ⟨d, ds, hds, hd⟩ := exists_cons_digits i.natAbs
  rw [ascii_int, hds]
  by_cases hneg : i < 0
  · rw [if_pos hneg]
    exact ⟨_, _, rfl, Or.inl rfl⟩
  · rw [if_neg hneg]
    exact ⟨_, _, rfl, Or.inr (isDigit_digitByte hd).1⟩

end JitAccess.Json
