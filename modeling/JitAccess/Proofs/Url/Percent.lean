import JitAccess.Proofs.Text.Utf8
import JitAccess.Url.Percent

/-!
# Percent-encoding is undone by decoding

An encode set that holds the percent sign writes a percent sign only where it begins an escape, so
decoding reads off exactly the bytes of the text.
-/

namespace JitAccess.Url.Percent

open Text

variable {set : EncodeSet}

/-! ## Escapes -/

theorem decode_escape (b : UInt8) (rest : List Char) :
    decode (escape b ++ rest) = b :: decode rest := by
  have hb : b.toNat < 256 := b.toNat_lt
  have hvalue : 16 * (b.toNat / 16) + b.toNat % 16 = b.toNat := Nat.div_add_mod b.toNat 16
  simp only [escape, List.cons_append, List.nil_append, decode]
  rw [hexValue?_upperHexDigit (by omega), hexValue?_upperHexDigit (by omega)]
  simp only [hvalue, UInt8.ofNat_toNat]

theorem decode_escapes (bs : List UInt8) (rest : List Char) :
    decode (bs.flatMap escape ++ rest) = bs ++ decode rest := by
  induction bs with
  | nil => rfl
  | cons b bs ih =>
    rw [List.flatMap_cons, List.append_assoc, decode_escape, ih, List.cons_append]

theorem decode_cons_of_ne {c : Char} (h : c ≠ '%') (rest : List Char) :
    decode (c :: rest) = String.utf8EncodeChar c ++ decode rest := by
  rw [decode]
  rintro _ _ _ rfl
  contradiction

/-! ## Whole texts -/

theorem decode_encodeChar (hset : set '%' = true) (c : Char) (rest : List Char) :
    decode (encodeChar set c ++ rest) = String.utf8EncodeChar c ++ decode rest := by
  unfold encodeChar
  split
  · exact decode_escapes _ rest
  next hc =>
    have hne : c ≠ '%' := by rintro rfl; exact hc hset
    exact decode_cons_of_ne hne rest

/-- **Decoding undoes encoding**, down to the bytes of the text. -/
theorem decode_encode (hset : set '%' = true) (cs : List Char) :
    decode (encode set cs) = Utf8.encode cs := by
  unfold encode
  induction cs with
  | nil => rfl
  | cons c cs ih => rw [List.flatMap_cons, decode_encodeChar hset, ih, Utf8.encode_cons]

end JitAccess.Url.Percent
