import JitAccess.Text.Utf8
import Mathlib.Tactic.IntervalCases

/-!
# Texts and their bytes

The bytes of a text determine it, and reading them gives it back without a fault. So replacing what
is not well formed leaves some bytes as they are exactly when they are the bytes of a text.

* `scanFrom_utf8EncodeChar`: the bytes of one character are read as that character, whatever follows.
* `decodeLossy_encode`: the bytes of a text are read as that text.
* `encode_decodeLossy_iff`: which bytes come through reading and writing.
-/

namespace JitAccess.Text.Utf8

/-! ## The bytes of a text -/

@[simp] theorem encode_nil : encode [] = [] := rfl

@[simp] theorem encode_cons (c : Char) (cs : List Char) :
    encode (c :: cs) = String.utf8EncodeChar c ++ encode cs := rfl

theorem encode_injective {cs ds : List Char} (h : encode cs = encode ds) : cs = ds := by
  have hbytes : cs.utf8Encode = ds.utf8Encode := congrArg List.toByteArray h
  rw [← String.toByteArray_ofList, ← String.toByteArray_ofList, String.toByteArray_inj] at hbytes
  exact String.ofList_injective hbytes

@[simp] theorem encode_eq_nil {cs : List Char} : encode cs = [] ↔ cs = [] :=
  ⟨fun h => encode_injective h, fun h => by rw [h, encode_nil]⟩

theorem utf8EncodeChar_of_lt {c : Char} (hc : c.toNat < 0x80) :
    String.utf8EncodeChar c = [UInt8.ofNat c.toNat] := by
  have hval : c.val.toNat = c.toNat := rfl
  rw [String.utf8EncodeChar, if_pos (by omega), hval]

theorem le_of_mem_utf8EncodeChar {c : Char} (hc : 0x80 ≤ c.toNat) :
    ∀ b ∈ String.utf8EncodeChar c, 0x80 ≤ b.toNat := by
  have hval : c.val.toNat = c.toNat := rfl
  rw [String.utf8EncodeChar, if_neg (by omega)]
  split
  · simp only [List.forall_mem_cons, List.not_mem_nil, UInt8.toNat_ofNat', false_implies,
      implies_true, and_true]
    omega
  · split <;>
    · simp only [List.forall_mem_cons, List.not_mem_nil, UInt8.toNat_ofNat', false_implies,
        implies_true, and_true]
      omega

/-- A byte below 0x80 comes only from the character that it stands for. -/
theorem toNat_eq_of_mem_utf8EncodeChar {c : Char} {b : UInt8} (h : b ∈ String.utf8EncodeChar c)
    (hb : b.toNat < 0x80) : c.toNat = b.toNat := by
  have hc : c.toNat < 0x80 := Nat.lt_of_not_le fun hc => by
    have := le_of_mem_utf8EncodeChar hc b h
    omega
  rw [utf8EncodeChar_of_lt hc, List.mem_singleton] at h
  rw [h, UInt8.toNat_ofNat']
  omega

/-! ## Single bytes -/

section

variable {n bits : Nat} {low high : UInt8}

theorem start_one (h : n < 128) : start (UInt8.ofNat n) = ([some (Char.ofNat n)], none) := by
  have hn : (UInt8.ofNat n).toNat = n := by rw [UInt8.toNat_ofNat']; omega
  have hle : UInt8.ofNat n ≤ 0x7F := by
    rw [UInt8.le_iff_toNat_le, hn]
    exact Nat.le_of_lt_succ h
  rw [start, if_pos hle, hn]

theorem start_two (h : 2 ≤ n) (h' : n < 32) :
    start (UInt8.ofNat (n + 192)) = ([], some ⟨n, 1, 0x80, 0xBF⟩) := by
  interval_cases n <;> rfl

theorem start_three (h : n < 16) :
    start (UInt8.ofNat (n + 224)) =
      ([], some ⟨n, 2, if n = 0 then 0xA0 else 0x80, if n = 13 then 0x9F else 0xBF⟩) := by
  interval_cases n <;> rfl

theorem start_four (h : n < 5) :
    start (UInt8.ofNat (n + 240)) =
      ([], some ⟨n, 3, if n = 0 then 0x90 else 0x80, if n = 4 then 0x8F else 0xBF⟩) := by
  interval_cases n <;> rfl

/-- A byte that goes on with a character brings six more bits of it. -/
theorem resume_tail (n owed : Nat) (hlow : low.toNat ≤ n % 64 + 128)
    (hhigh : n % 64 + 128 ≤ high.toNat) :
    resume ⟨bits, owed, low, high⟩ (UInt8.ofNat (n % 64 + 128)) =
      if owed ≤ 1 then ([some (Char.ofNat (bits * 64 + n % 64))], none)
      else ([], some ⟨bits * 64 + n % 64, owed - 1, 0x80, 0xBF⟩) := by
  have hn : (UInt8.ofNat (n % 64 + 128)).toNat = n % 64 + 128 := by rw [UInt8.toNat_ofNat']; omega
  have hbits : (n % 64 + 128) % 64 = n % 64 := by omega
  have hbounds : (low ≤ UInt8.ofNat (n % 64 + 128) && UInt8.ofNat (n % 64 + 128) ≤ high) = true := by
    simp only [UInt8.le_iff_toNat_le, hn, hlow, hhigh, decide_true, Bool.and_self]
  rw [resume, if_pos hbounds, hn, hbits]

theorem scanFrom_start {b : UInt8} {p : Pending} (h : start b = ([], some p)) (rest : List UInt8) :
    scanFrom none (b :: rest) = scanFrom (some p) rest := by
  rw [scanFrom, h]
  rfl

theorem scanFrom_tail (n owed : Nat) (hlow : low.toNat ≤ n % 64 + 128)
    (hhigh : n % 64 + 128 ≤ high.toNat) (rest : List UInt8) :
    scanFrom (some ⟨bits, owed + 2, low, high⟩) (UInt8.ofNat (n % 64 + 128) :: rest) =
      scanFrom (some ⟨bits * 64 + n % 64, owed + 1, 0x80, 0xBF⟩) rest := by
  rw [scanFrom, resume_tail n _ hlow hhigh, if_neg (by omega)]
  rfl

theorem scanFrom_last (n : Nat) (rest : List UInt8) :
    scanFrom (some ⟨bits, 1, 0x80, 0xBF⟩) (UInt8.ofNat (n % 64 + 128) :: rest) =
      some (Char.ofNat (bits * 64 + n % 64)) :: scanFrom none rest := by
  have hlow : (0x80 : UInt8).toNat ≤ n % 64 + 128 := Nat.le_add_left 128 (n % 64)
  have hhigh : n % 64 + 128 ≤ (0xBF : UInt8).toNat := by
    show n % 64 + 128 ≤ 191
    omega
  rw [scanFrom, resume_tail n _ hlow hhigh, if_pos (Nat.le_refl 1)]
  rfl

end

/-! ## Whole texts -/

/-- The bytes of a character are read as that character. -/
theorem scanFrom_utf8EncodeChar (c : Char) (rest : List UInt8) :
    scanFrom none (String.utf8EncodeChar c ++ rest) = some c :: scanFrom none rest := by
  obtain ⟨n, hn⟩ : ∃ n, c.val.toNat = n := ⟨_, rfl⟩
  have hc : Char.ofNat n = c := hn ▸ Char.ofNat_toNat c
  -- No character is a surrogate: this is what the bounds after the first byte rest on.
  have hvalid : n < 0xD800 ∨ 0xDFFF < n ∧ n < 0x110000 := hn ▸ c.valid
  simp only [String.utf8EncodeChar, hn]
  split
  · rw [List.singleton_append, scanFrom, start_one (by omega), hc]
    rfl
  · split
    · have hbits : n / 64 * 64 + n % 64 = n := by omega
      rw [Nat.mod_eq_of_lt (by omega : n / 64 < 32)]
      rw [List.cons_append, List.singleton_append,
        scanFrom_start (start_two (by omega) (by omega)), scanFrom_last n, hbits, hc]
    · split
      · have hbits : (n / 4096 * 64 + n / 64 % 64) * 64 + n % 64 = n := by omega
        rw [Nat.mod_eq_of_lt (by omega : n / 4096 < 16)]
        simp only [List.cons_append, List.nil_append]
        rw [scanFrom_start (start_three (by omega)), scanFrom_tail (n / 64), scanFrom_last n,
          hbits, hc]
        · split <;> simp; omega
        · split <;> simp <;> omega
      · have hbits : ((n / 262144 * 64 + n / 4096 % 64) * 64 + n / 64 % 64) * 64 + n % 64 = n := by
          omega
        rw [Nat.mod_eq_of_lt (by omega : n / 262144 < 8)]
        simp only [List.cons_append, List.nil_append]
        rw [scanFrom_start (start_four (by omega)), scanFrom_tail (n / 4096),
          scanFrom_tail (n / 64), scanFrom_last n, hbits, hc]
        · simp
        · simp; omega
        · split <;> simp; omega
        · split <;> simp <;> omega

theorem scan_encode (cs : List Char) : scan (encode cs) = cs.map some := by
  unfold scan
  induction cs with
  | nil => rfl
  | cons c cs ih => rw [encode_cons, scanFrom_utf8EncodeChar, ih, List.map_cons]

theorem decode?_encode (cs : List Char) : decode? (encode cs) = some cs := by
  rw [decode?, scan_encode]
  induction cs with
  | nil => rfl
  | cons c cs ih => simp [ih]

theorem decodeLossy_encode (cs : List Char) : decodeLossy (encode cs) = cs := by
  rw [decodeLossy, scan_encode, List.map_map]
  exact List.map_id cs

/-- Whether some bytes are those of a text. -/
def IsText (bytes : List UInt8) : Prop := ∃ cs, encode cs = bytes

/-- Bytes come through reading and writing as they are exactly when they are those of a text. -/
theorem encode_decodeLossy_iff {bytes : List UInt8} :
    encode (decodeLossy bytes) = bytes ↔ IsText bytes := by
  constructor
  · intro h
    exact ⟨decodeLossy bytes, h⟩
  · rintro ⟨cs, rfl⟩
    rw [decodeLossy_encode]

end JitAccess.Text.Utf8
