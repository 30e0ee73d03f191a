/-!
# UTF-8

`scan` reads bytes as characters. Where the bytes are not well formed it reports one fault for each
maximal part that could still have become a character, so that reading goes on at the first byte
that rules the part out. `decode?` accepts the bytes in which there is no fault, and `decodeLossy`
puts U+FFFD in the place of each.
-/

namespace JitAccess.Text.Utf8

/-- The bytes of a text. -/
def encode (cs : List Char) : List UInt8 :=
  cs.flatMap String.utf8EncodeChar

/-- A character whose first bytes have been read: the bits so far, how many bytes are owed, and the
bounds of the next one. -/
structure Pending where
  bits : Nat
  owed : Nat
  low : UInt8
  high : UInt8
deriving Repr

/-- What one byte brings to light, and the character it leaves unfinished. -/
abbrev Step := List (Option Char) × Option Pending

/-- The step of a byte that begins a character. -/
def start (b : UInt8) : Step :=
  if b ≤ 0x7F then ([some (Char.ofNat b.toNat)], none)
  else if 0xC2 ≤ b && b ≤ 0xDF then ([], some ⟨b.toNat % 32, 1, 0x80, 0xBF⟩)
  else if b == 0xE0 then ([], some ⟨b.toNat % 16, 2, 0xA0, 0xBF⟩)
  else if b == 0xED then ([], some ⟨b.toNat % 16, 2, 0x80, 0x9F⟩)
  else if 0xE1 ≤ b && b ≤ 0xEF then ([], some ⟨b.toNat % 16, 2, 0x80, 0xBF⟩)
  else if b == 0xF0 then ([], some ⟨b.toNat % 8, 3, 0x90, 0xBF⟩)
  else if 0xF1 ≤ b && b ≤ 0xF3 then ([], some ⟨b.toNat % 8, 3, 0x80, 0xBF⟩)
  else if b == 0xF4 then ([], some ⟨b.toNat % 8, 3, 0x80, 0x8F⟩)
  else ([none], none)

/-- The step of a byte that comes after the first bytes of a character. A byte out of bounds is a
fault, and begins a character itself. -/
def resume (p : Pending) (b : UInt8) : Step :=
  if p.low ≤ b && b ≤ p.high then
    let bits := p.bits * 64 + b.toNat % 64
    if p.owed ≤ 1 then ([some (Char.ofNat bits)], none)
    else ([], some ⟨bits, p.owed - 1, 0x80, 0xBF⟩)
  else
    let s := start b
    (none :: s.1, s.2)

/-- The characters and faults of the bytes that follow `pending`. -/
def scanFrom : Option Pending → List UInt8 → List (Option Char)
  | none, [] => []
  | some _, [] => [none]
  | none, b :: rest => (start b).1 ++ scanFrom (start b).2 rest
  | some p, b :: rest => (resume p b).1 ++ scanFrom (resume p b).2 rest

/-- The characters of some bytes, `none` for each fault. -/
def scan (bytes : List UInt8) : List (Option Char) :=
  scanFrom none bytes

/-- The text that well-formed bytes stand for. -/
def decode? (bytes : List UInt8) : Option (List Char) :=
  (scan bytes).mapM id

/-- The text of any bytes, with U+FFFD for each fault. -/
def decodeLossy (bytes : List UInt8) : List Char :=
  (scan bytes).map (·.getD '\uFFFD')

end JitAccess.Text.Utf8
