import JitAccess.Url.Percent

/-!
# Form-encoded pairs

A query is read as pairs of a name and a value: `&` separates the pairs, the first `=` of a pair its
two parts, a plus sign stands for a space, and percent-encoding for any byte. Writing leaves
letters, digits and `*-._` as they are.
-/

namespace JitAccess.Url.Form

open JitAccess.Text

/-- The bytes that are written as themselves. -/
def isPlain (b : UInt8) : Bool :=
  (0x30 ≤ b && b ≤ 0x39) || (0x41 ≤ b && b ≤ 0x5A) || (0x61 ≤ b && b ≤ 0x7A) ||
    b == 0x2A || b == 0x2D || b == 0x2E || b == 0x5F

/-- A byte of a name or value. -/
def writeByte (b : UInt8) : List Char :=
  if b == 0x20 then ['+'] else if isPlain b then [Char.ofNat b.toNat] else Percent.escape b

/-- A name or value. -/
def write (s : String) : List Char :=
  (Utf8.encode s.toList).flatMap writeByte

/-- A name and its value. -/
def writePair (p : String × String) : List Char :=
  write p.1 ++ '=' :: write p.2

/-- A list of pairs. -/
def writePairs (ps : List (String × String)) : List Char :=
  ['&'].intercalate (ps.map writePair)

/-- The bytes of a name or value. -/
def readBytes (cs : List Char) : List UInt8 :=
  Percent.decode (cs.map fun c => if c == '+' then ' ' else c)

/-- The bytes of a name and of its value, which is empty where there is no `=`. -/
def readPair (cs : List Char) : List UInt8 × List UInt8 :=
  (readBytes (cs.takeWhile (· != '=')), readBytes ((cs.dropWhile (· != '=')).drop 1))

/-- The pairs of a text, as bytes. Empty parts between separators are no pairs. -/
def readBytePairs (cs : List Char) : List (List UInt8 × List UInt8) :=
  ((cs.splitOn '&').filter (!·.isEmpty)).map readPair

/-- The text of some bytes, with U+FFFD where they are not well formed. -/
def textOf (bytes : List UInt8) : String :=
  String.ofList (Utf8.decodeLossy bytes)

/-- The pairs of a text. -/
def readPairs (cs : List Char) : List (String × String) :=
  (readBytePairs cs).map fun p => (textOf p.1, textOf p.2)

end JitAccess.Url.Form
