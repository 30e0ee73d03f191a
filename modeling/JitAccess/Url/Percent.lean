import JitAccess.Text.Digit
import JitAccess.Text.Utf8

/-!
# Percent-encoding

A component of a URL writes a character of its encode set as the bytes of the character, each a
percent sign and two upper-case hexadecimal digits, and every other character as itself. Each encode
set holds the controls and everything outside ASCII.
-/

namespace JitAccess.Url.Percent

open JitAccess.Text

/-- A set of characters that a component does not write as themselves. -/
abbrev EncodeSet := Char → Bool

/-- Controls, delete and everything outside ASCII. -/
def controls : EncodeSet := fun c => c.toNat < 0x20 || 0x7F ≤ c.toNat

/-- The encode set of fragments. -/
def fragment : EncodeSet := fun c => controls c || " \"<>`".toList.contains c

/-- The encode set of queries. -/
def query : EncodeSet := fun c => controls c || " \"#<>".toList.contains c

/-- The encode set of queries under a special scheme. -/
def specialQuery : EncodeSet := fun c => query c || c == '\''

/-- The encode set of paths. -/
def path : EncodeSet := fun c => fragment c || "#?\x7b\x7d".toList.contains c

/-- The encode set of a text that is to be one segment of a path. -/
def segment : EncodeSet := fun c => path c || c == '/' || c == '%'

/-- The encode set of a text that is to be one segment of a path under a special scheme. -/
def specialSegment : EncodeSet := fun c => segment c || c == '\\'

/-- The encode set of user names and passwords. -/
def userinfo : EncodeSet := fun c => path c || "/:;=@[\\]^|".toList.contains c

/-- A byte as a percent sign and two digits. -/
def escape (b : UInt8) : List Char :=
  ['%', upperHexDigit (b.toNat / 16), upperHexDigit (b.toNat % 16)]

/-- A character under an encode set. -/
def encodeChar (set : EncodeSet) (c : Char) : List Char :=
  if set c then (String.utf8EncodeChar c).flatMap escape else [c]

/-- A text under an encode set. -/
def encode (set : EncodeSet) (cs : List Char) : List Char :=
  cs.flatMap (encodeChar set)

/-- The bytes that a text stands for. A percent sign without two digits stands for itself. -/
def decode : List Char → List UInt8
  | [] => []
  | '%' :: a :: b :: rest =>
    match hexValue? a, hexValue? b with
    | some x, some y => UInt8.ofNat (16 * x + y) :: decode rest
    | _, _ => String.utf8EncodeChar '%' ++ decode (a :: b :: rest)
  | c :: rest => String.utf8EncodeChar c ++ decode rest

end JitAccess.Url.Percent
