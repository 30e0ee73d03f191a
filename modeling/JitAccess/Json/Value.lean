import JitAccess.Json.Document
import JitAccess.Json.Real64

/-!
# JSON values

A value is what a document means: strings are texts, and numbers are integers of 64 bits or doubles.
`write` gives the text of a value, without blanks.
-/

namespace JitAccess.Json

open JitAccess.Text

/-- A number: an integer between `-2^63` and `2^64 - 1`, or a double. -/
inductive Number
  | int (i : Int)
  | real (r : Real64)
deriving DecidableEq, Repr

/-- What a JSON text means. -/
inductive Value
  | null
  | bool (b : Bool)
  | number (n : Number)
  | string (s : String)
  | array (items : List Value)
  | object (members : List (String × Value))
deriving Repr

/-! ## Numbers -/

/-- The least number that 64 bits do not hold. -/
def wordLimit : Nat := 18446744073709551616

/-- The significand of some digits after `significand`, and how many digits are left from the first
that would take it beyond 64 bits. -/
def accumulate (significand : Nat) : List Nat → Nat × Nat
  | [] => (significand, 0)
  | d :: ds =>
    if wordLimit ≤ significand * 10 + d then (significand, ds.length + 1)
    else accumulate (significand * 10 + d) ds

/-- The number that a numeral stands for; none if it is too large for a double. An integer beyond 64
bits, and a negative zero, is a double. A double keeps the digits that fit into 64 bits. -/
def Numeral.number? (n : Numeral) : Option Number :=
  let (whole, dropped) := accumulate 0 n.whole
  if n.fraction.isEmpty && n.exponent.isNone && dropped = 0 &&
      (!n.negative || (0 < whole && whole ≤ wordLimit / 2)) then
    some (.int (if n.negative then -Int.ofNat whole else Int.ofNat whole))
  else
    let (significand, unread) := accumulate whole n.fraction
    let read := n.fraction.length - unread
    let exponent := Int.ofNat dropped - Int.ofNat read + n.exponent.getD 0
    (Real64.scaled? n.negative (UInt64.ofNat significand) exponent).map .real

/-- The text of a number. -/
def Number.text : Number → String
  | .int i => (if i < 0 then "-" else "") ++ Real64.decimal i.natAbs
  | .real r => r.text

/-! ## Writing -/

/-- The bytes of an ASCII text. -/
def ascii (s : String) : List UInt8 := Utf8.encode s.toList

/-- A character of a string. Quotes, backslashes and controls are escaped. -/
def writeChar (c : Char) : List UInt8 :=
  if c == '"' then [0x5C, 0x22]
  else if c == '\\' then [0x5C, 0x5C]
  else if c == '\x08' then [0x5C, 0x62]
  else if c == '\x0c' then [0x5C, 0x66]
  else if c == '\n' then [0x5C, 0x6E]
  else if c == '\r' then [0x5C, 0x72]
  else if c == '\t' then [0x5C, 0x74]
  else if c.toNat < 0x20 then
    [0x5C, 0x75, 0x30, 0x30] ++
      ascii (String.ofList [lowerHexDigit (c.toNat / 16), lowerHexDigit (c.toNat % 16)])
  else String.utf8EncodeChar c

/-- A string in quotes. -/
def writeString (s : String) : List UInt8 :=
  0x22 :: s.toList.flatMap writeChar ++ [0x22]

mutual

/-- The text of a value. -/
def Value.write : Value → List UInt8
  | .null => ascii "null"
  | .bool true => ascii "true"
  | .bool false => ascii "false"
  | .number n => ascii n.text
  | .string s => writeString s
  | .array [] => [0x5B, 0x5D]
  | .array (v :: vs) => 0x5B :: v.write ++ writeItems vs
  | .object [] => [0x7B, 0x7D]
  | .object ((name, v) :: ms) => 0x7B :: writeString name ++ 0x3A :: v.write ++ writeMembers ms

/-- The items after the first, and the closing bracket. -/
def writeItems : List Value → List UInt8
  | [] => [0x5D]
  | v :: vs => 0x2C :: v.write ++ writeItems vs

/-- The members after the first, and the closing brace. -/
def writeMembers : List (String × Value) → List UInt8
  | [] => [0x7D]
  | (name, v) :: ms => 0x2C :: writeString name ++ 0x3A :: v.write ++ writeMembers ms

end

/-- The member of an object with a name. -/
def Value.member? (name : String) : Value → Option Value
  | .object members => members.lookup name
  | _ => none

end JitAccess.Json
