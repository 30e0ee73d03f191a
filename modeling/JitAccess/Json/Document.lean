import JitAccess.Text.Digit
import JitAccess.Text.Utf8

/-!
# JSON documents as written

A document is a JSON text without its blanks. Strings and numbers are kept as they are written,
since a part of a document that nobody asks for need not be a sequence of characters or a number of
any range. `read?` accepts the texts that are one JSON value between blanks, nested to any depth.
-/

namespace JitAccess.Json

open JitAccess.Text

/-- What stands in a string: a byte, or the code unit of a `\u` escape. -/
inductive Mark
  | byte (b : UInt8)
  | code (unit : UInt16)
deriving DecidableEq, Repr

/-- A number as written, in digits. `fraction` is empty where there is no decimal point. -/
structure Numeral where
  negative : Bool
  whole : List Nat
  fraction : List Nat
  exponent : Option Int
deriving DecidableEq, Repr

/-- A JSON text without its blanks. -/
inductive Document
  | null
  | bool (b : Bool)
  | number (n : Numeral)
  | string (marks : List Mark)
  | array (items : List Document)
  | object (members : List (List Mark × Document))
deriving Repr

namespace Document

/-- Whether a byte may stand between the parts of a text. -/
def isBlank (b : UInt8) : Bool := b == 0x20 || b == 0x0A || b == 0x0D || b == 0x09

/-- The text from its first part on. -/
def skipBlank (bytes : List UInt8) : List UInt8 := bytes.dropWhile isBlank

/-! ## Numbers -/

/-- Whether a byte is a decimal digit. -/
def isDigit (b : UInt8) : Bool := 0x30 ≤ b && b ≤ 0x39

/-- The digits at the front, and what follows them. -/
def readDigits (bytes : List UInt8) : List Nat × List UInt8 :=
  ((bytes.takeWhile isDigit).map (·.toNat - 0x30), bytes.dropWhile isDigit)

/-- The digits after a decimal point, if there is one. -/
def readFraction? (bytes : List UInt8) : Option (List Nat × List UInt8) :=
  match bytes with
  | 0x2E :: rest =>
    let (ds, rest) := readDigits rest
    if ds.isEmpty then none else some (ds, rest)
  | _ => some ([], bytes)

/-- The exponent, if there is one. -/
def readExponent? (bytes : List UInt8) : Option (Option Int × List UInt8) :=
  match bytes with
  | b :: rest =>
    if b == 0x65 || b == 0x45 then
      let (negative, rest) := match rest with
        | 0x2D :: rest => (true, rest)
        | 0x2B :: rest => (false, rest)
        | _ => (false, rest)
      let (ds, rest) := readDigits rest
      let n := Int.ofNat (ofDigits 10 ds)
      if ds.isEmpty then none else some (some (if negative then -n else n), rest)
    else some (none, bytes)
  | [] => some (none, [])

/-- The number at the front. Its whole part has no leading zeros. -/
def readNumeral? (bytes : List UInt8) : Option (Numeral × List UInt8) := do
  let (negative, bytes) := match bytes with
    | 0x2D :: rest => (true, rest)
    | _ => (false, bytes)
  let (whole, bytes) := readDigits bytes
  if whole.isEmpty || (whole.head? == some 0 && 1 < whole.length) then none
  else
    let (fraction, bytes) ← readFraction? bytes
    let (exponent, bytes) ← readExponent? bytes
    some ({ negative, whole, fraction, exponent }, bytes)

/-! ## Strings -/

/-- The byte that an escape of one letter stands for. -/
def shortEscape? (b : UInt8) : Option UInt8 :=
  if b == 0x22 || b == 0x5C || b == 0x2F then some b
  else if b == 0x62 then some 0x08
  else if b == 0x66 then some 0x0C
  else if b == 0x6E then some 0x0A
  else if b == 0x72 then some 0x0D
  else if b == 0x74 then some 0x09
  else none

/-- The code unit of four hexadecimal digits. -/
def codeUnit? (a b c d : UInt8) : Option UInt16 := do
  let ds ← [a, b, c, d].mapM fun x => hexValue? (Char.ofNat x.toNat)
  some (UInt16.ofNat (ofDigits 16 ds))

/-- The string up to its closing quote, and what follows the quote. -/
def readString? : List UInt8 → Option (List Mark × List UInt8)
  | [] => none
  | 0x22 :: rest => some ([], rest)
  | 0x5C :: 0x75 :: a :: b :: c :: d :: rest => do
    let unit ← codeUnit? a b c d
    let (marks, rest) ← readString? rest
    some (.code unit :: marks, rest)
  | 0x5C :: e :: rest => do
    let b ← shortEscape? e
    let (marks, rest) ← readString? rest
    some (.byte b :: marks, rest)
  | b :: rest => do
    if b < 0x20 || b == 0x5C then none
    else
      let (marks, rest) ← readString? rest
      some (.byte b :: marks, rest)

/-! ## Values -/

mutual

/-- The value at the front, after blanks. Every call on the way to a part uses up one of `fuel`. -/
def readValue? : Nat → List UInt8 → Option (Document × List UInt8)
  | 0, _ => none
  | fuel + 1, bytes =>
    match skipBlank bytes with
    | 0x6E :: 0x75 :: 0x6C :: 0x6C :: rest => some (.null, rest)
    | 0x74 :: 0x72 :: 0x75 :: 0x65 :: rest => some (.bool true, rest)
    | 0x66 :: 0x61 :: 0x6C :: 0x73 :: 0x65 :: rest => some (.bool false, rest)
    | 0x22 :: rest => (readString? rest).map fun r => (.string r.1, r.2)
    | 0x5B :: rest =>
      match skipBlank rest with
      | 0x5D :: rest => some (.array [], rest)
      | _ => (readItems? fuel rest).map fun r => (.array r.1, r.2)
    | 0x7B :: rest =>
      match skipBlank rest with
      | 0x7D :: rest => some (.object [], rest)
      | _ => (readMembers? fuel rest).map fun r => (.object r.1, r.2)
    | bytes => (readNumeral? bytes).map fun r => (.number r.1, r.2)

/-- The items of an array up to its closing bracket, and what follows the bracket. -/
def readItems? : Nat → List UInt8 → Option (List Document × List UInt8)
  | 0, _ => none
  | fuel + 1, bytes => do
    let (item, rest) ← readValue? fuel bytes
    match skipBlank rest with
    | 0x2C :: rest =>
      let (items, rest) ← readItems? fuel rest
      some (item :: items, rest)
    | 0x5D :: rest => some ([item], rest)
    | _ => none

/-- The members of an object up to its closing brace, and what follows the brace. -/
def readMembers? : Nat → List UInt8 → Option (List (List Mark × Document) × List UInt8)
  | 0, _ => none
  | fuel + 1, bytes => do
    match skipBlank bytes with
    | 0x22 :: rest =>
      let (name, rest) ← readString? rest
      match skipBlank rest with
      | 0x3A :: rest =>
        let (value, rest) ← readValue? fuel rest
        match skipBlank rest with
        | 0x2C :: rest =>
          let (members, rest) ← readMembers? fuel rest
          some ((name, value) :: members, rest)
        | 0x7D :: rest => some ([(name, value)], rest)
        | _ => none
      | _ => none
    | _ => none

end

/-- The document that a text is. Each byte is the first of at most two parts, which bounds the
calls. -/
def read? (bytes : List UInt8) : Option Document := do
  let (doc, rest) ← readValue? (2 * bytes.length + 2) bytes
  if (skipBlank rest).isEmpty then some doc else none

end Document

/-! ## Characters of a string -/

/-- Whether a code unit is the first of a pair. -/
def isHighSurrogate (u : UInt16) : Bool := 0xD800 ≤ u && u ≤ 0xDBFF

/-- Whether a code unit is the second of a pair. -/
def isLowSurrogate (u : UInt16) : Bool := 0xDC00 ≤ u && u ≤ 0xDFFF

/-- The character of a pair of code units. -/
def ofSurrogates (high low : UInt16) : Char :=
  Char.ofNat (0x10000 + (high.toNat - 0xD800) * 0x400 + (low.toNat - 0xDC00))

/-- The bytes that a string stands for; none if half of a pair stands alone. -/
def markBytes? : List Mark → Option (List UInt8)
  | [] => some []
  | .byte b :: rest => (markBytes? rest).map (b :: ·)
  | .code u :: rest =>
    if isHighSurrogate u then
      match rest with
      | .code v :: rest =>
        if isLowSurrogate v then
          (markBytes? rest).map (String.utf8EncodeChar (ofSurrogates u v) ++ ·)
        else none
      | _ => none
    else if isLowSurrogate u then none
    else (markBytes? rest).map (String.utf8EncodeChar (Char.ofNat u.toNat) ++ ·)

/-- The text that a string stands for, if it is one. -/
def markText? (marks : List Mark) : Option String :=
  (markBytes? marks).bind fun bytes => (Utf8.decode? bytes).map String.ofList

end JitAccess.Json
