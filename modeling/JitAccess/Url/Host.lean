import JitAccess.Url.Domain
import JitAccess.Url.Percent

/-!
# Hosts

A host is a name, an IPv4 address or an IPv6 address. Under a special scheme a name is
percent-decoded and written in lower-case ASCII, and must be well formed as a domain name. If its last
label is a number it is an IPv4 address, in which a part may be decimal, octal (`0`) or hexadecimal
(`0x`) and the last part fills the bytes that are left. An IPv6 address stands in brackets.
-/

namespace JitAccess.Url

open JitAccess.Text

/-- Why a text is no URL. -/
inductive ParseError
  | emptyHost
  | invalidDomain
  | invalidDomainCharacter
  | invalidPort
  | invalidIpv4
  | invalidIpv6
  | relativeWithoutBase
  | relativeToRootless
deriving DecidableEq, Repr

/-- The wording of a parse error. -/
def ParseError.message : ParseError → String
  | .emptyHost => "empty host"
  | .invalidDomain => "invalid international domain name"
  | .invalidDomainCharacter => "invalid domain character"
  | .invalidPort => "invalid port number"
  | .invalidIpv4 => "invalid IPv4 address"
  | .invalidIpv6 => "invalid IPv6 address"
  | .relativeWithoutBase => "relative URL without a base"
  | .relativeToRootless => "relative URL with a cannot-be-a-base base"

/-- A host. The eight groups of an IPv6 address are listed in order. -/
inductive Host
  | name (text : String)
  | ipv4 (address : UInt32)
  | ipv6 (groups : List UInt16)
deriving DecidableEq, Repr

namespace Host

/-! ## IPv4 -/

/-- A part of an IPv4 address: `none` if it is no number. A lone `0x` is zero. -/
def ipv4Number? (cs : List Char) : Option Nat :=
  match cs with
  | [] => none
  | '0' :: x :: rest =>
    if x == 'x' || x == 'X' then (rest.mapM hexValue?).map (ofDigits 16)
    else ((x :: rest).mapM decimalValue?).bind fun ds =>
      if ds.all (· < 8) then some (ofDigits 8 ds) else none
  | _ => (cs.mapM decimalValue?).map (ofDigits 10)

/-- The labels of a name, a trailing dot apart. -/
def labels (cs : List Char) : List (List Char) :=
  let ls := cs.splitOn '.'
  if ls.getLast? == some [] && 1 < ls.length then ls.dropLast else ls

/-- Whether the last label is a number, so that the name can only be an IPv4 address. -/
def endsInNumber (cs : List Char) : Bool :=
  match (labels cs).getLast? with
  | some l => (!l.isEmpty && l.all Char.isDigit) || (ipv4Number? l).isSome
  | none => false

/-- The IPv4 address that a name stands for. -/
def ipv4? (cs : List Char) : Option UInt32 := do
  let numbers ← (labels cs).mapM ipv4Number?
  let last ← numbers.getLast?
  let front := numbers.dropLast
  let room := Nat.pow 256 (4 - front.length)
  if 3 < front.length || front.any (255 < ·) || room ≤ last then none
  else some (UInt32.ofNat (ofDigits 256 front * room + last))

/-- The four bytes in decimal. -/
def ipv4Text (address : UInt32) : String :=
  let n := address.toNat
  ".".intercalate
    [toString (n / 16777216), toString (n / 65536 % 256), toString (n / 256 % 256),
      toString (n % 256)]

/-! ## IPv6 -/

/-- A group of an IPv6 address: one to four hexadecimal digits. -/
def ipv6Group? (cs : List Char) : Option Nat :=
  if cs.isEmpty || 4 < cs.length then none else (cs.mapM hexValue?).map (ofDigits 16)

/-- A byte of an IPv4 address at the end of an IPv6 address: decimal, without leading zeros. -/
def dottedByte? (cs : List Char) : Option Nat := do
  let ds ← cs.mapM decimalValue?
  if ds.isEmpty || 3 < ds.length || (1 < ds.length && ds.head? == some 0) then none
  else
    let n := ofDigits 10 ds
    if 255 < n then none else some n

/-- The two groups of an IPv4 address at the end of an IPv6 address. -/
def dottedGroups? (cs : List Char) : Option (List Nat) := do
  match ← (cs.splitOn '.').mapM dottedByte? with
  | [a, b, c, d] => some [256 * a + b, 256 * c + d]
  | _ => none

/-- Groups with colons between them; the last may be an IPv4 address where `dotted` allows it. -/
def ipv6Groups? (dotted : Bool) (cs : List Char) : Option (List Nat) :=
  if cs.isEmpty then some []
  else
    let parts := cs.splitOn ':'
    match parts.dropLast.mapM ipv6Group?, parts.getLast? with
    | some front, some last =>
      if dotted && last.contains '.' then (dottedGroups? last).map (front ++ ·)
      else (ipv6Group? last).map (front ++ [·])
    | _, _ => none

/-- The text before and after the first double colon. -/
def splitDoubleColon : List Char → Option (List Char × List Char)
  | [] => none
  | ':' :: ':' :: rest => some ([], rest)
  | c :: rest => (splitDoubleColon rest).map fun p => (c :: p.1, p.2)

/-- The IPv6 address that stands between brackets. A double colon stands for one or more groups of
zero, once. -/
def ipv6? (cs : List Char) : Option (List UInt16) := do
  match splitDoubleColon cs with
  | some (before, after) =>
    let left ← ipv6Groups? false before
    let right ← ipv6Groups? true after
    if 7 < left.length + right.length then none
    else
      let zeros := List.replicate (8 - left.length - right.length) 0
      some ((left ++ zeros ++ right).map UInt16.ofNat)
  | none =>
    let groups ← ipv6Groups? true cs
    if groups.length = 8 then some (groups.map UInt16.ofNat) else none

/-- How many groups of zero a list begins with. -/
def zeroRun (groups : List UInt16) : Nat :=
  (groups.takeWhile (· == 0)).length

/-- Where the first longest run of zeros begins, and its length. -/
def longestZeroRun (groups : List UInt16) : Nat × Nat :=
  (List.range groups.length).foldl
    (fun best i => let n := zeroRun (groups.drop i); if best.2 < n then (i, n) else best) (0, 0)

/-- A group without leading zeros. -/
def groupText (g : UInt16) : String :=
  String.ofList ((digits 16 g.toNat).map lowerHexDigit)

/-- The groups with colons between them, the first longest run of two or more zeros as `::`. -/
def ipv6Text (groups : List UInt16) : String :=
  let join (gs : List UInt16) := ":".intercalate (gs.map groupText)
  let (i, n) := longestZeroRun groups
  if n < 2 then join groups else join (groups.take i) ++ "::" ++ join (groups.drop (i + n))

/-! ## Names -/

/-- The characters that no name under a special scheme may hold. -/
def isForbiddenInName (c : Char) : Bool :=
  c.toNat ≤ 0x20 || c.toNat == 0x7F || "%#/:<>?@[\\]^|".toList.contains c

/-- The characters that no host under another scheme may hold. -/
def isForbiddenInHost (c : Char) : Bool :=
  "\x00\t\n\r #/:<>?@[\\]^|".toList.contains c

/-- The host under a special scheme. -/
def special (mapping : Domain.Mapping) (cs : List Char) : Except ParseError Host :=
  if cs.head? == some '[' then
    if cs.getLast? == some ']' then
      match ipv6? (cs.drop 1).dropLast with
      | some groups => .ok (.ipv6 groups)
      | none => .error .invalidIpv6
    else .error .invalidIpv6
  else
    match (Utf8.decode? (Percent.decode cs)).bind (Domain.ascii? mapping) with
    | none => .error .invalidDomain
    | some ascii =>
      if ascii.any fun c => isForbiddenInName c || 0x80 ≤ c.toNat then .error .invalidDomain
      else if !Domain.isWellFormed ascii then .error .invalidDomain
      else if ascii.isEmpty then .error .emptyHost
      else if endsInNumber ascii then
        match ipv4? ascii with
        | some address => .ok (.ipv4 address)
        | none => .error .invalidIpv4
      else .ok (.name (String.ofList ascii))

/-- The host under a scheme that is not special; it may be empty. -/
def general (cs : List Char) : Except ParseError Host :=
  if cs.head? == some '[' then
    if cs.getLast? == some ']' then
      match ipv6? (cs.drop 1).dropLast with
      | some groups => .ok (.ipv6 groups)
      | none => .error .invalidIpv6
    else .error .invalidIpv6
  else if cs.any isForbiddenInHost then .error .invalidDomainCharacter
  else .ok (.name (String.ofList (Percent.encode Percent.controls cs)))

/-- The text of a host. -/
def text : Host → String
  | .name t => t
  | .ipv4 address => ipv4Text address
  | .ipv6 groups => "[" ++ ipv6Text groups ++ "]"

end Host

end JitAccess.Url
