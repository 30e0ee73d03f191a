import JitAccess.Text.Digit

/-!
# Double-precision numbers

A number that is no integer of 64 bits is kept as a double. It is read from a significand and a
power of ten, and written with the fewest digits that read back as the same double.
-/

namespace JitAccess.Json

open JitAccess.Text

/-- A finite double, as its bits. -/
structure Real64 where
  bits : UInt64
deriving DecidableEq, Repr

namespace Real64

/-! ## Reading -/

/-- A power of ten up to `10^308`. -/
def powerOfTen (n : Nat) : Float := Float.ofScientific 1 false n

/-- A double divided by a power of ten, by `10^308` at a time. -/
def divide (f : Float) (n : Nat) : Float :=
  if n ≤ 308 then f / powerOfTen n
  else if f == 0 then f
  else divide (f / powerOfTen 308) (n - 308)
termination_by n

/-- A significand times a power of ten; `none` if that is too large for a double. -/
def scaled? (negative : Bool) (significand : UInt64) (exponent : Int) : Option Real64 :=
  let f := significand.toFloat
  let signed (f : Float) : Real64 := ⟨(if negative then -f else f).toBits⟩
  match exponent with
  | .ofNat n =>
    if f == 0 then some (signed f)
    else if 308 < n then none
    else
      let g := f * powerOfTen n
      if g.isInf then none else some (signed g)
  | .negSucc n => some (signed (divide f (n + 1)))

/-! ## Writing -/

/-- How many fractions there are, `2^52`. It is also the significand of every power of two that is
not among the smallest numbers. -/
def fractionCount : Nat := 4503599627370496

/-- How many exponents there are, `2^11`. -/
def exponentCount : Nat := 2048

/-- The sign, and the significand and the power of two whose product is the magnitude. -/
def parts (r : Real64) : Bool × Nat × Int :=
  let n := r.bits.toNat
  let exponent := n / fractionCount % exponentCount
  let fraction := n % fractionCount
  let negative := n / (fractionCount * exponentCount) == 1
  if exponent = 0 then (negative, fraction, -1074)
  else (negative, fraction + fractionCount, Int.ofNat exponent - 1075)

/-- The multiple of `10^p` that reads back as a magnitude, in units of `10^p`, and the nearer of
two. The magnitude is `m * 2^q`, and all numbers up to half a unit of `m` away read back as it,
those just half a unit away if `m` is even; below a power of two the unit is half as large. -/
def onGrid? (m : Nat) (q : Int) (p : Int) : Option Nat :=
  let quarter : Int := q - 2
  let scale := Nat.pow 2 quarter.toNat * Nat.pow 10 (-p).toNat
  let unit := Nat.pow 2 (-quarter).toNat * Nat.pow 10 p.toNat
  let value := 4 * m * scale
  let low := (4 * m - if m = fractionCount ∧ -1074 < q then 1 else 2) * scale
  let high := (4 * m + 2) * scale
  let reads (c : Nat) : Bool :=
    if m % 2 = 0 then low ≤ c * unit && c * unit ≤ high else low < c * unit && c * unit < high
  let below := value / unit
  match reads below, reads (below + 1) with
  | true, true =>
    let down := value - below * unit
    let up := (below + 1) * unit - value
    some (if down < up || (down == up && below % 2 == 0) then below else below + 1)
  | true, false => some below
  | false, true => some (below + 1)
  | false, false => none

/-- The shortest decimal that reads back, as an integer and a power of ten: the one on the coarsest
grid that has any. -/
def shortest (m : Nat) (q : Int) : Nat × Int :=
  ((List.range 700).findSome? fun i =>
    let p : Int := 310 - Int.ofNat i
    (onGrid? m q p).map (·, p)).getD (m, 0)

/-- A number in decimal digits. -/
def decimal (n : Nat) : String :=
  String.ofList ((digits 10 n).map upperHexDigit)

/-- The text of a magnitude `c * 10^p`. Below `10^16` and from `10^-5` on it is written in full,
with at least one digit after the point; all others are written with an exponent. -/
def magnitudeText (c : Nat) (p : Int) : String :=
  let ds := decimal c
  let point : Int := Int.ofNat ds.length + p
  if 0 ≤ p && point ≤ 16 then ds ++ String.ofList (List.replicate p.toNat '0') ++ ".0"
  else if 0 < point && point ≤ 16 then
    let cs := ds.toList
    String.ofList (cs.take point.toNat ++ '.' :: cs.drop point.toNat)
  else if -5 < point && point ≤ 0 then
    "0." ++ String.ofList (List.replicate (-point).toNat '0') ++ ds
  else
    let exponent := point - 1
    let sign := if exponent < 0 then "-" else ""
    let cs := ds.toList
    let mantissa := if cs.length ≤ 1 then cs else cs.take 1 ++ '.' :: cs.drop 1
    String.ofList mantissa ++ "e" ++ sign ++ decimal exponent.natAbs

/-- The text of a double. -/
def text (r : Real64) : String :=
  let (negative, m, q) := r.parts
  let magnitude := if m = 0 then "0.0" else let (c, p) := shortest m q; magnitudeText c p
  (if negative then "-" else "") ++ magnitude

end Real64

end JitAccess.Json
