/-!
# Backoff

How long to wait before a request is sent again. The pause doubles with every attempt and is then
varied by up to a quarter. A pause is a duration, which has a largest value; whatever would be
longer is that value.
-/

namespace JitAccess

/-- The nanoseconds of the largest duration, one less than `2^64` seconds. -/
def Duration.limit : Nat := 18446744073709551615999999999

/-- A length of time in nanoseconds. -/
structure Duration where
  nanos : Nat
  nanos_le : nanos ≤ Duration.limit
deriving DecidableEq, Repr

namespace Duration

/-- The duration of some nanoseconds, or the largest. -/
def saturating (n : Nat) : Duration := ⟨min n limit, Nat.min_le_right ..⟩

/-- The duration of some nanoseconds, if there is one. -/
def ofNanos? (n : Nat) : Option Duration := if h : n ≤ limit then some ⟨n, h⟩ else none

/-- The duration of some milliseconds, or the largest. -/
def ofMillis (n : Nat) : Duration := saturating (n * 1000000)

/-- The largest duration. -/
def largest : Duration := ⟨limit, Nat.le_refl _⟩

/-- The whole milliseconds of a duration. -/
def millis (d : Duration) : Nat := d.nanos / 1000000

end Duration

/-- A factor by which a pause is varied. -/
structure Jitter where
  factor : Rat
  lower : 3 / 4 ≤ factor
  upper : factor < 5 / 4

/-- The jitter that changes nothing. -/
def Jitter.neutral : Jitter := ⟨1, by decide +kernel, by decide +kernel⟩

/-- How often a request is sent again, and how long the first pause is. -/
structure RetryPolicy where
  maxRetries : UInt32
  initialBackoff : Duration
deriving DecidableEq, Repr

namespace RetryPolicy

/-- Three retries, the first after half a second. -/
def standard : RetryPolicy := ⟨3, .ofMillis 500⟩

/-- No retries. -/
def never : RetryPolicy := ⟨0, .ofMillis 0⟩

/-- Two to the power of an attempt, but no more than 32 bits hold. -/
def doubling (attempt : Nat) : Nat := if attempt < 32 then Nat.pow 2 attempt else 4294967295

/-- The pause before a retry, counted from zero, without variation. -/
def base (p : RetryPolicy) (attempt : Nat) : Duration :=
  .saturating (p.initialBackoff.nanos * doubling attempt)

/-- A duration times a factor, to the nearest nanosecond. -/
def scaled (d : Duration) (factor : Rat) : Nat :=
  (d.nanos * factor + 1 / 2).floor.toNat

/-- The pause before a retry. Where the variation goes beyond the largest duration there is none. -/
def backoff (p : RetryPolicy) (attempt : Nat) (jitter : Jitter) : Duration :=
  let d := p.base attempt
  (Duration.ofNanos? (scaled d jitter.factor)).getD d

end RetryPolicy

end JitAccess
