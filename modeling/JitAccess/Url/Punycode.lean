/-!
# Punycode

A label with characters outside ASCII is written in ASCII: first its ASCII characters and a hyphen,
if there are any, then where each other character goes, in the order of code points. Positions are
numbers of a variable number of digits to base 36, and how soon a number ends is adapted to the
numbers before it.
-/

namespace JitAccess.Url.Punycode

/-- The value of a digit: a letter, or a decimal digit after all letters. -/
def digitValue? (c : Char) : Option Nat :=
  if 'a' ≤ c && c ≤ 'z' then some (c.toNat - 'a'.toNat)
  else if 'A' ≤ c && c ≤ 'Z' then some (c.toNat - 'A'.toNat)
  else if '0' ≤ c && c ≤ '9' then some (c.toNat - '0'.toNat + 26)
  else none

/-- The digits below this one end a number; `k` is 36 for the first digit and grows by 36. -/
def threshold (bias k : Nat) : Nat :=
  if k ≤ bias then 1 else if bias + 26 ≤ k then 26 else k - bias

/-- How often a number is divided before it is small, times 36, and what is left of it. -/
def shrink (n : Nat) : Nat × Nat :=
  if _h : 455 < n then
    let (k, rest) := shrink (n / 35)
    (k + 36, rest)
  else (0, n)
termination_by n
decreasing_by exact Nat.div_lt_self (by omega) (by omega)

/-- The bias after a number, where the label has so many characters. -/
def adapt (number count : Nat) (isFirst : Bool) : Nat :=
  let damped := if isFirst then number / 700 else number / 2
  let (k, rest) := shrink (damped + damped / count)
  k + 36 * rest / (rest + 38)

/-- The largest number that is read. -/
def maxNumber : Nat := 4294967295

/-- `start` and a number together, and what follows the digits of the number. -/
def readNumber (bias k weight start : Nat) : List Char → Option (Nat × List Char)
  | [] => none
  | c :: rest => do
    let digit ← digitValue? c
    let sum := start + digit * weight
    let t := threshold bias k
    if maxNumber < sum then none
    else if digit < t then some (sum, rest)
    else if maxNumber < weight * (36 - t) then none
    else readNumber bias (k + 36) (weight * (36 - t)) sum rest

theorem length_readNumber {bias k weight start : Nat} {cs : List Char} {r : Nat × List Char}
    (h : readNumber bias k weight start cs = some r) : r.2.length < cs.length := by
  induction cs generalizing k weight start with
  | nil => simp [readNumber] at h
  | cons c rest ih =>
    simp only [readNumber, Option.bind_eq_bind, Option.bind_eq_some_iff] at h
    obtain ⟨digit, -, h⟩ := h
    split at h
    · simp at h
    · split at h
      · cases h; simp
      · split at h
        · simp at h
        · have := ih h; simp only [List.length_cons]; omega

/-- The label so far with the characters that the digits put into it, the first of them at
`position` or later and none below `codePoint`. -/
def insertAll (bias codePoint position : Nat) (label : List Char) (digits : List Char) :
    Option (List Char) :=
  if digits.isEmpty then some label
  else
    match h : readNumber bias 36 1 position digits with
    | none => none
    | some (n, rest) =>
      let count := label.length + 1
      let codePoint' := codePoint + n / count
      let i := n % count
      if codePoint'.isValidChar then
        insertAll (adapt (n - position) count (position == 0)) codePoint' (i + 1)
          (label.insertIdx i (Char.ofNat codePoint')) rest
      else none
termination_by digits.length
decreasing_by exact length_readNumber h

/-- The label that a text stands for. A hyphen at the very beginning is none that ends the ASCII
characters. -/
def decode? (cs : List Char) : Option (List Char) :=
  let digits := (cs.reverse.takeWhile (· != '-')).reverse
  let ascii := cs.take (cs.length - digits.length - 1)
  if ascii.isEmpty then insertAll 72 128 0 [] cs else insertAll 72 128 0 ascii digits

end JitAccess.Url.Punycode
