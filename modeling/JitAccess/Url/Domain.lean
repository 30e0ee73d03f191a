import JitAccess.Text.Composition
import JitAccess.Text.Direction
import JitAccess.Text.Joining
import JitAccess.Url.DomainCharacter
import JitAccess.Url.Punycode

/-!
# Domain names

A name with characters outside ASCII is written in ASCII by a mapping, which is a parameter of whatever
reads names. A label of a domain name that begins with `xn--` stands for a label with characters outside
ASCII, which must be such that it has no other spelling and can be read in one way only. `isWellFormed`
tells whether all labels of a name in lower-case ASCII are.
-/

namespace JitAccess.Url.Domain

open JitAccess.Text

/-! ## Joiners -/

/-- The joiners, which ask for letters to be joined or not to be. -/
def isJoiner (c : Char) : Bool := c.toNat == 0x200C || c.toNat == 0x200D

/-- Whether the first character that is not transparent has a property. -/
def firstVisible (p : Char → Bool) (cs : List Char) : Bool :=
  (cs.dropWhile fun c => isTransparent c && !p c).head?.any p

/-- Whether a joiner has a meaning between what is before it, from the last character on, and what
is after it: it follows a sign that takes a vowel away, or keeps letters apart that would join. -/
def joinerFits (before : List Char) (joiner : Char) (after : List Char) : Bool :=
  before.head?.any (combiningClass · == vowelKillerClass) ||
    (joiner.toNat == 0x200C && firstVisible joinsNext before && firstVisible joinsPrevious after)

/-- Whether all joiners of a text have a meaning, after a text that is given from its last character
on. -/
def joinersFit (before : List Char) : List Char → Bool
  | [] => true
  | c :: rest => (!isJoiner c || joinerFits before c rest) && joinersFit (c :: before) rest

/-! ## Directions -/

/-- Whether a label can be read in one way only, in a name some of which is written to the left. It
begins with a letter and ends, nonspacing marks apart, with a letter of the same direction or a
digit. From left to right it holds nothing of the other direction, and from right to left no letter
from left to right and digits of one kind only. -/
def hasOneDirection (label : List Char) : Bool :=
  let ds := label.map direction
  let last? := (ds.reverse.dropWhile (· == .nonspacing)).head?
  match ds.head? with
  | none => true
  | some .leftToRight =>
    ds.all (fun d => d != .rightToLeft && d != .arabicNumber) &&
      last?.any fun d => d == .leftToRight || d == .europeanNumber
  | some .rightToLeft =>
    ds.all (· != .leftToRight) && !(ds.contains .europeanNumber && ds.contains .arabicNumber) &&
      last?.any fun d => d == .rightToLeft || d == .europeanNumber || d == .arabicNumber
  | some _ => false

/-- Whether the labels of a name can be read in one way only. -/
def areReadable (labels : List (List Char)) : Bool :=
  let isLeftward (c : Char) : Bool :=
    direction c == .rightToLeft || direction c == .arabicNumber
  !labels.any (·.any isLeftward) || labels.all hasOneDirection

/-! ## Labels -/

/-- The longest text after `xn--` that is read. -/
def maxEncodedLength : Nat := 2000

/-- Whether the label that an `xn--` label stands for is the only spelling of itself. -/
def isCanonical (label : List Char) : Bool :=
  label.all (fun c => c.toNat < 0x80 || isCharacter c) && isComposed label &&
    !label.head?.any isMark && joinersFit [] label

/-- The label that a label in lower case stands for. -/
def decodeLabel? (label : List Char) : Option (List Char) :=
  match label with
  | 'x' :: 'n' :: '-' :: '-' :: encoded =>
    if label.getLast? == some '-' || maxEncodedLength < encoded.length then none
    else (Punycode.decode? encoded).filter isCanonical
  | _ => some label

/-- Whether all labels of a name in lower-case ASCII are well formed. -/
def isWellFormed (name : List Char) : Bool :=
  ((name.splitOn '.').mapM decodeLabel?).any areReadable

/-! ## Names outside ASCII -/

/-- How a name with characters outside ASCII is written in lower-case ASCII, unless it is no name. -/
abbrev Mapping := List Char → Option (List Char)

/-- The mapping under which no name has characters outside ASCII. -/
def Mapping.asciiOnly : Mapping := fun _ => none

/-- A name in lower-case ASCII. -/
def ascii? (mapping : Mapping) (name : List Char) : Option (List Char) :=
  if name.any (0x80 ≤ ·.toNat) then mapping name else some (name.map Char.toLower)

end JitAccess.Url.Domain
