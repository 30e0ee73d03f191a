import JitAccess.Text.Range

/-!
# Blank text

A text is blank when every character of it has the Unicode property `White_Space`.
-/

namespace JitAccess.Text

/-- The ranges of code points with the property `White_Space`, ends included. -/
def whiteSpaceRanges : List (Nat × Nat) :=
  [(0x09, 0x0D), (0x20, 0x20), (0x85, 0x85), (0xA0, 0xA0), (0x1680, 0x1680), (0x2000, 0x200A),
   (0x2028, 0x2029), (0x202F, 0x202F), (0x205F, 0x205F), (0x3000, 0x3000)]

/-- Whether a character has the property `White_Space`. -/
def isWhiteSpace (c : Char) : Bool := inRanges whiteSpaceRanges c

/-- Whether a text consists of white space only; the empty text does. -/
def isBlank (s : String) : Bool :=
  s.toList.all isWhiteSpace

/-- Equality of two texts when the case of ASCII letters is ignored. -/
def eqIgnoringCase (s t : String) : Bool :=
  s.toList.map Char.toLower == t.toList.map Char.toLower

@[simp] theorem isBlank_empty : isBlank "" = true := by simp [isBlank]

end JitAccess.Text
