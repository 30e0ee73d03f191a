import JitAccess.Url.Basic

/-!
# Path segments

A path is built one segment at a time, from texts in which tabs and line breaks do not count. A
segment `.` adds nothing and `..` takes the segment before it away, also where a dot is written
`%2e`; as the last segment either leaves an empty one, so that the path ends with a slash. A `file`
path may begin with a drive, and a drive is not left by `..`.
-/

namespace JitAccess.Url

/-! ## Kinds of segments -/

/-- Whether a segment is `.`, in any spelling. -/
def isSingleDot (s : String) : Bool :=
  [".", "%2e"].contains s.toLower

/-- Whether a segment is `..`, in any spelling. -/
def isDoubleDot (s : String) : Bool :=
  ["..", ".%2e", "%2e.", "%2e%2e"].contains s.toLower

/-- Whether a segment is a letter followed by a colon or a bar, which names a drive. -/
def isDrive (s : String) : Bool :=
  match s.toList with
  | [c, d] => c.isAlpha && (d == ':' || d == '|')
  | _ => false

/-- Whether a segment names a drive with a colon. -/
def isPlainDrive (s : String) : Bool :=
  match s.toList with
  | [c, ':'] => c.isAlpha
  | _ => false

/-- Whether a segment is a drive, or begins with one before a backslash. -/
def beginsWithDrive (s : String) : Bool :=
  isDrive (String.ofList (s.toList.takeWhile (· != '\\')))

/-- A drive with a colon for its bar. -/
def plainDrive (s : String) : String :=
  String.ofList (s.toList.take 1 ++ [':'])

/-! ## Tabs and line breaks -/

/-- Whether a character is a tab or a line break. -/
def isBreak (c : Char) : Bool := c == '\t' || c == '\n' || c == '\r'

/-- A text without its tabs and line breaks. -/
def withoutBreaks (cs : List Char) : List Char := cs.filter (!isBreak ·)

/-- The drive that a text begins with, and what follows it, if a tab or a line break is between. -/
def splitDrive? (raw : List Char) : Option (List Char × List Char) :=
  match withoutBreaks raw, (raw.dropWhile (· != ':')).drop 1 with
  | c :: ':' :: d :: rest, b :: _ =>
    if c.isAlpha && isBreak b then some ([c, ':'], d :: rest) else none
  | _, _ => none

/-! ## Paths in the making -/

/-- The segments without the last one. A drive is not left. -/
def climb (segments : List String) : List String :=
  if segments.getLast?.any beginsWithDrive then segments else segments.dropLast

/-- A path in the making: its finished segments, and whether the first was found to be a drive,
which no host goes with. -/
structure Trail where
  segments : List String
  onDrive : Bool
deriving DecidableEq, Repr

namespace Trail

/-- The path of some segments. -/
def after (segments : List String) : Trail := ⟨segments, false⟩

/-- One more segment. `last` tells that no slash follows it. The first segment of a `file` path is
written with a colon if it names a drive. -/
def add (scheme : String) (t : Trail) (segment : String) (last : Bool) : Trail :=
  if isDoubleDot segment then
    { t with segments := if last then climb t.segments ++ [""] else climb t.segments }
  else if isSingleDot segment then
    { t with segments := if last then t.segments ++ [""] else t.segments }
  else if scheme == "file" && t.segments.isEmpty && isDrive segment then
    ⟨[plainDrive segment], true⟩
  else { t with segments := t.segments ++ [segment] }

/-- One more segment, of any text under an encode set. At the beginning of a `file` path a drive
that a tab or a line break follows is a segment of its own, and the rest is one as it stands. -/
def addText (scheme : String) (set : Percent.EncodeSet) (t : Trail) (raw : List Char)
    (last : Bool) : Trail :=
  let segment (cs : List Char) : String := String.ofList (Percent.encode set cs)
  match if scheme == "file" && t.segments.isEmpty then splitDrive? raw else none with
  | some (drive, rest) => { t with segments := [segment drive, segment rest] }
  | none => t.add scheme (segment (withoutBreaks raw)) last

/-- Several more segments, the last of which no slash follows. -/
def addTexts (scheme : String) (set : Percent.EncodeSet) : Trail → List (List Char) → Trail
  | t, [] => t
  | t, [raw] => t.addText scheme set raw true
  | t, raw :: rest => addTexts scheme set (t.addText scheme set raw false) rest

end Trail

/-- The segments from the first that is not empty on, or one empty segment. -/
def fromNonempty (segments : List String) : List String :=
  match segments.dropWhile (·.isEmpty) with
  | [] => [""]
  | l => l

/-! ## Longer paths -/

/-- The path with one more segment, made from any text. What is no part of a segment is
percent-encoded; the texts `.` and `..` add nothing. A `file` path does not begin with empty
segments. -/
def addSegment (scheme : String) (segments : List String) (raw : String) : List String :=
  if raw == "." || raw == ".." then segments
  else
    let set := if isSpecial scheme then Percent.specialSegment else Percent.segment
    let before := if segments == [""] then [] else segments
    let after := ((Trail.after before).addText scheme set raw.toList true).segments
    if scheme == "file" then fromNonempty after else after

/-- The path without an empty last segment, unless it is the only one. -/
def withoutTrailingSlash (segments : List String) : List String :=
  if 1 < segments.length && segments.getLast? == some "" then segments.dropLast else segments

/-- The same URL with more segments at the end of its path. A trailing slash of the path goes. -/
def extendPath (u : Url) (raws : List String) : Url :=
  match u.path with
  | .rootless _ => u
  | .segments l =>
    { u with path := .segments (raws.foldl (addSegment u.scheme) (withoutTrailingSlash l)) }

end JitAccess.Url
