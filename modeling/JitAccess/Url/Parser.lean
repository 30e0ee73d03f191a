import JitAccess.Url.Segment

/-!
# Reading URLs

`Url.parse` reads an absolute URL and `Url.join` one that may be relative to another. Controls and
spaces at the ends of the text are ignored, and tabs and line breaks everywhere but after a drive in
the path of a `file` URL. Under a special scheme a backslash is a slash, and the name of a host is
written in ASCII by a mapping.
-/

namespace JitAccess.Url

open JitAccess.Text

/-- A text without controls and spaces at its ends. -/
def trimmed (cs : List Char) : List Char :=
  let isEdge (c : Char) : Bool := c.toNat ≤ 0x20
  ((cs.dropWhile isEdge).reverse.dropWhile isEdge).reverse

/-- The scheme in lower case, and what follows its colon. -/
def splitScheme? (cs : List Char) : Option (String × List Char) :=
  let isSchemeChar (c : Char) : Bool := c.isAlphanum || c == '+' || c == '-' || c == '.'
  match cs.head?, cs.dropWhile isSchemeChar with
  | some c, ':' :: rest =>
    if c.isAlpha then some (String.ofList ((cs.takeWhile isSchemeChar).map Char.toLower), rest)
    else none
  | _, _ => none

/-- Whether a character is a slash under a scheme. -/
def isSlash (special : Bool) (c : Char) : Bool :=
  c == '/' || (special && c == '\\')

/-- Whether a character ends an authority. -/
def endsAuthority (special : Bool) (c : Char) : Bool :=
  isSlash special c || c == '?' || c == '#'

/-! ## Query and fragment -/

/-- The query and the fragment of the text from `?` or `#` on. -/
def readTail (scheme : String) (cs : List Char) : Option String × Option String :=
  let fragment (cs : List Char) : Option String :=
    match cs with
    | '#' :: rest => some (String.ofList (Percent.encode Percent.fragment rest))
    | _ => none
  match cs with
  | '?' :: rest =>
    let set := if isSpecial scheme then Percent.specialQuery else Percent.query
    (some (String.ofList (Percent.encode set (rest.takeWhile (· != '#')))),
      fragment (rest.dropWhile (· != '#')))
  | _ => (none, fragment cs)

/-! ## Paths -/

/-- Whether a character ends a path. -/
def endsPath (c : Char) : Bool := c == '?' || c == '#'

/-- Split a path at its slashes. -/
def splitSegments (special : Bool) (cs : List Char) : List (List Char) :=
  (cs.map fun c => if isSlash special c then '/' else c).splitOn '/'

/-- The path of some segments and those of a text after them, and what follows it. -/
def readTrail (scheme : String) (before : List String) (cs : List Char) : Trail × List Char :=
  let raws := splitSegments (isSpecial scheme) (cs.takeWhile (!endsPath ·))
  ((Trail.after before).addTexts scheme Percent.path raws, cs.dropWhile (!endsPath ·))

/-- The segments of such a path, and what follows it. -/
def readSegments (scheme : String) (before : List String) (cs : List Char) :
    List String × List Char :=
  let (trail, rest) := readTrail scheme before cs
  (trail.segments, rest)

/-- A text without the slash that it begins with, if it does. -/
def withoutSlash (cs : List Char) : List Char :=
  match cs with
  | c :: rest => if isSlash true c then rest else cs
  | [] => []

/-- The path after an authority, where a special scheme has at least one segment. -/
def readPathStart (scheme : String) (cs : List Char) : List String × List Char :=
  if isSpecial scheme then readSegments scheme [] (withoutSlash cs)
  else
    match cs with
    | [] => ([], [])
    | '/' :: rest => readSegments scheme [] rest
    | c :: _ => if endsPath c then ([], cs) else readSegments scheme [] cs

/-! ## Authorities -/

/-- The text before the last at sign, if there is one, and the text after it. -/
def splitUserinfo (special : Bool) (cs : List Char) : Option (List Char) × List Char :=
  let authority := cs.takeWhile (!endsAuthority special ·)
  if authority.contains '@' then
    let after := (authority.reverse.takeWhile (· != '@')).reverse
    let info := authority.take (authority.length - after.length - 1)
    (some info, cs.drop (info.length + 1))
  else (none, cs)

/-- User name and password, percent-encoded. -/
def readUserinfo (cs : List Char) : String × String :=
  let text (cs : List Char) : String := String.ofList (Percent.encode Percent.userinfo cs)
  (text (cs.takeWhile (· != ':')), text ((cs.dropWhile (· != ':')).drop 1))

/-- How many characters the host takes. Colons inside brackets belong to it. -/
def hostLength (special : Bool) : Bool → List Char → Nat
  | _, [] => 0
  | bracketed, c :: rest =>
    if endsAuthority special c || (c == ':' && !bracketed) then 0
    else hostLength special (c == '[' || (c != ']' && bracketed)) rest + 1

/-- The port of the text after a colon, and what follows it. The scheme's own port is none. -/
def readPort (scheme : String) (cs : List Char) : Except ParseError (Option UInt16 × List Char) :=
  let ds := cs.takeWhile Char.isDigit
  let rest := cs.dropWhile Char.isDigit
  let port := ofDigits 10 (ds.map fun c => c.toNat - '0'.toNat)
  if 65535 < port || rest.head?.any (!endsAuthority true ·) then .error .invalidPort
  else if ds.isEmpty || defaultPort? scheme == some (UInt16.ofNat port) then .ok (none, rest)
  else .ok (some (UInt16.ofNat port), rest)

/-- The authority of the text after two slashes, and what follows it. -/
def readAuthority (mapping : Domain.Mapping) (scheme : String) (cs : List Char) :
    Except ParseError (Authority × List Char) := do
  let special := isSpecial scheme
  let (info, rest) := splitUserinfo special cs
  if info == some [] && rest.head?.any (endsAuthority special) then throw .emptyHost
  let (username, password) := readUserinfo (info.getD [])
  let n := hostLength special false rest
  if special && n = 0 then throw .emptyHost
  let host ←
    if special then Host.special mapping (rest.take n) else Host.general (rest.take n)
  let host? := if host == .name "" then none else some host
  let rest := rest.drop n
  let (port, rest) ← match rest with
    | ':' :: rest =>
      if host?.isNone then throw .emptyHost
      readPort scheme rest
    | _ => pure (none, rest)
  if host?.isNone && !(username.isEmpty && password.isEmpty) then throw .emptyHost
  return ({ username, password, host := host?, port }, rest)

/-- The URL of the text after two slashes. -/
def readHierarchical (mapping : Domain.Mapping) (scheme : String) (cs : List Char) :
    Except ParseError Url := do
  let (authority, rest) ← readAuthority mapping scheme cs
  let (segments, rest) := readPathStart scheme rest
  let (query, fragment) := readTail scheme rest
  let path := .segments segments
  return { scheme, authority := some authority, guarded := false, path, query, fragment }

/-! ## Files -/

/-- The host after the slashes of a `file` URL, and what follows it. A drive is no host. -/
def readFileHost (mapping : Domain.Mapping) (cs : List Char) :
    Except ParseError (Option Host × List Char) := do
  let inHost (c : Char) : Bool := !endsAuthority true c
  let text := withoutBreaks (cs.takeWhile inHost)
  if isDrive (String.ofList text) then return (none, cs)
  let rest := cs.dropWhile inHost
  if text.isEmpty then return (none, rest)
  match ← Host.special mapping text with
  | .name "localhost" => return (none, rest)
  | host => return (some host, rest)

/-- A `file` URL of a host, a path and what follows the path. A path on a drive has no host. Empty
segments at the beginning are dropped after that. -/
def fileUrl (host : Option Host) (trail : Trail) (rest : List Char) : Url :=
  let host := if trail.onDrive then none else host
  let (query, fragment) := readTail "file" (withoutBreaks rest)
  { scheme := "file", authority := some { username := "", password := "", host, port := none }
    guarded := false, path := .segments (fromNonempty trail.segments), query, fragment }

/-- The `file` URL of a host, some segments and a text that goes on with the path. -/
def readFilePath (host : Option Host) (before : List String) (cs : List Char) : Url :=
  let (trail, rest) := readTrail "file" before cs
  fileUrl host trail rest

/-- Whether a text begins with a drive that is a whole segment. -/
def startsWithDrive (cs : List Char) : Bool :=
  isDrive (String.ofList ((withoutBreaks cs).takeWhile (!endsAuthority true ·)))

/-- The `file` URL of the text after one slash. -/
def readFileRoot (base : Option Url) (cs : List Char) : Url :=
  match base with
  | some u =>
    let drive := u.pathSegments.take 1
    if startsWithDrive cs then readFilePath none [] cs
    else if drive.any isPlainDrive then readFilePath none drive cs
    else readFilePath u.host? [] cs
  | none => readFilePath none [] cs

/-- The `file` URL of the text after two slashes. The slash after a host belongs to no segment; with
no host, a slash there is the end of an empty first segment. -/
def readFileHierarchical (mapping : Domain.Mapping) (cs : List Char) : Except ParseError Url := do
  let (host, rest) ← readFileHost mapping cs
  return readFilePath host [] (if host.isSome then withoutSlash (rest.dropWhile isBreak) else rest)

/-- The `file` URL of the text after the colon, or of a relative text. The text may still hold tabs
and line breaks. -/
def readFile (mapping : Domain.Mapping) (base : Option Url) (cs : List Char) :
    Except ParseError Url :=
  match cs.dropWhile isBreak, base with
  | [], some u => .ok { u with fragment := none }
  | [], none => .ok (readFilePath none [] [])
  | c :: rest, _ =>
    if isSlash true c then
      match rest.dropWhile isBreak with
      | d :: after =>
        if isSlash true d then readFileHierarchical mapping after else .ok (readFileRoot base rest)
      | [] => .ok (readFileRoot base [])
    else
      match base with
      | some u =>
        let (query, fragment) := readTail "file" (withoutBreaks cs)
        if c == '#' then .ok { u with fragment }
        else if c == '?' then .ok { u with query, fragment }
        else if startsWithDrive cs then .ok (readFilePath none [] cs)
        else .ok (readFilePath u.host? (climb u.pathSegments) cs)
      | none => .ok (readFilePath none [] cs)

/-! ## Whole URLs -/

/-- Whether a path looks like an authority where there is none: its first segment is empty and not
its only one. -/
def needsGuard (segments : List String) : Bool :=
  segments.head? == some "" && 1 < segments.length

/-- The URL of a text without a scheme, relative to a base that is no file. -/
def readRelative (mapping : Domain.Mapping) (base : Url) (cs : List Char) : Except ParseError Url :=
  let located (segments : List String) (rest : List Char) : Url :=
    let (query, fragment) := readTail base.scheme rest
    let guarded := base.authority.isNone && needsGuard segments
    { base with guarded, path := .segments segments, query, fragment }
  match cs with
  | [] => .ok { base with fragment := none }
  | '#' :: _ => .ok { base with fragment := (readTail base.scheme cs).2 }
  | '?' :: _ =>
    let (query, fragment) := readTail base.scheme cs
    .ok { base with query, fragment }
  | c :: rest =>
    if isSlash true c then
      match rest with
      | d :: after =>
        if c == '/' && d == '/' then readHierarchical mapping base.scheme after
        else if isSlash true d then
          readHierarchical mapping base.scheme (after.dropWhile (isSlash true))
        else
          let (segments, rest) := readSegments base.scheme [] rest
          .ok (located segments rest)
      | [] => .ok (located [""] [])
    else
      let (segments, rest) := readSegments base.scheme base.pathSegments.dropLast cs
      .ok (located segments rest)

/-- The URL of the text after the colon of a scheme that is not special. -/
def readGeneral (mapping : Domain.Mapping) (scheme : String) (cs : List Char) :
    Except ParseError Url :=
  match cs with
  | '/' :: '/' :: rest => readHierarchical mapping scheme rest
  | '/' :: rest =>
    let (segments, rest) := readSegments scheme [] rest
    let (query, fragment) := readTail scheme rest
    let guarded := needsGuard segments
    .ok { scheme, authority := none, guarded, path := .segments segments, query, fragment }
  | _ =>
    let text := String.ofList (Percent.encode Percent.controls (cs.takeWhile (!endsPath ·)))
    let (query, fragment) := readTail scheme (cs.dropWhile (!endsPath ·))
    let path := .rootless text
    .ok { scheme, authority := none, guarded := false, path, query, fragment }

/-- The URL of the text after a scheme that is not `file` and its colon. One slash or none after the
scheme of a special base makes the text relative to it. -/
def readSchemed (mapping : Domain.Mapping) (base : Option Url) (scheme : String) (cs : List Char) :
    Except ParseError Url :=
  if isHostScheme scheme then
    let slashes := (cs.takeWhile (isSlash true)).length
    match base with
    | some u =>
      if slashes < 2 && u.scheme == scheme then readRelative mapping u cs
      else readHierarchical mapping scheme (cs.drop slashes)
    | none => readHierarchical mapping scheme (cs.drop slashes)
  else readGeneral mapping scheme cs

/-- The URL of a text, relative to a base if there is one. -/
def read (mapping : Domain.Mapping) (base : Option Url) (s : String) : Except ParseError Url :=
  let text := trimmed s.toList
  let cs := withoutBreaks text
  match splitScheme? cs with
  | some (scheme, rest) =>
    if scheme == "file" then
      readFile mapping (base.filter (·.scheme == "file")) ((text.dropWhile (· != ':')).drop 1)
    else readSchemed mapping base scheme rest
  | none =>
    match base with
    | none => .error .relativeWithoutBase
    | some u =>
      if cs.head? == some '#' then .ok { u with fragment := (readTail u.scheme cs).2 }
      else if !u.isBase then .error .relativeToRootless
      else if u.scheme == "file" then readFile mapping (some u) text
      else readRelative mapping u cs

/-- The absolute URL of a text. -/
def parse (s : String) (mapping : Domain.Mapping := .asciiOnly) : Except ParseError Url :=
  read mapping none s

/-- The URL of a text that may be relative to `base`. -/
def join (base : Url) (s : String) (mapping : Domain.Mapping) : Except ParseError Url :=
  read mapping (some base) s

end JitAccess.Url
