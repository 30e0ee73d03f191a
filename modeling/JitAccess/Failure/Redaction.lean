import JitAccess.Text.Blank

/-!
# Redaction

What a service says is shown only after the bearer tokens in it are struck out, and only up to a
length. Tokens are struck out first, so that the cut cannot leave a part of one.
-/

namespace JitAccess.Redaction

open JitAccess.Text

/-- What stands before a bearer token. -/
def marker : List Char := "Bearer ".toList

/-- What stands in the place of a bearer token. -/
def redacted : List Char := "[REDACTED]".toList

/-- Whether a character ends a bearer token. -/
def isDelimiter (c : Char) : Bool :=
  isWhiteSpace c || c == '"' || c == '\'' || c == ','

/-- The token at the front of a text. -/
def token (cs : List Char) : List Char := cs.takeWhile (!isDelimiter ·)

/-- The text after the token at its front. -/
def afterToken (cs : List Char) : List Char := cs.dropWhile (!isDelimiter ·)

theorem length_afterToken_le (cs : List Char) : (afterToken cs).length ≤ cs.length :=
  (List.dropWhile_sublist _).length_le

/-- The text with every bearer token struck out. -/
def redact (cs : List Char) : List Char :=
  if _h : marker.isPrefixOf cs then
    let rest := cs.drop marker.length
    marker ++ (if (token rest).isEmpty then [] else redacted) ++ redact (afterToken rest)
  else
    match cs with
    | [] => []
    | c :: rest => c :: redact rest
termination_by cs.length
decreasing_by
  · have hlen : marker.length ≤ cs.length := (List.isPrefixOf_iff_prefix.1 _h).length_le
    have hdrop := length_afterToken_le (cs.drop marker.length)
    have hmark : marker.length = 7 := rfl
    simp only [List.length_drop] at hdrop
    omega
  · simp

/-- How many bytes of a text are shown. -/
def byteLimit : Nat := 1000

/-- How many bytes a text takes. -/
def byteLength : List Char → Nat
  | [] => 0
  | c :: rest => c.utf8Size + byteLength rest

/-- The longest beginning of a text that takes no more than some bytes. -/
def fitting : Nat → List Char → List Char
  | _, [] => []
  | limit, c :: rest => if c.utf8Size ≤ limit then c :: fitting (limit - c.utf8Size) rest else []

/-- What stands at the end of a text that has been cut. -/
def truncated : List Char := "... (truncated)".toList

/-- The text as it is shown: without tokens, and cut where it is too long. -/
def presentable (cs : List Char) : List Char :=
  let text := redact cs
  if byteLength text ≤ byteLimit then text else fitting byteLimit text ++ truncated

end JitAccess.Redaction
