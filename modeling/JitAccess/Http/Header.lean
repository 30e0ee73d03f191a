import JitAccess.Url.Percent

/-!
# Header fields

Which names and values a header field may have, and the value of a field that authorizes a request.
-/

namespace JitAccess.Http

/-- A header field, or any other pair of a name and a value. -/
abbrev Field := String × String

/-- Whether a character may stand in the name of a field. -/
def isNameChar (c : Char) : Bool :=
  c.isAlphanum || "!#$%&'*+-.^_`|~".toList.contains c

/-- Whether a text is the name of a field. -/
def isFieldName (s : String) : Bool :=
  !s.isEmpty && s.length < 65536 && s.toList.all isNameChar

/-- Whether a character may stand in the value of a field: any but controls, save the tab. -/
def isValueChar (c : Char) : Bool :=
  c == '\t' || (0x20 ≤ c.toNat && c.toNat != 0x7F)

/-- Whether a text is the value of a field. -/
def isFieldValue (s : String) : Bool :=
  s.toList.all isValueChar

/-- Whether a field may be sent. -/
def isField (f : Field) : Bool :=
  isFieldName f.1 && isFieldValue f.2

/-- A field with its name in lower case. -/
def lowerName (f : Field) : Field := (f.1.toLower, f.2)

/-- The value of a field that authorizes by a token. -/
def bearer (token : String) : String := "Bearer " ++ token

/-! ## User and password -/

/-- The digit of six bits in base 64. -/
def base64Digit (n : Nat) : Char :=
  if n < 26 then Char.ofNat ('A'.toNat + n)
  else if n < 52 then Char.ofNat ('a'.toNat + (n - 26))
  else if n < 62 then Char.ofNat ('0'.toNat + (n - 52))
  else if n = 62 then '+'
  else '/'

/-- Bytes in base 64, with padding. -/
def base64 : List UInt8 → List Char
  | a :: b :: c :: rest =>
    let n := a.toNat * 65536 + b.toNat * 256 + c.toNat
    base64Digit (n / 262144) :: base64Digit (n / 4096 % 64) :: base64Digit (n / 64 % 64) ::
      base64Digit (n % 64) :: base64 rest
  | [a, b] =>
    let n := a.toNat * 65536 + b.toNat * 256
    [base64Digit (n / 262144), base64Digit (n / 4096 % 64), base64Digit (n / 64 % 64), '=']
  | [a] =>
    let n := a.toNat * 65536
    [base64Digit (n / 262144), base64Digit (n / 4096 % 64), '=', '=']
  | [] => []

/-- The value of a field that authorizes by user and password, as a URL writes them; none if both
are empty, or if the user is no text. A password that is no text is left out. -/
def basic? (user password : String) : Option String := do
  let text (s : String) : Option (List Char) := Text.Utf8.decode? (Url.Percent.decode s.toList)
  let user ← text user
  let password := if password.isEmpty then none else text password
  if user.isEmpty && password.isNone then none
  else
    let pair := user ++ ':' :: password.getD []
    some ("Basic " ++ String.ofList (base64 (Text.Utf8.encode pair)))

end JitAccess.Http
