import JitAccess.Failure.Basic
import JitAccess.Text.Blank

/-!
# Routes

A route is the path of a resource, with placeholders in braces for some of its segments. Filling
them gives the segments of the path, not yet encoded. A value must be given, must not be blank, and
must not be a dot segment, which would lead to another resource.
-/

namespace JitAccess

/-- A path with placeholders. -/
structure Route where
  template : String
deriving DecidableEq, Repr

namespace Route

/-- The name of a placeholder, if a segment is one. -/
def placeholder? (segment : List Char) : Option String :=
  match segment with
  | '\x7b' :: rest =>
    if rest.getLast? == some '\x7d' then some (String.ofList rest.dropLast) else none
  | _ => none

/-- The segments of the template. Slashes that follow one another are one. -/
def parts (r : Route) : List (List Char) :=
  (r.template.toList.splitOn '/').filter (!·.isEmpty)

/-- The value of a placeholder: the first that is given for its name. -/
def fill (params : List (String × String)) (name : String) : Except DraftFault String :=
  match params.lookup name with
  | none => .error (.missingParameter name)
  | some value =>
    if Text.isBlank value then .error (.blankParameter name)
    else if value == "." || value == ".." then .error (.dotParameter name)
    else .ok value

/-- A segment with its placeholder filled, if it is one. -/
def fillPart (params : List (String × String)) (part : List Char) : Except DraftFault String :=
  match placeholder? part with
  | some name => fill params name
  | none => .ok (String.ofList part)

/-- The segments with every placeholder filled, or what is wrong with the first that cannot be. -/
def expand (r : Route) (params : List (String × String)) : Except DraftFault (List String) :=
  r.parts.mapM (fillPart params)

end Route

end JitAccess
