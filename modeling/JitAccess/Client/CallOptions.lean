import JitAccess.Failure.Kind
import JitAccess.Http.Header
import JitAccess.Text.Blank

/-!
# Call options

What one call asks for beyond the client's settings: an API version, header fields and query pairs
of its first request, and what failed statuses mean.
-/

namespace JitAccess

/-- The name of the query pair that gives the API version. -/
def versionName : String := "api-version"

/-- Whether a name is that of the API version. The case of ASCII letters does not matter. -/
def isVersionName (name : String) : Bool := Text.eqIgnoringCase name versionName

/-- The options of a call. -/
structure CallOptions where
  apiVersion : Option String := none
  fields : List Http.Field := []
  query : List (String × String) := []
  overrides : List Classification.Entry := []

namespace CallOptions

/-- The API version of a call: the one it sets, else that of its first query pair of the name, else
the client's. -/
def version (o : CallOptions) (default : String) : String :=
  (o.apiVersion.or ((o.query.find? (isVersionName ·.1)).map (·.2))).getD default

/-- The query pairs that do not give an API version. -/
def extraPairs (o : CallOptions) : List (String × String) :=
  o.query.filter (!isVersionName ·.1)

/-- The options with one more override. -/
def override (o : CallOptions) (status : Http.Status) (kind : FailureKind) : CallOptions :=
  { o with overrides := o.overrides ++ [(status, kind)] }

/-- What failed statuses mean. -/
def classification (o : CallOptions) : Classification :=
  .withOverrides o.overrides

end CallOptions

end JitAccess
