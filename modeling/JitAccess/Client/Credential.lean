import JitAccess.Run.World

/-!
# Credentials

A credential is an access token, or a source that is asked for a token each time one is needed. No
text of a credential shows its token.
-/

namespace JitAccess

/-- What a client identifies itself with. -/
inductive Credential
  | accessToken (token : String)
  | tokenSource
deriving DecidableEq

namespace Credential

/-- The scope that tokens are asked for. -/
def managementScope : String := "https://management.azure.com/.default"

/-- The credential of an environment: its access token unless that is empty, else the source of the
signed-in account. -/
def ofEnvironment (token : Option String) : Credential :=
  match token with
  | some t => if t.isEmpty then .tokenSource else .accessToken t
  | none => .tokenSource

/-- The text that stands for a credential. -/
def debugText : Credential → String
  | .accessToken _ => "ArmCredential::AccessToken(****)"
  | .tokenSource => "ArmCredential::TokenCredential"

/-- The value that authorizes a request. -/
def authorize : Credential → Run String
  | .accessToken token => pure (Http.bearer token)
  | .tokenSource => do return Http.bearer (← askToken [managementScope])

end Credential

end JitAccess
