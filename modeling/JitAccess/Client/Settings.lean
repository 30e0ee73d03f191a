import JitAccess.Client.Credential
import JitAccess.Text.Blank
import JitAccess.Url.Parser

/-!
# Clients and their settings

A client has an endpoint that other URLs can be relative to, a mapping for the names of hosts in them,
and a subscription that is not blank.
Settings that are not given come from the environment or have defaults.
-/

namespace JitAccess

/-- What a client works with. -/
structure Client where
  endpoint : Url
  mapping : Url.Domain.Mapping
  subscription : String
  credential : Credential
  apiVersion : String
  retry : RetryPolicy
  endpoint_isBase : endpoint.isBase = true
  subscription_not_blank : Text.isBlank subscription = false

/-- The values that an environment gives. -/
structure Environment where
  endpoint : Option String := none
  subscription : Option String := none
  token : Option String := none

/-- The settings of a client to be. -/
structure ClientSettings where
  endpoint : Option String := none
  mapping : Url.Domain.Mapping := .asciiOnly
  subscription : Option String := none
  credential : Option Credential := none
  apiVersion : Option String := none
  retry : Option RetryPolicy := none

/-- The endpoint of a client that is told none. -/
def defaultEndpoint : String := "https://management.azure.com"

/-- The API version of a client that is told none. -/
def defaultApiVersion : String := "2020-01-01"

namespace ClientSettings

/-- The text of the endpoint. -/
def endpointText (s : ClientSettings) (env : Environment) : String :=
  (s.endpoint.or env.endpoint).getD defaultEndpoint

/-- The client of the settings. The endpoint is looked at before the subscription. -/
def build (s : ClientSettings) (env : Environment) : Except Failure Client :=
  match Url.parse (s.endpointText env) s.mapping with
  | .error e => .error (.address (.unreadableEndpoint e))
  | .ok endpoint =>
    if hBase : endpoint.isBase = true then
      match s.subscription.or env.subscription with
      | none => .error .missingSubscription
      | some subscription =>
        if hBlank : Text.isBlank subscription = false then
          .ok
            { endpoint, subscription
              mapping := s.mapping
              credential := s.credential.getD (.ofEnvironment env.token)
              apiVersion := s.apiVersion.getD defaultApiVersion
              retry := s.retry.getD .standard
              endpoint_isBase := hBase
              subscription_not_blank := hBlank }
        else .error .missingSubscription
    else .error (.address .rootlessEndpoint)

end ClientSettings

end JitAccess
