import JitAccess.Listing.Basic
import JitAccess.Policy.Wire

/-!
# Operations on policies

Four ways to list policies, and how to get, write and delete one and to open its ports. Each works
inside a span of its own.
-/

namespace JitAccess

open Http Trace

/-! ## Routes -/

namespace Route

/-- All policies of a subscription. -/
def subscriptionPolicies : Route :=
  ⟨"/subscriptions/{subscriptionId}/providers/Microsoft.Security/jitNetworkAccessPolicies"⟩

/-- The policies of a location. -/
def regionPolicies : Route :=
  ⟨"/subscriptions/{subscriptionId}/providers/Microsoft.Security/locations/{ascLocation}" ++
    "/jitNetworkAccessPolicies"⟩

/-- The policies of a resource group. -/
def groupPolicies : Route :=
  ⟨"/subscriptions/{subscriptionId}/resourceGroups/{resourceGroupName}" ++
    "/providers/Microsoft.Security/jitNetworkAccessPolicies"⟩

/-- The policies of a resource group in a location. -/
def groupRegionPolicies : Route :=
  ⟨"/subscriptions/{subscriptionId}/resourceGroups/{resourceGroupName}" ++
    "/providers/Microsoft.Security/locations/{ascLocation}/jitNetworkAccessPolicies"⟩

/-- One policy. -/
def policy : Route :=
  ⟨"/subscriptions/{subscriptionId}/resourceGroups/{resourceGroupName}" ++
    "/providers/Microsoft.Security/locations/{ascLocation}/jitNetworkAccessPolicies" ++
    "/{jitNetworkAccessPolicyName}"⟩

/-- What can be done with one policy. -/
def policyAction : Route :=
  ⟨"/subscriptions/{subscriptionId}/resourceGroups/{resourceGroupName}" ++
    "/providers/Microsoft.Security/locations/{ascLocation}/jitNetworkAccessPolicies" ++
    "/{jitNetworkAccessPolicyName}/{jitNetworkAccessPolicyInitiateType}"⟩

end Route

/-! ## Listings -/

/-- Which policies to list. -/
inductive ListScope
  | subscription
  | region (location : String)
  | group (name : String)
  | groupAndRegion (name location : String)
deriving DecidableEq, Repr

namespace ListScope

/-- The route to the policies. -/
def route : ListScope → Route
  | .subscription => .subscriptionPolicies
  | .region _ => .regionPolicies
  | .group _ => .groupPolicies
  | .groupAndRegion _ _ => .groupRegionPolicies

/-- The values for the route's placeholders. -/
def params (subscription : String) : ListScope → List (String × String)
  | .subscription => [("subscriptionId", subscription)]
  | .region location => [("subscriptionId", subscription), ("ascLocation", location)]
  | .group name => [("subscriptionId", subscription), ("resourceGroupName", name)]
  | .groupAndRegion name location =>
    [("subscriptionId", subscription), ("resourceGroupName", name), ("ascLocation", location)]

/-- The span of listing the policies. -/
def span : ListScope → Span
  | .subscription => ⟨"security::jit::list", []⟩
  | .region location => ⟨"security::jit::list_by_region", [("asc_location", .text location)]⟩
  | .group name => ⟨"security::jit::list_by_resource_group", [("resource_group", .text name)]⟩
  | .groupAndRegion name location =>
    ⟨"security::jit::list_by_resource_group_and_region",
      [("resource_group", .text name), ("asc_location", .text location)]⟩

end ListScope

namespace Client

/-- The first request of a listing. -/
def firstRequest (c : Client) (route : Route) (params : List (String × String))
    (options : CallOptions) : Except Failure Request :=
  (c.address route params options).map fun url => { Request.get url with fields := options.fields }

/-- List the policies in a scope, inside the spans that are open. -/
def listIn (c : Client) (scope : ListScope) (options : CallOptions) : Act (Listing Policy) := do
  report .debug "listing policies" [("template", .text scope.route.template)]
  let first := c.firstRequest scope.route (scope.params c.subscription) options
  Listing.ofRequest c first options Policy.decoder

/-- List the policies in a scope, inside a span for it. -/
def list (c : Client) (scope : ListScope) (options : CallOptions) : Act (Listing Policy) :=
  inSpan scope.span (c.listIn scope options)

end Client

/-! ## Single policies -/

/-- The name of a policy and where it is kept. -/
structure PolicyName where
  group : String
  location : String
  name : String
deriving DecidableEq, Repr

namespace PolicyName

/-- The values for the placeholders of the policy's route. -/
def params (n : PolicyName) (subscription : String) : List (String × String) :=
  [("subscriptionId", subscription), ("resourceGroupName", n.group), ("ascLocation", n.location),
    ("jitNetworkAccessPolicyName", n.name)]

/-- The span of an operation on the policy. -/
def span (n : PolicyName) (operation : String) : Span :=
  ⟨"security::jit::" ++ operation,
    [("resource_group", .text n.group), ("asc_location", .text n.location),
      ("policy", .text n.name)]⟩

end PolicyName

namespace Client

/-- Send a request for a route, of which only these statuses are a success. -/
def call (c : Client) (method : String) (route : Route) (params : List (String × String))
    (body : Option Json.Value) (options : CallOptions) (expected : List Status) : Run Reply := do
  let url ← .ofAct (pure (c.address route params options))
  c.send ⟨method, url, options.fields, body⟩ expected options.classification

/-- The policy of a name. -/
def getPolicy (c : Client) (n : PolicyName) (options : CallOptions) : Run Policy :=
  .inSpan (n.span "get") do
    report .debug "getting policy" []
    let reply ← c.call "GET" .policy (n.params c.subscription) none options [200]
    reply.decodeBody Policy.decoder

/-- Write a policy in the place of any other of its name. The result is the policy as written. -/
def writePolicy (c : Client) (n : PolicyName) (policy : Policy) (options : CallOptions) :
    Run Policy :=
  .inSpan (n.span "create_or_update") do
    report .debug "writing policy"
      [("virtual_machines", .number policy.properties.machines.length)]
    let reply ←
      c.call "PUT" .policy (n.params c.subscription) (some policy.toJson) options [200]
    let written ← reply.decodeBody Policy.decoder
    report .debug "policy written"
      [("provisioning_state", .text (written.properties.provisioningState.getD "unknown"))]
    return written

/-- Delete the policy of a name. It is a success, too, if there was none. -/
def deletePolicy (c : Client) (n : PolicyName) (options : CallOptions) : Run Unit :=
  .inSpan (n.span "delete") do
    report .debug "deleting policy" []
    let reply ← c.call "DELETE" .policy (n.params c.subscription) none options [200, 204]
    report .debug "policy deleted" [("status", .number reply.status.toNat)]

/-- Open ports of a policy's machines. The result is the request as recorded. -/
def initiateAccess (c : Client) (n : PolicyName) (order : AccessOrder) (options : CallOptions) :
    Run AccessRequest :=
  .inSpan (n.span "initiate") do
    report .debug "initiating access" [("virtual_machines", .number order.machines.length)]
    let params := n.params c.subscription ++ [("jitNetworkAccessPolicyInitiateType", "initiate")]
    let reply ← c.call "POST" .policyAction params (some order.toJson) options [202]
    let access ← reply.decodeBody AccessRequest.decoder
    report .debug "access initiated" [("requestor", .text access.requestor)]
    return access

end Client

end JitAccess
