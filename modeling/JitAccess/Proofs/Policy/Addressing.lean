import JitAccess.Policy.Operations
import JitAccess.Proofs.Client.Filling
import JitAccess.Proofs.Url.Segment

/-!
# The addresses of policies

A route is filled with the arguments of an operation, and its segments are put after the path of the
endpoint. The main statement, `Client.address_locates_iff`, is that the path leads to exactly these
arguments if and only if none of them has a tab or a line break. Only the texts `.` and `..` are
refused as arguments; one that turns into such a text on its way into the path is not.

* `Route.WellFormed`: what the routes of all operations have in common.
* `PolicyOperation`: the operations, each with its route and the values for it.
-/

namespace JitAccess

open Url

/-! ## Routes of operations -/

namespace Route

variable {r : Route} {params : List (String × String)} {segments : List String}

/-- Whether a route begins with the segment of subscriptions, whether each of its other literal parts
is a segment as it stands, and whether some names are names of its placeholders. -/
structure WellFormed (r : Route) (names : List String) : Prop where
  head : r.parts.head? = some "subscriptions".toList
  literal : ∀ part ∈ r.parts, placeholder? part = none →
    (part ≠ [] ∧ part ≠ ['.'] ∧ part ≠ ['.', '.']) ∧ part.any isBreak = false
  placeholder : ∀ name ∈ names, ∃ part ∈ r.parts, placeholder? part = some name

namespace WellFormed

variable {names : List String}

theorem allowed (hr : r.WellFormed names) (h : r.expand params = .ok segments) :
    ∀ s ∈ segments, s ≠ "" ∧ s ≠ "." ∧ s ≠ ".." := by
  obtain ⟨rfl, hfilled⟩ := mapM_fillPart_ok h
  intro s hs
  obtain ⟨part, hpart, rfl⟩ := List.mem_map.1 hs
  have hfill := hfilled part hpart
  unfold fillPart at hfill
  cases hplace : placeholder? part with
  | none =>
    have hs : filled params part = String.ofList part := by rw [filled, hplace]
    simpa [hs, ← String.toList_inj] using (hr.literal part hpart hplace).1
  | some name =>
    rw [hplace] at hfill
    exact (fill_ok hfill).2

theorem head_expand (hr : r.WellFormed names) (h : r.expand params = .ok segments) :
    segments.head? = some "subscriptions" := by
  obtain ⟨rfl, -⟩ := mapM_fillPart_ok h
  have hplace : placeholder? "subscriptions".toList = none := by decide +kernel
  rw [List.head?_map, hr.head, Option.map_some, filled, hplace, String.ofList_toList]

theorem no_break_iff (hr : r.WellFormed (params.map (·.1)))
    (hlookup : ∀ p ∈ params, params.lookup p.1 = some p.2) (h : r.expand params = .ok segments) :
    (∀ s ∈ segments, hasBreak s = false) ↔ ∀ p ∈ params, hasBreak p.2 = false := by
  obtain ⟨rfl, hfilled⟩ := mapM_fillPart_ok h
  constructor
  · intro hsegments p hp
    obtain ⟨part, hpart, hplace⟩ := hr.placeholder p.1 (List.mem_map_of_mem hp)
    have hs : filled params part = p.2 := by simp [filled, hplace, hlookup p hp]
    exact hs ▸ hsegments _ (List.mem_map_of_mem hpart)
  · intro hparams s hs
    obtain ⟨part, hpart, rfl⟩ := List.mem_map.1 hs
    cases hplace : placeholder? part with
    | none =>
      have hs : filled params part = String.ofList part := by rw [filled, hplace]
      rw [hs, hasBreak, String.toList_ofList]
      exact (hr.literal part hpart hplace).2
    | some name =>
      have hfill := hfilled part hpart
      rw [fillPart, hplace] at hfill
      generalize filled params part = value at hfill ⊢
      obtain ⟨_, _, hmem, _⟩ := List.lookup_eq_some_iff.1 (fill_ok hfill).1
      exact hparams (name, value) (hmem ▸ List.mem_append_right _ List.mem_cons_self)

/-- The segments determine the values. -/
theorem lookup_eq (hr : r.WellFormed names) {params' : List (String × String)}
    (h : r.expand params = .ok segments) (h' : r.expand params' = .ok segments) :
    ∀ name ∈ names, params.lookup name = params'.lookup name := by
  obtain ⟨hsegments, hfilled⟩ := mapM_fillPart_ok h
  obtain ⟨hsegments', hfilled'⟩ := mapM_fillPart_ok h'
  intro name hname
  obtain ⟨part, hpart, hplace⟩ := hr.placeholder name hname
  have hsame : filled params part = filled params' part :=
    List.map_inj_left.1 (hsegments.symm.trans hsegments') part hpart
  have hfill := hfilled part hpart
  have hfill' := hfilled' part hpart
  rw [fillPart, hplace] at hfill hfill'
  rw [(fill_ok hfill).1, (fill_ok hfill').1, hsame]

end WellFormed

end Route

/-! ## Operations -/

/-- What is done with policies. -/
inductive PolicyOperation
  | list | listInRegion | listInGroup | listInGroupAndRegion | get | write | delete | initiate
deriving DecidableEq, Repr

/-- The arguments of operations that become part of an address. -/
structure AddressArguments where
  subscription : String
  group : String
  location : String
  name : String
deriving DecidableEq, Repr

namespace PolicyOperation

/-- The route of an operation. -/
def route : PolicyOperation → Route
  | .list => .subscriptionPolicies
  | .listInRegion => .regionPolicies
  | .listInGroup => .groupPolicies
  | .listInGroupAndRegion => .groupRegionPolicies
  | .get | .write | .delete => .policy
  | .initiate => .policyAction

/-- The values for the placeholders of the route. -/
def params (a : AddressArguments) : PolicyOperation → List (String × String)
  | .list => ListScope.subscription.params a.subscription
  | .listInRegion => (ListScope.region a.location).params a.subscription
  | .listInGroup => (ListScope.group a.group).params a.subscription
  | .listInGroupAndRegion => (ListScope.groupAndRegion a.group a.location).params a.subscription
  | .get | .write | .delete => PolicyName.params ⟨a.group, a.location, a.name⟩ a.subscription
  | .initiate => PolicyName.params ⟨a.group, a.location, a.name⟩ a.subscription ++
      [("jitNetworkAccessPolicyInitiateType", "initiate")]

/-- The names of the placeholders. -/
def names (o : PolicyOperation) : List String := (o.params ⟨"", "", "", ""⟩).map (·.1)

theorem map_fst_params (o : PolicyOperation) (a : AddressArguments) :
    (o.params a).map (·.1) = o.names := by
  cases o <;> rfl

theorem wellFormed (o : PolicyOperation) : o.route.WellFormed o.names := by
  cases o <;>
  · constructor <;>
    · rw [Route.parts]
      simp only [route]
      -- The texts are taken apart first, since the kernel is slow at reading long ones.
      delta Route.subscriptionPolicies Route.regionPolicies Route.groupPolicies
        Route.groupRegionPolicies Route.policy Route.policyAction
      dsimp only
      repeat rw [String.toList_append]
      repeat rw [String.toList_ofList]
      decide +kernel

theorem lookup_params (o : PolicyOperation) (a : AddressArguments) :
    ∀ p ∈ o.params a, (o.params a).lookup p.1 = some p.2 := by
  cases o <;> simp [params, ListScope.params, PolicyName.params, List.lookup_cons]

theorem params_injective (o : PolicyOperation) {a b : AddressArguments}
    (h : ∀ name ∈ o.names, (o.params a).lookup name = (o.params b).lookup name) :
    o.params a = o.params b := by
  cases o <;>
    simpa [names, params, ListScope.params, PolicyName.params, List.lookup_cons] using h

end PolicyOperation

/-! ## Addresses -/

namespace Client

theorem isDrive_subscriptions (scheme : String) :
    isDrive (segmentText scheme "subscriptions") = false := by
  unfold segmentText segmentSet
  split <;> decide +kernel

section

variable {c : Client} {o : PolicyOperation} {a a' : AddressArguments} {options : CallOptions}
  {segments : List String} {u : Url}

theorem address_ok {r : Route} {params : List (String × String)}
    (h : c.address r params options = .ok u) :
    ∃ segments, r.expand params = .ok segments ∧
      u.pathSegments = (c.endpoint.extendPath segments).pathSegments := by
  unfold address at h
  split at h
  · cases h
  next segments hsegments =>
    cases h
    exact ⟨segments, hsegments, rfl⟩

theorem locates_iff (hendpoint : ∀ s ∈ c.endpoint.pathSegments.dropLast, s ≠ "")
    (hsegments : o.route.expand (o.params a) = .ok segments)
    (hu : u.pathSegments = (c.endpoint.extendPath segments).pathSegments) :
    u.Locates c.endpoint segments ↔ ∀ p ∈ o.params a, hasBreak p.2 = false := by
  have hwf := o.wellFormed
  have hhead := hwf.head_expand hsegments
  have hne : segments ≠ [] := by rintro rfl; cases hhead
  have hlocates := locates_extendPath_iff c.endpoint_isBase hendpoint hne
    (hwf.allowed hsegments) (by simp [hhead, isDrive_subscriptions])
  rw [← o.map_fst_params a] at hwf
  rw [← hwf.no_break_iff (o.lookup_params a) hsegments, ← hlocates, Locates, Locates, hu]

end

/-- **Addresses lead to their arguments.** An address that is given is the path of the endpoint, a
trailing slash apart, and after it one segment for each of the route's texts, which decodes to the
text, if and only if no argument has a tab or a line break. Two such addresses of one operation are
the same only for the same arguments. -/
theorem address_locates_iff (c : Client) (o : PolicyOperation) (a : AddressArguments)
    (options : CallOptions) {segments : List String}
    (hendpoint : ∀ s ∈ c.endpoint.pathSegments.dropLast, s ≠ "")
    (hsegments : o.route.expand (o.params a) = .ok segments) :
    ∃ u, c.address o.route (o.params a) options = .ok u ∧
      (u.Locates c.endpoint segments ↔ ∀ p ∈ o.params a, hasBreak p.2 = false) ∧
      ∀ a' options' u', c.address o.route (o.params a') options' = .ok u' →
        (∀ p ∈ o.params a, hasBreak p.2 = false) → (∀ p ∈ o.params a', hasBreak p.2 = false) →
        u'.pathSegments = u.pathSegments → o.params a' = o.params a := by
  have haddress : c.address o.route (o.params a) options =
      .ok ((c.endpoint.extendPath segments).withQuery (c.firstQuery options)) := by
    rw [address, hsegments]
  refine ⟨_, haddress, locates_iff hendpoint hsegments rfl, ?_⟩
  intro a' options' u' hu' ha ha' hpath
  obtain ⟨segments', hsegments', hu'⟩ := address_ok hu'
  have hlocates := (locates_iff hendpoint hsegments rfl).2 ha
  have hlocates' := (locates_iff hendpoint hsegments' hu').2 ha'
  obtain rfl := hlocates'.unique hlocates hpath
  exact o.params_injective (o.wellFormed.lookup_eq hsegments' hsegments)

/-- A client of the public cloud. -/
def publicCloud : Client where
  endpoint :=
    { scheme := "https", guarded := false, path := .segments [""], query := none, fragment := none
      authority :=
        some { username := "", password := "", host := some (.name "management.azure.com")
               port := none } }
  mapping := .asciiOnly
  subscription := "sub-123"
  credential := .accessToken "test-token"
  apiVersion := defaultApiVersion
  retry := .standard
  endpoint_isBase := rfl
  subscription_not_blank := by decide

/-- What the address of a policy of some name is made of. -/
def policySegments (name : String) : List String :=
  ["subscriptions", "sub-123", "resourceGroups", "rg1", "providers", "Microsoft.Security",
    "locations", "westeurope", "jitNetworkAccessPolicies", name]

theorem parts_policy :
    Route.policy.parts =
      ["subscriptions", "{subscriptionId}", "resourceGroups", "{resourceGroupName}", "providers",
        "Microsoft.Security", "locations", "{ascLocation}", "jitNetworkAccessPolicies",
        "{jitNetworkAccessPolicyName}"].map String.toList := by
  rw [Route.parts]
  delta Route.policy
  dsimp only
  repeat rw [String.toList_append]
  repeat rw [String.toList_ofList]
  decide +kernel

theorem address_locates_with_slash :
    ∃ u, publicCloud.address .policy
        (PolicyOperation.delete.params ⟨"sub-123", "rg1", "westeurope", "a/b"⟩) {} = .ok u ∧
      u.Locates publicCloud.endpoint (policySegments "a/b") := by
  have hsegments : Route.policy.expand
      (PolicyOperation.delete.params ⟨"sub-123", "rg1", "westeurope", "a/b"⟩) =
      .ok (policySegments "a/b") := by
    rw [Route.expand, parts_policy]
    rfl
  obtain ⟨u, hu, hlocates, -⟩ := address_locates_iff publicCloud .delete
    ⟨"sub-123", "rg1", "westeurope", "a/b"⟩ {} (by decide) hsegments
  exact ⟨u, hu, hlocates.2 (by decide)⟩

/-- A name that a tab keeps from being `..` is deleted elsewhere. -/
theorem not_forall_address_locates :
    ¬ ∀ (c : Client) (o : PolicyOperation) (a : AddressArguments) (options : CallOptions)
        (segments : List String) (u : Url),
      (∀ s ∈ c.endpoint.pathSegments.dropLast, s ≠ "") →
      o.route.expand (o.params a) = .ok segments →
      c.address o.route (o.params a) options = .ok u → u.Locates c.endpoint segments := by
  intro h
  have hsegments : Route.policy.expand
      (PolicyOperation.delete.params ⟨"sub-123", "rg1", "westeurope", "..\t"⟩) =
      .ok (policySegments "..\t") := by
    rw [Route.expand, parts_policy]
    rfl
  obtain ⟨added, hadded, hbytes⟩ := h publicCloud .delete ⟨"sub-123", "rg1", "westeurope", "..\t"⟩
    {} _ _ (by decide) hsegments (by rw [PolicyOperation.route, address, hsegments])
  have hpath : (publicCloud.endpoint.extendPath (policySegments "..\t")).pathSegments =
      ["subscriptions", "sub-123", "resourceGroups", "rg1", "providers", "Microsoft.Security",
        "locations", "westeurope", ""] := by
    decide +kernel
  have hlength : added.length = 10 := by simpa [policySegments] using congrArg List.length hbytes
  have hadded' := congrArg List.length (hpath.symm.trans hadded)
  simp [hlength] at hadded'

end Client

end JitAccess
