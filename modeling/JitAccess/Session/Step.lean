import JitAccess.Policy.Operations

/-!
# Steps

A step opens a listing under a name, works with the listing of a name, is an operation on one
policy, or sends a request of its own. Listings are of JSON values, so that policies and anything
else can be listed side by side.
-/

namespace JitAccess

open Http

/-- Where a listing comes from. -/
inductive ListingOrigin
  /-- The policies in a scope, inside a span for it. -/
  | policies (scope : ListScope)
  /-- The policies in a scope, inside the spans that are open. -/
  | policiesIn (scope : ListScope)
  /-- The values behind a route. -/
  | values (route : Route) (params : List (String × String))
  /-- Pages that are ready. -/
  | pages (ready : List (Except Failure (Page Json.Value)))

/-- The listing of an origin. -/
def ListingOrigin.listing (c : Client) (options : CallOptions) :
    ListingOrigin → Act (Listing Json.Value)
  | .policies scope => do return (← c.list scope options).mapPages (·.map Policy.toJson)
  | .policiesIn scope => do return (← c.listIn scope options).mapPages (·.map Policy.toJson)
  | .values route params =>
    Listing.ofRequest c (c.firstRequest route params options) options Json.Decoder.value
  | .pages ready => return .ofPages ready

/-- Something to do. What is to be written or ordered may turn out not to be valid. -/
inductive Step
  | openListing (name : String) (origin : ListingOrigin) (options : CallOptions)
  | next (name : String)
  | describe (name : String)
  | collect (name : String)
  | mapPages (name : String) (f : List Json.Value → List Json.Value)
  | intoPages (name : String)
  | close (name : String)
  | get (policy : PolicyName) (options : CallOptions)
  | write (policy : PolicyName) (content : Except Failure Policy) (options : CallOptions)
  | delete (policy : PolicyName) (options : CallOptions)
  | initiate (policy : PolicyName) (order : Except Failure AccessOrder) (options : CallOptions)
  | send (request : Request) (expected : List Status) (classification : Classification)

/-- What comes of a step that does not fail. -/
inductive Step.Result
  /-- There is no listing of the name, or it is not of the kind that the step is for. -/
  | noListing
  | opened
  | mapped
  | paged
  | closed
  | ended
  | item (v : Json.Value)
  | page (p : Page Json.Value)
  | items (l : List Json.Value)
  | described (text : String)
  | policy (p : Policy)
  | deleted
  | access (r : AccessRequest)
  | reply (status : Status) (body : List UInt8)

end JitAccess
