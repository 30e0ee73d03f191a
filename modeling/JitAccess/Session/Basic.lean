import JitAccess.Session.Step

/-!
# Sessions

A session takes steps one after the other. It keeps the listings that are open by their names, and
tells of each step what came of it, which messages it sent and which events it reported.
-/

namespace JitAccess

open Http Trace

/-- A listing that is open, or the pages that it has been turned into. -/
inductive OpenListing
  | items (listing : Listing Json.Value)
  | pages (source : Source Json.Value)

/-- The open listings by their names. -/
abbrev OpenListings := List (String × OpenListing)

namespace OpenListings

/-- The listings without that of a name. -/
def erase (l : OpenListings) (name : String) : OpenListings := l.filter (·.1 != name)

/-- The listings with one of a name, in the place of any other of that name. -/
def put (l : OpenListings) (name : String) (listing : OpenListing) : OpenListings :=
  (name, listing) :: erase l name

end OpenListings

/-- What comes of a step, and what it did on the way. -/
structure StepReport where
  outcome : Except Failure Step.Result
  messages : List Message
  events : List Event

namespace Step

/-- What comes of a step, and the listings after it. -/
abbrev Outcome := Except Failure Result × OpenListings

/-- The result of asking for one more of something. -/
def more {α : Type} (f : α → Result) : Option (Except Failure α) → Except Failure Result
  | none => .ok .ended
  | some (.ok a) => .ok (f a)
  | some (.error e) => .error e

/-- Work that leaves the listings alone. -/
def apart {α : Type} (l : OpenListings) (f : α → Result) (run : Run α) : Act Outcome := do
  return ((← run.attempt).map f, l)

/-- Work on the listing of a name that has not been turned into its pages. -/
def onItems (l : OpenListings) (name : String) (work : Listing Json.Value → Act Outcome) :
    Act Outcome :=
  match l.lookup name with
  | some (.items listing) => work listing
  | _ => return (.ok .noListing, l)

/-- Take the next item or page of the listing of a name. -/
def advance (l : OpenListings) (name : String) : Act Outcome :=
  match l.lookup name with
  | some (.items listing) => do
    let (item, listing) ← listing.next
    return (more .item item, l.put name (.items listing))
  | some (.pages source) => do
    let (page, source) ← source.next
    return (more .page page, l.put name (.pages source))
  | none => return (.ok .noListing, l)

/-- Take a step. -/
def perform (c : Client) (l : OpenListings) : Step → Act Outcome
  | .openListing name origin options => do
    return (.ok .opened, l.put name (.items (← origin.listing c options)))
  | .next name => advance l name
  | .describe name => onItems l name fun listing => return (.ok (.described listing.debugText), l)
  | .collect name => onItems l name fun listing => do
    return ((← listing.collect.attempt).map .items, l.erase name)
  | .mapPages name f => onItems l name fun listing =>
    return (.ok .mapped, l.put name (.items (listing.mapPages f)))
  | .intoPages name => onItems l name fun listing =>
    return (.ok .paged, l.put name (.pages listing.intoPages))
  | .close name => return (.ok .closed, l.erase name)
  | .get policy options => apart l .policy (c.getPolicy policy options)
  | .write _ (.error e) _ => return (.error e, l)
  | .write policy (.ok content) options =>
    apart l .policy (c.writePolicy policy content options)
  | .delete policy options => apart l (fun _ => .deleted) (c.deletePolicy policy options)
  | .initiate _ (.error e) _ => return (.error e, l)
  | .initiate policy (.ok order) options =>
    apart l .access (c.initiateAccess policy order options)
  | .send request expected classification =>
    apart l (fun r : Status × List UInt8 => .reply r.1 r.2) do
      let reply ← c.send request expected classification
      return (reply.status, ← reply.readBody)

end Step

/-- Take steps one after the other. -/
def Client.session (c : Client) : OpenListings → List Step → Act (List StepReport)
  | _, [] => return []
  | l, step :: rest => do
    let ((outcome, l), messages, events) ← recorded (step.perform c l)
    return ⟨outcome, messages, events⟩ :: (← c.session l rest)

end JitAccess
