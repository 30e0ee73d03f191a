import JitAccess.Client.Address
import JitAccess.Client.Sending
import JitAccess.Listing.Page

/-!
# Sources of pages

Pages come from a service, one request for each, or are ready. A source that asks a service follows
the links from page to page. It ends with the first page without one, or with its first failure, and
sends nothing after that; what it fetches, it fetches inside the spans in which it was made.
-/

namespace JitAccess

open Http Trace

/-- How the next page is to be had. -/
inductive Cursor
  | first (request : Except Failure Request)
  | link (text : String)
  | done

/-- A page as it came, with the number of items that it came with. -/
structure Fetched (α : Type) where
  count : Nat
  page : Page α

/-- Pages to be fetched from a service. -/
structure Feed (α : Type) where
  client : Client
  classification : Classification
  read : List UInt8 → Option (Fetched α)
  spans : List Span
  fetches : UInt32
  cursor : Cursor

/-- Where pages come from. -/
inductive Source (α : Type)
  | feed (feed : Feed α)
  | ready (pages : List (Except Failure (Page α)))

namespace Feed

variable {α β : Type}

/-- The request for the next page, unless there is none. -/
def request? (f : Feed α) : Option (Except Failure Request) :=
  match f.cursor with
  | .first request => some request
  | .link text => some ((f.client.continuation text).map Request.get)
  | .done => none

/-- The page that a request gives. -/
def fetch (f : Feed α) (r : Request) : Run (Fetched α) := do
  let reply ← f.client.send r [200] f.classification
  let body ← reply.readBody
  match f.read body with
  | none => throw .serialization
  | some fetched =>
    report .debug "page fetched"
      [("items", .number fetched.count), ("has_next", .flag fetched.page.nextLink.isSome)]
    return fetched

/-- The span of a fetch. -/
def fetchSpan (f : Feed α) (r : Request) : Span :=
  ⟨"security::pager::fetch_page",
    [("page", .number (f.fetches + 1).toNat), ("path", .text r.url.path.text)]⟩

/-- Work inside the spans in which the feed was made. -/
def inSpans {γ : Type} (f : Feed α) (act : Act γ) : Act γ :=
  if f.spans.isEmpty then act else within f.spans act

/-- The feed after a fetched page. -/
def advance (f : Feed α) (p : Page α) : Feed α :=
  { f with
    fetches := f.fetches + 1
    cursor := match p.nextLink with
      | some text => .link text
      | none => .done }

/-- The feed that gives nothing more. -/
def finished (f : Feed α) : Feed α := { f with cursor := .done }

/-- The next page, if there is one, and the feed after it. -/
def next (f : Feed α) : Act (Option (Except Failure (Page α)) × Feed α) :=
  match f.request? with
  | none => return (none, f)
  | some (.error e) => return (some (.error e), f.finished)
  | some (.ok r) => do
    match ← f.inSpans (inSpan (f.fetchSpan r) (f.fetch r).attempt) with
    | .error e => return (some (.error e), f.finished)
    | .ok fetched => return (some (.ok fetched.page), f.advance fetched.page)

/-- The feed with other items on every page. -/
def map (g : List α → List β) (f : Feed α) : Feed β :=
  { client := f.client, classification := f.classification, spans := f.spans
    fetches := f.fetches, cursor := f.cursor
    read := fun body => (f.read body).map fun x => ⟨x.count, x.page.withItems g⟩ }

end Feed

namespace Source

variable {α β : Type}

/-- The next page, if there is one, and the source after it. Pages that are ready include failures,
and do not end with them. -/
def next : Source α → Act (Option (Except Failure (Page α)) × Source α)
  | .feed f => do
    let (page, f) ← f.next
    return (page, .feed f)
  | .ready [] => return (none, .ready [])
  | .ready (page :: rest) => return (some page, .ready rest)

/-- The source with other items on every page. -/
def map (g : List α → List β) : Source α → Source β
  | .feed f => .feed (f.map g)
  | .ready pages => .ready (pages.map (·.map (·.withItems g)))

/-- A bound on the pages that are still to come: a page that is fetched takes an answer of the
service. -/
def supply (s : Source α) (w : World) : Nat :=
  match s, w.service with
  | .ready pages, _ => pages.length
  | .feed _, .unreachable => 0
  | .feed _, .scripted answers => answers.length

end Source

end JitAccess
