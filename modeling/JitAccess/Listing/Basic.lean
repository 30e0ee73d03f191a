import JitAccess.Listing.Source

/-!
# Listings

A listing gives the items of the pages of a source, one at a time and no page before its items are
wanted. It can also be drained, turned into its pages, or given other items page by page; the last
two drop the items that have been fetched and not yet given.
-/

namespace JitAccess

open Http Trace

/-- The items of a source that are still to be given; those in `buffered` have been fetched. -/
structure Listing (α : Type) where
  source : Source α
  buffered : List α

namespace Listing

variable {α β : Type}

/-- The listing of pages that are ready. -/
def ofPages (pages : List (Except Failure (Page α))) : Listing α := ⟨.ready pages, []⟩

/-- The listing that begins with a request, whose failure counts when the first item is wanted.
Fetches take place inside the spans that are open now. -/
def ofRequest (client : Client) (first : Except Failure Request) (options : CallOptions)
    (item : Json.Decoder α) : Act (Listing α) := fun w =>
  let read (body : List UInt8) : Option (Fetched α) :=
    (Json.Decoder.run (Page.decoder item) body).map fun p => ⟨p.items.length, p⟩
  (⟨.feed
      { client, classification := options.classification, read, spans := w.spans
        fetches := 0, cursor := .first first }, []⟩, w)

/-- The next item and the listing after it, with `pages` pages to fetch at most. -/
def nextWithin : Nat → Listing α → Act (Option (Except Failure α) × Listing α)
  | _, ⟨source, item :: rest⟩ => return (some (.ok item), ⟨source, rest⟩)
  | 0, l => return (none, l)
  | pages + 1, ⟨source, []⟩ => do
    let (page, source) ← source.next
    match page with
    | none => return (none, ⟨source, []⟩)
    | some (.error e) => return (some (.error e), ⟨source, []⟩)
    | some (.ok p) => nextWithin pages ⟨source, p.items⟩

/-- The next item, if there is one, and the listing after it. -/
def next (l : Listing α) : Act (Option (Except Failure α) × Listing α) := fun w =>
  nextWithin (l.source.supply w + 1) l w

/-- The items of the pages still to come, `pages` at most. -/
def collectWithin : Nat → Source α → Run (List α)
  | 0, _ => return []
  | pages + 1, source => do
    let (page, source) ← source.next
    match page with
    | none => return []
    | some (.error e) => throw e
    | some (.ok p) => return p.items ++ (← collectWithin pages source)

/-- All items that are left, or the first failure. -/
def collect (l : Listing α) : Run (List α) := .ofAct fun w =>
  let rest := collectWithin (l.source.supply w + 1) l.source
  (do return l.buffered ++ (← rest) : Run (List α)).attempt w

/-- The pages that are still to come. -/
def intoPages (l : Listing α) : Source α := l.source

/-- The listing with other items on every page that is still to come. -/
def mapPages (g : List α → List β) (l : Listing α) : Listing β := ⟨l.source.map g, []⟩

/-- The text that stands for a listing. -/
def debugText (l : Listing α) : String :=
  "Pager \x7b buffered: " ++ toString l.buffered.length ++ ", .. \x7d"

end Listing

end JitAccess
