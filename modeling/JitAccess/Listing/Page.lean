import JitAccess.Json.Decoder

/-!
# Pages

A service lists resources page by page. A page has items and perhaps a link to the next page; an
empty link is none.
-/

namespace JitAccess

/-- A page of items. -/
structure Page (α : Type) where
  items : List α
  continuation : Option String
deriving Repr

namespace Page

variable {α β : Type}

/-- The link to the next page. -/
def nextLink (p : Page α) : Option String := p.continuation.filter (!·.isEmpty)

/-- The page with other items. -/
def withItems (f : List α → List β) (p : Page α) : Page β := ⟨f p.items, p.continuation⟩

/-- A page of items that a decoder takes from their documents. Either field may be left out. -/
def decoder (item : Json.Decoder α) : Json.Decoder (Page α) :=
  Json.Decoder.record ["value", "nextLink"] fun depth slot => do
    let items ← Json.Decoder.defaulting [] (Json.Decoder.list item) depth (slot "value")
    let continuation ←
      Json.Decoder.defaulting none (Json.Decoder.nullable Json.Decoder.string) depth
        (slot "nextLink")
    some ⟨items, continuation⟩

end Page

end JitAccess
