import JitAccess.Json.Decoder

/-!
# Error reports

The body of a failed reply may be an error report: an object with the member `error`, a tree of
details, each with a code, a message and a target.
-/

namespace JitAccess

/-- A detail of an error, and the details that explain it. -/
structure ErrorDetail where
  code : Option String
  message : Option String
  target : Option String
  details : List ErrorDetail
deriving Repr

namespace ErrorDetail

/-- The names of the members, in order. -/
def fields : List String := ["code", "message", "target", "details"]

mutual

/-- A detail, together with those inside it. -/
def decoder : Json.Decoder ErrorDetail
  | depth + 1, doc =>
    (Json.Decoder.slots? fields doc).bind fun slot => do
      let code ← Json.Decoder.optional Json.Decoder.string depth (slot "code")
      let message ← Json.Decoder.optional Json.Decoder.string depth (slot "message")
      let target ← Json.Decoder.optional Json.Decoder.string depth (slot "target")
      let details ← Json.Decoder.defaulting [] (fun _ => listDecoder depth) depth (slot "details")
      some { code, message, target, details }
  | 0, _ => none

/-- The details inside a detail. -/
def listDecoder : Json.Decoder (List ErrorDetail)
  | depth + 1, .array items => items.mapM (decoder depth)
  | _, _ => none

end

mutual

/-- The details of a tree, each before those inside it, with how deep it stands. -/
def preorder (depth : Nat) : ErrorDetail → List (Nat × ErrorDetail)
  | ⟨code, message, target, details⟩ =>
    (depth, ⟨code, message, target, details⟩) :: preorderAll (depth + 1) details

/-- The details of several trees, one after the other. -/
def preorderAll (depth : Nat) : List ErrorDetail → List (Nat × ErrorDetail)
  | [] => []
  | d :: ds => preorder depth d ++ preorderAll depth ds

end

end ErrorDetail

/-- An error report. -/
structure ErrorReport where
  error : ErrorDetail
deriving Repr

/-- An error report, from an object with one known member. -/
def ErrorReport.decoder : Json.Decoder ErrorReport :=
  Json.Decoder.record ["error"] fun depth slot =>
    (Json.Decoder.required ErrorDetail.decoder depth (slot "error")).map ErrorReport.mk

end JitAccess
