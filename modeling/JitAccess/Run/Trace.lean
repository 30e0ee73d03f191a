/-!
# Trace

Events tell what happens, each inside the spans that are open at the time.
-/

namespace JitAccess.Trace

/-- How important an event is. -/
inductive Level
  | debug
  | warn
deriving DecidableEq, Repr

/-- The value of a field. -/
inductive FieldValue
  | number (n : Nat)
  | flag (b : Bool)
  | text (s : String)
deriving DecidableEq, Repr

/-- The fields of an event or a span. -/
abbrev Fields := List (String × FieldValue)

/-- A stretch of work, named and described by fields. -/
structure Span where
  name : String
  fields : Fields
deriving DecidableEq, Repr

/-- Something that happened, with the spans around it from the outermost in. -/
structure Event where
  level : Level
  message : String
  fields : Fields
  spans : List Span
deriving DecidableEq, Repr

end JitAccess.Trace
