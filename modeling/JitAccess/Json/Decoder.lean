import JitAccess.Json.Value

/-!
# Decoding documents

A decoder takes from a document what a type needs. It may look into arrays and objects up to a
depth, and pays no attention to the members of an object that it does not know.

A record is written as an object, or as an array of its fields in order. An object gives each known
field at most once. A field that is missing is not the same in both: an optional field may be left
out of an object, but only a field with a default may be left off the end of an array.
-/

namespace JitAccess.Json

/-- How deep decoding goes: a document within the limit has at most this many arrays and objects
around any of its parts. -/
def depthLimit : Nat := 127

/-- What a document means at a depth that is left, if it means anything. -/
abbrev Decoder (α : Type) := Nat → Document → Option α

/-- What a record says about one of its fields. -/
inductive Slot
  | given (doc : Document)
  | absent
  | leftOff

namespace Decoder

/-- The value of a whole text. -/
def run {α : Type} (d : Decoder α) (bytes : List UInt8) : Option α :=
  (Document.read? bytes).bind (d depthLimit)

/-! ## Values -/

/-- A text. -/
def string : Decoder String
  | _, .string marks => markText? marks
  | _, _ => none

/-- An integer of 16 bits without sign. Neither `-0` nor `1.0` nor `1e0` is one. -/
def uint16 : Decoder UInt16
  | _, .number n =>
    match n.number? with
    | some (.int (.ofNat i)) => if i < 65536 then some (UInt16.ofNat i) else none
    | _ => none
  | _, _ => none

/-- A list. -/
def list {α : Type} (item : Decoder α) : Decoder (List α)
  | depth + 1, .array items => items.mapM (item depth)
  | _, _ => none

/-- A value, or `null` for none. -/
def nullable {α : Type} (d : Decoder α) : Decoder (Option α)
  | _, .null => some none
  | depth, doc => (d depth doc).map some

/-- One of several names. A name may also be the one member of an object, with the value `null`. -/
def name {α : Type} (names : List (String × α)) : Decoder α
  | _, .string marks => (markText? marks).bind (List.lookup · names)
  | _ + 1, .object [(marks, .null)] => (markText? marks).bind (List.lookup · names)
  | _, _ => none

/-! ## Records -/

/-- The names of an object's members, with their values. -/
def namedMembers? (members : List (List Mark × Document)) : Option (List (String × Document)) :=
  members.mapM fun m => (markText? m.1).map (·, m.2)

/-- What an array of fields says about a field. -/
def slotInArray (names : List String) (items : List Document) (field : String) : Slot :=
  match (names.zip items).lookup field with
  | some doc => .given doc
  | none => .leftOff

/-- What an object says about a field. -/
def slotInObject (members : List (String × Document)) (field : String) : Slot :=
  match members.lookup field with
  | some doc => .given doc
  | none => .absent

/-- What a record says about its fields. -/
def slots? (names : List String) : Document → Option (String → Slot)
  | .array items =>
    if items.length ≤ names.length then some (slotInArray names items) else none
  | .object members => do
    let members ← namedMembers? members
    if names.all fun n => members.countP (·.1 == n) ≤ 1 then some (slotInObject members) else none
  | _ => none

/-- A record with these fields, made from what it says about each. -/
def record {α : Type} (names : List String) (make : Nat → (String → Slot) → Option α) : Decoder α
  | depth + 1, doc => (slots? names doc).bind (make depth)
  | 0, _ => none

/-- A field that must be given. -/
def required {α : Type} (d : Decoder α) (depth : Nat) : Slot → Option α
  | .given doc => d depth doc
  | _ => none

/-- A field that may be left out of an object, or be `null`. -/
def optional {α : Type} (d : Decoder α) (depth : Nat) : Slot → Option (Option α)
  | .given doc => nullable d depth doc
  | .absent => some none
  | .leftOff => none

/-- A field that may be left out everywhere, with the value that it then has. -/
def defaulting {α : Type} (value : α) (d : Decoder α) (depth : Nat) : Slot → Option α
  | .given doc => d depth doc
  | _ => some value

/-! ## Any value -/

/-- An object with one more member. The last of several members with one name counts. -/
def setMember (members : List (String × Value)) (name : String) (v : Value) :
    List (String × Value) :=
  members.filter (·.1 != name) ++ [(name, v)]

/-- A value of any kind. -/
def value : Decoder Value
  | _, .null => some .null
  | _, .bool b => some (.bool b)
  | _, .number n => n.number?.map .number
  | _, .string marks => (markText? marks).map .string
  | depth + 1, .array items => (items.mapM (value depth)).map .array
  | depth + 1, .object members => do
    let members ← namedMembers? members
    let values ← members.mapM fun m => (value depth m.2).map (m.1, ·)
    some (.object (values.foldl (fun ms m => setMember ms m.1 m.2) []))
  | 0, _ => none

end Decoder

end JitAccess.Json
