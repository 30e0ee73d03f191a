import JitAccess.Policy.Wire
import JitAccess.Proofs.Json.Writing

/-!
# Shapes of documents

A shape says what a document may look like: which names the members of an object have, which of them
may be missing, and what stands next to them. A document is read in a shape as a value in which
nothing else is left, and a type is read and written in a shape if its decoder and its wire form
agree with this reading.

* `Shape.read`: what a document says in a shape.
* `Shape.Fits`: the values of a shape.
* `Shape.read_of_means`: a value of a shape is read from every document that means it.
-/

namespace JitAccess.Json

open Value

/-! ## Shapes -/

/-- Whether a member has to be there. -/
inductive Presence
  | required
  | optional
deriving DecidableEq

/-- What a document may look like. A record has members with these names. -/
inductive Shape
  | text
  | number
  | word (names : List String)
  | list (item : Shape)
  | record (fields : List (String × Presence × Shape))

/-- The fields of a record: their names, whether they have to be there, and their shapes. -/
abbrev Fields := List (String × Presence × Shape)

namespace Shape

/-- What is proved of lists and records from their parts holds of all shapes. -/
@[induction_eliminator]
theorem induction {p : Shape → Prop} (text : p .text) (number : p .number)
    (word : ∀ names, p (.word names)) (list : ∀ item, p item → p (.list item))
    (record : ∀ fields : Fields, (∀ f ∈ fields, p f.2.2) → p (.record fields)) (s : Shape) : p s :=
  Shape.rec (motive_1 := p) (motive_2 := fun fields => ∀ f ∈ fields, p f.2.2)
    (motive_3 := fun f => p f.2.2) (motive_4 := fun f => p f.2)
    text number word list record (List.forall_mem_nil _)
    (fun _ _ hf hfields => List.forall_mem_cons.2 ⟨hf, hfields⟩) (fun _ _ h => h) (fun _ _ h => h) s

end Shape

/-- Whether a member stands for one that is missing. -/
def Presence.skips : Presence → Document → Bool
  | .optional, .null => true
  | _, _ => false

/-- What is read of a member: nothing, if it is optional and missing or null. -/
def Presence.read (presence : Presence) (name : String) (d : Decoder Value) (depth : Nat)
    (slot : Slot) : Option (List (String × Value)) :=
  match presence with
  | .required => (Decoder.required d depth slot).map (member name)
  | .optional => (Decoder.optional d depth slot).map (optionalMember name id)

mutual

/-- What a document says in a shape, without members of other names and without nulls. The members
are in the order of the fields. -/
def Shape.read : Shape → Decoder Value
  | .text => fun depth doc => (Decoder.string depth doc).map .string
  | .number => fun depth doc => (Decoder.uint16 depth doc).map ofUInt16
  | .word names => fun depth doc =>
    (Decoder.name (names.map fun n => (n, n)) depth doc).map .string
  | .list item => fun depth doc => (Decoder.list item.read depth doc).map .array
  | .record fields => Decoder.record (fields.map (·.1)) fun depth slot =>
    (readFields fields depth slot).map fun parts => .object parts.flatten

/-- What the slots of a record say about its fields, one by one. -/
def readFields : Fields → Nat → (String → Slot) → Option (List (List (String × Value)))
  | [], _, _ => some []
  | (name, presence, s) :: fields, depth, slot => do
    let part ← presence.read name s.read depth (slot name)
    let parts ← readFields fields depth slot
    some (part :: parts)

end

mutual

/-- Whether a value is one of a shape. -/
def Shape.Fits : Shape → Value → Prop
  | .text => fun v => ∃ t, v = .string t
  | .number => fun v => ∃ n : UInt16, v = ofUInt16 n
  | .word names => fun v => ∃ n ∈ names, v = .string n
  | .list item => fun v => ∃ vs, v = .array vs ∧ ∀ w ∈ vs, item.Fits w
  | .record fields => fun v => ∃ parts, v = .object parts.flatten ∧ FitFields fields parts

/-- Whether the parts of an object are those of some fields, one by one. -/
def FitFields : Fields → List (List (String × Value)) → Prop
  | [] => fun parts => parts = []
  | (name, presence, s) :: fields => fun parts => ∃ part rest, parts = part :: rest ∧
    ((∃ v, part = member name v ∧ s.Fits v) ∨ presence = .optional ∧ part = []) ∧
    FitFields fields rest

end

mutual

/-- How deep a document of a shape may be. -/
def Shape.depth : Shape → Nat
  | .list item => item.depth + 1
  | .record fields => fieldsDepth fields + 1
  | _ => 0

/-- How deep the members of a record may be. -/
def fieldsDepth : Fields → Nat
  | [] => 0
  | (_, _, s) :: fields => max s.depth (fieldsDepth fields)

end

mutual

/-- Whether the names of each record's fields are different. -/
def Shape.Distinct : Shape → Prop
  | .list item => item.Distinct
  | .record fields => (fields.map (·.1)).Nodup ∧ DistinctFields fields
  | _ => True

/-- Whether this is so within some fields. -/
def DistinctFields : Fields → Prop
  | [] => True
  | (_, _, s) :: fields => s.Distinct ∧ DistinctFields fields

end

mutual

/-- Whether names are different can be decided. -/
def Shape.decideDistinct : (s : Shape) → Decidable s.Distinct
  | .text | .number | .word _ => .isTrue trivial
  | .list item => item.decideDistinct
  | .record fields =>
    have := decideDistinctFields fields
    inferInstanceAs (Decidable (_ ∧ _))

/-- So it can within some fields. -/
def decideDistinctFields : (fields : Fields) → Decidable (DistinctFields fields)
  | [] => .isTrue trivial
  | (_, _, s) :: fields =>
    have := s.decideDistinct
    have := decideDistinctFields fields
    inferInstanceAs (Decidable (_ ∧ _))

end

instance (s : Shape) : Decidable s.Distinct := s.decideDistinct

/-! ## Fields -/

section

variable {fields : Fields} {f : String × Presence × Shape} {name : String} {presence : Presence}
  {s : Shape} {parts : List (List (String × Value))} {part : List (String × Value)}
  {d : Decoder Value} {depth : Nat} {slot : Slot}

@[simp] theorem valuesNamed_member_self (v : Value) : valuesNamed name (member name v) = [v] :=
  valuesNamed_cons_self v

theorem valuesNamed_member_of_ne {name' : String} (h : name' ≠ name) (v : Value) :
    valuesNamed name (member name' v) = [] :=
  valuesNamed_cons_of_ne h v

theorem depth_le_fieldsDepth (h : f ∈ fields) : f.2.2.depth ≤ fieldsDepth fields := by
  induction fields with
  | nil => cases h
  | cons g fields ih =>
    rcases List.mem_cons.1 h with rfl | h
    · exact Nat.le_max_left _ _
    · exact Nat.le_trans (ih h) (Nat.le_max_right _ _)

theorem distinctFields_iff : DistinctFields fields ↔ ∀ f ∈ fields, f.2.2.Distinct := by
  induction fields with
  | nil => exact iff_of_true trivial (List.forall_mem_nil _)
  | cons g fields ih =>
    rw [List.forall_mem_cons, ← ih]
    exact Iff.rfl

/-- What is read of a member is its value, if it stands for anything. -/
theorem Presence.read_eq_some_iff : presence.read name d depth slot = some part ↔
    (∃ doc v, slot = .given doc ∧ presence.skips doc = false ∧ d depth doc = some v ∧
      member name v = part) ∨
    presence = .optional ∧ (slot = .absent ∨ slot = .given .null) ∧ [] = part := by
  rcases slot with doc | _ | _
  · cases presence with
    | required => simp [Presence.read, Decoder.required, Presence.skips]
    | optional =>
      cases doc <;>
        simp [Presence.read, Decoder.optional, Decoder.nullable, Presence.skips, optionalMember,
          member]
  · cases presence <;>
      simp [Presence.read, Decoder.required, Decoder.optional, optionalMember]
  · cases presence <;> simp [Presence.read, Decoder.required, Decoder.optional]

/-- An object has no members but those of the fields. -/
theorem FitFields.valuesNamed_of_not_mem (h : FitFields fields parts)
    (hname : name ∉ fields.map (·.1)) : valuesNamed name parts.flatten = [] := by
  induction fields generalizing parts with
  | nil =>
    obtain rfl : parts = [] := h
    rfl
  | cons f fields ih =>
    obtain ⟨name', presence, s⟩ := f
    obtain ⟨part, rest, rfl, hpart, hrest⟩ := h
    rw [List.map_cons, List.mem_cons, not_or] at hname
    obtain ⟨hne, hname⟩ := hname
    rw [List.flatten_cons, valuesNamed_append, ih hrest hname, List.append_nil]
    rcases hpart with ⟨v, rfl, -⟩ | ⟨-, rfl⟩
    · exact valuesNamed_member_of_ne (Ne.symm hne) v
    · rfl

/-- What is read of the fields depends on their slots alone. -/
theorem readFields_congr {slot slot' : String → Slot}
    (h : ∀ f ∈ fields, f.2.1.read f.1 f.2.2.read depth (slot f.1) =
      f.2.1.read f.1 f.2.2.read depth (slot' f.1)) :
    readFields fields depth slot = readFields fields depth slot' := by
  induction fields with
  | nil => rfl
  | cons f fields ih =>
    obtain ⟨hf, hfields⟩ := List.forall_mem_cons.1 h
    rw [readFields, readFields, hf, ih hfields]

theorem readFields_cons_eq_some_iff {slot : String → Slot} :
    readFields ((name, presence, s) :: fields) depth slot = some parts ↔
      ∃ part rest, presence.read name s.read depth (slot name) = some part ∧
        readFields fields depth slot = some rest ∧ part :: rest = parts := by
  simp [readFields, Option.bind_eq_some_iff]

/-- Every field is read. -/
theorem exists_part_of_readFields {slot : String → Slot}
    (h : readFields fields depth slot = some parts) (hf : f ∈ fields) :
    ∃ part, f.2.1.read f.1 f.2.2.read depth (slot f.1) = some part := by
  induction fields generalizing parts with
  | nil => cases hf
  | cons g fields ih =>
    obtain ⟨part, rest, hpart, hrest, -⟩ := readFields_cons_eq_some_iff.1 h
    rcases List.mem_cons.1 hf with rfl | hf
    · exact ⟨part, hpart⟩
    · exact ih hrest hf

end

/-! ## What is read -/

theorem mapM_eq_some_iff {α β : Type} {f : α → Option β} {as : List α} {bs : List β} :
    as.mapM f = some bs ↔ List.Forall₂ (fun a b => f a = some b) as bs := by
  induction as generalizing bs with
  | nil => simp [eq_comm]
  | cons a as ih =>
    simp only [List.mapM_cons, Option.bind_eq_bind, Option.bind_eq_some_iff, ih, Option.pure_def,
      Option.some.injEq, List.forall₂_cons_left_iff, exists_and_left, @eq_comm _ bs]

theorem lookup_words_eq_some_iff {names : List String} {n t : String} :
    (names.map fun n => (n, n)).lookup t = some n ↔ t = n ∧ n ∈ names := by
  induction names with
  | nil => simp
  | cons m names ih =>
    rw [List.map_cons, List.lookup_cons, List.mem_cons]
    by_cases hm : t = m
    · subst hm
      simp +contextual [eq_comm]
    · rw [beq_false_of_ne hm]
      simp only [ih]
      constructor
      · rintro ⟨rfl, hmem⟩
        exact ⟨rfl, Or.inr hmem⟩
      · rintro ⟨rfl, hmem⟩
        exact ⟨rfl, hmem.resolve_left hm⟩

theorem uint16_number_eq_some_iff {depth : Nat} {n : Numeral} {k : UInt16} :
    Decoder.uint16 depth (.number n) = some k ↔ n.number? = some (.int k.toNat) := by
  rw [Decoder.uint16]
  split
  next i hi =>
    rw [hi, Option.some.injEq, Number.int.injEq, Int.ofNat_eq_natCast, Int.natCast_inj]
    by_cases hlt : i < 65536
    · rw [if_pos hlt, Option.some.injEq, ← UInt16.toNat_inj, UInt16.toNat_ofNat_of_lt' hlt]
    · have hk := k.toNat_lt
      rw [if_neg hlt]
      exact iff_of_false nofun (by omega)
  next hother => exact iff_of_false nofun (hother k.toNat)

namespace Shape

variable {depth : Nat} {doc : Document} {v : Value} {names : List String} {item : Shape}
  {fields : Fields} {members : List (List Mark × Document)}

theorem read_text_eq_some_iff : Shape.text.read depth doc = some v ↔
    ∃ marks t, doc = .string marks ∧ markText? marks = some t ∧ .string t = v := by
  cases doc <;> simp [Shape.read, Decoder.string]

theorem read_number_eq_some_iff : Shape.number.read depth doc = some v ↔
    ∃ n k, doc = .number n ∧ n.number? = some (.int (UInt16.toNat k)) ∧ ofUInt16 k = v := by
  cases doc with
  | number n => simp [Shape.read, uint16_number_eq_some_iff]
  | _ => simp [Shape.read, Decoder.uint16]

theorem read_word_string_eq_some_iff {marks : List Mark} :
    (Shape.word names).read depth (.string marks) = some v ↔
      ∃ n, markText? marks = some n ∧ n ∈ names ∧ .string n = v := by
  simp [Shape.read, Decoder.name, lookup_words_eq_some_iff, Option.bind_eq_some_iff]

theorem exists_word_of_read (h : (Shape.word names).read depth doc = some v) :
    ∃ n ∈ names, .string n = v := by
  obtain ⟨n, hn, rfl⟩ := Option.map_eq_some_iff.1 h
  have hlookup : ∃ t, (names.map fun n => (n, n)).lookup t = some n := by
    unfold Decoder.name at hn
    split at hn
    · obtain ⟨t, -, ht⟩ := Option.bind_eq_some_iff.1 hn
      exact ⟨t, ht⟩
    · obtain ⟨t, -, ht⟩ := Option.bind_eq_some_iff.1 hn
      exact ⟨t, ht⟩
    · cases hn
  obtain ⟨t, ht⟩ := hlookup
  exact ⟨n, (lookup_words_eq_some_iff.1 ht).2, rfl⟩

theorem read_list_eq_some_iff : (Shape.list item).read depth doc = some v ↔
    ∃ d items vs, depth = d + 1 ∧ doc = .array items ∧
      List.Forall₂ (fun i w => item.read d i = some w) items vs ∧ .array vs = v := by
  cases depth with
  | zero => simp [Shape.read, Decoder.list]
  | succ d => cases doc <;> simp [Shape.read, Decoder.list, mapM_eq_some_iff]

theorem read_record_eq_some_iff : (Shape.record fields).read depth doc = some v ↔
    ∃ d slot parts, depth = d + 1 ∧ Decoder.slots? (fields.map (·.1)) doc = some slot ∧
      readFields fields d slot = some parts ∧ .object parts.flatten = v := by
  cases depth with
  | zero => simp [Shape.read, Decoder.record]
  | succ d => simp [Shape.read, Decoder.record, Option.bind_eq_some_iff]

theorem read_record_object_eq_some_iff :
    (Shape.record fields).read depth (.object members) = some v ↔
      ∃ d parts, depth = d + 1 ∧ NamesRead members ∧
        (∀ name ∈ fields.map (·.1), (valuesOf name members).length ≤ 1) ∧
        readFields fields d (fun name => slotOf (valuesOf name members)) = some parts ∧
        .object parts.flatten = v := by
  simp only [read_record_eq_some_iff, slots?_object_iff]
  constructor
  · rintro ⟨d, _, parts, hdepth, ⟨hnames, hone, rfl⟩, hparts, hv⟩
    exact ⟨d, parts, hdepth, hnames, hone, hparts, hv⟩
  · rintro ⟨d, parts, hdepth, hnames, hone, hparts, hv⟩
    exact ⟨d, _, parts, hdepth, ⟨hnames, hone, rfl⟩, hparts, hv⟩

end Shape

/-! ## Values of a shape -/

namespace Shape

theorem Fits.ne_null {s : Shape} {v : Value} (h : s.Fits v) : v ≠ .null := by
  rintro rfl
  cases s <;> simp [Shape.Fits, ofUInt16] at h

theorem fitFields_of_readFields {fields : Fields} {depth : Nat} {slot : String → Slot}
    {parts : List (List (String × Value))}
    (ih : ∀ f ∈ fields, ∀ doc v, f.2.2.read depth doc = some v → f.2.2.Fits v)
    (h : readFields fields depth slot = some parts) : FitFields fields parts := by
  induction fields generalizing parts with
  | nil => exact (Option.some.inj h).symm
  | cons f fields ih' =>
    obtain ⟨name, presence, s⟩ := f
    obtain ⟨part, rest, hpart, hrest, rfl⟩ := readFields_cons_eq_some_iff.1 h
    obtain ⟨hs, hfields⟩ := List.forall_mem_cons.1 ih
    refine ⟨part, rest, rfl, ?_, ih' hfields hrest⟩
    rcases Presence.read_eq_some_iff.1 hpart with ⟨doc, v, -, -, hv, rfl⟩ | ⟨rfl, -, rfl⟩
    · exact Or.inl ⟨v, rfl, hs doc v hv⟩
    · exact Or.inr ⟨rfl, rfl⟩

/-- What is read in a shape is a value of the shape. -/
theorem fits_of_read {s : Shape} {depth : Nat} {doc : Document} {v : Value}
    (h : s.read depth doc = some v) : s.Fits v := by
  induction s generalizing depth doc v with
  | text =>
    obtain ⟨-, t, -, -, rfl⟩ := read_text_eq_some_iff.1 h
    exact ⟨t, rfl⟩
  | number =>
    obtain ⟨-, n, -, -, rfl⟩ := read_number_eq_some_iff.1 h
    exact ⟨n, rfl⟩
  | word names =>
    obtain ⟨n, hn, rfl⟩ := exists_word_of_read h
    exact ⟨n, hn, rfl⟩
  | list item ih =>
    obtain ⟨d, items, vs, -, -, hvs, rfl⟩ := read_list_eq_some_iff.1 h
    refine ⟨vs, rfl, ?_⟩
    clear h
    induction hvs with
    | nil => exact List.forall_mem_nil _
    | cons hw _ hvs => exact List.forall_mem_cons.2 ⟨ih hw, hvs⟩
  | record fields ih =>
    obtain ⟨d, slot, parts, -, -, hparts, rfl⟩ := read_record_eq_some_iff.1 h
    exact ⟨parts, rfl, fitFields_of_readFields (fun f hf doc v => ih f hf) hparts⟩

theorem exact_of_fitFields {fields : Fields} {parts : List (List (String × Value))}
    (ih : ∀ f ∈ fields, ∀ v, f.2.2.Fits v → v.Exact) (h : FitFields fields parts) :
    ∀ m ∈ parts.flatten, m.2.Exact := by
  induction fields generalizing parts with
  | nil =>
    obtain rfl : parts = [] := h
    exact List.forall_mem_nil _
  | cons f fields ih' =>
    obtain ⟨name, presence, s⟩ := f
    obtain ⟨part, rest, rfl, hpart, hrest⟩ := h
    obtain ⟨hf, hfields⟩ := List.forall_mem_cons.1 ih
    rw [List.flatten_cons, List.forall_mem_append]
    refine ⟨?_, ih' hfields hrest⟩
    rcases hpart with ⟨v, rfl, hv⟩ | ⟨-, rfl⟩
    · exact List.forall_mem_singleton.2 (hf v hv)
    · exact List.forall_mem_nil _

/-- All numbers of a value of a shape are integers. -/
theorem Fits.exact {s : Shape} {v : Value} (h : s.Fits v) : v.Exact := by
  induction s generalizing v with
  | text =>
    obtain ⟨t, rfl⟩ := h
    exact .string t
  | number =>
    obtain ⟨n, rfl⟩ := h
    have hn := n.toNat_lt
    exact .int (by unfold wordLimit; omega) (by unfold wordLimit; omega)
  | word names =>
    obtain ⟨n, -, rfl⟩ := h
    exact .string n
  | list item ih =>
    obtain ⟨vs, rfl, hvs⟩ := h
    exact .array fun w hw => ih (hvs w hw)
  | record fields ih =>
    obtain ⟨parts, rfl, hparts⟩ := h
    exact .object (exact_of_fitFields (fun f hf v => ih f hf) hparts)

end Shape

/-! ## Reading a value from a document that means it -/

namespace Shape

/-- A document that means a value of a shape does not stand for a missing member. -/
theorem Fits.skips_eq_false {s : Shape} {v : Value} (hv : s.Fits v) {doc : Document}
    (hdoc : doc.Means v) (presence : Presence) : presence.skips doc = false := by
  have hnull := hv.ne_null
  cases hdoc with
  | null => exact absurd rfl hnull
  | _ => cases presence <;> rfl

/-- A member of a record is read from what means it. -/
theorem read_member_of_means {presence : Presence} {name : String} {s : Shape} {depth : Nat}
    {part : List (String × Value)} {docs : List Document}
    (hread : ∀ v doc, s.Fits v → doc.Means v → s.read depth doc = some v)
    (hpart : (∃ v, part = member name v ∧ s.Fits v) ∨ presence = .optional ∧ part = [])
    (hdocs : List.Forall₂ Document.Means docs (valuesNamed name part)) :
    docs.length ≤ 1 ∧ presence.read name s.read depth (slotOf docs) = some part := by
  rcases hpart with ⟨v, rfl, hv⟩ | ⟨rfl, rfl⟩
  · rw [valuesNamed_member_self] at hdocs
    obtain ⟨doc, rest, hmeans, hrest, rfl⟩ := List.forall₂_cons_right_iff.1 hdocs
    obtain rfl := List.forall₂_nil_right_iff.1 hrest
    have hslot := hread v doc hv hmeans
    exact ⟨Nat.le_refl 1, Presence.read_eq_some_iff.2
      (Or.inl ⟨doc, v, rfl, hv.skips_eq_false hmeans presence, hslot, rfl⟩)⟩
  · obtain rfl := List.forall₂_nil_right_iff.1 hdocs
    exact ⟨Nat.zero_le 1, rfl⟩

/-- The fields of a record are read from an object if its values for each name mean those of the
record's parts. -/
theorem readFields_of_means {fields : Fields} {parts : List (List (String × Value))} {depth : Nat}
    {members : List (List Mark × Document)} (hnodup : (fields.map (·.1)).Nodup)
    (hread : ∀ f ∈ fields, ∀ v doc, f.2.2.Fits v → doc.Means v → f.2.2.read depth doc = some v)
    (hfit : FitFields fields parts)
    (hvalues : ∀ name ∈ fields.map (·.1),
      List.Forall₂ Document.Means (valuesOf name members) (valuesNamed name parts.flatten)) :
    (∀ name ∈ fields.map (·.1), (valuesOf name members).length ≤ 1) ∧
      readFields fields depth (fun name => slotOf (valuesOf name members)) = some parts := by
  induction fields generalizing parts with
  | nil =>
    obtain rfl : parts = [] := hfit
    exact ⟨List.forall_mem_nil _, rfl⟩
  | cons f fields ih =>
    obtain ⟨name, presence, s⟩ := f
    obtain ⟨part, rest, rfl, hpart, hrest⟩ := hfit
    rw [List.map_cons, List.nodup_cons] at hnodup
    obtain ⟨hname, hnodup⟩ := hnodup
    rw [List.map_cons, List.forall_mem_cons] at hvalues ⊢
    obtain ⟨hhead, htail⟩ := hvalues
    obtain ⟨hs, hread⟩ := List.forall_mem_cons.1 hread
    simp only [List.flatten_cons, valuesNamed_append, hrest.valuesNamed_of_not_mem hname,
      List.append_nil] at hhead
    have htail : ∀ name' ∈ fields.map (·.1), List.Forall₂ Document.Means (valuesOf name' members)
        (valuesNamed name' rest.flatten) := by
      intro name' hname'
      have hne : name ≠ name' := fun h => hname (h ▸ hname')
      have htail := htail name' hname'
      rcases hpart with ⟨v, rfl, -⟩ | ⟨-, rfl⟩
      · rwa [List.flatten_cons, valuesNamed_append, valuesNamed_member_of_ne hne,
          List.nil_append] at htail
      · exact htail
    obtain ⟨hone, hfields⟩ := ih hnodup hread hrest htail
    obtain ⟨hslot, hpart⟩ := read_member_of_means hs hpart hhead
    exact ⟨⟨hslot, hone⟩, readFields_cons_eq_some_iff.2 ⟨part, rest, hpart, hfields, rfl⟩⟩

/-- A value of a shape is read from every document that means it. -/
theorem read_of_means {s : Shape} (hdistinct : s.Distinct) {depth : Nat} (hdepth : s.depth ≤ depth)
    {v : Value} (hv : s.Fits v) {doc : Document} (hdoc : doc.Means v) :
    s.read depth doc = some v := by
  induction s generalizing depth v doc with
  | text =>
    obtain ⟨t, rfl⟩ := hv
    cases hdoc with
    | string htext => exact read_text_eq_some_iff.2 ⟨_, t, rfl, htext, rfl⟩
  | number =>
    obtain ⟨n, rfl⟩ := hv
    cases hdoc with
    | number hnumber => exact read_number_eq_some_iff.2 ⟨_, n, rfl, hnumber, rfl⟩
  | word names =>
    obtain ⟨n, hn, rfl⟩ := hv
    cases hdoc with
    | string htext => exact read_word_string_eq_some_iff.2 ⟨n, htext, hn, rfl⟩
  | list item ih =>
    obtain ⟨vs, rfl, hvs⟩ := hv
    cases hdoc with
    | array hitems =>
      obtain ⟨d, rfl⟩ := Nat.exists_eq_add_of_le' (Nat.le_trans (Nat.le_add_left 1 _) hdepth)
      have hboth := ((List.forall₂_and_left _ _).2 ⟨hvs, hitems.flip⟩).flip
      exact read_list_eq_some_iff.2 ⟨d, _, vs, rfl, rfl, hboth.imp fun _ _ h =>
        ih hdistinct (Nat.le_of_succ_le_succ hdepth) h.1 h.2, rfl⟩
  | record fields ih =>
    obtain ⟨parts, rfl, hparts⟩ := hv
    cases hdoc with
    | object hnames hvalues =>
      obtain ⟨d, rfl⟩ := Nat.exists_eq_add_of_le' (Nat.le_trans (Nat.le_add_left 1 _) hdepth)
      obtain ⟨hnodup, hfields⟩ := hdistinct
      have hread : ∀ f ∈ fields, ∀ v doc, f.2.2.Fits v → doc.Means v →
          f.2.2.read d doc = some v := fun f hf v doc hv hdoc =>
        ih f hf (distinctFields_iff.1 hfields f hf)
          (Nat.le_trans (depth_le_fieldsDepth hf) (Nat.le_of_succ_le_succ hdepth)) hv hdoc
      obtain ⟨hone, hparted⟩ := readFields_of_means hnodup hread hparts fun name _ => hvalues name
      exact read_record_object_eq_some_iff.2 ⟨d, parts, rfl, hnames, hone, hparted, rfl⟩

end Shape

end JitAccess.Json
