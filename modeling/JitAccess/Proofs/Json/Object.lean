import JitAccess.Json.Decoder
import Mathlib

/-!
# Members of objects

A record reads an object through the values that its members have for a name, and through nothing
else: neither their order nor members of other names count, as long as all names are texts.

* `slots?_object_iff`: what an object says about the fields of a record.
* `slots?_object_bind_congr`: when two objects say the same.
-/

namespace JitAccess

/-- The marks of a string without escapes. -/
def plain (text : String) : List Json.Mark := (Text.Utf8.encode text.toList).map .byte

namespace Json

variable {members : List (List Mark × Document)} {named : List (String × Document)}

/-! ## The values for a name -/

/-- The values that stand next to a name. -/
def valuesNamed {β : Type} (name : String) (named : List (String × β)) : List β :=
  (named.filter (·.1 == name)).map (·.2)

section

variable {β : Type} {name : String} {ms ms' : List (String × β)}

@[simp] theorem valuesNamed_nil : valuesNamed name ([] : List (String × β)) = [] := rfl

@[simp] theorem valuesNamed_append :
    valuesNamed name (ms ++ ms') = valuesNamed name ms ++ valuesNamed name ms' := by
  simp [valuesNamed]

theorem valuesNamed_cons_self (b : β) :
    valuesNamed name ((name, b) :: ms) = b :: valuesNamed name ms := by
  simp [valuesNamed]

theorem valuesNamed_cons_of_ne {name' : String} (h : name' ≠ name) (b : β) :
    valuesNamed name ((name', b) :: ms) = valuesNamed name ms := by
  simp [valuesNamed, h]

end

/-- The values of the members with a name. -/
def valuesOf (name : String) (members : List (List Mark × Document)) : List Document :=
  (members.filter (markText? ·.1 == some name)).map (·.2)

/-- Whether all names of members are texts. -/
def NamesRead (members : List (List Mark × Document)) : Prop :=
  ∀ m ∈ members, (markText? m.1).isSome

/-- What the members with the name of a field say about it. -/
def slotOf : List Document → Slot
  | [] => .absent
  | doc :: _ => .given doc

/-! ## Members of objects -/

theorem isSome_mapM_iff {α β : Type} {f : α → Option β} {l : List α} :
    (l.mapM f).isSome ↔ ∀ a ∈ l, (f a).isSome := by
  induction l with
  | nil => simp
  | cons a l ih =>
    rw [List.mapM_cons, List.forall_mem_cons, ← ih]
    cases f a with
    | none => simp
    | some b => cases l.mapM f <;> simp

theorem isSome_namedMembers?_iff : (Decoder.namedMembers? members).isSome ↔ NamesRead members := by
  unfold Decoder.namedMembers? NamesRead
  rw [isSome_mapM_iff]
  simp only [Option.isSome_map]

theorem namedMembers?_cons {m : List Mark × Document}
    (h : Decoder.namedMembers? (m :: members) = some named) :
    ∃ name rest, markText? m.1 = some name ∧ Decoder.namedMembers? members = some rest ∧
      named = (name, m.2) :: rest := by
  unfold Decoder.namedMembers? at h ⊢
  rw [List.mapM_cons] at h
  cases hname : markText? m.1 with
  | none => simp [hname] at h
  | some name =>
    cases hrest : members.mapM fun m => (markText? m.1).map (·, m.2) with
    | none => simp [hname, hrest] at h
    | some rest => exact ⟨name, rest, rfl, rfl, by simpa [hname, hrest] using h.symm⟩

theorem valuesNamed_of_namedMembers? (h : Decoder.namedMembers? members = some named)
    (name : String) : valuesNamed name named = valuesOf name members := by
  induction members generalizing named with
  | nil =>
    obtain rfl : [] = named := Option.some.inj h
    rfl
  | cons m members ih =>
    obtain ⟨name', rest, hname, hrest, rfl⟩ := namedMembers?_cons h
    have hrest := ih hrest
    unfold valuesOf at hrest ⊢
    by_cases heq : name' = name
    · rw [heq, valuesNamed_cons_self, hrest]
      simp [hname, heq]
    · rw [valuesNamed_cons_of_ne heq, hrest]
      simp [hname, heq]

theorem countP_of_namedMembers? (h : Decoder.namedMembers? members = some named) (name : String) :
    named.countP (·.1 == name) = (valuesOf name members).length := by
  rw [← valuesNamed_of_namedMembers? h, valuesNamed, List.length_map, List.countP_eq_length_filter]

theorem slotInObject_eq (named : List (String × Document)) (name : String) :
    Decoder.slotInObject named name = slotOf (valuesNamed name named) := by
  unfold Decoder.slotInObject
  induction named with
  | nil => rfl
  | cons m named ih =>
    obtain ⟨name', doc⟩ := m
    by_cases heq : name' = name
    · rw [heq, List.lookup_cons, beq_self_eq_true, valuesNamed_cons_self]
      rfl
    · have hfield : (name == name') = false := by simpa using Ne.symm heq
      rw [List.lookup_cons, hfield, valuesNamed_cons_of_ne heq]
      exact ih

/-- What an object says about the fields of a record. -/
theorem slots?_object_iff {names : List String} {slot : String → Slot} :
    Decoder.slots? names (.object members) = some slot ↔
      NamesRead members ∧ (∀ name ∈ names, (valuesOf name members).length ≤ 1) ∧
        slot = fun name => slotOf (valuesOf name members) := by
  rw [← isSome_namedMembers?_iff, Decoder.slots?]
  cases hnamed : Decoder.namedMembers? members with
  | none => exact iff_of_false nofun (fun h => absurd h.1 nofun)
  | some named =>
    have hslot : Decoder.slotInObject named = fun name => slotOf (valuesOf name members) := by
      funext name
      rw [slotInObject_eq, valuesNamed_of_namedMembers? hnamed]
    show (if _ then some (Decoder.slotInObject named) else none) = some slot ↔ _
    rw [hslot]
    simp [countP_of_namedMembers? hnamed, @eq_comm _ slot]

/-- Of a field with at most one value something holds that does if there is none. -/
theorem slotOf_iff (docs : List Document) (p : Slot → Prop) (habsent : p .absent) :
    docs.length ≤ 1 ∧ p (slotOf docs) ↔ docs = [] ∨ ∃ doc, docs = [doc] ∧ p (.given doc) := by
  rcases docs with _ | ⟨doc, _ | ⟨doc', docs⟩⟩
  · simpa [slotOf] using habsent
  · simp [slotOf]
  · simp

/-! ## Objects that say the same -/

section

variable {members' : List (List Mark × Document)} {m : List Mark × Document}
  {name : String} {doc : Document}

@[simp] theorem valuesOf_nil : valuesOf name [] = [] := rfl

@[simp] theorem valuesOf_append :
    valuesOf name (members ++ members') = valuesOf name members ++ valuesOf name members' := by
  simp [valuesOf]

theorem valuesOf_cons_of_eq (h : markText? m.1 = some name) :
    valuesOf name (m :: members) = m.2 :: valuesOf name members := by
  simp [valuesOf, h]

theorem valuesOf_cons_of_ne (h : markText? m.1 ≠ some name) :
    valuesOf name (m :: members) = valuesOf name members := by
  simp [valuesOf, h]

theorem mem_valuesOf_iff :
    doc ∈ valuesOf name members ↔
      ∃ marks, (marks, doc) ∈ members ∧ markText? marks = some name := by
  simp [valuesOf]

theorem valuesOf_perm (h : members.Perm members') (name : String) :
    (valuesOf name members).Perm (valuesOf name members') :=
  (h.filter _).map _

theorem namesRead_append :
    NamesRead (members ++ members') ↔ NamesRead members ∧ NamesRead members' :=
  List.forall_mem_append

theorem namesRead_cons : NamesRead (m :: members) ↔ (markText? m.1).isSome ∧ NamesRead members :=
  List.forall_mem_cons

theorem namesRead_perm (h : members.Perm members') : NamesRead members ↔ NamesRead members' :=
  forall_congr' fun _ => imp_congr_left h.mem_iff

/-- Two objects are read alike if the names of both are texts, or those of neither, and what is made
of the values for each field is the same where there are equally many, at most one. -/
theorem slots?_object_bind_congr {β : Type} {names : List String}
    {make : (String → Slot) → Option β} (hread : NamesRead members ↔ NamesRead members')
    (hlength : ∀ name ∈ names,
      (valuesOf name members).length = (valuesOf name members').length)
    (hmake : (∀ name ∈ names, (valuesOf name members).length ≤ 1) →
      make (fun name => slotOf (valuesOf name members)) =
        make (fun name => slotOf (valuesOf name members'))) :
    (Decoder.slots? names (.object members)).bind make =
      (Decoder.slots? names (.object members')).bind make := by
  have hone : (∀ name ∈ names, (valuesOf name members).length ≤ 1) ↔
      ∀ name ∈ names, (valuesOf name members').length ≤ 1 :=
    forall₂_congr fun name hname => by rw [hlength name hname]
  ext b
  simp only [Option.bind_eq_some_iff, slots?_object_iff, ← hread, ← hone]
  constructor
  · rintro ⟨_, ⟨hnames, hlengths, rfl⟩, hb⟩
    exact ⟨_, ⟨hnames, hlengths, rfl⟩, hmake hlengths ▸ hb⟩
  · rintro ⟨_, ⟨hnames, hlengths, rfl⟩, hb⟩
    exact ⟨_, ⟨hnames, hlengths, rfl⟩, hmake hlengths ▸ hb⟩

end

end Json

end JitAccess
