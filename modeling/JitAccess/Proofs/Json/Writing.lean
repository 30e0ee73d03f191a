import JitAccess.Proofs.Json.Object
import JitAccess.Proofs.Json.Spelling

/-!
# What is written is read

A value is written as a text that is one JSON document, and this document means the value. Doubles
are left aside: of the values in question no number is one.

* `Document.Means`: what a document means, in whatever order the members of its objects are.
* `Tells`: which texts say a value.
* `tells_write`: the text of a value is one of them.
-/

namespace JitAccess.Json

/-! ## What documents mean -/

/-- What a document means: a text for a string, a number for a numeral, and for an object the same
values for each name, whatever stands between them. -/
inductive Document.Means : Document → Value → Prop
  | null : Means .null .null
  | bool (b : Bool) : Means (.bool b) (.bool b)
  | number {n : Numeral} {k : Number} (hnumber : n.number? = some k) :
      Means (.number n) (.number k)
  | string {marks : List Mark} {s : String} (htext : markText? marks = some s) :
      Means (.string marks) (.string s)
  | array {items : List Document} {vs : List Value} (hitems : List.Forall₂ Means items vs) :
      Means (.array items) (.array vs)
  | object {members : List (List Mark × Document)} {ms : List (String × Value)}
      (hnames : NamesRead members)
      (hvalues : ∀ name, List.Forall₂ Means (valuesOf name members) (valuesNamed name ms)) :
      Means (.object members) (.object ms)

@[simp] theorem markText?_plain (s : String) : markText? (plain s) = some s :=
  (standsFor_bytes _).markText?_eq

/-- Whether a text is that of a document which means a value. -/
def Tells (bytes : List UInt8) (v : Value) : Prop :=
  ∃ doc, Document.read? bytes = some doc ∧ doc.Means v

/-- Whether all numbers in a value are integers of 64 bits. -/
inductive Value.Exact : Value → Prop
  | null : Exact .null
  | bool (b : Bool) : Exact (.bool b)
  | int {i : Int} (hlow : -(wordLimit / 2 : Nat) ≤ i) (hhigh : i < wordLimit) :
      Exact (.number (.int i))
  | string (s : String) : Exact (.string s)
  | array {vs : List Value} (hitems : ∀ v ∈ vs, Exact v) : Exact (.array vs)
  | object {ms : List (String × Value)} (hmembers : ∀ m ∈ ms, Exact m.2) : Exact (.object ms)

/-- What the members of an object mean, one by one. -/
def MemberMeans (m : List Mark × Document) (p : String × Value) : Prop :=
  markText? m.1 = some p.1 ∧ m.2.Means p.2

theorem means_object {members : List (List Mark × Document)} {ms : List (String × Value)}
    (h : List.Forall₂ MemberMeans members ms) : Document.Means (.object members) (.object ms) := by
  have hnames : NamesRead members := by
    induction h with
    | nil => exact List.forall_mem_nil _
    | cons hm _ ih => exact namesRead_cons.2 ⟨Option.isSome_of_eq_some hm.1, ih⟩
  refine .object hnames fun name => ?_
  induction h with
  | nil => exact .nil
  | @cons m p members ms hm _ ih =>
    have ih := ih (namesRead_cons.1 hnames).2
    by_cases hname : p.1 = name
    · rw [valuesOf_cons_of_eq (hm.1.trans (congrArg some hname)), ← hname, valuesNamed_cons_self,
        hname]
      exact .cons hm.2 ih
    · rw [valuesOf_cons_of_ne (by rw [hm.1]; simpa using hname), valuesNamed_cons_of_ne hname]
      exact ih

/-! ## How values begin -/

/-- No value begins with a blank or with the bracket that would close an array. -/
theorem Value.Exact.write_eq_cons {v : Value} (h : v.Exact) : ∃ b bytes, v.write = b :: bytes ∧
    Document.isBlank b = false ∧ b ≠ 0x5D := by
  cases h with
  | null => exact ⟨_, _, rfl, rfl, by decide⟩
  | bool b => cases b <;> exact ⟨_, _, rfl, rfl, by decide⟩
  | @int i hlow hhigh =>
    have hdigit : ∀ b : UInt8,
        Document.isDigit b = true → Document.isBlank b = false ∧ b ≠ 0x5D := by
      decide +kernel
    obtain ⟨b, bytes, hbytes, rfl | hb⟩ := exists_cons_ascii_int i
    · exact ⟨_, _, hbytes, rfl, by decide⟩
    · exact ⟨_, _, hbytes, hdigit b hb⟩
  | string s => exact ⟨_, _, rfl, rfl, by decide⟩
  | @array vs hitems => cases vs <;> exact ⟨_, _, rfl, rfl, by decide⟩
  | @object ms hmembers => cases ms <;> exact ⟨_, _, rfl, rfl, by decide⟩

theorem skipBlank_cons {b : UInt8} (hb : Document.isBlank b = false) (bytes : List UInt8) :
    Document.skipBlank (b :: bytes) = b :: bytes := by
  rw [Document.skipBlank, List.dropWhile_cons_of_neg (by simp [hb])]

theorem skipBlank_write {v : Value} (h : v.Exact) (rest : List UInt8) :
    Document.skipBlank (v.write ++ rest) = v.write ++ rest := by
  obtain ⟨b, bytes, hbytes, hb, -⟩ := h.write_eq_cons
  rw [hbytes, List.cons_append, skipBlank_cons hb]

theorem endsNumber_of_head {b : UInt8} {rest : List UInt8}
    (hb : b = 0x2C ∨ b = 0x5D ∨ b = 0x7D) : EndsNumber (b :: rest) := by
  rintro _ ⟨⟩
  rcases hb with rfl | rfl | rfl <;> decide

/-! ## Reading -/

/-- Whether values are read with some fuel, if it is as much as their texts are long. -/
def ReadsValues (fuel : Nat) : Prop :=
  ∀ (v : Value) (rest : List UInt8), v.Exact → v.write.length ≤ fuel → EndsNumber rest →
    ∃ doc, Document.readValue? fuel (v.write ++ rest) = some (doc, rest) ∧ doc.Means v

/-- Whether the items of arrays are. -/
def ReadsItems (fuel : Nat) : Prop :=
  ∀ (v : Value) (vs : List Value) (rest : List UInt8), v.Exact → (∀ w ∈ vs, w.Exact) →
    v.write.length + (writeItems vs).length ≤ fuel →
    ∃ docs, Document.readItems? fuel (v.write ++ (writeItems vs ++ rest)) = some (docs, rest) ∧
      List.Forall₂ Document.Means docs (v :: vs)

/-- Whether the members of objects are. -/
def ReadsMembers (fuel : Nat) : Prop :=
  ∀ (name : String) (v : Value) (ms : List (String × Value)) (rest : List UInt8), v.Exact →
    (∀ m ∈ ms, m.2.Exact) →
    (writeString name).length + v.write.length + (writeMembers ms).length ≤ fuel →
    ∃ docs, Document.readMembers? fuel
        (writeString name ++ 0x3A :: (v.write ++ (writeMembers ms ++ rest))) = some (docs, rest) ∧
      List.Forall₂ MemberMeans docs ((name, v) :: ms)

theorem one_le_length_write {v : Value} (h : v.Exact) : 1 ≤ v.write.length := by
  obtain ⟨b, bytes, hbytes, -⟩ := h.write_eq_cons
  rw [hbytes]
  exact Nat.le_add_left 1 bytes.length

theorem readsItems_succ {fuel : Nat} (hvalues : ReadsValues fuel) (hitems : ReadsItems fuel) :
    ReadsItems (fuel + 1) := by
  intro v vs rest hv hvs hfuel
  have hlength := one_le_length_write hv
  cases vs with
  | nil =>
    simp only [writeItems, List.length_singleton] at hfuel
    obtain ⟨doc, hread, hmeans⟩ := hvalues v (0x5D :: rest) hv (by omega)
      (endsNumber_of_head (by simp))
    refine ⟨[doc], ?_, .cons hmeans .nil⟩
    simp [writeItems, Document.readItems?, hread, skipBlank_cons (b := 0x5D) rfl]
  | cons w vs =>
    obtain ⟨hw, hvs⟩ := List.forall_mem_cons.1 hvs
    simp only [writeItems, List.length_append, List.length_cons] at hfuel
    obtain ⟨doc, hread, hmeans⟩ := hvalues v (0x2C :: (w.write ++ (writeItems vs ++ rest))) hv
      (by omega) (endsNumber_of_head (by simp))
    obtain ⟨docs, hreads, hmeanings⟩ := hitems w vs rest hw hvs (by omega)
    refine ⟨doc :: docs, ?_, .cons hmeans hmeanings⟩
    simp [writeItems, Document.readItems?, hread, hreads, skipBlank_cons (b := 0x2C) rfl]

section

variable {name : String} {marks : List Mark} {fuel : Nat} {bytes more rest : List UInt8}
  {doc : Document}

/-- The last member of an object, which the closing brace follows. -/
theorem readMembers?_last
    (hname : ∀ rest, Document.readString? (name.toList.flatMap writeChar ++ 0x22 :: rest) =
      some (marks, rest))
    (hvalue : Document.readValue? fuel bytes = some (doc, 0x7D :: rest)) :
    Document.readMembers? (fuel + 1) (writeString name ++ 0x3A :: bytes) =
      some ([(marks, doc)], rest) := by
  simp [writeString, Document.readMembers?, skipBlank_cons (b := 0x22) rfl, hname,
    skipBlank_cons (b := 0x3A) rfl, hvalue, skipBlank_cons (b := 0x7D) rfl]

/-- A member that a comma and the other members follow. -/
theorem readMembers?_more {docs : List (List Mark × Document)}
    (hname : ∀ rest, Document.readString? (name.toList.flatMap writeChar ++ 0x22 :: rest) =
      some (marks, rest))
    (hvalue : Document.readValue? fuel bytes = some (doc, 0x2C :: more))
    (hmore : Document.readMembers? fuel more = some (docs, rest)) :
    Document.readMembers? (fuel + 1) (writeString name ++ 0x3A :: bytes) =
      some ((marks, doc) :: docs, rest) := by
  simp [writeString, Document.readMembers?, skipBlank_cons (b := 0x22) rfl, hname,
    skipBlank_cons (b := 0x3A) rfl, hvalue, skipBlank_cons (b := 0x2C) rfl, hmore]

end

theorem readsMembers_succ {fuel : Nat} (hvalues : ReadsValues fuel) (hmembers : ReadsMembers fuel) :
    ReadsMembers (fuel + 1) := by
  intro name v ms rest hv hms hfuel
  have hlength := one_le_length_write hv
  have hquotes : 2 ≤ (writeString name).length := by simp [writeString]
  obtain ⟨marks, htext, hname⟩ := exists_readString?_writeString name
  cases ms with
  | nil =>
    simp only [writeMembers, List.length_singleton] at hfuel
    obtain ⟨doc, hread, hmeans⟩ := hvalues v (0x7D :: rest) hv (by omega)
      (endsNumber_of_head (by simp))
    exact ⟨[(marks, doc)], readMembers?_last hname hread, .cons ⟨htext, hmeans⟩ .nil⟩
  | cons m ms =>
    obtain ⟨name', w⟩ := m
    obtain ⟨hw, hms⟩ := List.forall_mem_cons.1 hms
    simp only [writeMembers, List.length_append, List.length_cons] at hfuel
    obtain ⟨doc, hread, hmeans⟩ := hvalues v
      (0x2C :: (writeString name' ++ 0x3A :: (w.write ++ (writeMembers ms ++ rest)))) hv
      (by omega) (endsNumber_of_head (by simp))
    obtain ⟨docs, hreads, hmeanings⟩ := hmembers name' w ms rest hw hms (by omega)
    refine ⟨(marks, doc) :: docs, ?_, .cons ⟨htext, hmeans⟩ hmeanings⟩
    simp only [writeMembers, List.cons_append, List.append_assoc]
    exact readMembers?_more hname hread hreads

theorem readValue?_int (i : Int) {fuel : Nat} {rest : List UInt8} (hrest : EndsNumber rest) :
    Document.readValue? (fuel + 1) (ascii (Number.int i).text ++ rest) =
      some (.number (numeralOf i), rest) := by
  have hhead : ∀ b : UInt8, b = 0x2D ∨ Document.isDigit b = true → Document.isBlank b = false ∧
      b ∉ [0x6E, 0x74, 0x66, 0x22, 0x5B, 0x7B] := by
    decide +kernel
  obtain ⟨b, bytes, hbytes, hb⟩ := exists_cons_ascii_int i
  obtain ⟨hblank, hother⟩ := hhead b hb
  have hread := readNumeral?_int i hrest
  rw [hbytes, List.cons_append] at hread ⊢
  rw [Document.readValue?, skipBlank_cons hblank]
  -- No other kind of value begins with a sign or a digit.
  split
  next heq => simp [(List.cons.inj heq).1] at hother
  next heq => simp [(List.cons.inj heq).1] at hother
  next heq => simp [(List.cons.inj heq).1] at hother
  next heq => simp [(List.cons.inj heq).1] at hother
  next heq => simp [(List.cons.inj heq).1] at hother
  next heq => simp [(List.cons.inj heq).1] at hother
  next => rw [hread, Option.map_some]

theorem readsValues_succ {fuel : Nat} (hitems : ReadsItems fuel) (hmembers : ReadsMembers fuel) :
    ReadsValues (fuel + 1) := by
  intro v rest hv hfuel hrest
  cases hv with
  | null => exact ⟨.null, rfl, .null⟩
  | bool b => cases b <;> exact ⟨_, rfl, .bool _⟩
  | @int i hlow hhigh =>
    refine ⟨.number (numeralOf i), ?_, .number (number?_numeralOf hlow hhigh)⟩
    exact readValue?_int i hrest
  | string s =>
    obtain ⟨marks, htext, hread⟩ := exists_readString?_writeString s
    refine ⟨.string marks, ?_, .string htext⟩
    simp [Value.write, writeString, Document.readValue?, skipBlank_cons (b := 0x22) rfl, hread]
  | @array vs hvs =>
    cases vs with
    | nil => exact ⟨.array [], rfl, .array .nil⟩
    | cons w vs =>
      obtain ⟨hw, hvs⟩ := List.forall_mem_cons.1 hvs
      simp only [Value.write, List.length_append, List.length_cons] at hfuel
      obtain ⟨docs, hreads, hmeanings⟩ := hitems w vs rest hw hvs (by omega)
      refine ⟨.array docs, ?_, .array hmeanings⟩
      obtain ⟨b, bytes, hbytes, -, hbracket⟩ := hw.write_eq_cons
      simp only [Value.write, Document.readValue?, List.cons_append, List.append_assoc,
        skipBlank_cons (b := 0x5B) rfl, skipBlank_write hw, hreads]
      split
      next heq =>
        rw [hbytes, List.cons_append] at heq
        exact absurd (List.cons.inj heq).1 hbracket
      next => rfl
  | @object ms hms =>
    cases ms with
    | nil => exact ⟨.object [], rfl, means_object .nil⟩
    | cons m ms =>
      obtain ⟨name, w⟩ := m
      obtain ⟨hw, hms⟩ := List.forall_mem_cons.1 hms
      simp only [Value.write, List.length_append, List.length_cons] at hfuel
      obtain ⟨docs, hreads, hmeanings⟩ := hmembers name w ms rest hw hms (by omega)
      refine ⟨.object docs, ?_, means_object hmeanings⟩
      have hquote : Document.skipBlank
          (writeString name ++ 0x3A :: (w.write ++ (writeMembers ms ++ rest))) =
            writeString name ++ 0x3A :: (w.write ++ (writeMembers ms ++ rest)) :=
        skipBlank_cons (b := 0x22) rfl _
      simp only [Value.write, Document.readValue?, List.cons_append, List.append_assoc,
        skipBlank_cons (b := 0x7B) rfl, hquote, hreads]
      rfl

/-- Values, items and members are read with as much fuel as their texts are long. -/
theorem reads_of_length_le (fuel : Nat) :
    ReadsValues fuel ∧ ReadsItems fuel ∧ ReadsMembers fuel := by
  induction fuel with
  | zero =>
    refine ⟨?_, ?_, ?_⟩
    · intro v rest hv hfuel
      have hlength := one_le_length_write hv
      omega
    · intro v vs rest hv _ hfuel
      have hlength := one_le_length_write hv
      omega
    · intro name v ms rest hv _ hfuel
      have hlength := one_le_length_write hv
      omega
  | succ fuel ih =>
    obtain ⟨hvalues, hitems, hmembers⟩ := ih
    exact ⟨readsValues_succ hitems hmembers, readsItems_succ hvalues hitems,
      readsMembers_succ hvalues hmembers⟩

/-- A value as it is written is a text that says it. -/
theorem tells_write {v : Value} (h : v.Exact) : Tells v.write v := by
  obtain ⟨hvalues, -⟩ := reads_of_length_le (2 * v.write.length + 2)
  obtain ⟨doc, hread, hmeans⟩ := hvalues v [] h (by omega) nofun
  rw [List.append_nil] at hread
  refine ⟨doc, ?_, hmeans⟩
  rw [Document.read?, hread]
  rfl

end JitAccess.Json
