import JitAccess.Proofs.Json.Pruning

/-!
# Types written and read in a shape

A type is faithful to a shape if different values are written differently, all of them as values of
the shape, and if a document is decoded as the value that is written as what the document says in the
shape. All that is true of reading in the shape is then true of the type.

* `Faithful`: the three laws, and how lists, words, texts and numbers obey them.
* `Faithful.run_eq_some_of_tells`: what is written is decoded.
* `Faithful.lossless`: what is decoded is written without a loss.
-/

namespace JitAccess.Json

open Value

variable {α : Type} {s : Shape} {toJson : α → Value} {d : Decoder α}

/-- Whether a type is written and read in a shape. -/
structure Faithful (s : Shape) (toJson : α → Value) (d : Decoder α) : Prop where
  injective : Function.Injective toJson
  fits : ∀ a, s.Fits (toJson a)
  reads : ∀ depth doc, (d depth doc).map toJson = s.read depth doc

/-- Whether every value comes through writing and decoding. -/
def RoundTrips (toJson : α → Value) (d : Decoder α) : Prop :=
  ∀ a, Decoder.run d (toJson a).write = some a

namespace Faithful

/-! ## What is written is decoded -/

theorem decode_eq_some_iff (h : Faithful s toJson d) {depth : Nat} {doc : Document} {a : α} :
    d depth doc = some a ↔ s.read depth doc = some (toJson a) := by
  rw [← h.reads, Option.map_eq_some_iff]
  constructor
  · intro hd
    exact ⟨a, hd, rfl⟩
  · rintro ⟨b, hd, hb⟩
    rw [hd, h.injective hb]

/-- A value is decoded from every text that says what is written for it. -/
theorem run_eq_some_of_tells (h : Faithful s toJson d) (hdistinct : s.Distinct)
    (hdepth : s.depth ≤ depthLimit) {a : α} {bytes : List UInt8} (htells : Tells bytes (toJson a)) :
    d.run bytes = some a := by
  obtain ⟨doc, hread, hmeans⟩ := htells
  rw [Decoder.run, hread]
  exact h.decode_eq_some_iff.2 (Shape.read_of_means hdistinct hdepth (h.fits a) hmeans)

/-- What is written for a value is a text that says it. -/
theorem tells_write (h : Faithful s toJson d) (a : α) : Tells (toJson a).write (toJson a) :=
  Json.tells_write (h.fits a).exact

theorem roundTrips (h : Faithful s toJson d) (hdistinct : s.Distinct)
    (hdepth : s.depth ≤ depthLimit) : RoundTrips toJson d :=
  fun a => h.run_eq_some_of_tells hdistinct hdepth (h.tells_write a)

end Faithful

/-! ## What is decoded is written -/

/-- Whether nothing is lost, or made up, when a text is decoded and the value written again. -/
structure Lossless (s : Shape) (toJson : α → Value) (d : Decoder α) : Prop where
  /-- What is left of the document is written, if its records are objects and its words strings. -/
  writes : ∀ bytes doc a, Document.read? bytes = some doc → s.Plain doc → d.run bytes = some a →
    (s.prune doc).Means (toJson a) ∧ Tells (toJson a).write (toJson a)
  /-- A document with a number that is not an integer of 16 bits is not decoded. -/
  numbers : ∀ bytes doc n, Document.read? bytes = some doc → s.Part doc .number (.number n) →
    (∀ k : UInt16, n.number? ≠ some (.int k.toNat)) → d.run bytes = none
  /-- Documents that differ in unknown members and in the order of members are decoded alike. -/
  variants : ∀ bytes bytes' doc doc', Document.read? bytes = some doc →
    Document.read? bytes' = some doc' → s.Varies doc doc' → d.run bytes = d.run bytes'

namespace Faithful

theorem lossless (h : Faithful s toJson d) (hdistinct : s.Distinct) : Lossless s toJson d where
  writes bytes doc a hread hplain hrun := by
    rw [Decoder.run, hread, Option.bind_some, h.decode_eq_some_iff] at hrun
    exact ⟨Shape.prune_means hdistinct hplain hrun, h.tells_write a⟩
  numbers bytes doc n hread hpart hnumber := by
    rw [Decoder.run, hread, Option.bind_some]
    cases hrun : d depthLimit doc with
    | none => rfl
    | some a =>
      obtain ⟨k, hk⟩ := Shape.exists_uint16_of_part hpart (h.decode_eq_some_iff.1 hrun)
      exact absurd hk (hnumber k)
  variants bytes bytes' doc doc' hread hread' hvaries := by
    rw [Decoder.run, Decoder.run, hread, hread', Option.bind_some, Option.bind_some]
    refine Option.map_injective h.injective ?_
    rw [h.reads, h.reads]
    exact hvaries.read_eq hdistinct depthLimit

/-! ## Faithful types -/

theorem map_mapM {β γ : Type} {f : α → Option β} {g : β → γ} (l : List α) :
    (l.mapM f).map (List.map g) = l.mapM fun a => (f a).map g := by
  induction l with
  | nil => rfl
  | cons a l ih =>
    rw [List.mapM_cons, List.mapM_cons, ← ih]
    cases f a with
    | none => rfl
    | some b => cases l.mapM f <;> rfl

theorem map_lookup_eq {names : List (String × α)} (hname : ∀ p ∈ names, toJson p.2 = .string p.1)
    (t : String) : (names.lookup t).map toJson =
      (((names.map (·.1)).map fun n => (n, n)).lookup t).map Value.string := by
  induction names with
  | nil => rfl
  | cons p names ih =>
    obtain ⟨hp, hnames⟩ := List.forall_mem_cons.1 hname
    rw [List.map_cons, List.map_cons, List.lookup_cons, List.lookup_cons]
    cases t == p.1 with
    | true => exact congrArg some hp
    | false => exact ih hnames

theorem text : Faithful .text Value.string Decoder.string where
  injective _ _ := Value.string.inj
  fits t := ⟨t, rfl⟩
  reads _ _ := rfl

theorem number : Faithful .number ofUInt16 Decoder.uint16 where
  injective m n h := by
    simpa [ofUInt16, UInt16.toNat_inj] using h
  fits n := ⟨n, rfl⟩
  reads _ _ := rfl

theorem list (h : Faithful s toJson d) :
    Faithful (.list s) (ofList toJson) (Decoder.list d) where
  injective l l' hl := by
    exact List.map_injective_iff.2 h.injective (Value.array.inj hl)
  fits l := ⟨l.map toJson, rfl, List.forall_mem_map.2 fun a _ => h.fits a⟩
  reads depth doc := by
    rcases depth with _ | depth
    · rfl
    cases doc with
    | array items =>
      have hwritten : ofList toJson = Value.array ∘ List.map toJson := rfl
      show (items.mapM (d depth)).map (ofList toJson) =
        (items.mapM (s.read depth)).map Value.array
      rw [hwritten, ← Option.map_map, map_mapM, funext (h.reads depth)]
    | _ => rfl

/-- One of several names, each of which stands for a value. -/
theorem word (names : List (String × α)) (hname : ∀ p ∈ names, toJson p.2 = .string p.1)
    (hall : ∀ a, ∃ n, (n, a) ∈ names) (hinjective : Function.Injective toJson) :
    Faithful (.word (names.map (·.1))) toJson (Decoder.name names) where
  injective := hinjective
  fits a := by
    obtain ⟨n, hn⟩ := hall a
    exact ⟨n, List.mem_map_of_mem hn, hname _ hn⟩
  reads depth doc := by
    have hlookup (marks : List Mark) :
        ((markText? marks).bind (List.lookup · names)).map toJson =
          ((markText? marks).bind (List.lookup · ((names.map (·.1)).map fun n => (n, n)))).map
            Value.string := by
      cases markText? marks with
      | none => rfl
      | some t => exact map_lookup_eq hname t
    cases doc with
    | string marks => exact hlookup marks
    | object members =>
      rcases depth with _ | depth
      · simp [Shape.read, Decoder.name]
      rcases members with _ | ⟨⟨marks, doc⟩, _ | ⟨m, members⟩⟩
      · simp [Shape.read, Decoder.name]
      · cases doc with
        | null => exact hlookup marks
        | _ => simp [Shape.read, Decoder.name]
      · simp [Shape.read, Decoder.name]
    | _ => rfl

end Faithful

/-! ## Faithful records -/

section

variable {β : Type} {fields : Fields} {name : String} {f : α → Value} {v w : Value}
  {parts : List (List (String × Value))} {depth : Nat} {slot : String → Slot}

theorem member_eq_member_iff : member name v = member name w ↔ v = w := by
  simp [member]

theorem optionalMember_eq_iff (hf : Function.Injective f) {o o' : Option α} :
    optionalMember name f o = optionalMember name f o' ↔ o = o' := by
  cases o <;> cases o' <;> simp [optionalMember, hf.eq_iff]

theorem FitFields.required (hv : s.Fits v) (hparts : FitFields fields parts) :
    FitFields ((name, .required, s) :: fields) (member name v :: parts) :=
  ⟨_, _, rfl, Or.inl ⟨v, rfl, hv⟩, hparts⟩

theorem FitFields.optional (hf : ∀ a, s.Fits (f a)) (o : Option α)
    (hparts : FitFields fields parts) :
    FitFields ((name, .optional, s) :: fields) (optionalMember name f o :: parts) := by
  refine ⟨_, _, rfl, ?_, hparts⟩
  cases o with
  | none => exact Or.inr ⟨rfl, rfl⟩
  | some a => exact Or.inl ⟨f a, rfl, hf a⟩

/-- The members of an object are those of its fields in just one way. -/
theorem FitFields.flatten_inj (hnodup : (fields.map (·.1)).Nodup) (h : FitFields fields parts)
    {parts' : List (List (String × Value))} (h' : FitFields fields parts')
    (hflatten : parts.flatten = parts'.flatten) : parts = parts' := by
  induction fields generalizing parts parts' with
  | nil => exact Eq.trans h (Eq.symm h')
  | cons g fields ih =>
    obtain ⟨name, presence, s⟩ := g
    obtain ⟨part, rest, rfl, hpart, hrest⟩ := h
    obtain ⟨part', rest', rfl, hpart', hrest'⟩ := h'
    rw [List.map_cons, List.nodup_cons] at hnodup
    have hvalues := congrArg (valuesNamed name) hflatten
    simp only [List.flatten_cons, valuesNamed_append, hrest.valuesNamed_of_not_mem hnodup.1,
      hrest'.valuesNamed_of_not_mem hnodup.1, List.append_nil] at hvalues
    have heq : part = part' := by
      rcases hpart with ⟨v, rfl, -⟩ | ⟨-, rfl⟩ <;> rcases hpart' with ⟨v', rfl, -⟩ | ⟨-, rfl⟩ <;>
        simp_all
    subst heq
    rw [ih hnodup.2 hrest hrest' (List.append_cancel_left hflatten)]

/-- The first field is read, and then the others. -/
theorem map_readFields_cons (presence : Presence) (g : List (List (String × Value)) → β) :
    (readFields ((name, presence, s) :: fields) depth slot).map g =
      (presence.read name s.read depth (slot name)).bind fun part =>
        (readFields fields depth slot).map fun parts => g (part :: parts) := by
  rw [readFields]
  cases presence.read name s.read depth (slot name) with
  | none => rfl
  | some part => cases readFields fields depth slot <;> rfl

namespace Faithful

/-- A field that must be there is decoded as it is read. -/
theorem read_required (h : Faithful s toJson d) {γ : Type} {k : α → Option β} {write : β → γ}
    {g : List (List (String × Value)) → γ}
    (hrest : ∀ a, (k a).map write =
      (readFields fields depth slot).map fun parts => g (member name (toJson a) :: parts)) :
    ((Decoder.required d depth (slot name)).bind k).map write =
      (readFields ((name, .required, s) :: fields) depth slot).map g := by
  have hread : Decoder.required s.read depth (slot name) =
      (Decoder.required d depth (slot name)).map toJson := by
    cases slot name with
    | given doc => exact (h.reads depth doc).symm
    | _ => rfl
  rw [map_readFields_cons, Presence.read, hread, Option.map_map, Option.bind_map, Option.map_bind]
  exact congrArg _ (funext hrest)

/-- A field that may be missing is decoded as it is read. -/
theorem read_optional (h : Faithful s toJson d) {γ : Type} {k : Option α → Option β} {write : β → γ}
    {g : List (List (String × Value)) → γ}
    (hrest : ∀ o, (k o).map write =
      (readFields fields depth slot).map fun parts => g (optionalMember name toJson o :: parts)) :
    ((Decoder.optional d depth (slot name)).bind k).map write =
      (readFields ((name, .optional, s) :: fields) depth slot).map g := by
  have hnullable (doc : Document) : Decoder.nullable s.read depth doc =
      (Decoder.nullable d depth doc).map (Option.map toJson) := by
    cases doc with
    | null => rfl
    | _ => simp [Decoder.nullable, ← h.reads, Function.comp_def]
  have hread : Decoder.optional s.read depth (slot name) =
      (Decoder.optional d depth (slot name)).map (Option.map toJson) := by
    cases slot name with
    | given doc => exact hnullable doc
    | _ => rfl
  rw [map_readFields_cons, Presence.read, hread, Option.map_map, Option.bind_map, Option.map_bind]
  refine congrArg _ (funext fun o => (hrest o).trans ?_)
  cases o <;> rfl

/-- A record is faithful to its fields if its parts are written and read as theirs. -/
theorem record {make : Nat → (String → Slot) → Option α} (parts : α → List (List (String × Value)))
    (hnodup : (fields.map (·.1)).Nodup) (hinjective : Function.Injective parts)
    (hwrite : ∀ a, toJson a = .object (parts a).flatten) (hfit : ∀ a, FitFields fields (parts a))
    (hread : ∀ depth slot, (make depth slot).map parts = (readFields fields depth slot).map id) :
    Faithful (.record fields) toJson (Decoder.record (fields.map (·.1)) make) where
  injective a b hab := by
    rw [hwrite, hwrite] at hab
    exact hinjective ((hfit a).flatten_inj hnodup (hfit b) (Value.object.inj hab))
  fits a := ⟨parts a, hwrite a, hfit a⟩
  reads depth doc := by
    rcases depth with _ | depth
    · rfl
    rw [Shape.read, Decoder.record, Decoder.record, Option.map_bind]
    refine congrArg _ (funext fun slot => ?_)
    have hwrite : toJson = (fun ps => .object ps.flatten) ∘ parts := funext hwrite
    rw [Function.comp_apply, hwrite, ← Option.map_map, hread, Option.map_id, id]

end Faithful

end

end JitAccess.Json
