import JitAccess.Proofs.Json.Shape

/-!
# What reading in a shape leaves out

Reading leaves out members of unknown names and optional members that are null, at every level, and
nothing else. So these may be put in, taken out and moved about without any effect.

* `Shape.Part`: which parts of a document stand where a shape has parts.
* `Shape.prune`: a document without what is left out.
* `Shape.prune_means`: it means what is read.
* `Shape.Varies`: documents that differ in unknown members and in the order of members.
* `Shape.Varies.read_eq`: they are read alike.
-/

namespace JitAccess.Json

open Value

/-! ## Parts -/

namespace Shape

/-- Which part of a document stands where a shape has a part. What is left out stands nowhere. -/
inductive Part : Shape → Document → Shape → Document → Prop
  | whole (s : Shape) (doc : Document) : Part s doc s doc
  | item {s t : Shape} {items : List Document} {doc part : Document} (hitem : doc ∈ items)
      (hpart : Part s doc t part) : Part (.list s) (.array items) t part
  | member {fields : Fields} {name : String} {presence : Presence} {s t : Shape}
      {members : List (List Mark × Document)} {marks : List Mark} {doc part : Document}
      (hfield : (name, presence, s) ∈ fields) (hmember : (marks, doc) ∈ members)
      (hname : markText? marks = some name) (hskips : presence.skips doc = false)
      (hpart : Part s doc t part) : Part (.record fields) (.object members) t part

/-- Whether all records in a document are written as objects, and all words as strings. -/
structure Plain (s : Shape) (doc : Document) : Prop where
  records : ∀ fields part, s.Part doc (.record fields) part → ∃ members, part = .object members
  words : ∀ names part, s.Part doc (.word names) part → ∃ marks, part = .string marks

theorem plain_text (doc : Document) : Shape.text.Plain doc :=
  ⟨fun _ _ hpart => (nomatch hpart), fun _ _ hpart => (nomatch hpart)⟩

theorem plain_list_iff {s : Shape} {items : List Document} :
    (Shape.list s).Plain (.array items) ↔ ∀ doc ∈ items, s.Plain doc := by
  constructor
  · intro h doc hitem
    exact ⟨fun _ _ hpart => h.records _ _ (.item hitem hpart),
      fun _ _ hpart => h.words _ _ (.item hitem hpart)⟩
  · intro h
    constructor
    · rintro fields part (_ | ⟨hitem, hpart⟩)
      exact (h _ hitem).records _ _ hpart
    · rintro names part (_ | ⟨hitem, hpart⟩)
      exact (h _ hitem).words _ _ hpart

theorem plain_record_iff {fields : Fields} {members : List (List Mark × Document)} :
    (Shape.record fields).Plain (.object members) ↔
      ∀ f ∈ fields, ∀ doc ∈ valuesOf f.1 members, f.2.1.skips doc = false → f.2.2.Plain doc := by
  constructor
  · rintro h ⟨name, presence, s⟩ hfield doc hmember hskips
    obtain ⟨marks, hmember, hname⟩ := mem_valuesOf_iff.1 hmember
    exact ⟨fun _ _ hpart => h.records _ _ (.member hfield hmember hname hskips hpart),
      fun _ _ hpart => h.words _ _ (.member hfield hmember hname hskips hpart)⟩
  · intro h
    constructor
    · rintro fields' part (_ | _ | ⟨hfield, hmember, hname, hskips, hpart⟩)
      · exact ⟨members, rfl⟩
      · exact (h _ hfield _ (mem_valuesOf_iff.2 ⟨_, hmember, hname⟩) hskips).records _ _ hpart
    · rintro names part (_ | _ | ⟨hfield, hmember, hname, hskips, hpart⟩)
      exact (h _ hfield _ (mem_valuesOf_iff.2 ⟨_, hmember, hname⟩) hskips).words _ _ hpart

end Shape

/-! ## Pruning -/

/-- The members of an object for whose values something is kept. -/
def keepMembers (keep : String → Document → Option Document)
    (members : List (List Mark × Document)) : List (List Mark × Document) :=
  members.filterMap fun m => (markText? m.1).bind fun name => (keep name m.2).map (m.1, ·)

mutual

/-- A document without the members that reading in a shape leaves out. -/
def Shape.prune : Shape → Document → Document
  | .list item => fun
    | .array items => .array (items.map item.prune)
    | doc => doc
  | .record fields => fun
    | .object members => .object (keepMembers (pruneValue fields) members)
    | doc => doc
  | _ => fun doc => doc

/-- The value of a member with a name, if it is not left out. -/
def pruneValue : Fields → String → Document → Option Document
  | [], _, _ => none
  | (name', presence, s) :: fields, name, doc =>
    if name' = name then if presence.skips doc then none else some (s.prune doc)
    else pruneValue fields name doc

end

section

variable {members : List (List Mark × Document)} {name : String}
  {keep : String → Document → Option Document}

theorem namesRead_keepMembers : NamesRead (keepMembers keep members) := by
  rintro ⟨marks, doc⟩ hm
  obtain ⟨⟨marks', doc'⟩, -, hm⟩ := List.mem_filterMap.1 hm
  obtain ⟨name, hname, hm⟩ := Option.bind_eq_some_iff.1 hm
  obtain ⟨doc'', -, hm⟩ := Option.map_eq_some_iff.1 hm
  cases hm
  exact Option.isSome_of_eq_some hname

theorem valuesOf_keepMembers :
    valuesOf name (keepMembers keep members) = (valuesOf name members).filterMap (keep name) := by
  unfold keepMembers
  induction members with
  | nil => rfl
  | cons m members ih =>
    by_cases hname : markText? m.1 = some name
    · rw [valuesOf_cons_of_eq hname, List.filterMap_cons, List.filterMap_cons, hname,
        Option.bind_some]
      cases keep name m.2 with
      | none => exact ih
      | some doc =>
        exact (valuesOf_cons_of_eq (m := (m.1, doc)) hname).trans (congrArg (doc :: ·) ih)
    · rw [valuesOf_cons_of_ne hname, List.filterMap_cons, ← ih]
      cases hmarks : markText? m.1 with
      | none => rfl
      | some name' =>
        rw [Option.bind_some]
        cases keep name' m.2 with
        | none => rfl
        | some doc => exact valuesOf_cons_of_ne (m := (m.1, doc)) hname

end

/-! ## What is read is what is left -/

/-- A member that is there is left out, or its value is read. -/
theorem Presence.skips_or_read {presence : Presence} {name : String} {d : Decoder Value}
    {depth : Nat} {doc : Document} {part : List (String × Value)}
    (h : presence.read name d depth (.given doc) = some part) :
    (presence.skips doc = true ∧ part = []) ∨
      presence.skips doc = false ∧ ∃ v, d depth doc = some v ∧ part = member name v := by
  rcases Presence.read_eq_some_iff.1 h with ⟨doc', v, hdoc, hskips, hv, rfl⟩ | ⟨rfl, hdoc, rfl⟩
  · cases hdoc
    exact Or.inr ⟨hskips, v, hv, rfl⟩
  · rcases hdoc with hdoc | hdoc
    · cases hdoc
    · cases hdoc
      exact Or.inl ⟨rfl, rfl⟩

/-- A member is read alike if its value is. -/
theorem Presence.read_congr {presence : Presence} {name : String} {d : Decoder Value} {depth : Nat}
    {doc doc' : Document} (hskips : presence.skips doc = presence.skips doc')
    (h : d depth doc = d depth doc') :
    presence.read name d depth (.given doc) = presence.read name d depth (.given doc') := by
  have hoptional (doc : Document) : Decoder.optional d depth (.given doc) =
      if Presence.optional.skips doc then some none else (d depth doc).map some := by
    cases doc <;> rfl
  cases presence with
  | required => simp only [Presence.read, Decoder.required, h]
  | optional => simp only [Presence.read, hoptional, hskips, h]

theorem eq_singleton_of_mem {α : Type} {a : α} {l : List α} (h : a ∈ l) (hone : l.length ≤ 1) :
    l = [a] := by
  obtain ⟨b, rfl⟩ := List.length_eq_one_iff.1 (Nat.le_antisymm hone (List.length_pos_of_mem h))
  rw [List.mem_singleton.1 h]

theorem eq_of_perm_of_length_le_one {α : Type} {l l' : List α} (h : l.Perm l')
    (hone : l.length ≤ 1) : l = l' := by
  rcases l with _ | ⟨a, _ | ⟨b, l⟩⟩
  · exact h.nil_eq
  · exact List.singleton_perm.1 h
  · simp at hone

namespace Shape

theorem pruneValue_self (name : String) (presence : Presence) (s : Shape) (fields : Fields) :
    pruneValue ((name, presence, s) :: fields) name =
      fun doc => if presence.skips doc then none else some (s.prune doc) :=
  funext fun _ => if_pos rfl

theorem pruneValue_of_ne {name name' : String} (h : name' ≠ name) (presence : Presence) (s : Shape)
    (fields : Fields) :
    pruneValue ((name', presence, s) :: fields) name = pruneValue fields name :=
  funext fun _ => if_neg h

/-- What is left of a member means what is read of it. -/
theorem means_of_read_member {presence : Presence} {name : String} {s : Shape} {depth : Nat}
    {docs : List Document} {part : List (String × Value)} (hone : docs.length ≤ 1)
    (hmeans : ∀ doc ∈ docs, presence.skips doc = false → ∀ v,
      s.read depth doc = some v → (s.prune doc).Means v)
    (hpart : presence.read name s.read depth (slotOf docs) = some part) :
    List.Forall₂ Document.Means
      (docs.filterMap fun doc => if presence.skips doc then none else some (s.prune doc))
      (valuesNamed name part) := by
  rcases docs with _ | ⟨doc, _ | ⟨doc', docs⟩⟩
  · rcases Presence.read_eq_some_iff.1 hpart with ⟨_, _, hslot, -⟩ | ⟨-, -, rfl⟩
    · cases hslot
    · exact .nil
  · rcases Presence.skips_or_read hpart with ⟨hskips, rfl⟩ | ⟨hskips, v, hv, rfl⟩
    · simp [hskips]
    · simpa [hskips] using hmeans doc List.mem_cons_self hskips v hv
  · simp at hone

/-- What is left of the members of an object means what is read of them. -/
theorem means_of_readFields {fields : Fields} {parts : List (List (String × Value))} {depth : Nat}
    {members : List (List Mark × Document)} (hnodup : (fields.map (·.1)).Nodup)
    (hone : ∀ name ∈ fields.map (·.1), (valuesOf name members).length ≤ 1)
    (hmeans : ∀ f ∈ fields, ∀ doc ∈ valuesOf f.1 members, f.2.1.skips doc = false → ∀ v,
      f.2.2.read depth doc = some v → (f.2.2.prune doc).Means v)
    (hparts : readFields fields depth (fun name => slotOf (valuesOf name members)) = some parts)
    (name : String) :
    List.Forall₂ Document.Means ((valuesOf name members).filterMap (pruneValue fields name))
      (valuesNamed name parts.flatten) := by
  induction fields generalizing parts with
  | nil =>
    obtain rfl : [] = parts := Option.some.inj hparts
    have hnone : (valuesOf name members).filterMap (pruneValue [] name) = [] :=
      List.filterMap_eq_nil_iff.2 fun _ _ => rfl
    rw [hnone]
    exact .nil
  | cons f fields ih =>
    obtain ⟨name', presence, s⟩ := f
    obtain ⟨part, rest, hpart, hrest, rfl⟩ := readFields_cons_eq_some_iff.1 hparts
    have hfit := fitFields_of_readFields (fun f _ doc v => fits_of_read) hrest
    rw [List.map_cons, List.nodup_cons] at hnodup
    obtain ⟨hname', hnodup⟩ := hnodup
    rw [List.map_cons, List.forall_mem_cons] at hone
    obtain ⟨hhead, hone⟩ := hone
    obtain ⟨hs, hmeans⟩ := List.forall_mem_cons.1 hmeans
    rw [List.flatten_cons, valuesNamed_append]
    -- As names are different, a name is that of this field or of another one, not of both.
    by_cases hname : name' = name
    · subst hname
      rw [hfit.valuesNamed_of_not_mem hname', List.append_nil, pruneValue_self]
      exact means_of_read_member hhead hs hpart
    · have hother : valuesNamed name part = [] := by
        rcases Presence.read_eq_some_iff.1 hpart with ⟨_, v, -, -, -, rfl⟩ | ⟨-, -, rfl⟩
        · exact valuesNamed_member_of_ne hname v
        · rfl
      rw [pruneValue_of_ne hname, hother, List.nil_append]
      exact ih hnodup hone hmeans hrest

/-- **What is left of a document means what is read of it**, if its records are objects and its words
strings. -/
theorem prune_means {s : Shape} (hdistinct : s.Distinct) {depth : Nat} {doc : Document}
    (hplain : s.Plain doc) {v : Value} (h : s.read depth doc = some v) : (s.prune doc).Means v := by
  induction s generalizing depth doc v with
  | text =>
    obtain ⟨marks, t, rfl, htext, rfl⟩ := read_text_eq_some_iff.1 h
    exact .string htext
  | number =>
    obtain ⟨n, k, rfl, hnumber, rfl⟩ := read_number_eq_some_iff.1 h
    exact .number hnumber
  | word names =>
    obtain ⟨marks, rfl⟩ := hplain.words _ _ (.whole _ doc)
    obtain ⟨n, htext, -, rfl⟩ := read_word_string_eq_some_iff.1 h
    exact .string htext
  | list item ih =>
    obtain ⟨d, items, vs, -, rfl, hvs, rfl⟩ := read_list_eq_some_iff.1 h
    have hboth := (List.forall₂_and_left _ _).2 ⟨plain_list_iff.1 hplain, hvs⟩
    exact .array (List.forall₂_map_left_iff.2 (hboth.imp fun _ _ h => ih hdistinct h.1 h.2))
  | record fields ih =>
    obtain ⟨members, rfl⟩ := hplain.records _ _ (.whole _ doc)
    obtain ⟨d, parts, -, -, hone, hparts, rfl⟩ := read_record_object_eq_some_iff.1 h
    obtain ⟨hnodup, hfields⟩ := hdistinct
    refine .object namesRead_keepMembers fun name => ?_
    rw [valuesOf_keepMembers]
    exact means_of_readFields hnodup hone (fun f hf doc hdoc hskips v =>
      ih f hf (distinctFields_iff.1 hfields f hf) (plain_record_iff.1 hplain f hf doc hdoc hskips))
      hparts name

/-! ## Numbers -/

/-- Every part of a document that is read is read. -/
theorem exists_read_of_part {s t : Shape} {doc part : Document} (hpart : s.Part doc t part)
    {depth : Nat} {v : Value} (h : s.read depth doc = some v) :
    ∃ d w, t.read d part = some w := by
  induction hpart generalizing depth v with
  | whole s doc => exact ⟨depth, v, h⟩
  | @item s t items doc part hitem hpart ih =>
    obtain ⟨d, _, vs, -, ⟨⟩, hvs, -⟩ := read_list_eq_some_iff.1 h
    have hread := isSome_mapM_iff.1 (Option.isSome_of_eq_some (mapM_eq_some_iff.2 hvs)) doc hitem
    obtain ⟨w, hw⟩ := Option.isSome_iff_exists.1 hread
    exact ih hw
  | @member fields name presence s t members marks doc part hfield hmember hname hskips hpart ih =>
    obtain ⟨d, parts, -, -, hone, hparts, -⟩ := read_record_object_eq_some_iff.1 h
    obtain ⟨p, hp⟩ := exists_part_of_readFields hparts hfield
    have hvalue : valuesOf name members = [doc] :=
      eq_singleton_of_mem (mem_valuesOf_iff.2 ⟨marks, hmember, hname⟩)
        (hone name (List.mem_map_of_mem hfield))
    rw [hvalue] at hp
    rcases Presence.skips_or_read hp with ⟨hskipped, -⟩ | ⟨-, w, hw, -⟩
    · exact absurd hskipped (by simp [hskips])
    · exact ih hw

/-- A number that is read is an integer of 16 bits. -/
theorem exists_uint16_of_part {s : Shape} {doc : Document} {n : Numeral}
    (hpart : s.Part doc .number (.number n)) {depth : Nat} {v : Value}
    (h : s.read depth doc = some v) : ∃ k : UInt16, n.number? = some (.int k.toNat) := by
  obtain ⟨d, w, hw⟩ := exists_read_of_part hpart h
  obtain ⟨_, k, ⟨⟩, hk, -⟩ := read_number_eq_some_iff.1 hw
  exact ⟨k, hk⟩

/-! ## Variants -/

/-- Whether two documents differ at most in members of unknown names and in the order of members,
where a shape has a record and the document an object. -/
inductive Varies : Shape → Document → Document → Prop
  | refl (s : Shape) (doc : Document) : Varies s doc doc
  | symm {s : Shape} {doc doc' : Document} (h : Varies s doc doc') : Varies s doc' doc
  | trans {s : Shape} {doc doc' doc'' : Document} (h : Varies s doc doc')
      (h' : Varies s doc' doc'') : Varies s doc doc''
  | insert {fields : Fields} {name : String} {marks : List Mark}
      (before after : List (List Mark × Document)) (doc : Document)
      (htext : markText? marks = some name) (hunknown : name ∉ fields.map (·.1)) :
      Varies (.record fields) (.object (before ++ after))
        (.object (before ++ (marks, doc) :: after))
  | reorder {fields : Fields} {members members' : List (List Mark × Document)}
      (h : members.Perm members') : Varies (.record fields) (.object members) (.object members')
  | member {fields : Fields} {name : String} {presence : Presence} {s : Shape}
      {marks : List Mark} {doc doc' : Document} (before after : List (List Mark × Document))
      (hfield : (name, presence, s) ∈ fields) (htext : markText? marks = some name)
      (h : Varies s doc doc') :
      Varies (.record fields) (.object (before ++ (marks, doc) :: after))
        (.object (before ++ (marks, doc') :: after))
  | item {s : Shape} {doc doc' : Document} (before after : List Document)
      (h : Varies s doc doc') :
      Varies (.list s) (.array (before ++ doc :: after)) (.array (before ++ doc' :: after))

/-- What is left out stays left out. -/
theorem Varies.skips_eq {s : Shape} {doc doc' : Document} (h : s.Varies doc doc')
    (presence : Presence) : presence.skips doc = presence.skips doc' := by
  induction h with
  | refl => rfl
  | symm _ ih => exact ih.symm
  | trans _ _ ih ih' => exact ih.trans ih'
  | _ => cases presence <;> rfl

theorem read_record_object_congr {fields : Fields} {members members' : List (List Mark × Document)}
    (hnames : NamesRead members ↔ NamesRead members')
    (hlength : ∀ f ∈ fields, (valuesOf f.1 members).length = (valuesOf f.1 members').length)
    (hread : ∀ f ∈ fields, ∀ depth, (valuesOf f.1 members).length ≤ 1 →
      f.2.1.read f.1 f.2.2.read depth (slotOf (valuesOf f.1 members)) =
        f.2.1.read f.1 f.2.2.read depth (slotOf (valuesOf f.1 members'))) (depth : Nat) :
    (Shape.record fields).read depth (.object members) =
      (Shape.record fields).read depth (.object members') := by
  cases depth with
  | zero => rfl
  | succ depth =>
    rw [Shape.read]
    refine slots?_object_bind_congr hnames (List.forall_mem_map.2 hlength) fun hone => ?_
    have hfields : readFields fields depth (fun name => slotOf (valuesOf name members)) =
        readFields fields depth (fun name => slotOf (valuesOf name members')) :=
      readFields_congr fun f hf => hread f hf depth (hone f.1 (List.mem_map_of_mem hf))
    exact congrArg (Option.map _) hfields

/-- **Unknown members and the order of members do not count.** -/
theorem Varies.read_eq {s : Shape} (hdistinct : s.Distinct) {doc doc' : Document}
    (h : s.Varies doc doc') (depth : Nat) : s.read depth doc = s.read depth doc' := by
  induction h generalizing depth with
  | refl => rfl
  | symm _ ih => exact (ih hdistinct depth).symm
  | trans _ _ ih ih' => exact (ih hdistinct depth).trans (ih' hdistinct depth)
  | @insert fields name marks before after doc htext hunknown =>
    have hvalues : ∀ f ∈ fields, valuesOf f.1 (before ++ after) =
        valuesOf f.1 (before ++ (marks, doc) :: after) := by
      intro f hf
      have hne : markText? marks ≠ some f.1 := by
        rw [htext]
        rintro ⟨⟩
        exact hunknown (List.mem_map_of_mem hf)
      rw [valuesOf_append, valuesOf_append, valuesOf_cons_of_ne hne]
    refine read_record_object_congr ?_ (fun f hf => by rw [hvalues f hf])
      (fun f hf _ _ => by rw [hvalues f hf]) depth
    simp [namesRead_append, namesRead_cons, htext]
  | reorder hperm =>
    refine read_record_object_congr (namesRead_perm hperm)
      (fun f _ => (valuesOf_perm hperm f.1).length_eq) (fun f _ _ hone => ?_) depth
    rw [eq_of_perm_of_length_le_one (valuesOf_perm hperm f.1) hone]
  | @member fields name presence s marks doc doc' before after hfield htext h ih =>
    obtain ⟨hnodup, hfields⟩ := hdistinct
    have hread := ih (distinctFields_iff.1 hfields _ hfield)
    refine read_record_object_congr ?_ (fun f hf => ?_) (fun f hf depth hone => ?_) depth
    · simp [namesRead_append, namesRead_cons, htext]
    · by_cases hname : name = f.1
      · simp [valuesOf_cons_of_eq (m := (marks, _)) (htext.trans (congrArg some hname))]
      · simp [valuesOf_cons_of_ne (m := (marks, _)) (by simpa [htext] using hname)]
    -- A field that is read has one value at most, so the member in question is its only one.
    · by_cases hname : name = f.1
      · have hf' : (name, presence, s) = f := List.inj_on_of_nodup_map hnodup hfield hf hname
        subst hf'
        simp only [valuesOf_append, valuesOf_cons_of_eq (m := (marks, _)) htext, List.length_append,
          List.length_cons] at hone ⊢
        have hbefore : valuesOf name before = [] := List.length_eq_zero_iff.1 (by omega)
        rw [hbefore]
        exact Presence.read_congr (h.skips_eq presence) (hread depth)
      · simp [valuesOf_cons_of_ne (m := (marks, _)) (by simpa [htext] using hname)]
  | @item s doc doc' before after h ih =>
    cases depth with
    | zero => rfl
    | succ depth =>
      have hread := ih hdistinct depth
      simp [Shape.read, Decoder.list, hread]

end Shape

end JitAccess.Json
