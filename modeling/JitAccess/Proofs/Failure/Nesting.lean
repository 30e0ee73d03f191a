import JitAccess.Proofs.Failure.Classifying
import JitAccess.Proofs.Failure.Report
import JitAccess.Proofs.Json.Writing
import Mathlib

/-!
# Trees of details

The details of an error are a tree, and in a report each detail is an object within the array of the
detail above it. The decoder follows them level by level, up to its depth. So it either gives back the
tree, or nothing of it.

* `ErrorDetail.Shows`: which documents show a tree of details.
* `ErrorDetail.levels_bounds`: how deep such documents are nested.
* `ErrorDetail.decoder_of_shows`: what a decoder makes of them at each depth.
* `ErrorReport.decodes_tree`: what becomes of the report of a tree.
-/

namespace JitAccess

open Http Json

namespace ErrorDetail

/-! ## Trees -/

/-- What is proved of a detail from those inside it holds of all details. -/
theorem induction {p : ErrorDetail → Prop}
    (node : ∀ code message target details, (∀ d ∈ details, p d) → p ⟨code, message, target, details⟩)
    (detail : ErrorDetail) : p detail :=
  ErrorDetail.rec (motive_1 := p) (motive_2 := fun details => ∀ d ∈ details, p d) node
    (List.forall_mem_nil _) (fun _ _ hd hdetails => List.forall_mem_cons.2 ⟨hd, hdetails⟩) detail

mutual

/-- How many details are inside each other in a tree. -/
def height : ErrorDetail → Nat
  | ⟨_, _, _, details⟩ => heights details + 1

/-- How many there are in the highest of several trees. -/
def heights : List ErrorDetail → Nat
  | [] => 0
  | d :: ds => max (height d) (heights ds)

end

/-! ## Documents that show them -/

/-- Whether a member shows a text. Where there is none it may be null or left out. -/
inductive ShowsText : List Document → Option String → Prop
  | leftOut : ShowsText [] none
  | null : ShowsText [.null] none
  | text {marks : List Mark} {s : String} (hmarks : markText? marks = some s) :
      ShowsText [.string marks] (some s)

/-- Whether a document shows a tree of details. Its objects may have members of other names, too, if
this is allowed of all of their members. -/
inductive Shows (allowed : List (List Mark × Document) → Prop) : Document → ErrorDetail → Prop
  /-- An empty list of details may be left out. -/
  | alone {members : List (List Mark × Document)} {code message target : Option String}
      (hmembers : allowed members) (hcode : ShowsText (valuesOf "code" members) code)
      (hmessage : ShowsText (valuesOf "message" members) message)
      (htarget : ShowsText (valuesOf "target" members) target)
      (hdetails : valuesOf "details" members = []) :
      Shows allowed (.object members) ⟨code, message, target, []⟩
  | node {members : List (List Mark × Document)} {code message target : Option String}
      {items : List Document} {details : List ErrorDetail}
      (hmembers : allowed members) (hcode : ShowsText (valuesOf "code" members) code)
      (hmessage : ShowsText (valuesOf "message" members) message)
      (htarget : ShowsText (valuesOf "target" members) target)
      (hdetails : valuesOf "details" members = [.array items])
      (hitems : List.Forall₂ (Shows allowed) items details) :
      Shows allowed (.object members) ⟨code, message, target, details⟩

mutual

/-- How many objects and arrays of details are inside each other in a document. -/
def levels : Document → Nat
  | .object members => memberLevels members + 1
  | .array items => itemLevels items + 1
  | _ => 0

/-- How many there are in the deepest of several documents. -/
def itemLevels : List Document → Nat
  | [] => 0
  | doc :: docs => max (levels doc) (itemLevels docs)

/-- How many there are in the deepest of the members for details. -/
def memberLevels : List (List Mark × Document) → Nat
  | [] => 0
  | (name, doc) :: members =>
    if markText? name = some "details" then max (levels doc) (memberLevels members)
    else memberLevels members

end

theorem memberLevels_eq (members : List (List Mark × Document)) :
    memberLevels members = itemLevels (valuesOf "details" members) := by
  induction members with
  | nil => rfl
  | cons m members ih =>
    obtain ⟨name, doc⟩ := m
    rw [memberLevels]
    by_cases hname : markText? name = some "details"
    · rw [if_pos hname, valuesOf_cons_of_eq hname, itemLevels, ih]
    · rw [if_neg hname, valuesOf_cons_of_ne hname, ih]

variable {allowed : List (List Mark × Document) → Prop} {members : List (List Mark × Document)}
  {items : List Document} {doc : Document} {detail : ErrorDetail} {details : List ErrorDetail}
  {code message target : Option String}

theorem levels_of_alone (h : valuesOf "details" members = []) : levels (.object members) = 1 := by
  rw [levels, memberLevels_eq, h]
  rfl

theorem levels_of_node (h : valuesOf "details" members = [.array items]) :
    levels (.object members) = itemLevels items + 2 := by
  rw [levels, memberLevels_eq, h, itemLevels, levels]
  exact congrArg (· + 1) (Nat.max_zero _)

theorem itemLevels_bounds (h : List.Forall₂ (Shows allowed) items details)
    (hbounds : ∀ d ∈ details, ∀ doc, Shows allowed doc d →
      2 * height d ≤ levels doc + 1 ∧ levels doc ≤ 2 * height d) :
    2 * heights details ≤ itemLevels items + 1 ∧ itemLevels items ≤ 2 * heights details := by
  induction h with
  | nil => decide
  | cons hd _ ih =>
    obtain ⟨hfirst, hrest⟩ := List.forall_mem_cons.1 hbounds
    have hhead := hfirst _ hd
    have htail := ih hrest
    simp only [heights, itemLevels]
    omega

/-- Each level of a tree is shown by an object and an array, but for the last, where the array may be
missing. -/
theorem levels_bounds (h : Shows allowed doc detail) :
    2 * height detail ≤ levels doc + 1 ∧ levels doc ≤ 2 * height detail := by
  induction detail using induction generalizing doc with
  | node code message target details ih =>
  cases h with
  | alone _ _ _ _ hdetails =>
    rw [levels_of_alone hdetails]
    exact ⟨Nat.le_refl 2, Nat.le_succ 1⟩
  | node _ _ _ _ hdetails hitems =>
    have hheights := itemLevels_bounds hitems fun d hd _ => ih d hd
    rw [levels_of_node hdetails, height]
    omega

/-! ## Decoding -/

theorem ShowsText.length_le {docs : List Document} {text : Option String} (h : ShowsText docs text) :
    docs.length ≤ 1 := by
  cases h <;> simp

theorem ShowsText.decoded {docs : List Document} {text : Option String} (h : ShowsText docs text)
    (depth : Nat) : Decoder.optional Decoder.string depth (slotOf docs) = some text := by
  cases h with
  | leftOut => rfl
  | null => rfl
  | text hmarks => simp [slotOf, Decoder.optional, Decoder.nullable, Decoder.string, hmarks]

theorem decoder_object (hnames : NamesRead members)
    (hcode : ShowsText (valuesOf "code" members) code)
    (hmessage : ShowsText (valuesOf "message" members) message)
    (htarget : ShowsText (valuesOf "target" members) target)
    (hdetails : (valuesOf "details" members).length ≤ 1) (depth : Nat) :
    decoder (depth + 1) (.object members) =
      (Decoder.defaulting [] (Decoder.list decoder) depth
        (slotOf (valuesOf "details" members))).map (⟨code, message, target, ·⟩) := by
  have hone : ∀ name ∈ fields, (valuesOf name members).length ≤ 1 := by
    simpa [fields] using ⟨hcode.length_le, hmessage.length_le, htarget.length_le, hdetails⟩
  ext detail
  rw [decoder_eq_some_iff, Option.map_eq_some_iff]
  constructor
  · rintro ⟨slot, hslots, hcode', hmessage', htarget', hdetails'⟩
    obtain ⟨-, -, rfl⟩ := slots?_object_iff.1 hslots
    rw [hcode.decoded, Option.some.injEq] at hcode'
    rw [hmessage.decoded, Option.some.injEq] at hmessage'
    rw [htarget.decoded, Option.some.injEq] at htarget'
    refine ⟨detail.details, hdetails', ?_⟩
    rw [hcode', hmessage', htarget']
    cases detail
    rfl
  · rintro ⟨details, hdecoded, rfl⟩
    exact ⟨_, slots?_object_iff.2 ⟨hnames, hone, rfl⟩, hcode.decoded depth, hmessage.decoded depth,
      htarget.decoded depth, hdecoded⟩

theorem mapM_of_forall₂ {depth : Nat}
    (h : List.Forall₂ (fun doc d => decoder depth doc = if levels doc ≤ depth then some d else none)
      items details) :
    items.mapM (decoder depth) = if itemLevels items ≤ depth then some details else none := by
  induction h with
  | nil => rfl
  | @cons doc d items details hd _ ih =>
    rw [List.mapM_cons, hd, ih, itemLevels]
    by_cases hdoc : levels doc ≤ depth
    · by_cases hitems : itemLevels items ≤ depth
      · simp [hdoc, hitems]
      · simp [hdoc, hitems]
    · simp [hdoc]

/-- **A tree is decoded as a whole or not at all.** -/
theorem decoder_of_shows {depth : Nat} (h : Shows NamesRead doc detail) :
    decoder depth doc = if levels doc ≤ depth then some detail else none := by
  induction depth using Nat.strongRecOn generalizing doc detail with
  | ind depth ih =>
  cases h with
  | alone hnames hcode hmessage htarget hdetails =>
    rw [levels_of_alone hdetails]
    cases depth with
    | zero => rfl
    | succ depth =>
      rw [decoder_object hnames hcode hmessage htarget (by simp [hdetails]), hdetails,
        if_pos (Nat.le_add_left 1 depth)]
      rfl
  | node hnames hcode hmessage htarget hdetails hitems =>
    rw [levels_of_node hdetails]
    -- The object and the array take up one each of the depth that is left.
    match depth with
    | 0 => rfl
    | 1 =>
      rw [decoder_object hnames hcode hmessage htarget (by simp [hdetails]), hdetails,
        if_neg (by omega)]
      rfl
    | depth + 2 =>
      have hmapM := mapM_of_forall₂ (hitems.imp fun _ _ hshows => ih depth (by omega) hshows)
      rw [decoder_object hnames hcode hmessage htarget (by simp [hdetails]), hdetails]
      simp only [slotOf, Decoder.defaulting, Decoder.list, hmapM, Nat.add_le_add_iff_right]
      exact apply_ite ..

/-! ## Reports -/

/-- Whether a body is an object with an error, and nothing that is not allowed of its members. -/
def Envelops (allowed : List (List Mark × Document) → Prop) (body : List UInt8) (inner : Document) :
    Prop :=
  ∃ outer, Document.read? body = some (.object outer) ∧ allowed outer ∧
    valuesOf "error" outer = [inner]

theorem Envelops.ne_nil {body : List UInt8} (h : Envelops allowed body doc) : body ≠ [] := by
  obtain ⟨outer, hread, -⟩ := h
  rintro rfl
  cases hread

theorem run_of_envelops {body : List UInt8} (h : Envelops NamesRead body doc) :
    Decoder.run ErrorReport.decoder body = (decoder 126 doc).map ErrorReport.mk := by
  obtain ⟨outer, hread, hnames, herror⟩ := h
  have hone : ∀ name ∈ ["error"], (valuesOf name outer).length ≤ 1 := by simp [herror]
  have hslots := slots?_object_iff.2 ⟨hnames, hone, rfl⟩
  rw [Decoder.run, hread]
  show (Decoder.slots? ["error"] (.object outer)).bind (fun slot =>
    (Decoder.required decoder 126 (slot "error")).map ErrorReport.mk) = _
  rw [hslots]
  simp only [Option.bind_some, herror]
  rfl

/-! ## How a tree may be written -/

/-- A text, or null. -/
def textValue (text : Option String) : Value := (text.map .string).getD .null

mutual

/-- The value that shows a tree, with all members written. -/
def value : ErrorDetail → Value
  | ⟨code, message, target, details⟩ => .object [("code", textValue code),
    ("message", textValue message), ("target", textValue target), ("details", .array (values details))]

/-- The values that show several trees. -/
def values : List ErrorDetail → List Value
  | [] => []
  | d :: ds => value d :: values ds

end

theorem showsText_of_means {docs : List Document} {text : Option String}
    (h : List.Forall₂ Document.Means docs [textValue text]) : ShowsText docs text := by
  obtain ⟨doc, docs, hdoc, hnil, rfl⟩ := List.forall₂_cons_right_iff.1 h
  obtain rfl := List.forall₂_nil_right_iff.1 hnil
  cases text with
  | none =>
    cases hdoc
    exact .null
  | some s =>
    cases hdoc with
    | string hmarks => exact .text hmarks

theorem forall₂_shows_of_means (h : List.Forall₂ Document.Means items (values details))
    (hshows : ∀ d ∈ details, ∀ doc, doc.Means (value d) → Shows NamesRead doc d) :
    List.Forall₂ (Shows NamesRead) items details := by
  induction details generalizing items with
  | nil =>
    obtain rfl := List.forall₂_nil_right_iff.1 h
    exact .nil
  | cons d details ih =>
    obtain ⟨hfirst, hrest⟩ := List.forall_mem_cons.1 hshows
    obtain ⟨doc, docs, hdoc, hdocs, rfl⟩ := List.forall₂_cons_right_iff.1 h
    exact .cons (hfirst doc hdoc) (ih hdocs hrest)

theorem shows_of_means (h : doc.Means (value detail)) : Shows NamesRead doc detail := by
  induction detail using induction generalizing doc with
  | node code message target details ih =>
  rw [value] at h
  cases h with
  | object hnames hvalues =>
    obtain ⟨array, docs, hdoc, hnil, hdetails⟩ := List.forall₂_cons_right_iff.1 (hvalues "details")
    obtain rfl := List.forall₂_nil_right_iff.1 hnil
    cases hdoc with
    | array hitems =>
      exact .node hnames (showsText_of_means (hvalues "code"))
        (showsText_of_means (hvalues "message")) (showsText_of_means (hvalues "target")) hdetails
        (forall₂_shows_of_means hitems fun d hd _ => ih d hd)

theorem exact_textValue (text : Option String) : (textValue text).Exact := by
  cases text with
  | none => exact .null
  | some s => exact .string s

theorem exact_of_mem_values (h : ∀ d ∈ details, (value d).Exact) :
    ∀ v ∈ values details, v.Exact := by
  induction details with
  | nil => exact List.forall_mem_nil _
  | cons d details ih =>
    obtain ⟨hfirst, hrest⟩ := List.forall_mem_cons.1 h
    exact List.forall_mem_cons.2 ⟨hfirst, ih hrest⟩

theorem exact_value (detail : ErrorDetail) : (value detail).Exact := by
  induction detail using induction with
  | node code message target details ih =>
    rw [value]
    apply Value.Exact.object
    simp only [List.forall_mem_cons, List.not_mem_nil, false_imp_iff, implies_true, and_true]
    exact ⟨exact_textValue code, exact_textValue message, exact_textValue target,
      .array (exact_of_mem_values ih)⟩

/-- The report of a tree as it may be written. -/
def report (detail : ErrorDetail) : List UInt8 := (Value.object [("error", detail.value)]).write

/-- Every tree can be shown by a report. -/
theorem exists_report (detail : ErrorDetail) :
    ∃ inner, Envelops NamesRead detail.report inner ∧ Shows NamesRead inner detail := by
  have hexact : (Value.object [("error", detail.value)]).Exact := by
    apply Value.Exact.object
    simpa using exact_value detail
  obtain ⟨doc, hread, hmeans⟩ := tells_write hexact
  cases hmeans with
  | object hnames hvalues =>
    obtain ⟨inner, docs, hinner, hnil, herror⟩ := List.forall₂_cons_right_iff.1 (hvalues "error")
    obtain rfl := List.forall₂_nil_right_iff.1 hnil
    exact ⟨inner, ⟨_, hread, hnames, herror⟩, shows_of_means hinner⟩

end ErrorDetail

open ErrorDetail

/-- **A tree of details comes through a report as a whole or not at all.** Every tree can be shown by a
report. Whatever report shows it, with what it lacks null or left out and with any members of other names
that are texts: the levels of the report are the tree's twice, or one more. If they are no more than the
decoder goes down, it gives back just this tree. If they are more there is no report, and a reply with
this body fails as its status says, without a code and with the whole body as its detail, redacted and
cut. -/
theorem ErrorReport.decodes_tree (detail : ErrorDetail) :
    (∃ inner, Envelops NamesRead detail.report inner ∧ Shows NamesRead inner detail) ∧
    ∀ body inner, Envelops NamesRead body inner → Shows NamesRead inner detail →
      (2 * detail.height ≤ levels inner + 1 ∧ levels inner ≤ 2 * detail.height) ∧
      (levels inner + 1 ≤ depthLimit → Decoder.run ErrorReport.decoder body = some ⟨detail⟩) ∧
      (depthLimit < levels inner + 1 → Decoder.run ErrorReport.decoder body = none ∧
        ∀ (k : Classification) (r : Reply) (w : World), r.body = some body →
          ∃ reply, ((failWith k r : Run Reply).attempt w).1 =
              .error (.http (k.classify r.status) reply) ∧ reply.status = r.status ∧
            reply.code = none ∧
            reply.detail = String.ofList (Redaction.presentable (bodyText body).toList)) := by
  refine ⟨detail.exists_report, fun body inner hbody hshows => ⟨levels_bounds hshows, ?_, ?_⟩⟩
  · intro hlevels
    rw [run_of_envelops hbody, decoder_of_shows hshows, if_pos (Nat.le_of_succ_le_succ hlevels)]
    rfl
  · intro hlevels
    have hrun : Decoder.run ErrorReport.decoder body = none := by
      rw [run_of_envelops hbody, decoder_of_shows hshows,
        if_neg (Nat.not_le.2 (Nat.lt_of_succ_lt_succ hlevels))]
      rfl
    refine ⟨hrun, fun k r w hr => ⟨.ofReply r, outcome_failWith k r w, rfl, ?_⟩⟩
    have htold : codeAndDetail r.status (r.body.getD []) = (none, bodyText body) := by
      rw [hr]
      exact conveys_iff.1 (.raw hbody.ne_nil hrun)
    rw [FailedReply.detail_ofReply, htold]
    exact ⟨congrArg Prod.fst htold, rfl⟩

/-- The name of a member is read even if nobody asks for the member, and half of a pair of code units is
no text. -/
theorem not_forall_decodes_tree :
    ¬ ∀ (detail : ErrorDetail) (body : List UInt8) (inner : Document),
      Envelops (fun _ => True) body inner → Shows (fun _ => True) inner detail →
      levels inner + 1 ≤ depthLimit → Decoder.run ErrorReport.decoder body = some ⟨detail⟩ := by
  intro h
  have hbody : Envelops (fun _ => True) (denial "\"\\ud800\":1")
      (.object [(plain "code", .string (plain "Denied")), (plain "message", .string (plain "no")),
        ([.code 0xD800], .number ⟨false, [1], [], none⟩)]) :=
    ⟨_, by cbv, trivial, by cbv⟩
  have hdecoded := h ⟨some "Denied", some "no", none, []⟩ _ _ hbody
    (.alone trivial (.text (by cbv)) (.text (by cbv)) .leftOut (by cbv)) (by cbv)
  have hread := congrArg Option.isSome hdecoded
  exact absurd hread (by decide +kernel)

end JitAccess
