import JitAccess.Proofs.Failure.Disclosure
import JitAccess.Proofs.Json.Object
import Mathlib

/-!
# When an error report is recognised

The body of a failed reply is decoded as a whole. So the code and the message of a report come through
exactly where everything else that the decoder looks at can be read, too.

* `ErrorDetail.IsDetail`: which documents are details, within a depth.
* `ErrorDetail.isSome_decoder_iff`: these are the ones that are decoded.
* `failWith_reports_iff`: which replies with a code and a message are told by them.
-/

namespace JitAccess

open Http Json

/-! ## Texts and lists -/

namespace Json

theorem isSome_list_iff {α : Type} {item : Decoder α} {depth : Nat} {doc : Document} :
    (Decoder.list item (depth + 1) doc).isSome ↔
      ∃ items, doc = .array items ∧ ∀ i ∈ items, (item depth i).isSome := by
  cases doc <;> simp [Decoder.list, isSome_mapM_iff]

/-- Whether a field may hold a text, or nothing. -/
def TextSlot : Slot → Prop
  | .given (.string marks) => (markText? marks).isSome
  | .given .null => True
  | .given _ => False
  | .absent => True
  | .leftOff => False

theorem isSome_optional_string_iff (depth : Nat) {slot : Slot} :
    (Decoder.optional Decoder.string depth slot).isSome ↔ TextSlot slot := by
  rcases slot with doc | _ | _
  · cases doc <;> simp [Decoder.optional, Decoder.nullable, Decoder.string, TextSlot]
  · simp [Decoder.optional, TextSlot]
  · simp [Decoder.optional, TextSlot]

end Json

/-! ## Details -/

namespace ErrorDetail

theorem listDecoder_eq : listDecoder = Decoder.list decoder := by
  funext depth doc
  cases depth <;> cases doc <;> simp only [listDecoder, Decoder.list]

/-- A detail that is decoded is made from what the document says about its fields. -/
theorem decoder_eq_some_iff {depth : Nat} {doc : Document} {detail : ErrorDetail} :
    decoder (depth + 1) doc = some detail ↔ ∃ slot, Decoder.slots? fields doc = some slot ∧
      Decoder.optional Decoder.string depth (slot "code") = some detail.code ∧
      Decoder.optional Decoder.string depth (slot "message") = some detail.message ∧
      Decoder.optional Decoder.string depth (slot "target") = some detail.target ∧
      Decoder.defaulting [] (Decoder.list decoder) depth (slot "details") =
        some detail.details := by
  obtain ⟨code, message, target, details⟩ := detail
  have hlist (slot : Slot) : Decoder.defaulting [] (fun _ => listDecoder depth) depth slot =
      Decoder.defaulting [] (Decoder.list decoder) depth slot := by
    rw [listDecoder_eq]
    cases slot <;> rfl
  rw [decoder, Option.bind_eq_some_iff]
  simp only [hlist, Option.bind_eq_bind, Option.bind_eq_some_iff, Option.some.injEq, mk.injEq]
  constructor
  · rintro ⟨slot, hslot, _, hcode, _, hmessage, _, htarget, _, hdetails, rfl, rfl, rfl, rfl⟩
    exact ⟨slot, hslot, hcode, hmessage, htarget, hdetails⟩
  · rintro ⟨slot, hslot, hcode, hmessage, htarget, hdetails⟩
    exact ⟨slot, hslot, _, hcode, _, hmessage, _, htarget, _, hdetails, rfl, rfl, rfl, rfl⟩

/-- Whether a document is a detail of an error, looked into up to a depth. -/
inductive IsDetail : Nat → Document → Prop
  | leaf {depth : Nat} {doc : Document} {slot : String → Slot}
      (hslots : Decoder.slots? fields doc = some slot)
      (htexts : ∀ name ∈ ["code", "message", "target"], TextSlot (slot name))
      (hdetails : ∀ inner, slot "details" ≠ .given inner) : IsDetail (depth + 1) doc
  | node {depth : Nat} {doc : Document} {slot : String → Slot} {items : List Document}
      (hslots : Decoder.slots? fields doc = some slot)
      (htexts : ∀ name ∈ ["code", "message", "target"], TextSlot (slot name))
      (hdetails : slot "details" = .given (.array items))
      (hitems : ∀ item ∈ items, IsDetail depth item) : IsDetail (depth + 2) doc

theorem isSome_decoder_succ_iff {depth : Nat} {doc : Document} :
    (decoder (depth + 1) doc).isSome ↔ ∃ slot, Decoder.slots? fields doc = some slot ∧
      (∀ name ∈ ["code", "message", "target"], TextSlot (slot name)) ∧
        (Decoder.defaulting [] (Decoder.list decoder) depth (slot "details")).isSome := by
  simp only [Option.isSome_iff_exists, decoder_eq_some_iff, List.forall_mem_cons,
    List.not_mem_nil, false_imp_iff, implies_true, and_true, ← isSome_optional_string_iff depth]
  constructor
  · rintro ⟨detail, slot, hslot, hcode, hmessage, htarget, hdetails⟩
    exact ⟨slot, hslot, ⟨⟨_, hcode⟩, ⟨_, hmessage⟩, _, htarget⟩, _, hdetails⟩
  · rintro ⟨slot, hslot, ⟨⟨code, hcode⟩, ⟨message, hmessage⟩, target, htarget⟩, details, hdetails⟩
    exact ⟨⟨code, message, target, details⟩, slot, hslot, hcode, hmessage, htarget, hdetails⟩

/-- The documents that are details are those that are decoded. -/
theorem isSome_decoder_iff {depth : Nat} {doc : Document} :
    (decoder depth doc).isSome ↔ IsDetail depth doc := by
  induction depth using Nat.strongRecOn generalizing doc with
  | ind depth ih =>
  constructor
  · intro h
    cases depth with
    | zero => simp [decoder] at h
    | succ depth =>
      obtain ⟨slot, hslots, htexts, hdetails⟩ := isSome_decoder_succ_iff.1 h
      cases hslot : slot "details" with
      | absent => exact .leaf hslots htexts (by simp [hslot])
      | leftOff => exact .leaf hslots htexts (by simp [hslot])
      | given inner =>
        rw [hslot] at hdetails
        -- A list takes up one of the depth that is left.
        cases depth with
        | zero => cases hdetails
        | succ depth =>
          obtain ⟨items, rfl, hitems⟩ := isSome_list_iff.1 hdetails
          exact .node hslots htexts hslot fun item hitem =>
            (ih depth (by omega)).1 (hitems item hitem)
  · intro h
    cases h with
    | @leaf depth _ slot hslots htexts hdetails =>
      refine isSome_decoder_succ_iff.2 ⟨slot, hslots, htexts, ?_⟩
      cases hslot : slot "details" with
      | given inner => exact absurd hslot (hdetails inner)
      | absent => rfl
      | leftOff => rfl
    | @node depth _ slot items hslots htexts hdetails hitems =>
      refine isSome_decoder_succ_iff.2 ⟨slot, hslots, htexts, ?_⟩
      rw [hdetails]
      exact isSome_list_iff.2
        ⟨items, rfl, fun item hitem => (ih depth (by omega)).2 (hitems item hitem)⟩

/-- The details within a detail are left out, or they are a list of details. -/
theorem isSome_details_iff {depth : Nat} {docs : List Document} :
    docs.length ≤ 1 ∧
        (Decoder.defaulting [] (Decoder.list decoder) (depth + 1) (slotOf docs)).isSome ↔
      docs = [] ∨ ∃ items, docs = [.array items] ∧ ∀ item ∈ items, IsDetail depth item := by
  have hgiven (doc : Document) :
      (Decoder.defaulting [] (Decoder.list decoder) (depth + 1) (.given doc)).isSome ↔
        ∃ items, doc = .array items ∧ ∀ item ∈ items, IsDetail depth item := by
    simp only [← isSome_decoder_iff]
    exact isSome_list_iff
  refine (slotOf_iff docs
    (fun slot => (Decoder.defaulting [] (Decoder.list decoder) (depth + 1) slot).isSome) rfl).trans
    (or_congr_right ⟨?_, ?_⟩)
  · rintro ⟨doc, hdocs, hsome⟩
    obtain ⟨items, rfl, hitems⟩ := (hgiven doc).1 hsome
    exact ⟨items, hdocs, hitems⟩
  · rintro ⟨items, hdocs, hitems⟩
    exact ⟨_, hdocs, (hgiven _).2 ⟨items, rfl, hitems⟩⟩

end ErrorDetail

/-! ## Reports -/

variable {body : List UInt8} {outer inner : List (List Mark × Document)} {code message : String}

/-- Whether a body is an object with an error that has a code and a message, one of each. -/
structure SaysError (body : List UInt8) (outer inner : List (List Mark × Document))
    (code message : String) : Prop where
  read : Document.read? body = some (.object outer)
  error : valuesOf "error" outer = [.object inner]
  code : ∃ marks, valuesOf "code" inner = [.string marks] ∧ markText? marks = some code
  message : ∃ marks, valuesOf "message" inner = [.string marks] ∧ markText? marks = some message

/-- Whether what stands around the code and the message of an error can be read. Members with other
names may be anything. -/
structure SurroundingsRead (outer inner : List (List Mark × Document)) : Prop where
  outerNames : NamesRead outer
  innerNames : NamesRead inner
  target : valuesOf "target" inner = [] ∨
    ∃ doc, valuesOf "target" inner = [doc] ∧ TextSlot (.given doc)
  details : valuesOf "details" inner = [] ∨
    ∃ items, valuesOf "details" inner = [.array items] ∧ ∀ item ∈ items, ErrorDetail.IsDetail 124 item

namespace SaysError

theorem run_eq_some_iff (h : SaysError body outer inner code message) {report : ErrorReport} :
    Decoder.run ErrorReport.decoder body = some report ↔
      NamesRead outer ∧ ErrorDetail.decoder 126 (.object inner) = some report.error := by
  rw [Decoder.run, h.read]
  show (Decoder.slots? ["error"] (.object outer)).bind (fun slot =>
    (Decoder.required ErrorDetail.decoder 126 (slot "error")).map ErrorReport.mk) = some report ↔ _
  rw [Option.bind_eq_some_iff]
  constructor
  · rintro ⟨slot, hslot, hreport⟩
    obtain ⟨hnames, -, rfl⟩ := slots?_object_iff.1 hslot
    simp only [h.error, Option.map_eq_some_iff] at hreport
    obtain ⟨error, herror, rfl⟩ := hreport
    exact ⟨hnames, herror⟩
  · rintro ⟨hnames, herror⟩
    refine ⟨_, slots?_object_iff.2 ⟨hnames, by simp [h.error], rfl⟩, ?_⟩
    simp only [h.error, Option.map_eq_some_iff]
    exact ⟨report.error, herror, rfl⟩

theorem isDetail_iff (h : SaysError body outer inner code message) :
    ErrorDetail.IsDetail 126 (.object inner) ↔
      NamesRead inner ∧
        (valuesOf "target" inner = [] ∨
          ∃ doc, valuesOf "target" inner = [doc] ∧ TextSlot (.given doc)) ∧
        (valuesOf "details" inner = [] ∨ ∃ items, valuesOf "details" inner = [.array items] ∧
          ∀ item ∈ items, ErrorDetail.IsDetail 124 item) := by
  obtain ⟨codeMarks, hcode, hcodeText⟩ := h.code
  obtain ⟨messageMarks, hmessage, hmessageText⟩ := h.message
  have hcodeSlot : TextSlot (.given (.string codeMarks)) := Option.isSome_of_eq_some hcodeText
  have hmessageSlot : TextSlot (.given (.string messageMarks)) :=
    Option.isSome_of_eq_some hmessageText
  have htarget := slotOf_iff (valuesOf "target" inner) TextSlot trivial
  rw [← ErrorDetail.isSome_decoder_iff, ErrorDetail.isSome_decoder_succ_iff, ← htarget,
    ← ErrorDetail.isSome_details_iff]
  simp only [slots?_object_iff, ErrorDetail.fields, List.forall_mem_cons, List.not_mem_nil,
    false_imp_iff, implies_true, and_true]
  constructor
  · rintro ⟨slot, ⟨hnames, ⟨-, -, htargetOne, hdetailsOne⟩, rfl⟩, ⟨-, -, htargetText⟩, hdetailsRead⟩
    exact ⟨hnames, ⟨htargetOne, htargetText⟩, hdetailsOne, hdetailsRead⟩
  · rintro ⟨hnames, ⟨htargetOne, htargetText⟩, hdetailsOne, hdetailsRead⟩
    refine ⟨_, ⟨hnames, ⟨?_, ?_, htargetOne, hdetailsOne⟩, rfl⟩, ⟨?_, ?_, htargetText⟩,
      hdetailsRead⟩
    · simp [hcode]
    · simp [hmessage]
    · rw [hcode]
      exact hcodeSlot
    · rw [hmessage]
      exact hmessageSlot

/-- A report is decoded exactly if all around its code and its message can be read. -/
theorem isSome_run_iff (h : SaysError body outer inner code message) :
    (Decoder.run ErrorReport.decoder body).isSome ↔ SurroundingsRead outer inner := by
  have hrun : (Decoder.run ErrorReport.decoder body).isSome ↔
      NamesRead outer ∧ ErrorDetail.IsDetail 126 (.object inner) := by
    simp only [← ErrorDetail.isSome_decoder_iff, Option.isSome_iff_exists, h.run_eq_some_iff,
      exists_and_left]
    exact and_congr_right fun _ => ⟨fun ⟨report, hreport⟩ => ⟨_, hreport⟩,
      fun ⟨error, herror⟩ => ⟨⟨error⟩, herror⟩⟩
  rw [hrun, h.isDetail_iff]
  exact ⟨fun ⟨houter, hinner, htarget, hdetails⟩ => ⟨houter, hinner, htarget, hdetails⟩,
    fun ⟨houter, hinner, htarget, hdetails⟩ => ⟨houter, hinner, htarget, hdetails⟩⟩

/-- A report that is decoded has the code and the message. -/
theorem of_run_eq_some (h : SaysError body outer inner code message) {report : ErrorReport}
    (hreport : Decoder.run ErrorReport.decoder body = some report) :
    report.error.code = some code ∧ report.error.message = some message := by
  obtain ⟨-, herror⟩ := h.run_eq_some_iff.1 hreport
  obtain ⟨slot, hslot, hcode, hmessage, -⟩ := ErrorDetail.decoder_eq_some_iff.1 herror
  obtain ⟨-, -, rfl⟩ := slots?_object_iff.1 hslot
  obtain ⟨codeMarks, hcodeGiven, hcodeText⟩ := h.code
  obtain ⟨messageMarks, hmessageGiven, hmessageText⟩ := h.message
  simp only [hcodeGiven, hmessageGiven, slotOf, Decoder.optional, Decoder.nullable, Decoder.string,
    hcodeText, hmessageText, Option.map_some, Option.some.injEq] at hcode hmessage
  exact ⟨hcode.symm, hmessage.symm⟩

/-- What a failed reply with a report tells, decoded or not. -/
theorem codeAndDetail_eq (h : SaysError body outer inner code message) (status : Http.Status) :
    (SurroundingsRead outer inner → codeAndDetail status body = (some code, message)) ∧
      (¬ SurroundingsRead outer inner → codeAndDetail status body = (none, bodyText body)) := by
  have hempty : body.isEmpty = false := by
    cases hbody : body with
    | nil =>
      have hread := h.read
      rw [hbody] at hread
      cases hread
    | cons b body => rfl
  rw [← h.isSome_run_iff, codeAndDetail]
  cases hreport : Decoder.run ErrorReport.decoder body with
  | none => simp [hempty]
  | some report => simp [(h.of_run_eq_some hreport).1, (h.of_run_eq_some hreport).2]

end SaysError

/-- **A report is recognised as a whole or not at all.** The failure that a reply with a code and a
message comes to is told by just these exactly if everything else that is read of its body can be
read: the names of all members as texts, the target as a text or null, and the details as a list of
details. Otherwise it has no code, and its detail is the whole body. -/
theorem failWith_reports_iff {r : Http.Reply} {body : List UInt8}
    {outer inner : List (List Mark × Document)} {code message : String} (hbody : r.body = some body)
    (h : SaysError body outer inner code message) (k : Classification) (w : World) :
    ∃ kind reply, ((failWith k r : Run Http.Reply).attempt w).1 = .error (.http kind reply) ∧
      (reply.code = some code ∧
          reply.detail = String.ofList (Redaction.presentable message.toList) ↔
        SurroundingsRead outer inner) ∧
      (¬ SurroundingsRead outer inner → reply.code = none ∧
        reply.detail = String.ofList (Redaction.presentable (bodyText body).toList)) := by
  refine ⟨k.classify r.status, .ofReply r, outcome_failWith k r w, ?_⟩
  have hcode : (FailedReply.ofReply r).code = (codeAndDetail r.status body).1 := by
    rw [FailedReply.ofReply, hbody]
    rfl
  have hdetail : (FailedReply.ofReply r).detail =
      String.ofList (Redaction.presentable (codeAndDetail r.status body).2.toList) := by
    rw [FailedReply.detail_ofReply, hbody]
    rfl
  rw [hcode, hdetail]
  obtain ⟨hread, hunread⟩ := h.codeAndDetail_eq r.status
  by_cases hsurroundings : SurroundingsRead outer inner
  · rw [hread hsurroundings]
    exact ⟨iff_of_true ⟨rfl, rfl⟩ hsurroundings, absurd hsurroundings⟩
  · rw [hunread hsurroundings]
    exact ⟨iff_of_false nofun hsurroundings, fun _ => ⟨rfl, rfl⟩⟩

/-- An error report with a code, a message and some more. -/
def denial (others : String) : List UInt8 :=
  Text.Utf8.encode ("\x7b\"error\":\x7b\"code\":\"Denied\",\"message\":\"no\"," ++ others ++
    "\x7d\x7d").toList

/-- The members of the error of such a report, where it has one more. -/
def denialMembers (name : String) (doc : Document) : List (List Mark × Document) :=
  [(plain "code", .string (plain "Denied")), (plain "message", .string (plain "no")),
    (plain name, doc)]

/-- A report is recognised with details that are themselves of little content. -/
theorem failWith_reports_denial :
    SaysError (denial "\"details\":[\x7b\"target\":null\x7d]")
        [(plain "error", .object (denialMembers "details"
          (.array [.object [(plain "target", .null)]])))]
        (denialMembers "details" (.array [.object [(plain "target", .null)]])) "Denied" "no" ∧
      ∃ kind reply, ((failWith .standard
          ⟨400, [], some (denial "\"details\":[\x7b\"target\":null\x7d]")⟩ :
            Run Http.Reply).attempt { service := .unreachable }).1 = .error (.http kind reply) ∧
        reply.code = some "Denied" ∧
        reply.detail = String.ofList (Redaction.presentable "no".toList) := by
  have hsaid : SaysError (denial "\"details\":[\x7b\"target\":null\x7d]")
      [(plain "error", .object (denialMembers "details"
        (.array [.object [(plain "target", .null)]])))]
      (denialMembers "details" (.array [.object [(plain "target", .null)]])) "Denied" "no" :=
    { read := by cbv
      error := by cbv
      code := ⟨plain "Denied", by cbv, by cbv⟩
      message := ⟨plain "no", by cbv, by cbv⟩ }
  refine ⟨hsaid, ?_⟩
  have hread := hsaid.isSome_run_iff.1 (by decide +kernel)
  have hbody : (⟨400, [], some (denial "\"details\":[\x7b\"target\":null\x7d]")⟩ : Http.Reply).body =
      some (denial "\"details\":[\x7b\"target\":null\x7d]") := rfl
  obtain ⟨kind, reply, hfail, hreports, -⟩ := failWith_reports_iff hbody hsaid .standard
    { service := .unreachable }
  exact ⟨kind, reply, hfail, hreports.2 hread⟩

/-- Not every report is recognised: with details that are null, code and message are lost. -/
theorem not_forall_failWith_reports :
    ¬ ∀ (r : Http.Reply) (body : List UInt8) (outer inner : List (List Mark × Document))
      (code message : String) (k : Classification) (w : World) (kind : FailureKind)
      (reply : FailedReply),
      r.body = some body → SaysError body outer inner code message →
      ((failWith k r : Run Http.Reply).attempt w).1 = .error (.http kind reply) →
      reply.code = some code ∧
        reply.detail = String.ofList (Redaction.presentable message.toList) := by
  intro h
  have hsaid : SaysError (denial "\"details\":null")
      [(plain "error", .object (denialMembers "details" .null))]
      (denialMembers "details" .null) "Denied" "no" :=
    { read := by cbv
      error := by cbv
      code := ⟨plain "Denied", by cbv, by cbv⟩
      message := ⟨plain "no", by cbv, by cbv⟩ }
  obtain ⟨hcode, -⟩ := h ⟨400, [], some (denial "\"details\":null")⟩ _ _ _ _ _ .standard
    { service := .unreachable } _ _ rfl hsaid (outcome_failWith _ _ _)
  exact absurd hcode (by decide +kernel)

end JitAccess
