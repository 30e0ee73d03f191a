import JitAccess.Proofs.Failure.Disclosure
import Mathlib

/-!
# What a failed reply is taken for

The kind of a failure is that of its status. The body has a say in two texts only, the code and the
detail, and there is a rule for each body, be it empty, cut off, no text or no JSON.

* `Conveys`: which code and which detail a body is taken to tell.
* `Classifies`: what a failure keeps of the reply that it is about.
* `failWith_classifies`: every reply is classified, in one way only, and a request fails for a reply
  exactly if this is the last one and has no expected status.
-/

namespace JitAccess

open Http

/-! ## Header fields -/

/-- The values of the fields of a name, in order. The case of names does not matter. -/
def fieldValues (name : String) (fields : List Field) : List String :=
  (fields.filter (Text.eqIgnoringCase ·.1 name)).map (·.2)

theorem eqIgnoringCase_toLower (s t : String) :
    Text.eqIgnoringCase s.toLower t = Text.eqIgnoringCase s t := by
  have hlower : s.toLower.toList = s.toList.map Char.toLower := String.toList_map
  have hagain : Char.toLower ∘ Char.toLower = Char.toLower := by
    funext c
    exact Char.toLower_toLower_eq_toLower c
  unfold Text.eqIgnoringCase
  rw [hlower, List.map_map, hagain]

/-- A field is found under its name as before when all names are written in lower case. -/
theorem fieldValues_map_lowerName (name : String) (fields : List Field) :
    fieldValues name (fields.map lowerName) = fieldValues name fields := by
  unfold fieldValues
  rw [List.filter_map, List.map_map]
  apply congrArg (List.map _)
  apply List.filter_congr
  intro f _
  exact eqIgnoringCase_toLower f.1 name

/-! ## Bodies -/

/-- Which code and which detail the body of a reply is taken to tell. -/
inductive Conveys (status : Status) (body : List UInt8) : Option String → String → Prop
  /-- A report with a message tells both itself. -/
  | report {report : ErrorReport} {message : String}
      (hreport : Json.Decoder.run ErrorReport.decoder body = some report)
      (hmessage : report.error.message = some message) : Conveys status body report.error.code message
  /-- The whole body stands for the message that a report lacks. -/
  | silent {report : ErrorReport}
      (hreport : Json.Decoder.run ErrorReport.decoder body = some report)
      (hmessage : report.error.message = none) :
      Conveys status body report.error.code (bodyText body)
  /-- The phrase of the status stands for an empty body. -/
  | empty (hbody : body = []) : Conveys status body none (reasonPhrase status)
  /-- Any other body stands for itself. -/
  | raw (hbody : body ≠ []) (hreport : Json.Decoder.run ErrorReport.decoder body = none) :
      Conveys status body none (bodyText body)

theorem run_decoder_nil : Json.Decoder.run ErrorReport.decoder [] = none := rfl

/-- There is a rule for each body, and no more than one. -/
theorem conveys_iff {status : Status} {body : List UInt8} {code : Option String} {detail : String} :
    Conveys status body code detail ↔ codeAndDetail status body = (code, detail) := by
  unfold codeAndDetail
  constructor
  · intro h
    cases h with
    | report hreport hmessage => simp [hreport, hmessage]
    | silent hreport hmessage => simp [hreport, hmessage]
    | empty hbody => simp [hbody, run_decoder_nil]
    | raw hbody hreport => simp [hbody, hreport]
  · intro h
    cases hreport : Json.Decoder.run ErrorReport.decoder body with
    | some report =>
      simp only [hreport, Prod.mk.injEq] at h
      obtain ⟨rfl, rfl⟩ := h
      cases hmessage : report.error.message with
      | some message => exact .report hreport hmessage
      | none => exact .silent hreport hmessage
    | none =>
      simp only [hreport, Prod.mk.injEq] at h
      obtain ⟨rfl, rfl⟩ := h
      by_cases hbody : body = []
      · have hempty : Conveys status body none (reasonPhrase status) := .empty hbody
        simpa [hbody] using hempty
      · have hraw : Conveys status body none (bodyText body) := .raw hbody hreport
        simpa [hbody] using hraw

/-! ## Failures -/

/-- What a failure of some kind keeps of the reply that it is about. A body that could not be read
counts as empty. -/
structure Classifies (k : Classification) (r : Reply) (kind : FailureKind) (reply : FailedReply) :
    Prop where
  kind : kind = k.classify r.status
  status : reply.status = r.status
  fields : reply.fields = r.fields.map lowerName
  values (name : String) : fieldValues name reply.fields = fieldValues name r.fields
  body : reply.body = r.body.getD []
  told : ∃ detail, Conveys r.status reply.body reply.code detail ∧
    reply.detail = String.ofList (Redaction.presentable detail.toList)

/-- A reply is classified in one way only. -/
theorem classifies_iff {k : Classification} {r : Reply} {kind : FailureKind} {reply : FailedReply} :
    Classifies k r kind reply ↔ kind = k.classify r.status ∧ reply = .ofReply r := by
  have hof : FailedReply.ofReply r =
      { status := r.status, code := (codeAndDetail r.status (r.body.getD [])).1
        detail := String.ofList
          (Redaction.presentable (codeAndDetail r.status (r.body.getD [])).2.toList)
        fields := r.fields.map lowerName, body := r.body.getD [] } := rfl
  rw [hof]
  constructor
  · intro h
    obtain ⟨detail, hconveys, hdetail⟩ := h.told
    rw [h.body, conveys_iff] at hconveys
    obtain ⟨status, code, shown, fields, body⟩ := reply
    obtain rfl : status = _ := h.status
    obtain rfl : fields = _ := h.fields
    obtain rfl : body = _ := h.body
    obtain rfl : shown = _ := hdetail
    rw [hconveys]
    exact ⟨h.kind, rfl⟩
  · rintro ⟨rfl, rfl⟩
    exact
      { kind := rfl
        status := rfl
        fields := rfl
        values := fun name => fieldValues_map_lowerName name r.fields
        body := rfl
        told := ⟨_, conveys_iff.2 rfl, rfl⟩ }

namespace Client

variable {c : Client} {r : Request} {expected : List Status} {k : Classification} {w : World}

/-- A request fails for a reply exactly if this is the last one and has no expected status. -/
theorem outcome_send_eq_http_iff {kind : FailureKind} {reply : FailedReply} :
    ((c.send r expected k).attempt w).1 = .error (.http kind reply) ↔
      ∃ last, c.Meets r expected k w (.ok last) ∧ last.status ∉ expected ∧
        Classifies k last kind reply := by
  constructor
  · intro h
    rcases c.outcome_send_cases r expected k w with ⟨reason, hsend⟩ | hsend | ⟨last, hlast⟩
    · rw [hsend] at h
      cases h
    · rw [hsend] at h
      cases h
    · obtain ⟨value, m, n, hanswer, hm, hn, houtcome⟩ := id hlast
      rw [hlast.outcome_send, ← houtcome] at h
      obtain ⟨reply, hreply, hexpected, hclassifies⟩ := settle_outcome_eq_http_iff.1 h
      rw [← houtcome, hreply] at hlast
      exact ⟨reply, hlast, hexpected, classifies_iff.2 hclassifies⟩
  · rintro ⟨last, hlast, hexpected, hclassifies⟩
    obtain ⟨rfl, rfl⟩ := classifies_iff.1 hclassifies
    rw [hlast.outcome_send]
    exact if_neg hexpected

end Client

/-- **A failed reply is classified by its status and kept as it came.** Whatever its fields and its
body are, a reply is made into a failure of the kind that its status means. The failure has the status,
all fields and the body of the reply, the code and the detail that the body is taken to tell, and it is
the only one of which this holds. A request fails for a reply exactly if this is the last one that it
gets and its status is not an expected one. -/
theorem failWith_classifies (k : Classification) (w : World) :
    (∀ r : Reply, ∃ kind reply,
      ((failWith k r : Run Reply).attempt w).1 = .error (.http kind reply) ∧
      ∀ kind' reply', Classifies k r kind' reply' ↔ kind' = kind ∧ reply' = reply) ∧
    ∀ (c : Client) (q : Request) (expected : List Status) (kind : FailureKind) (reply : FailedReply),
      ((c.send q expected k).attempt w).1 = .error (.http kind reply) ↔
        ∃ r, c.Meets q expected k w (.ok r) ∧ r.status ∉ expected ∧ Classifies k r kind reply :=
  ⟨fun r => ⟨_, _, outcome_failWith k r w, fun _ _ => classifies_iff⟩,
    fun _ _ _ _ _ => Client.outcome_send_eq_http_iff⟩

end JitAccess
