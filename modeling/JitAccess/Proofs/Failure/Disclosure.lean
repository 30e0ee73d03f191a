import JitAccess.Proofs.Client.Retrying
import JitAccess.Proofs.Failure.Concealment

/-!
# What a failure discloses

The wording of a failed reply has two parts that its body has a say in: the detail, which is redacted
and cut, and the code, which is shown as it came.

* `Redaction.marker_append_cases`: markers of a text that is put together.
* `FailedReply.conceals_message_iff`, `FailedReply.byteLength_message`: what the wording tells, and
  its length, depend on the code alone.
* `failWith_discloses_code`: the same of every reply that is a failure.
-/

namespace JitAccess

open Redaction

namespace Redaction

/-! ## Excerpts -/

/-- A part of a text, with what stands before and after it. -/
structure Excerpt where
  before : List Char
  said : List Char
  after : List Char

/-- Whether a text tells of no token: each of its markers stands in one of some excerpts, and what
follows it there is concealed. -/
def Conceals (text : List Char) (excerpts : List Excerpt) : Prop :=
  ∀ before after, text = before ++ marker ++ after → ∃ e ∈ excerpts, ∃ b a,
    before = e.before ++ b ∧ e.said = b ++ marker ++ a ∧ after = a ++ e.after ∧ Concealed a

/-- A marker of two texts put together is one of the first or of the second, if the characters at
the joint are not those of a marker. -/
theorem marker_append_cases {front back before after : List Char}
    (hjoint : (∀ c ∈ front.getLast?, c ∉ "Bearer".toList) ∨ ∀ c ∈ back.head?, c ∉ marker)
    (heq : front ++ back = before ++ marker ++ after) :
    (∃ a, front = before ++ marker ++ a ∧ after = a ++ back) ∨
      ∃ b, before = front ++ b ∧ back = b ++ marker ++ after := by
  rw [List.append_assoc] at heq
  rcases List.append_eq_append_iff.1 heq with ⟨b, hbefore, hback⟩ | ⟨inner, hfront, hinner⟩
  · exact Or.inr ⟨b, hbefore, by rw [hback, List.append_assoc]⟩
  rcases List.append_eq_append_iff.1 hinner with ⟨a, hmarker, hafter⟩ | ⟨outer, hmarker, hback⟩
  · exact Or.inl ⟨a, by rw [hfront, hmarker, List.append_assoc], hafter⟩
  -- The marker is `inner ++ outer`, with the joint between the two.
  rcases List.eq_nil_or_concat inner with rfl | ⟨init, last, rfl⟩
  · exact Or.inr ⟨[], by rw [hfront, List.append_nil, List.append_nil], by
      rw [hback, hmarker, List.nil_append, List.nil_append]⟩
  cases outer with
  | nil =>
    rw [List.append_nil] at hmarker
    exact Or.inl ⟨[], by rw [hfront, hmarker, List.append_nil], hback.symm⟩
  | cons c outer =>
    exfalso
    rcases hjoint with hlast | hhead
    · refine hlast last (by rw [hfront]; simp) ?_
      have hbearer : "Bearer".toList = init ++ [last] ++ (c :: outer).dropLast := by
        rw [← List.concat_eq_append, ← List.dropLast_append_of_ne_nil (List.cons_ne_nil c outer),
          ← hmarker]
        decide
      rw [hbearer]
      simp
    · refine hhead c (by rw [hback]; rfl) ?_
      rw [hmarker]
      simp

theorem ne_of_not_mem {words before after : List Char} (h : 'B' ∉ words) :
    words ≠ before ++ marker ++ after := by
  rintro rfl
  exact h (List.mem_append_left _ (List.mem_append_right _ (by decide)))

end Redaction

/-! ## The wording of a failed reply -/

namespace FailedReply

variable {kind : FailureKind} {reply : FailedReply}

/-- The words of the client's own with which the wording begins, up to some last words. -/
def lead (kind : FailureKind) (reply : FailedReply) (last : String) : List Char :=
  kind.message.toList ++ (": HTTP ".toList ++ Nat.toDigits 10 reply.status.toNat ++ last.toList)

/-- What the body of a failed reply has a say in: its code, if it has one, and its detail. -/
def excerpts (kind : FailureKind) (reply : FailedReply) : List Excerpt :=
  match reply.code with
  | some code =>
    [⟨reply.lead kind " (", code.toList, ") - ".toList ++ reply.detail.toList⟩,
      ⟨reply.lead kind " (" ++ code.toList ++ ") - ".toList, reply.detail.toList, []⟩]
  | none => [⟨reply.lead kind " - ", reply.detail.toList, []⟩]

theorem toList_message (kind : FailureKind) (reply : FailedReply) :
    (Failure.http kind reply).message.toList =
      kind.message.toList ++ ": ".toList ++ reply.message.toList := by
  show (kind.message ++ ": " ++ reply.message).toList = _
  rw [String.toList_append, String.toList_append]

theorem toList_toString (n : Nat) : (toString n).toList = Nat.toDigits 10 n := Nat.toList_repr

theorem toList_message_of_some {code : String} (h : reply.code = some code) :
    (Failure.http kind reply).message.toList =
      reply.lead kind " (" ++ (code.toList ++ (") - ".toList ++ reply.detail.toList)) := by
  have hwords : ": HTTP ".toList = ": ".toList ++ "HTTP ".toList := by decide
  rw [toList_message]
  unfold FailedReply.message
  simp only [h, lead, String.toList_append, toList_toString, hwords, List.append_assoc]

theorem toList_message_of_none (h : reply.code = none) :
    (Failure.http kind reply).message.toList =
      reply.lead kind " - " ++ reply.detail.toList := by
  have hwords : ": HTTP ".toList = ": ".toList ++ "HTTP ".toList := by decide
  rw [toList_message]
  unfold FailedReply.message
  simp only [h, lead, String.toList_append, toList_toString, hwords, List.append_assoc]

/-- A marker is never among the client's own words, if it is not in those of the kind. -/
theorem marker_after_lead {last : String} {back before after : List Char}
    (hkind : ¬ marker <:+: kind.message.toList) (hlast : last = " (" ∨ last = " - ")
    (heq : reply.lead kind last ++ back = before ++ marker ++ after) :
    ∃ b, before = reply.lead kind last ++ b ∧ back = b ++ marker ++ after := by
  unfold lead at heq ⊢
  generalize hwords : ": HTTP ".toList ++ Nat.toDigits 10 reply.status.toNat ++ last.toList = words
    at heq ⊢
  have hne : 'B' ∉ words := by
    subst hwords
    intro hc
    rcases List.mem_append.1 hc with hc | hc
    · rcases List.mem_append.1 hc with hc | hc
      · exact absurd hc (by decide)
      · exact absurd (Nat.isDigit_of_mem_toDigits (by decide) (by decide) hc) (by decide)
    · rcases hlast with rfl | rfl <;> exact absurd hc (by decide)
  have hcolon : ∀ c ∈ (words ++ back).head?, c ∉ marker := by
    subst hwords
    rintro c ⟨⟩
    decide
  have hjoint : ∀ c ∈ words.getLast?, c ∉ "Bearer".toList := by
    subst hwords
    intro c hc
    rw [List.getLast?_append] at hc
    rcases hlast with rfl | rfl <;> cases hc <;> decide
  rw [List.append_assoc] at heq
  rcases marker_append_cases (Or.inr hcolon) heq with ⟨a, hin, -⟩ | ⟨b, rfl, hrest⟩
  · exact absurd ⟨before, a, hin.symm⟩ hkind
  rcases marker_append_cases (Or.inl hjoint) hrest with ⟨a, hin, -⟩ | ⟨b, rfl, hback⟩
  · exact absurd hin (ne_of_not_mem hne)
  · exact ⟨b, by rw [List.append_assoc], hback⟩

/-- A marker of the wording is one of the code or of the detail. -/
theorem marker_cases_of_some {code : String} {before after : List Char} (h : reply.code = some code)
    (hkind : ¬ marker <:+: kind.message.toList)
    (heq : (Failure.http kind reply).message.toList = before ++ marker ++ after) :
    (∃ b a, before = reply.lead kind " (" ++ b ∧ code.toList = b ++ marker ++ a ∧
        after = a ++ (") - ".toList ++ reply.detail.toList)) ∨
      ∃ b, before = reply.lead kind " (" ++ code.toList ++ ") - ".toList ++ b ∧
        reply.detail.toList = b ++ marker ++ after := by
  have hparen : ∀ c ∈ (") - ".toList ++ reply.detail.toList).head?, c ∉ marker := by
    rintro c ⟨⟩
    decide
  have hspace : ∀ c ∈ ") - ".toList.getLast?, c ∉ "Bearer".toList := by
    rintro c ⟨⟩
    decide
  rw [toList_message_of_some h] at heq
  obtain ⟨b, rfl, hin⟩ := marker_after_lead hkind (Or.inl rfl) heq
  rcases marker_append_cases (Or.inr hparen) hin with ⟨a, hcode, rfl⟩ | ⟨b, rfl, hrest⟩
  · exact Or.inl ⟨b, a, rfl, hcode, rfl⟩
  rcases marker_append_cases (Or.inl hspace) hrest with ⟨a, hwords, -⟩ | ⟨b, rfl, hdetail⟩
  · exact absurd hwords (ne_of_not_mem (by decide))
  · exact Or.inr ⟨b, by simp only [List.append_assoc], hdetail⟩

/-- If the wording tells of no token, the code does not, either. -/
theorem eachMarker_code_of_conceals {code : String} (hcode : reply.code = some code)
    (h : Conceals (Failure.http kind reply).message.toList (reply.excerpts kind)) :
    EachMarker Concealed code.toList := by
  intro before after heq
  have hplace : (Failure.http kind reply).message.toList =
      reply.lead kind " (" ++ before ++ marker ++
        (after ++ (") - ".toList ++ reply.detail.toList)) := by
    rw [toList_message_of_some hcode, heq]
    simp only [List.append_assoc]
  obtain ⟨e, he, b, a, hbefore, hsaid, hafter, hconcealed⟩ := h _ _ hplace
  simp only [excerpts, hcode, List.mem_cons, List.not_mem_nil, or_false] at he
  rcases he with rfl | rfl
  · obtain rfl := List.append_cancel_right hafter
    exact hconcealed
  · -- The detail begins after the place in the code.
    exfalso
    have hlength := congrArg List.length hbefore
    simp only [List.length_append, heq] at hlength
    have hmarker : marker.length = 7 := rfl
    omega

/-- The wording tells of no token exactly if the code does not, where the detail may be shown. -/
theorem conceals_message_iff (hkind : ¬ marker <:+: kind.message.toList)
    (hdetail : EachMarker Concealed reply.detail.toList) :
    Conceals (Failure.http kind reply).message.toList (reply.excerpts kind) ↔
      ∀ code ∈ reply.code, EachMarker Concealed code.toList := by
  cases hcode : reply.code with
  | none =>
    refine iff_of_true (fun before after heq => ?_) nofun
    rw [toList_message_of_none hcode] at heq
    obtain ⟨b, rfl, hin⟩ := marker_after_lead hkind (Or.inr rfl) heq
    simp only [excerpts, hcode]
    exact ⟨_, List.mem_singleton_self _, b, after, rfl, hin, (List.append_nil after).symm,
      hdetail b after hin⟩
  | some code =>
    refine ⟨?_, fun h before after heq => ?_⟩
    · rintro h _ ⟨⟩
      exact eachMarker_code_of_conceals hcode h
    simp only [excerpts, hcode]
    rcases marker_cases_of_some hcode hkind heq with ⟨b, a, rfl, hin, rfl⟩ | ⟨b, rfl, hin⟩
    · exact ⟨_, List.mem_cons_self, b, a, rfl, hin, rfl, h code rfl b a hin⟩
    · exact ⟨_, List.mem_cons_of_mem _ (List.mem_singleton_self _), b, after, rfl, hin,
        (List.append_nil after).symm, hdetail b after hin⟩

/-- The bytes that the code takes in the wording, its parentheses not counted. -/
def codeLength (reply : FailedReply) : Nat := (reply.code.map fun code => byteLength code.toList).getD 0

theorem byteLength_lead (kind : FailureKind) (reply : FailedReply) (last : String) :
    ∃ rest ≤ 12, byteLength (reply.lead kind last) =
      byteLength kind.message.toList + rest + byteLength last.toList := by
  refine ⟨7 + (Nat.toDigits 10 reply.status.toNat).length, ?_, ?_⟩
  · have hstatus : reply.status.toNat < 10 ^ 5 :=
      Nat.lt_trans reply.status.toNat_lt (by decide)
    have hlength := (Nat.length_toDigits_le_iff (by decide) (by decide)).2 hstatus
    omega
  · have hdigits : byteLength (Nat.toDigits 10 reply.status.toNat) = _ :=
      byteLength_eq_length fun c hc => Nat.isDigit_of_mem_toDigits (by decide) (by decide) hc
    have hwords : byteLength ": HTTP ".toList = 7 := by decide
    rw [lead, byteLength_append, byteLength_append, byteLength_append, hdigits, hwords]
    omega

/-- How long the wording is: beside the kind and the code, no longer than a bounded text. -/
theorem byteLength_message (hdetail : byteLength reply.detail.toList ≤ 1015) :
    ∃ rest ≤ 1033, byteLength (Failure.http kind reply).message.toList =
      byteLength kind.message.toList + reply.codeLength + rest := by
  unfold codeLength
  cases hcode : reply.code with
  | none =>
    obtain ⟨words, hwords, hlead⟩ := byteLength_lead kind reply " - "
    have hlast : byteLength " - ".toList = 3 := by decide
    refine ⟨words + 3 + byteLength reply.detail.toList, by omega, ?_⟩
    rw [toList_message_of_none hcode, byteLength_append, hlead, hlast, Option.map_none,
      Option.getD_none]
    omega
  | some code =>
    obtain ⟨words, hwords, hlead⟩ := byteLength_lead kind reply " ("
    have hopen : byteLength " (".toList = 2 := by decide
    have hclose : byteLength ") - ".toList = 4 := by decide
    refine ⟨words + 6 + byteLength reply.detail.toList, by omega, ?_⟩
    rw [toList_message_of_some hcode, byteLength_append, byteLength_append, byteLength_append, hlead,
      hopen, hclose, Option.map_some, Option.getD_some]
    omega

end FailedReply

/-! ## Replies that are failures -/

open Http

/-- Whether no kind of a classification is worded with a marker. -/
def Classification.NamesNoMarker (k : Classification) : Prop :=
  ∀ e ∈ k.entries, ¬ marker <:+: e.2.message.toList

theorem Classification.NamesNoMarker.classify {k : Classification} (hk : k.NamesNoMarker)
    (status : Status) : ¬ marker <:+: (k.classify status).message.toList := by
  have hplain : ¬ marker <:+: FailureKind.requestFailed.message.toList := by decide +kernel
  unfold Classification.classify kind?
  cases hentry : k.entries.lookup status with
  | none => exact hplain
  | some kind =>
    obtain ⟨before, after, hentries, -⟩ := List.lookup_eq_some_iff.1 hentry
    exact hk (status, kind) (hentries ▸ List.mem_append_right _ List.mem_cons_self)

theorem FailedReply.detail_ofReply (r : Reply) : (FailedReply.ofReply r).detail =
    String.ofList (presentable (codeAndDetail r.status (r.body.getD [])).2.toList) := by
  unfold ofReply
  rfl

theorem outcome_failWith (k : Classification) (r : Reply) (w : World) :
    ((failWith k r : Run Reply).attempt w).1 = .error (.http (k.classify r.status) (.ofReply r)) := by
  rw [failWith_attempt]

/-- **The code is shown as it came.** The wording of the failure that a reply comes to tells of no
token if and only if its code tells of none, and it is longer than the wording of its kind by the
code and no more than 1033 bytes: the detail is redacted and cut, whatever the body is. -/
theorem failWith_discloses_code {k : Classification} (hk : k.NamesNoMarker) (r : Reply)
    (w : World) :
    ∃ kind reply, ((failWith k r : Run Reply).attempt w).1 = .error (.http kind reply) ∧
      (Conceals (Failure.http kind reply).message.toList (reply.excerpts kind) ↔
        ∀ code ∈ reply.code, EachMarker Concealed code.toList) ∧
      ∃ rest ≤ 1033, byteLength (Failure.http kind reply).message.toList =
        byteLength kind.message.toList + reply.codeLength + rest := by
  have hdetail := congrArg String.toList (FailedReply.detail_ofReply r)
  rw [String.toList_ofList] at hdetail
  refine ⟨k.classify r.status, .ofReply r, ?_, ?_, ?_⟩
  · exact outcome_failWith k r w
  · refine FailedReply.conceals_message_iff (hk.classify r.status) ?_
    rw [hdetail]
    exact eachMarker_presentable _
  · refine FailedReply.byteLength_message ?_
    rw [hdetail]
    exact byteLength_presentable_le _

/-- A reply with an error report of a code and a message. -/
def refusal (code message : String) : Reply :=
  ⟨400, [], some (Text.Utf8.encode ("\x7b\"error\":\x7b\"code\":\"" ++ code ++
    "\",\"message\":\"" ++ message ++ "\"\x7d\x7d").toList)⟩

theorem namesNoMarker_standard : Classification.standard.NamesNoMarker := by
  unfold Classification.NamesNoMarker
  decide +kernel

/-- A code without a marker leaves nothing to be told: the token in the message is struck out. -/
theorem failWith_discloses_plain_code :
    Classification.standard.NamesNoMarker ∧
      ∃ kind reply, ((failWith .standard (refusal "Denied" "Bearer secret") : Run Reply).attempt
          { service := .unreachable }).1 = .error (.http kind reply) ∧
        (Failure.http kind reply).message =
          "Request failed: HTTP 400 (Denied) - Bearer [REDACTED]" ∧
        Conceals (Failure.http kind reply).message.toList (reply.excerpts kind) := by
  obtain ⟨kind, reply, hfail, hconceals, -⟩ :=
    failWith_discloses_code namesNoMarker_standard (refusal "Denied" "Bearer secret")
      { service := .unreachable }
  have hkind : Classification.standard.classify (refusal "Denied" "Bearer secret").status =
      .requestFailed := by decide +kernel
  have hreply := hfail
  rw [outcome_failWith, hkind] at hreply
  obtain ⟨rfl, rfl⟩ := Failure.http.inj (Except.error.inj hreply)
  refine ⟨namesNoMarker_standard, _, _, hfail, by decide +kernel, hconceals.2 ?_⟩
  have hcode : (FailedReply.ofReply (refusal "Denied" "Bearer secret")).code = some "Denied" := by
    decide +kernel
  rw [hcode]
  rintro code ⟨⟩
  exact eachMarker_of_not_mem (by decide)

/-- Not every failure can be shown: a token after a marker in the code is told. -/
theorem not_forall_failWith_conceals :
    ¬ ∀ (k : Classification) (r : Reply) (w : World) (kind : FailureKind) (reply : FailedReply),
      k.NamesNoMarker → ((failWith k r : Run Reply).attempt w).1 = .error (.http kind reply) →
      Conceals (Failure.http kind reply).message.toList (reply.excerpts kind) ∧
        byteLength (Failure.http kind reply).message.toList ≤
          byteLength kind.message.toList + 2100 := by
  intro h
  obtain ⟨hconceals, -⟩ := h .standard (refusal "Bearer secret" "Denied")
    { service := .unreachable } _ _ namesNoMarker_standard (outcome_failWith _ _ _)
  have hdetail : EachMarker Concealed
      (FailedReply.ofReply (refusal "Bearer secret" "Denied")).detail.toList := by
    rw [FailedReply.detail_ofReply, String.toList_ofList]
    exact eachMarker_presentable _
  have hcode : (FailedReply.ofReply (refusal "Bearer secret" "Denied")).code =
      some "Bearer secret" := by decide +kernel
  have hsecret := (FailedReply.conceals_message_iff (namesNoMarker_standard.classify _)
    hdetail).1 hconceals _ (Option.mem_def.2 hcode) [] "secret".toList (by decide)
  exact not_concealed_cons (by decide) (by decide) (by decide) hsecret

end JitAccess
