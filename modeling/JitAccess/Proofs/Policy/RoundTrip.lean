import JitAccess.Proofs.Client.Dispatch
import JitAccess.Proofs.Policy.Shape

/-!
# Policies and requests come through

What is written for a policy or a request is decoded as it, and what is decoded is written again
without the loss of anything that the types have a place for.

* `wire_round_trips`: every value comes through, and so does the body that writes a policy.
* `policies_lossless`: every document does, but for unknown members and optional nulls.
-/

namespace JitAccess

open Http Json

/-! ## Values -/

/-- Every message that writes a policy has the policy as its body. -/
theorem Client.exists_body_of_writePolicy (c : Client) (n : PolicyName) (policy : Policy)
    (options : CallOptions) (w : World) :
    ∃ sent, ((c.writePolicy n policy options).attempt w).2.messages = w.messages ++ sent ∧
      ∀ m ∈ sent, m.body = some policy.toJson := by
  obtain ⟨ds, hsent, hone⟩ := c.sends_writePolicy n policy options w
  refine ⟨messagesOf ds, hsent.messages, fun m hm => ?_⟩
  obtain ⟨d, hd, hm⟩ := List.mem_flatMap.1 hm
  obtain ⟨value, -, hm⟩ := d.exists_of_mem_messages hm
  have hopens : c.Opens options (some policy.toJson) d.request := by
    rcases hone with rfl | ⟨d', rfl, hopens⟩
    · cases hd
    · rwa [List.mem_singleton.1 hd]
  rw [Request.eq_of_message? hm, hopens.body]

/-- **Every value comes through.** What is written for a value of any of the types is decoded as that
value. A message that writes a policy has a body which is decoded as the policy, in whatever order
its members are written. -/
theorem wire_round_trips :
    RoundTrips Policy.toJson Policy.decoder ∧
    RoundTrips PolicyProperties.toJson PolicyProperties.decoder ∧
    RoundTrips ProtectedMachine.toJson ProtectedMachine.decoder ∧
    RoundTrips PortRule.toJson PortRule.decoder ∧
    RoundTrips AccessRequest.toJson AccessRequest.decoder ∧
    RoundTrips OpenedMachine.toJson OpenedMachine.decoder ∧
    RoundTrips OpenedPort.toJson OpenedPort.decoder ∧
    RoundTrips Protocol.toJson Protocol.decoder ∧
    RoundTrips PortStatus.toJson PortStatus.decoder ∧
    RoundTrips PortStatusReason.toJson PortStatusReason.decoder ∧
    ∀ (c : Client) (n : PolicyName) (policy : Policy) (options : CallOptions) (w : World),
      ∃ sent, ((c.writePolicy n policy options).attempt w).2.messages = w.messages ++ sent ∧
        ∀ m ∈ sent, ∃ body, m.body = some body ∧ Tells body.write body ∧
          ∀ bytes, Tells bytes body → Decoder.run Policy.decoder bytes = some policy := by
  refine ⟨Policy.faithful.roundTrips (by decide) (by decide),
    PolicyProperties.faithful.roundTrips (by decide) (by decide),
    ProtectedMachine.faithful.roundTrips (by decide) (by decide),
    PortRule.faithful.roundTrips (by decide) (by decide),
    AccessRequest.faithful.roundTrips (by decide) (by decide),
    OpenedMachine.faithful.roundTrips (by decide) (by decide),
    OpenedPort.faithful.roundTrips (by decide) (by decide),
    Protocol.faithful.roundTrips (by decide) (by decide),
    PortStatus.faithful.roundTrips (by decide) (by decide),
    PortStatusReason.faithful.roundTrips (by decide) (by decide), ?_⟩
  intro c n policy options w
  obtain ⟨sent, hmessages, hbody⟩ := c.exists_body_of_writePolicy n policy options w
  exact ⟨sent, hmessages, fun m hm => ⟨_, hbody m hm, Policy.faithful.tells_write policy,
    fun bytes => Policy.faithful.run_eq_some_of_tells (by decide) (by decide)⟩⟩

/-! ## Documents -/

/-- **Nothing is lost in a policy or a request.** Decoding and writing drops members of unknown names
and optional members that are null, and changes nothing else; a number out of range is not decoded.
Members of unknown names and the order of members do not count. -/
theorem policies_lossless :
    Lossless Policy.shape Policy.toJson Policy.decoder ∧
      Lossless AccessRequest.shape AccessRequest.toJson AccessRequest.decoder :=
  ⟨Policy.faithful.lossless (by decide), AccessRequest.faithful.lossless (by decide)⟩

/-- The text of a policy without machines, and with something before its properties. -/
def barePolicy (before : String) : List UInt8 :=
  Text.Utf8.encode
    ("\x7b" ++ before ++ "\"properties\":\x7b\"virtualMachines\":[]\x7d\x7d").toList

/-- The members that come last in it. -/
def bareMembers : List (List Mark × Document) :=
  [(plain "properties", .object [(plain "virtualMachines", .array [])])]

theorem plain_bareProperties :
    PolicyProperties.shape.Plain (.object [(plain "virtualMachines", .array [])]) := by
  refine Shape.plain_record_iff.2 ?_
  simp [valuesOf_cons_of_eq, valuesOf_cons_of_ne, Shape.plain_list_iff]

/-- A policy with an unknown member and a null is written without them. -/
theorem policies_lossless_with_unknown_member :
    ∃ doc, Document.read? (barePolicy "\"etag\":\"a\",\"id\":null,") = some doc ∧
      Policy.shape.Plain doc ∧
      Decoder.run Policy.decoder (barePolicy "\"etag\":\"a\",\"id\":null,") =
        some ⟨none, none, none, none, none, ⟨[], none, none⟩⟩ ∧
      (Policy.shape.prune doc).Means
        (Policy.toJson ⟨none, none, none, none, none, ⟨[], none, none⟩⟩) := by
  have hread : Document.read? (barePolicy "\"etag\":\"a\",\"id\":null,") =
      some (.object ((plain "etag", .string (plain "a")) :: (plain "id", .null) :: bareMembers)) := by
    cbv
  have hplain : Policy.shape.Plain
      (.object ((plain "etag", .string (plain "a")) :: (plain "id", .null) :: bareMembers)) := by
    refine Shape.plain_record_iff.2 ?_
    simp [bareMembers, valuesOf_cons_of_eq, valuesOf_cons_of_ne, Presence.skips, Shape.plain_text,
      plain_bareProperties]
  have hrun : Decoder.run Policy.decoder (barePolicy "\"etag\":\"a\",\"id\":null,") =
      some ⟨none, none, none, none, none, ⟨[], none, none⟩⟩ := by
    decide +kernel
  exact ⟨_, hread, hplain, hrun, (policies_lossless.1.writes _ _ _ hread hplain hrun).1⟩

/-- Not every member of an unknown name may be put in: its name has to be a text. -/
theorem not_forall_insertion_ignored :
    ¬ ∀ (bytes bytes' : List UInt8) (before after : List (List Mark × Document))
      (marks : List Mark) (doc : Document),
      Document.read? bytes = some (.object (before ++ after)) →
      Document.read? bytes' = some (.object (before ++ (marks, doc) :: after)) →
      (∀ name ∈ ["id", "name", "type", "kind", "location", "properties"],
        markText? marks ≠ some name) →
      Decoder.run Policy.decoder bytes = Decoder.run Policy.decoder bytes' := by
  intro h
  have hread : Document.read? (barePolicy "") = some (.object ([] ++ bareMembers)) := by cbv
  have hread' : Document.read? (barePolicy "\"\\ud800\":null,") =
      some (.object ([] ++ ([.code 0xD800], .null) :: bareMembers)) := by
    cbv
  have heq := h _ _ [] bareMembers _ _ hread hread' (by decide +kernel)
  exact absurd heq (by decide +kernel)

end JitAccess
