import JitAccess.Proofs.Json.Faithful

/-!
# The shapes of policies and requests

Each type that is read has a shape: the names of its members, which of them may be missing, and what
stands next to them. It is written and read in this shape, one rule for each of its fields.

* `Policy.shape`, `AccessRequest.shape`: the shapes of what a reply brings.
* `Policy.faithful`, `AccessRequest.faithful`: that they are written and read in them.
-/

namespace JitAccess

open Json Json.Value

/-! ## Names -/

/-- A protocol is one of three words. -/
def Protocol.shape : Shape := .word ["TCP", "UDP", "*"]

/-- A status is one of two words. -/
def PortStatus.shape : Shape := .word ["Revoked", "Initiated"]

/-- A reason is one of three words. -/
def PortStatusReason.shape : Shape :=
  .word ["Expired", "UserRequested", "NewerRequestInitiated"]

theorem Protocol.faithful : Faithful Protocol.shape Protocol.toJson Protocol.decoder := by
  refine .word Protocol.names ?_ ?_ ?_
  · simp [Protocol.names, Protocol.toJson]
  · intro p
    cases p <;> simp [Protocol.names]
  · intro p q h
    cases p <;> cases q <;> simp [Protocol.toJson] at h ⊢

theorem PortStatus.faithful : Faithful PortStatus.shape PortStatus.toJson PortStatus.decoder := by
  refine .word PortStatus.names ?_ ?_ ?_
  · simp [PortStatus.names, PortStatus.toJson]
  · intro s
    cases s <;> simp [PortStatus.names]
  · intro s t h
    cases s <;> cases t <;> simp [PortStatus.toJson] at h ⊢

theorem PortStatusReason.faithful :
    Faithful PortStatusReason.shape PortStatusReason.toJson PortStatusReason.decoder := by
  refine .word PortStatusReason.names ?_ ?_ ?_
  · simp [PortStatusReason.names, PortStatusReason.toJson]
  · intro r
    cases r <;> simp [PortStatusReason.names]
  · intro r s h
    cases r <;> cases s <;> simp [PortStatusReason.toJson] at h ⊢

theorem texts_faithful :
    Faithful (.list .text) (ofList Value.string) (Decoder.list Decoder.string) := .list .text

/-! ## Machines under a policy -/

/-- The shape of a port rule. -/
def PortRule.shape : Shape :=
  .record
    [("number", .required, .number), ("protocol", .required, Protocol.shape),
      ("allowedSourceAddressPrefix", .optional, .text),
      ("allowedSourceAddressPrefixes", .optional, .list .text),
      ("maxRequestAccessDuration", .required, .text)]

/-- What is written for each field of a port rule. -/
def PortRule.parts (r : PortRule) : List (List (String × Value)) :=
  [member "number" (ofUInt16 r.number), member "protocol" r.protocol.toJson,
    optionalMember "allowedSourceAddressPrefix" .string r.allowedSource,
    optionalMember "allowedSourceAddressPrefixes" (ofList .string) r.allowedSources,
    member "maxRequestAccessDuration" (.string r.maxDuration)]

theorem PortRule.faithful : Faithful PortRule.shape PortRule.toJson PortRule.decoder := by
  refine .record PortRule.parts (by decide) ?_ ?_ ?_ ?_
  · rintro ⟨⟩ ⟨⟩ h
    simpa [PortRule.parts, member_eq_member_iff, Faithful.number.injective.eq_iff,
      Protocol.faithful.injective.eq_iff, optionalMember_eq_iff Faithful.text.injective,
      optionalMember_eq_iff texts_faithful.injective] using h
  · simp [PortRule.parts, PortRule.toJson]
  · intro r
    exact .required (Faithful.number.fits _) <| .required (Protocol.faithful.fits _) <|
      .optional Faithful.text.fits _ <| .optional texts_faithful.fits _ <|
      .required (Faithful.text.fits _) rfl
  · intro depth slot
    refine Faithful.number.read_required fun number => ?_
    refine Protocol.faithful.read_required fun protocol => ?_
    refine Faithful.text.read_optional fun allowedSource => ?_
    refine texts_faithful.read_optional fun allowedSources => ?_
    refine Faithful.text.read_required fun maxDuration => ?_
    rfl

/-- The shape of a machine under a policy. -/
def ProtectedMachine.shape : Shape :=
  .record
    [("id", .required, .text), ("ports", .required, .list PortRule.shape),
      ("publicIpAddress", .optional, .text)]

/-- What is written for each field of a machine under a policy. -/
def ProtectedMachine.parts (m : ProtectedMachine) : List (List (String × Value)) :=
  [member "id" (.string m.id), member "ports" (ofList PortRule.toJson m.ports),
    optionalMember "publicIpAddress" .string m.publicIp]

theorem ProtectedMachine.faithful :
    Faithful ProtectedMachine.shape ProtectedMachine.toJson ProtectedMachine.decoder := by
  have hports := PortRule.faithful.list
  refine .record ProtectedMachine.parts (by decide) ?_ ?_ ?_ ?_
  · rintro ⟨⟩ ⟨⟩ h
    simpa [ProtectedMachine.parts, member_eq_member_iff, hports.injective.eq_iff,
      optionalMember_eq_iff Faithful.text.injective] using h
  · simp [ProtectedMachine.parts, ProtectedMachine.toJson]
  · intro m
    exact .required (Faithful.text.fits _) <| .required (hports.fits _) <|
      .optional Faithful.text.fits _ rfl
  · intro depth slot
    refine Faithful.text.read_required fun id => ?_
    refine hports.read_required fun ports => ?_
    refine Faithful.text.read_optional fun publicIp => ?_
    rfl

/-! ## Access requests -/

/-- The shape of an opened port. -/
def OpenedPort.shape : Shape :=
  .record
    [("number", .required, .number), ("allowedSourceAddressPrefix", .optional, .text),
      ("allowedSourceAddressPrefixes", .optional, .list .text), ("endTimeUtc", .required, .text),
      ("status", .required, PortStatus.shape), ("statusReason", .required, PortStatusReason.shape),
      ("mappedPort", .optional, .number)]

/-- What is written for each field of an opened port. -/
def OpenedPort.parts (p : OpenedPort) : List (List (String × Value)) :=
  [member "number" (ofUInt16 p.number),
    optionalMember "allowedSourceAddressPrefix" .string p.allowedSource,
    optionalMember "allowedSourceAddressPrefixes" (ofList .string) p.allowedSources,
    member "endTimeUtc" (.string p.endTime), member "status" p.status.toJson,
    member "statusReason" p.reason.toJson, optionalMember "mappedPort" ofUInt16 p.mappedPort]

theorem OpenedPort.faithful : Faithful OpenedPort.shape OpenedPort.toJson OpenedPort.decoder := by
  refine .record OpenedPort.parts (by decide) ?_ ?_ ?_ ?_
  · rintro ⟨⟩ ⟨⟩ h
    simpa [OpenedPort.parts, member_eq_member_iff, Faithful.number.injective.eq_iff,
      PortStatus.faithful.injective.eq_iff, PortStatusReason.faithful.injective.eq_iff,
      optionalMember_eq_iff Faithful.text.injective,
      optionalMember_eq_iff texts_faithful.injective,
      optionalMember_eq_iff Faithful.number.injective] using h
  · simp [OpenedPort.parts, OpenedPort.toJson]
  · intro p
    exact .required (Faithful.number.fits _) <| .optional Faithful.text.fits _ <|
      .optional texts_faithful.fits _ <| .required (Faithful.text.fits _) <|
      .required (PortStatus.faithful.fits _) <| .required (PortStatusReason.faithful.fits _) <|
      .optional Faithful.number.fits _ rfl
  · intro depth slot
    refine Faithful.number.read_required fun number => ?_
    refine Faithful.text.read_optional fun allowedSource => ?_
    refine texts_faithful.read_optional fun allowedSources => ?_
    refine Faithful.text.read_required fun endTime => ?_
    refine PortStatus.faithful.read_required fun status => ?_
    refine PortStatusReason.faithful.read_required fun reason => ?_
    refine Faithful.number.read_optional fun mappedPort => ?_
    rfl

/-- The shape of a machine with opened ports. -/
def OpenedMachine.shape : Shape :=
  .record [("id", .required, .text), ("ports", .required, .list OpenedPort.shape)]

/-- What is written for each field of a machine with opened ports. -/
def OpenedMachine.parts (m : OpenedMachine) : List (List (String × Value)) :=
  [member "id" (.string m.id), member "ports" (ofList OpenedPort.toJson m.ports)]

theorem OpenedMachine.faithful :
    Faithful OpenedMachine.shape OpenedMachine.toJson OpenedMachine.decoder := by
  have hports := OpenedPort.faithful.list
  refine .record OpenedMachine.parts (by decide) ?_ ?_ ?_ ?_
  · rintro ⟨⟩ ⟨⟩ h
    simpa [OpenedMachine.parts, member_eq_member_iff, hports.injective.eq_iff] using h
  · simp [OpenedMachine.parts, OpenedMachine.toJson]
  · intro m
    exact .required (Faithful.text.fits _) <| .required (hports.fits _) rfl
  · intro depth slot
    refine Faithful.text.read_required fun id => ?_
    refine hports.read_required fun ports => ?_
    rfl

/-- The shape of an access request. -/
def AccessRequest.shape : Shape :=
  .record
    [("virtualMachines", .required, .list OpenedMachine.shape), ("startTimeUtc", .required, .text),
      ("requestor", .required, .text), ("justification", .optional, .text)]

/-- What is written for each field of an access request. -/
def AccessRequest.parts (r : AccessRequest) : List (List (String × Value)) :=
  [member "virtualMachines" (ofList OpenedMachine.toJson r.machines),
    member "startTimeUtc" (.string r.startTime), member "requestor" (.string r.requestor),
    optionalMember "justification" .string r.justification]

theorem AccessRequest.faithful :
    Faithful AccessRequest.shape AccessRequest.toJson AccessRequest.decoder := by
  have hmachines := OpenedMachine.faithful.list
  refine .record AccessRequest.parts (by decide) ?_ ?_ ?_ ?_
  · rintro ⟨⟩ ⟨⟩ h
    simpa [AccessRequest.parts, member_eq_member_iff, hmachines.injective.eq_iff,
      optionalMember_eq_iff Faithful.text.injective] using h
  · simp [AccessRequest.parts, AccessRequest.toJson]
  · intro r
    exact .required (hmachines.fits _) <| .required (Faithful.text.fits _) <|
      .required (Faithful.text.fits _) <| .optional Faithful.text.fits _ rfl
  · intro depth slot
    refine hmachines.read_required fun machines => ?_
    refine Faithful.text.read_required fun startTime => ?_
    refine Faithful.text.read_required fun requestor => ?_
    refine Faithful.text.read_optional fun justification => ?_
    rfl

/-! ## Policies -/

/-- The shape of what a policy says. -/
def PolicyProperties.shape : Shape :=
  .record
    [("virtualMachines", .required, .list ProtectedMachine.shape),
      ("requests", .optional, .list AccessRequest.shape), ("provisioningState", .optional, .text)]

/-- What is written for each field of what a policy says. -/
def PolicyProperties.parts (p : PolicyProperties) : List (List (String × Value)) :=
  [member "virtualMachines" (ofList ProtectedMachine.toJson p.machines),
    optionalMember "requests" (ofList AccessRequest.toJson) p.requests,
    optionalMember "provisioningState" .string p.provisioningState]

theorem PolicyProperties.faithful :
    Faithful PolicyProperties.shape PolicyProperties.toJson PolicyProperties.decoder := by
  have hmachines := ProtectedMachine.faithful.list
  have hrequests := AccessRequest.faithful.list
  refine .record PolicyProperties.parts (by decide) ?_ ?_ ?_ ?_
  · rintro ⟨⟩ ⟨⟩ h
    simpa [PolicyProperties.parts, member_eq_member_iff, hmachines.injective.eq_iff,
      optionalMember_eq_iff hrequests.injective,
      optionalMember_eq_iff Faithful.text.injective] using h
  · simp [PolicyProperties.parts, PolicyProperties.toJson]
  · intro p
    exact .required (hmachines.fits _) <| .optional hrequests.fits _ <|
      .optional Faithful.text.fits _ rfl
  · intro depth slot
    refine hmachines.read_required fun machines => ?_
    refine hrequests.read_optional fun requests => ?_
    refine Faithful.text.read_optional fun provisioningState => ?_
    rfl

/-- The shape of a policy. -/
def Policy.shape : Shape :=
  .record
    [("id", .optional, .text), ("name", .optional, .text), ("type", .optional, .text),
      ("kind", .optional, .text), ("location", .optional, .text),
      ("properties", .required, PolicyProperties.shape)]

/-- What is written for each field of a policy. -/
def Policy.parts (p : Policy) : List (List (String × Value)) :=
  [optionalMember "id" .string p.id, optionalMember "name" .string p.name,
    optionalMember "type" .string p.resourceType, optionalMember "kind" .string p.kind,
    optionalMember "location" .string p.location, member "properties" p.properties.toJson]

theorem Policy.faithful : Faithful Policy.shape Policy.toJson Policy.decoder := by
  refine .record Policy.parts (by decide) ?_ ?_ ?_ ?_
  · rintro ⟨⟩ ⟨⟩ h
    simpa [Policy.parts, member_eq_member_iff, PolicyProperties.faithful.injective.eq_iff,
      optionalMember_eq_iff Faithful.text.injective] using h
  · simp [Policy.parts, Policy.toJson]
  · intro p
    exact .optional Faithful.text.fits _ <| .optional Faithful.text.fits _ <|
      .optional Faithful.text.fits _ <| .optional Faithful.text.fits _ <|
      .optional Faithful.text.fits _ <| .required (PolicyProperties.faithful.fits _) rfl
  · intro depth slot
    refine Faithful.text.read_optional fun id => ?_
    refine Faithful.text.read_optional fun name => ?_
    refine Faithful.text.read_optional fun resourceType => ?_
    refine Faithful.text.read_optional fun kind => ?_
    refine Faithful.text.read_optional fun location => ?_
    refine PolicyProperties.faithful.read_required fun properties => ?_
    rfl

end JitAccess
