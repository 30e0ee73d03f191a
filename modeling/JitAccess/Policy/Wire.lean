import JitAccess.Json.Decoder
import JitAccess.Policy.Types

/-!
# The wire form of policies and requests

Each type is written as a JSON object, without the optional members that are not set, and read back
from one.
-/

namespace JitAccess

open Json

namespace Json.Value

/-- The value of a port number. -/
def ofUInt16 (n : UInt16) : Value := .number (.int n.toNat)

/-- A list of values. -/
def ofList {α : Type} (f : α → Value) (l : List α) : Value := .array (l.map f)

/-- A member that is written. -/
def member (name : String) (v : Value) : List (String × Value) := [(name, v)]

/-- A member that is written if it is set. -/
def optionalMember {α : Type} (name : String) (f : α → Value) (a : Option α) :
    List (String × Value) :=
  (a.map fun x => (name, f x)).toList

end Json.Value

open Value Decoder

/-! ## Names -/

/-- The wire names of the protocols. -/
def Protocol.names : List (String × Protocol) := [("TCP", .tcp), ("UDP", .udp), ("*", .any)]

/-- The wire form of a protocol. -/
def Protocol.toJson : Protocol → Value
  | .tcp => .string "TCP"
  | .udp => .string "UDP"
  | .any => .string "*"

/-- The protocol of a document. -/
def Protocol.decoder : Decoder Protocol := name Protocol.names

/-- The wire names of the statuses. -/
def PortStatus.names : List (String × PortStatus) :=
  [("Revoked", .revoked), ("Initiated", .initiated)]

/-- The wire form of a status. -/
def PortStatus.toJson : PortStatus → Value
  | .revoked => .string "Revoked"
  | .initiated => .string "Initiated"

/-- The status of a document. -/
def PortStatus.decoder : Decoder PortStatus := name PortStatus.names

/-- The wire names of the reasons. -/
def PortStatusReason.names : List (String × PortStatusReason) :=
  [("Expired", .expired), ("UserRequested", .userRequested),
    ("NewerRequestInitiated", .newerRequestInitiated)]

/-- The wire form of a reason. -/
def PortStatusReason.toJson : PortStatusReason → Value
  | .expired => .string "Expired"
  | .userRequested => .string "UserRequested"
  | .newerRequestInitiated => .string "NewerRequestInitiated"

/-- The reason of a document. -/
def PortStatusReason.decoder : Decoder PortStatusReason := name PortStatusReason.names

/-! ## Policies -/

/-- The wire form of a port rule. -/
def PortRule.toJson (r : PortRule) : Value :=
  .object <|
    member "number" (ofUInt16 r.number) ++
    member "protocol" r.protocol.toJson ++
    optionalMember "allowedSourceAddressPrefix" .string r.allowedSource ++
    optionalMember "allowedSourceAddressPrefixes" (ofList .string) r.allowedSources ++
    member "maxRequestAccessDuration" (.string r.maxDuration)

/-- The port rule of a document. -/
def PortRule.decoder : Decoder PortRule :=
  record
    ["number", "protocol", "allowedSourceAddressPrefix", "allowedSourceAddressPrefixes",
      "maxRequestAccessDuration"]
    fun depth slot => do
      let number ← required uint16 depth (slot "number")
      let protocol ← required Protocol.decoder depth (slot "protocol")
      let allowedSource ← optional string depth (slot "allowedSourceAddressPrefix")
      let allowedSources ← optional (list string) depth (slot "allowedSourceAddressPrefixes")
      let maxDuration ← required string depth (slot "maxRequestAccessDuration")
      some { number, protocol, allowedSource, allowedSources, maxDuration }

/-- The wire form of a machine under a policy. -/
def ProtectedMachine.toJson (m : ProtectedMachine) : Value :=
  .object <|
    member "id" (.string m.id) ++
    member "ports" (ofList PortRule.toJson m.ports) ++
    optionalMember "publicIpAddress" .string m.publicIp

/-- The machine under a policy of a document. -/
def ProtectedMachine.decoder : Decoder ProtectedMachine :=
  record ["id", "ports", "publicIpAddress"] fun depth slot => do
    let id ← required string depth (slot "id")
    let ports ← required (list PortRule.decoder) depth (slot "ports")
    let publicIp ← optional string depth (slot "publicIpAddress")
    some { id, ports, publicIp }

/-! ## Access requests -/

/-- The wire form of an opened port. -/
def OpenedPort.toJson (p : OpenedPort) : Value :=
  .object <|
    member "number" (ofUInt16 p.number) ++
    optionalMember "allowedSourceAddressPrefix" .string p.allowedSource ++
    optionalMember "allowedSourceAddressPrefixes" (ofList .string) p.allowedSources ++
    member "endTimeUtc" (.string p.endTime) ++
    member "status" p.status.toJson ++
    member "statusReason" p.reason.toJson ++
    optionalMember "mappedPort" ofUInt16 p.mappedPort

/-- The opened port of a document. -/
def OpenedPort.decoder : Decoder OpenedPort :=
  record
    ["number", "allowedSourceAddressPrefix", "allowedSourceAddressPrefixes", "endTimeUtc",
      "status", "statusReason", "mappedPort"]
    fun depth slot => do
      let number ← required uint16 depth (slot "number")
      let allowedSource ← optional string depth (slot "allowedSourceAddressPrefix")
      let allowedSources ← optional (list string) depth (slot "allowedSourceAddressPrefixes")
      let endTime ← required string depth (slot "endTimeUtc")
      let status ← required PortStatus.decoder depth (slot "status")
      let reason ← required PortStatusReason.decoder depth (slot "statusReason")
      let mappedPort ← optional uint16 depth (slot "mappedPort")
      some { number, allowedSource, allowedSources, endTime, status, reason, mappedPort }

/-- The wire form of a machine with opened ports. -/
def OpenedMachine.toJson (m : OpenedMachine) : Value :=
  .object (member "id" (.string m.id) ++ member "ports" (ofList OpenedPort.toJson m.ports))

/-- The machine with opened ports of a document. -/
def OpenedMachine.decoder : Decoder OpenedMachine :=
  record ["id", "ports"] fun depth slot => do
    let id ← required string depth (slot "id")
    let ports ← required (list OpenedPort.decoder) depth (slot "ports")
    some { id, ports }

/-- The wire form of an access request. -/
def AccessRequest.toJson (r : AccessRequest) : Value :=
  .object <|
    member "virtualMachines" (ofList OpenedMachine.toJson r.machines) ++
    member "startTimeUtc" (.string r.startTime) ++
    member "requestor" (.string r.requestor) ++
    optionalMember "justification" .string r.justification

/-- The access request of a document. -/
def AccessRequest.decoder : Decoder AccessRequest :=
  record ["virtualMachines", "startTimeUtc", "requestor", "justification"] fun depth slot => do
    let machines ← required (list OpenedMachine.decoder) depth (slot "virtualMachines")
    let startTime ← required string depth (slot "startTimeUtc")
    let requestor ← required string depth (slot "requestor")
    let justification ← optional string depth (slot "justification")
    some { machines, startTime, requestor, justification }

/-! ## Whole policies -/

/-- The wire form of what a policy says. -/
def PolicyProperties.toJson (p : PolicyProperties) : Value :=
  .object <|
    member "virtualMachines" (ofList ProtectedMachine.toJson p.machines) ++
    optionalMember "requests" (ofList AccessRequest.toJson) p.requests ++
    optionalMember "provisioningState" .string p.provisioningState

/-- What the policy of a document says. -/
def PolicyProperties.decoder : Decoder PolicyProperties :=
  record ["virtualMachines", "requests", "provisioningState"] fun depth slot => do
    let machines ← required (list ProtectedMachine.decoder) depth (slot "virtualMachines")
    let requests ← optional (list AccessRequest.decoder) depth (slot "requests")
    let provisioningState ← optional string depth (slot "provisioningState")
    some { machines, requests, provisioningState }

/-- The wire form of a policy. -/
def Policy.toJson (p : Policy) : Value :=
  .object <|
    optionalMember "id" .string p.id ++
    optionalMember "name" .string p.name ++
    optionalMember "type" .string p.resourceType ++
    optionalMember "kind" .string p.kind ++
    optionalMember "location" .string p.location ++
    member "properties" p.properties.toJson

/-- The policy of a document. -/
def Policy.decoder : Decoder Policy :=
  record ["id", "name", "type", "kind", "location", "properties"] fun depth slot => do
    let id ← optional string depth (slot "id")
    let name ← optional string depth (slot "name")
    let resourceType ← optional string depth (slot "type")
    let kind ← optional string depth (slot "kind")
    let location ← optional string depth (slot "location")
    let properties ← required PolicyProperties.decoder depth (slot "properties")
    some { id, name, resourceType, kind, location, properties }

/-! ## Orders -/

/-- The wire form of a port to open. -/
def WantedPort.toJson (p : WantedPort) : Value :=
  .object <|
    member "number" (ofUInt16 p.number) ++
    optionalMember "allowedSourceAddressPrefix" .string p.allowedSource ++
    member "endTimeUtc" (.string p.endTime)

/-- The wire form of a machine with ports to open. -/
def WantedMachine.toJson (m : WantedMachine) : Value :=
  .object (member "id" (.string m.id) ++ member "ports" (ofList WantedPort.toJson m.ports))

/-- The wire form of an order. -/
def AccessOrder.toJson (o : AccessOrder) : Value :=
  .object <|
    member "virtualMachines" (ofList WantedMachine.toJson o.machines) ++
    optionalMember "justification" .string o.justification

end JitAccess
