/-!
# Access policies and requests

A policy says which ports of which virtual machines may be opened on request, from where and for how
long. An access request opens some of them until a time, and a policy records the requests made
against it.
-/

namespace JitAccess

/-- The network protocol of a port rule. -/
inductive Protocol
  | tcp
  | udp
  | any
deriving DecidableEq, Repr

/-- Whether access through a requested port is still open. -/
inductive PortStatus
  | revoked
  | initiated
deriving DecidableEq, Repr

/-- Why a requested port has its status. -/
inductive PortStatusReason
  | expired
  | userRequested
  | newerRequestInitiated
deriving DecidableEq, Repr

/-- A port that may be opened on request. -/
structure PortRule where
  number : UInt16
  protocol : Protocol
  allowedSource : Option String
  allowedSources : Option (List String)
  maxDuration : String
deriving DecidableEq, Repr

/-- A virtual machine under a policy. -/
structure ProtectedMachine where
  id : String
  ports : List PortRule
  publicIp : Option String
deriving DecidableEq, Repr

/-- A port that a request has opened. -/
structure OpenedPort where
  number : UInt16
  allowedSource : Option String
  allowedSources : Option (List String)
  endTime : String
  status : PortStatus
  reason : PortStatusReason
  mappedPort : Option UInt16
deriving DecidableEq, Repr

/-- A virtual machine with ports that a request has opened. -/
structure OpenedMachine where
  id : String
  ports : List OpenedPort
deriving DecidableEq, Repr

/-- A request for access that has been recorded. -/
structure AccessRequest where
  machines : List OpenedMachine
  startTime : String
  requestor : String
  justification : Option String
deriving DecidableEq, Repr

/-- What a policy says. -/
structure PolicyProperties where
  machines : List ProtectedMachine
  requests : Option (List AccessRequest)
  provisioningState : Option String
deriving DecidableEq, Repr

/-- An access policy. -/
structure Policy where
  id : Option String
  name : Option String
  resourceType : Option String
  kind : Option String
  location : Option String
  properties : PolicyProperties
deriving DecidableEq, Repr

/-- A port to open. -/
structure WantedPort where
  number : UInt16
  allowedSource : Option String
  endTime : String
deriving DecidableEq, Repr

/-- A virtual machine with ports to open. -/
structure WantedMachine where
  id : String
  ports : List WantedPort
deriving DecidableEq, Repr

/-- The order to open ports. -/
structure AccessOrder where
  machines : List WantedMachine
  justification : Option String
deriving DecidableEq, Repr

end JitAccess
