import JitAccess.Failure.Basic
import JitAccess.Policy.Types
import JitAccess.Text.Blank

/-!
# Drafts

A draft is a policy or an order in the making: machines and ports are added to it, and optional
values are set, the last setting of a value counting. It is finished only if it has a machine and
every machine has an id and a port; else the fault of the first machine that has one is told.
-/

namespace JitAccess

/-! ## Ports and machines -/

namespace PortRule

/-- A rule with nothing set that need not be. -/
def new (number : UInt16) (protocol : Protocol) (maxDuration : String) : PortRule :=
  ⟨number, protocol, none, none, maxDuration⟩

/-- The rule with one allowed source. -/
def allowSource (r : PortRule) (source : String) : PortRule :=
  { r with allowedSource := some source }

/-- The rule with a list of allowed sources. -/
def allowSources (r : PortRule) (sources : List String) : PortRule :=
  { r with allowedSources := some sources }

end PortRule

namespace ProtectedMachine

/-- A machine without ports. -/
def new (id : String) : ProtectedMachine := ⟨id, [], none⟩

/-- The machine with one more port. -/
def addPort (m : ProtectedMachine) (r : PortRule) : ProtectedMachine :=
  { m with ports := m.ports ++ [r] }

/-- The machine with a public address. -/
def setPublicIp (m : ProtectedMachine) (ip : String) : ProtectedMachine :=
  { m with publicIp := some ip }

end ProtectedMachine

namespace WantedPort

/-- A port to open until a time. -/
def new (number : UInt16) (endTime : String) : WantedPort := ⟨number, none, endTime⟩

/-- The port with one allowed source. -/
def allowSource (p : WantedPort) (source : String) : WantedPort :=
  { p with allowedSource := some source }

end WantedPort

namespace WantedMachine

/-- A machine without ports. -/
def new (id : String) : WantedMachine := ⟨id, []⟩

/-- The machine with one more port. -/
def addPort (m : WantedMachine) (p : WantedPort) : WantedMachine :=
  { m with ports := m.ports ++ [p] }

end WantedMachine

/-! ## Faults -/

/-- The fault of a machine under a policy. -/
def ProtectedMachine.fault? (m : ProtectedMachine) : Option DraftFault :=
  if Text.isBlank m.id then some .blankMachine
  else if m.ports.isEmpty then some (.noPort m.id)
  else none

/-- The fault of a machine with ports to open. -/
def WantedMachine.fault? (m : WantedMachine) : Option DraftFault :=
  if Text.isBlank m.id then some .blankMachine
  else if m.ports.isEmpty then some (.noPort m.id)
  else if m.ports.any fun p => Text.isBlank p.endTime then some .blankEndTime
  else none

/-- The fault of a list of machines: that there is none, or that of the first with a fault. -/
def machinesFault? {α : Type} (fault? : α → Option DraftFault) (machines : List α) :
    Option DraftFault :=
  if machines.isEmpty then some .noMachine else machines.findSome? fault?

/-! ## Policies -/

/-- A policy in the making. -/
structure PolicyDraft where
  kind : Option String := none
  machines : List ProtectedMachine := []
deriving DecidableEq, Repr

namespace PolicyDraft

/-- The draft with a kind. -/
def setKind (d : PolicyDraft) (kind : String) : PolicyDraft := { d with kind := some kind }

/-- The draft with one more machine. -/
def addMachine (d : PolicyDraft) (m : ProtectedMachine) : PolicyDraft :=
  { d with machines := d.machines ++ [m] }

/-- The finished policy, which says only what has been set. -/
def build (d : PolicyDraft) : Except DraftFault Policy :=
  match machinesFault? ProtectedMachine.fault? d.machines with
  | some fault => .error fault
  | none =>
    .ok
      { id := none, name := none, resourceType := none, kind := d.kind, location := none
        properties := { machines := d.machines, requests := none, provisioningState := none } }

end PolicyDraft

/-! ## Orders -/

/-- An order in the making. -/
structure OrderDraft where
  machines : List WantedMachine := []
  justification : Option String := none
deriving DecidableEq, Repr

namespace OrderDraft

/-- The draft with one more machine. -/
def addMachine (d : OrderDraft) (m : WantedMachine) : OrderDraft :=
  { d with machines := d.machines ++ [m] }

/-- The draft with a justification. -/
def justify (d : OrderDraft) (justification : String) : OrderDraft :=
  { d with justification := some justification }

/-- The finished order. -/
def build (d : OrderDraft) : Except DraftFault AccessOrder :=
  match machinesFault? WantedMachine.fault? d.machines with
  | some fault => .error fault
  | none => .ok ⟨d.machines, d.justification⟩

end OrderDraft

end JitAccess
