import JitAccess.Policy.Wire
import JitAccess.Proofs.Policy.Completeness

/-!
# What drafts come to

Nothing that is put into a draft is lost. Machines and ports stay in the order in which they have been
added, and where a value is set more than once the last one counts. What is wrong with a draft is said
by checks, each machine against all of them before the next machine: the first check that fails is
told, and nothing that is added later changes that.

* `PortRule.after_eq`, `ProtectedMachine.after_eq`, `PolicyDraft.after_eq`: what calls come to.
* `machinesFault?_eq_some_iff`: which fault is told.
* `FirstFault.append`: no later machine hides it.
* `builds_or_tells_first_fault`: all together, for policies and orders.
-/

namespace JitAccess

open Text Json Json.Value

attribute [ext] PortRule ProtectedMachine WantedPort WantedMachine PolicyDraft OrderDraft

/-! ## Ports and machines -/

/-- A call that says more about a rule. -/
inductive RuleCall
  | allowSource (source : String)
  | allowSources (sources : List String)

/-- The single source that a call allows. -/
def RuleCall.source? : RuleCall → Option String
  | .allowSource source => some source
  | .allowSources _ => none

/-- The list of sources that a call allows. -/
def RuleCall.sources? : RuleCall → Option (List String)
  | .allowSource _ => none
  | .allowSources sources => some sources

/-- The rule after a call. -/
def PortRule.apply (r : PortRule) : RuleCall → PortRule
  | .allowSource source => r.allowSource source
  | .allowSources sources => r.allowSources sources

/-- A new rule after some calls. -/
def PortRule.after (number : UInt16) (protocol : Protocol) (maxDuration : String)
    (calls : List RuleCall) : PortRule :=
  calls.foldl apply (new number protocol maxDuration)

/-- A call that says more about a machine under a policy. -/
inductive MachineCall
  | addPort (r : PortRule)
  | setPublicIp (ip : String)

/-- The rule that a call adds. -/
def MachineCall.rule? : MachineCall → Option PortRule
  | .addPort r => some r
  | .setPublicIp _ => none

/-- The public address that a call sets. -/
def MachineCall.publicIp? : MachineCall → Option String
  | .addPort _ => none
  | .setPublicIp ip => some ip

/-- The machine after a call. -/
def ProtectedMachine.apply (m : ProtectedMachine) : MachineCall → ProtectedMachine
  | .addPort r => m.addPort r
  | .setPublicIp ip => m.setPublicIp ip

/-- A new machine after some calls. -/
def ProtectedMachine.after (id : String) (calls : List MachineCall) : ProtectedMachine :=
  calls.foldl apply (new id)

/-- A new port to open after some sources have been allowed for it, one at a time. -/
def WantedPort.after (number : UInt16) (endTime : String) (sources : List String) : WantedPort :=
  sources.foldl allowSource (new number endTime)

/-- A new machine after some ports to open have been added. -/
def WantedMachine.after (id : String) (ports : List WantedPort) : WantedMachine :=
  ports.foldl addPort (new id)

/-- A rule keeps what it is made with, and of the sources those that have been allowed last. -/
theorem PortRule.after_eq (number : UInt16) (protocol : Protocol) (maxDuration : String)
    (calls : List RuleCall) :
    after number protocol maxDuration calls =
      ⟨number, protocol, (calls.filterMap RuleCall.source?).getLast?,
        (calls.filterMap RuleCall.sources?).getLast?, maxDuration⟩ := by
  ext1
  · exact foldl_keeps PortRule.number (fun r call => by cases call <;> rfl) calls _
  · exact foldl_keeps PortRule.protocol (fun r call => by cases call <;> rfl) calls _
  · refine (foldl_sets allowedSource RuleCall.source? ?_ calls _).trans Option.or_none
    intro r call
    cases call <;> rfl
  · refine (foldl_sets allowedSources RuleCall.sources? ?_ calls _).trans Option.or_none
    intro r call
    cases call <;> rfl
  · exact foldl_keeps PortRule.maxDuration (fun r call => by cases call <;> rfl) calls _

/-- A machine has the rules that have been added to it, and the address that has been set last. -/
theorem ProtectedMachine.after_eq (id : String) (calls : List MachineCall) :
    after id calls =
      ⟨id, calls.filterMap MachineCall.rule?,
        (calls.filterMap MachineCall.publicIp?).getLast?⟩ := by
  ext1
  · exact foldl_keeps ProtectedMachine.id (fun m call => by cases call <;> rfl) calls _
  · refine foldl_adds ports MachineCall.rule? ?_ calls (new id)
    intro m call
    cases call with
    | addPort r => rfl
    | setPublicIp ip => exact (List.append_nil m.ports).symm
  · refine (foldl_sets publicIp MachineCall.publicIp? ?_ calls _).trans Option.or_none
    intro m call
    cases call <;> rfl

/-- Of the sources that are allowed for a port to open the last one counts. -/
theorem WantedPort.after_eq (number : UInt16) (endTime : String) (sources : List String) :
    after number endTime sources = ⟨number, sources.getLast?, endTime⟩ := by
  have hlast : (sources.filterMap some).getLast? = sources.getLast? := by
    rw [List.filterMap_some]
  ext1
  · refine foldl_keeps WantedPort.number ?_ sources (new number endTime)
    intro p source
    rfl
  · refine (foldl_sets allowedSource some ?_ sources (new number endTime)).trans ?_
    · intro p source
      rfl
    · exact Option.or_none.trans hlast
  · refine foldl_keeps WantedPort.endTime ?_ sources (new number endTime)
    intro p source
    rfl

/-- A machine with ports to open has those that have been added to it. -/
theorem WantedMachine.after_eq (id : String) (ports : List WantedPort) :
    after id ports = ⟨id, ports⟩ := by
  ext1
  · refine foldl_keeps WantedMachine.id ?_ ports (new id)
    intro m p
    rfl
  · refine (foldl_adds WantedMachine.ports some ?_ ports (new id)).trans List.filterMap_some
    intro m p
    rfl

/-! ## Drafts -/

/-- The kind that a call sets. -/
def PolicyCall.kind? : PolicyCall → Option String
  | .setKind kind => some kind
  | .addMachine _ => none

/-- The justification that a call gives. -/
def OrderCall.justification? : OrderCall → Option String
  | .addMachine _ => none
  | .justify justification => some justification

/-- A draft of a policy has the machines that have been added, and the kind that has been set last. -/
theorem PolicyDraft.after_eq (calls : List PolicyCall) :
    after calls =
      ⟨(calls.filterMap PolicyCall.kind?).getLast?, calls.filterMap PolicyCall.machine?⟩ := by
  ext1
  · refine (foldl_sets PolicyDraft.kind PolicyCall.kind? ?_ calls _).trans Option.or_none
    intro d call
    cases call <;> rfl
  · exact machines_foldl calls {}

/-- A draft of an order has the machines that have been added, and the justification that has been
given last. -/
theorem OrderDraft.after_eq (calls : List OrderCall) :
    after calls =
      ⟨calls.filterMap OrderCall.machine?,
        (calls.filterMap OrderCall.justification?).getLast?⟩ := by
  ext1
  · exact machines_foldl calls {}
  · refine (foldl_sets OrderDraft.justification OrderCall.justification? ?_ calls _).trans
      Option.or_none
    intro d call
    cases call <;> rfl

/-! ## Checks -/

/-- Something that is looked at, and the fault if it is not as it must be. -/
structure Check (α : Type) where
  fails : α → Bool
  fault : α → DraftFault

/-- What is looked at for a machine under a policy, in this order. -/
def ProtectedMachine.checks : List (Check ProtectedMachine) :=
  [⟨fun m => isBlank m.id, fun _ => .blankMachine⟩,
    ⟨fun m => m.ports.isEmpty, fun m => .noPort m.id⟩]

/-- What is looked at for a machine with ports to open, in this order. -/
def WantedMachine.checks : List (Check WantedMachine) :=
  [⟨fun m => isBlank m.id, fun _ => .blankMachine⟩,
    ⟨fun m => m.ports.isEmpty, fun m => .noPort m.id⟩,
    ⟨fun m => m.ports.any fun p => isBlank p.endTime, fun _ => .blankEndTime⟩]

section

variable {α : Type} {checks : List (Check α)} {m : α} {machines : List α} {fault : DraftFault}

/-- Whether a machine passes all checks. -/
def Passes (checks : List (Check α)) (m : α) : Prop := ∀ c ∈ checks, c.fails m = false

/-- Whether a fault is that of the first check that a machine fails. -/
def FirstFailed (checks : List (Check α)) (m : α) (fault : DraftFault) : Prop :=
  ∃ passed c rest, checks = passed ++ c :: rest ∧ (c.fails m ∧ c.fault m = fault) ∧ Passes passed m

/-- Whether a fault is that of the first machine that does not pass, and of the first check that it
fails. -/
def FirstFault (checks : List (Check α)) (machines : List α) (fault : DraftFault) : Prop :=
  ∃ before m after, machines = before ++ m :: after ∧ FirstFailed checks m fault ∧
    ∀ m' ∈ before, Passes checks m'

/-- What a check tells of a machine. -/
def Check.told? (c : Check α) (m : α) : Option DraftFault :=
  if c.fails m then some (c.fault m) else none

/-- What checks tell of a machine, one after the other until one fails. -/
def firstTold? (checks : List (Check α)) (m : α) : Option DraftFault := checks.findSome? (·.told? m)

theorem Check.told?_eq_none_iff {c : Check α} : c.told? m = none ↔ c.fails m = false := by
  simp [told?]

theorem firstTold?_eq_none_iff : firstTold? checks m = none ↔ Passes checks m := by
  simp only [firstTold?, List.findSome?_eq_none_iff, Check.told?_eq_none_iff, Passes]

theorem firstTold?_eq_some_iff : firstTold? checks m = some fault ↔ FirstFailed checks m fault := by
  have htold (c : Check α) : c.told? m = some fault ↔ c.fails m ∧ c.fault m = fault := by
    rw [Check.told?, Option.ite_none_right_eq_some, Option.some_inj]
  simp only [firstTold?, List.findSome?_eq_some_iff, Check.told?_eq_none_iff, htold, FirstFailed,
    Passes]

/-- The fault of machines is that there is none, or else the first. -/
theorem machinesFault?_eq_some_iff :
    machinesFault? (firstTold? checks) machines = some fault ↔
      (machines = [] ∧ fault = .noMachine) ∨ FirstFault checks machines fault := by
  have hfirst : machines.findSome? (firstTold? checks) = some fault ↔
      FirstFault checks machines fault := by
    simp only [List.findSome?_eq_some_iff, firstTold?_eq_none_iff, firstTold?_eq_some_iff,
      FirstFault]
  rw [← hfirst, machinesFault?]
  cases machines with
  | nil => simp [eq_comm]
  | cons m machines => simp

/-- No later machine hides the first fault. -/
theorem FirstFault.append (h : FirstFault checks machines fault) (later : List α) :
    FirstFault checks (machines ++ later) fault := by
  obtain ⟨before, m, after, rfl, hm, hbefore⟩ := h
  exact ⟨before, m, after ++ later, by simp, hm, hbefore⟩

theorem FirstFault.exists_check (h : FirstFault checks machines fault) :
    ∃ c ∈ checks, ∃ m, c.fault m = fault := by
  obtain ⟨-, m, -, -, ⟨passed, c, rest, rfl, ⟨-, hfault⟩, -⟩, -⟩ := h
  exact ⟨c, by simp, m, hfault⟩

end

theorem ProtectedMachine.fault?_eq (m : ProtectedMachine) : m.fault? = firstTold? checks m := by
  unfold fault?
  split_ifs with hid hports <;> simp [firstTold?, checks, Check.told?, *]

theorem WantedMachine.fault?_eq (m : WantedMachine) : m.fault? = firstTold? checks m := by
  unfold fault?
  split_ifs with hid hports hends <;> simp [firstTold?, checks, Check.told?, *]

/-! ## What is built -/

/-- The policy that calls describe. It says only what they have set. -/
def Policy.ofCalls (calls : List PolicyCall) : Policy :=
  ⟨none, none, none, (calls.filterMap PolicyCall.kind?).getLast?, none,
    ⟨calls.filterMap PolicyCall.machine?, none, none⟩⟩

/-- The order that calls describe. -/
def AccessOrder.ofCalls (calls : List OrderCall) : AccessOrder :=
  ⟨calls.filterMap OrderCall.machine?, (calls.filterMap OrderCall.justification?).getLast?⟩

/-- Whether calls come to what is made of them if there are machines and all of them pass, and to the
first fault otherwise, whatever is called after that. -/
structure BuildsOrTells {γ α β : Type} (machine? : γ → Option α) (checks : List (Check α))
    (made : List γ → β) (build : List γ → Except DraftFault β) : Prop where
  /-- A draft is finished if all machines pass, and then with all that has been put in. -/
  ok_iff : ∀ calls b, build calls = .ok b ↔
    (calls.filterMap machine? ≠ [] ∧ ∀ m ∈ calls.filterMap machine?, Passes checks m) ∧
      b = made calls
  /-- It is not finished if there is no machine, or one that fails a check. -/
  error_iff : ∀ calls fault, build calls = .error fault ↔
    (calls.filterMap machine? = [] ∧ fault = .noMachine) ∨
      FirstFault checks (calls.filterMap machine?) fault
  /-- It is told that there is no machine if none has been added, and only then. -/
  none_added_iff : ∀ calls,
    (∃ fault, build calls = .error fault ∧
      fault.message = "at least one virtual machine is required") ↔
        calls.filterMap machine? = []
  /-- What is told of a machine is told whatever comes after it. -/
  first_stays : ∀ calls later fault, build calls = .error fault →
    calls.filterMap machine? ≠ [] → build (calls ++ later) = .error fault

theorem DraftFault.message_noMachine :
    noMachine.message = "at least one virtual machine is required" := rfl

/-- A draft builds or tells in this way if it is kept from being finished by the fault of its machines
alone, and if no check is worded as if there were no machine. -/
theorem BuildsOrTells.of_machinesFault {γ α β : Type} {machine? : γ → Option α}
    {checks : List (Check α)} {made : List γ → β} {build : List γ → Except DraftFault β}
    (hbuild : ∀ calls, build calls =
      (machinesFault? (firstTold? checks) (calls.filterMap machine?)).elim
        (.ok (made calls)) .error)
    (hwords : ∀ c ∈ checks, ∀ m, (c.fault m).message ≠ DraftFault.message .noMachine) :
    BuildsOrTells machine? checks made build := by
  have hok (calls : List γ) (b : β) : build calls = .ok b ↔
      (calls.filterMap machine? ≠ [] ∧ ∀ m ∈ calls.filterMap machine?, Passes checks m) ∧
        b = made calls := by
    simp only [← firstTold?_eq_none_iff, ← machinesFault?_eq_none_iff]
    rw [hbuild]
    cases machinesFault? (firstTold? checks) (calls.filterMap machine?) <;> simp [eq_comm]
  have herror (calls : List γ) (fault : DraftFault) : build calls = .error fault ↔
      (calls.filterMap machine? = [] ∧ fault = .noMachine) ∨
        FirstFault checks (calls.filterMap machine?) fault := by
    rw [← machinesFault?_eq_some_iff, hbuild]
    cases machinesFault? (firstTold? checks) (calls.filterMap machine?) <;> simp
  refine ⟨hok, herror, ?_, ?_⟩
  · intro calls
    constructor
    · rintro ⟨fault, hfault, hmessage⟩
      rcases (herror calls fault).1 hfault with ⟨hnone, -⟩ | hfirst
      · exact hnone
      · obtain ⟨c, hc, m, rfl⟩ := hfirst.exists_check
        rw [← DraftFault.message_noMachine] at hmessage
        exact absurd hmessage (hwords c hc m)
    · intro hnone
      exact ⟨.noMachine, (herror calls _).2 (Or.inl ⟨hnone, rfl⟩), rfl⟩
  · intro calls later fault hfault hsome
    have hfirst := ((herror calls fault).1 hfault).resolve_left fun h => hsome h.1
    rw [herror, List.filterMap_append]
    exact Or.inr (hfirst.append _)

/-- A machine without a port is not told of as if there were no machine, whatever its id. -/
theorem DraftFault.message_noPort_ne (machine : String) :
    (noPort machine).message ≠ noMachine.message := by
  intro h
  -- The wordings differ in their first letter, which the id does not reach.
  have hport : "virtual machine ".toList.head? = some 'v' := by decide
  have hmachine : "at least one virtual machine is required".toList.head? = some 'a' := by decide
  have hhead : ("virtual machine " ++ machine ++ " needs at least one port").toList.head? =
      "at least one virtual machine is required".toList.head? := congrArg (·.toList.head?) h
  rw [String.toList_append, String.toList_append, List.append_assoc, List.head?_append, hport,
    hmachine] at hhead
  exact absurd (Option.some.inj hhead) (by decide)

theorem ProtectedMachine.message_ne_of_mem_checks {c : Check ProtectedMachine} (hc : c ∈ checks)
    (m : ProtectedMachine) : (c.fault m).message ≠ DraftFault.message .noMachine := by
  rcases List.mem_pair.1 hc with rfl | rfl
  · exact (by decide : DraftFault.message .blankMachine ≠ DraftFault.message .noMachine)
  · exact DraftFault.message_noPort_ne m.id

theorem WantedMachine.message_ne_of_mem_checks {c : Check WantedMachine} (hc : c ∈ checks)
    (m : WantedMachine) : (c.fault m).message ≠ DraftFault.message .noMachine := by
  simp only [checks, List.mem_cons, List.not_mem_nil, or_false] at hc
  rcases hc with rfl | rfl | rfl
  · exact (by decide : DraftFault.message .blankMachine ≠ DraftFault.message .noMachine)
  · exact DraftFault.message_noPort_ne m.id
  · exact (by decide : DraftFault.message .blankEndTime ≠ DraftFault.message .noMachine)

theorem PolicyDraft.build_after (calls : List PolicyCall) :
    (after calls).build =
      (machinesFault? (firstTold? ProtectedMachine.checks)
        (calls.filterMap PolicyCall.machine?)).elim (.ok (.ofCalls calls)) .error := by
  rw [after_eq, build, funext ProtectedMachine.fault?_eq]
  cases machinesFault? (firstTold? ProtectedMachine.checks) (calls.filterMap PolicyCall.machine?) <;>
    rfl

theorem OrderDraft.build_after (calls : List OrderCall) :
    (after calls).build =
      (machinesFault? (firstTold? WantedMachine.checks)
        (calls.filterMap OrderCall.machine?)).elim (.ok (.ofCalls calls)) .error := by
  rw [after_eq, build, funext WantedMachine.fault?_eq]
  cases machinesFault? (firstTold? WantedMachine.checks) (calls.filterMap OrderCall.machine?) <;>
    rfl

/-! ## What is written -/

/-- The value at the end of a path of names. -/
def Json.Value.at? (v : Value) : List String → Option Value
  | [] => some v
  | name :: path => (v.member? name).bind (·.at? path)

/-- The paths to what only the service says about a policy. -/
def Policy.readOnlyPaths : List (List String) :=
  [["id"], ["name"], ["type"], ["location"], ["properties", "requests"],
    ["properties", "provisioningState"]]

/-- Nothing is written but the kind and the machines. -/
theorem Policy.toJson_ofCalls (calls : List PolicyCall) :
    (ofCalls calls).toJson =
      .object (optionalMember "kind" .string (calls.filterMap PolicyCall.kind?).getLast? ++
        [("properties", .object [("virtualMachines",
          ofList ProtectedMachine.toJson (calls.filterMap PolicyCall.machine?))])]) := by
  simp [toJson, PolicyProperties.toJson, ofCalls, member, optionalMember]

theorem Policy.at?_of_mem_readOnlyPaths {path : List String} (h : path ∈ readOnlyPaths)
    (calls : List PolicyCall) : (ofCalls calls).toJson.at? path = none := by
  rw [toJson_ofCalls]
  generalize (calls.filterMap PolicyCall.kind?).getLast? = kind
  fin_cases h <;> cases kind <;>
    simp [Value.at?, Value.member?, optionalMember, List.lookup]

/-- An order is written with the id and the ports of each machine, and with its justification if one has
been given. -/
theorem AccessOrder.toJson_ofCalls (calls : List OrderCall) :
    (ofCalls calls).toJson =
      .object (("virtualMachines", .array ((calls.filterMap OrderCall.machine?).map fun m =>
          .object [("id", .string m.id), ("ports", .array (m.ports.map fun p =>
            .object (("number", .number (.int p.number.toNat)) ::
              optionalMember "allowedSourceAddressPrefix" .string p.allowedSource ++
              [("endTimeUtc", .string p.endTime)])))])) ::
        optionalMember "justification" .string
          (calls.filterMap OrderCall.justification?).getLast?) :=
  rfl

/-- **A draft comes to all that has been put in, or to its first fault.** Whatever the calls, a draft
is finished exactly if machines have been added and all of them pass their checks, and then with
these machines, in their order, and the other values as they have been set last; otherwise the fault
is that there is no machine, or that of the first machine that fails a check, and of the first check
that it fails, and calls after that do not change it. A policy that is finished is written with its
kind and its machines, and without what only the service says, and an order with its machines, their
ports and its justification. Machines and ports are made in the same way: they have what has been added,
in its order, and what has been set last. -/
theorem builds_or_tells_first_fault :
    BuildsOrTells PolicyCall.machine? ProtectedMachine.checks Policy.ofCalls
      (fun calls => (PolicyDraft.after calls).build) ∧
    BuildsOrTells OrderCall.machine? WantedMachine.checks AccessOrder.ofCalls
      (fun calls => (OrderDraft.after calls).build) ∧
    (∀ (calls : List PolicyCall) (p : Policy), (PolicyDraft.after calls).build = .ok p →
      p.toJson =
          .object (optionalMember "kind" .string (calls.filterMap PolicyCall.kind?).getLast? ++
            [("properties", .object [("virtualMachines",
              ofList ProtectedMachine.toJson (calls.filterMap PolicyCall.machine?))])]) ∧
        ∀ path ∈ Policy.readOnlyPaths, p.toJson.at? path = none) ∧
    (∀ (calls : List OrderCall) (o : AccessOrder), (OrderDraft.after calls).build = .ok o →
      o.toJson =
        .object (("virtualMachines", .array ((calls.filterMap OrderCall.machine?).map fun m =>
            .object [("id", .string m.id), ("ports", .array (m.ports.map fun p =>
              .object (("number", .number (.int p.number.toNat)) ::
                optionalMember "allowedSourceAddressPrefix" .string p.allowedSource ++
                [("endTimeUtc", .string p.endTime)])))])) ::
          optionalMember "justification" .string
            (calls.filterMap OrderCall.justification?).getLast?)) ∧
    (∀ id calls, ProtectedMachine.after id calls =
      ⟨id, calls.filterMap MachineCall.rule?,
        (calls.filterMap MachineCall.publicIp?).getLast?⟩) ∧
    (∀ number protocol maxDuration calls, PortRule.after number protocol maxDuration calls =
      ⟨number, protocol, (calls.filterMap RuleCall.source?).getLast?,
        (calls.filterMap RuleCall.sources?).getLast?, maxDuration⟩) ∧
    (∀ id ports, WantedMachine.after id ports = ⟨id, ports⟩) ∧
    ∀ number endTime sources, WantedPort.after number endTime sources =
      ⟨number, sources.getLast?, endTime⟩ := by
  have hpolicy : BuildsOrTells PolicyCall.machine? ProtectedMachine.checks Policy.ofCalls
      (fun calls => (PolicyDraft.after calls).build) :=
    .of_machinesFault PolicyDraft.build_after
      fun _ hc => ProtectedMachine.message_ne_of_mem_checks hc
  have horder : BuildsOrTells OrderCall.machine? WantedMachine.checks AccessOrder.ofCalls
      (fun calls => (OrderDraft.after calls).build) :=
    .of_machinesFault OrderDraft.build_after fun _ hc => WantedMachine.message_ne_of_mem_checks hc
  refine ⟨hpolicy, horder, ?_, ?_, ProtectedMachine.after_eq, PortRule.after_eq,
    WantedMachine.after_eq, WantedPort.after_eq⟩
  · intro calls p hbuild
    obtain ⟨-, rfl⟩ := (hpolicy.ok_iff calls p).1 hbuild
    exact ⟨Policy.toJson_ofCalls calls, fun path hpath =>
      Policy.at?_of_mem_readOnlyPaths hpath calls⟩
  · intro calls o hbuild
    obtain ⟨-, rfl⟩ := (horder.ok_iff calls o).1 hbuild
    exact AccessOrder.toJson_ofCalls calls

/-- Calls for a policy with two machines, where the kind and an address are set twice. -/
def twoMachines : List PolicyCall :=
  [.setKind "Old",
    .addMachine (.after "vm1"
      [.setPublicIp "10.0.0.1", .addPort (.new 22 .tcp "PT3H"), .setPublicIp "10.0.0.2"]),
    .setKind "Basic", .addMachine (.after "vm2" [.addPort (.new 80 .any "PT1H")])]

/-- The calls that add a machine without a port to it. -/
def threeMachines : List PolicyCall := twoMachines ++ [.addMachine (.new "vm3")]

/-- The policy is finished with what has been set last. With a third machine it is not, and it is this
machine that is told of even if one without an id comes after it. -/
theorem builds_or_tells_first_fault_of_three_machines :
    (∃ p, (PolicyDraft.after twoMachines).build = .ok p ∧ p.kind = some "Basic" ∧
      p.properties.machines.map (·.publicIp) = [some "10.0.0.2", none] ∧
      ∀ path ∈ Policy.readOnlyPaths, p.toJson.at? path = none) ∧
    (PolicyDraft.after threeMachines).build = .error (.noPort "vm3") ∧
    (PolicyDraft.after (threeMachines ++ [.addMachine (.new " ")])).build =
      .error (.noPort "vm3") := by
  have hbuild : (PolicyDraft.after twoMachines).build =
      .ok ⟨none, none, none, some "Basic", none,
        ⟨[⟨"vm1", [⟨22, .tcp, none, none, "PT3H"⟩], some "10.0.0.2"⟩,
          ⟨"vm2", [⟨80, .any, none, none, "PT1H"⟩], none⟩], none, none⟩⟩ := by
    decide
  have hfault : (PolicyDraft.after threeMachines).build = .error (.noPort "vm3") := by decide
  have hsome : threeMachines.filterMap PolicyCall.machine? ≠ [] := by decide
  exact ⟨⟨_, hbuild, rfl, rfl, (builds_or_tells_first_fault.2.2.1 _ _ hbuild).2⟩, hfault,
    builds_or_tells_first_fault.1.first_stays _ _ _ hfault hsome⟩

end JitAccess
