import JitAccess.Policy.Draft
import Mathlib

/-!
# What finished drafts have

A draft is finished if it has a machine, and each of its machines an id and a port. For an order each
port must have an end, too, so that an order has all that an order must have. The rules of a policy
are not looked at: one without a duration, or with a list of no sources, becomes part of the policy.

* `PolicyDraft.build_eq_ok_iff`, `OrderDraft.build_eq_ok_iff`: which drafts are finished, and as what.
* `builds_complete_iff`: what is missing in a finished policy, and that nothing is in an order.
-/

namespace JitAccess

open Text

/-! ## What must be there -/

/-- Whether a rule has a duration, and a source if it lists any. -/
structure PortRule.Complete (r : PortRule) : Prop where
  duration : isBlank r.maxDuration = false
  sources : r.allowedSources ≠ some []

/-- Whether a machine has an id and ports that have all they must have. -/
structure ProtectedMachine.Complete (m : ProtectedMachine) : Prop where
  id : isBlank m.id = false
  ports : m.ports ≠ []
  rules : ∀ r ∈ m.ports, r.Complete

/-- Whether a policy has machines that have all they must have, and a request if it lists any. -/
structure Policy.Complete (p : Policy) : Prop where
  some_machine : p.properties.machines ≠ []
  machines : ∀ m ∈ p.properties.machines, m.Complete
  requests : p.properties.requests ≠ some []

/-- Whether a machine has an id, and ports that are open until a time. -/
structure WantedMachine.Complete (m : WantedMachine) : Prop where
  id : isBlank m.id = false
  ports : m.ports ≠ []
  ends : ∀ p ∈ m.ports, isBlank p.endTime = false

/-- Whether an order has machines that have all they must have. -/
structure AccessOrder.Complete (o : AccessOrder) : Prop where
  some_machine : o.machines ≠ []
  machines : ∀ m ∈ o.machines, m.Complete

/-! ## Calls -/

/-- A call that adds to a policy in the making. -/
inductive PolicyCall
  | setKind (kind : String)
  | addMachine (m : ProtectedMachine)

/-- The machine that a call adds. -/
def PolicyCall.machine? : PolicyCall → Option ProtectedMachine
  | .setKind _ => none
  | .addMachine m => some m

/-- The draft after a call. -/
def PolicyDraft.apply (d : PolicyDraft) : PolicyCall → PolicyDraft
  | .setKind kind => d.setKind kind
  | .addMachine m => d.addMachine m

/-- The draft after some calls. -/
def PolicyDraft.after (calls : List PolicyCall) : PolicyDraft := calls.foldl apply {}

/-- A call that adds to an order in the making. -/
inductive OrderCall
  | addMachine (m : WantedMachine)
  | justify (justification : String)

/-- The machine that a call adds. -/
def OrderCall.machine? : OrderCall → Option WantedMachine
  | .addMachine m => some m
  | .justify _ => none

/-- The draft after a call. -/
def OrderDraft.apply (d : OrderDraft) : OrderCall → OrderDraft
  | .addMachine m => d.addMachine m
  | .justify justification => d.justify justification

/-- The draft after some calls. -/
def OrderDraft.after (calls : List OrderCall) : OrderDraft := calls.foldl apply {}

section

variable {σ γ β : Type} {step : σ → γ → σ}

/-- What no step changes is the same after all of them. -/
theorem foldl_keeps (view : σ → β) (hstep : ∀ s c, view (step s c) = view s) (calls : List γ)
    (s : σ) : view (calls.foldl step s) = view s := by
  induction calls generalizing s with
  | nil => rfl
  | cons c calls ih => rw [List.foldl_cons, ih, hstep]

/-- What steps add to a list is at its end, in their order. -/
theorem foldl_adds (view : σ → List β) (added? : γ → Option β)
    (hstep : ∀ s c, view (step s c) = view s ++ (added? c).toList) (calls : List γ) (s : σ) :
    view (calls.foldl step s) = view s ++ calls.filterMap added? := by
  induction calls generalizing s with
  | nil => simp
  | cons c calls ih =>
    rw [List.foldl_cons, ih, hstep, List.append_assoc]
    cases hc : added? c <;> simp [hc]

/-- Of what steps set the last one counts. -/
theorem foldl_sets (view : σ → Option β) (set? : γ → Option β)
    (hstep : ∀ s c, view (step s c) = (set? c).or (view s)) (calls : List γ) (s : σ) :
    view (calls.foldl step s) = (calls.filterMap set?).getLast?.or (view s) := by
  induction calls generalizing s with
  | nil => rfl
  | cons c calls ih =>
    rw [List.foldl_cons, ih, hstep]
    cases hc : set? c with
    | none => simp [hc]
    | some b => simp [hc, List.getLast?_cons]

end

theorem PolicyDraft.machines_foldl (calls : List PolicyCall) (d : PolicyDraft) :
    (calls.foldl apply d).machines = d.machines ++ calls.filterMap PolicyCall.machine? := by
  refine foldl_adds PolicyDraft.machines PolicyCall.machine? ?_ calls d
  intro d call
  cases call with
  | setKind kind => exact (List.append_nil d.machines).symm
  | addMachine m => rfl

theorem OrderDraft.machines_foldl (calls : List OrderCall) (d : OrderDraft) :
    (calls.foldl apply d).machines = d.machines ++ calls.filterMap OrderCall.machine? := by
  refine foldl_adds OrderDraft.machines OrderCall.machine? ?_ calls d
  intro d call
  cases call with
  | addMachine m => rfl
  | justify justification => exact (List.append_nil d.machines).symm

/-! ## Finished drafts -/

theorem machinesFault?_eq_none_iff {α : Type} {fault? : α → Option DraftFault} {machines : List α} :
    machinesFault? fault? machines = none ↔
      machines ≠ [] ∧ ∀ m ∈ machines, fault? m = none := by
  unfold machinesFault?
  cases machines with
  | nil => simp
  | cons m machines => simp

theorem ProtectedMachine.fault?_eq_none_iff {m : ProtectedMachine} :
    m.fault? = none ↔ isBlank m.id = false ∧ m.ports ≠ [] := by
  unfold fault?
  cases isBlank m.id <;> simp

theorem WantedMachine.fault?_eq_none_iff {m : WantedMachine} : m.fault? = none ↔ m.Complete := by
  have hcomplete : m.Complete ↔ isBlank m.id = false ∧ m.ports ≠ [] ∧
      ∀ p ∈ m.ports, isBlank p.endTime = false :=
    ⟨fun h => ⟨h.id, h.ports, h.ends⟩, fun ⟨hid, hports, hends⟩ => ⟨hid, hports, hends⟩⟩
  rw [hcomplete]
  unfold fault?
  split_ifs with hid hports hends
  · simp [hid]
  · simp [List.isEmpty_iff.1 hports]
  · simpa using fun _ _ => hends
  · simp_all

/-- A draft of a policy is finished if it has a machine, and each machine an id and a port. -/
theorem PolicyDraft.build_eq_ok_iff {d : PolicyDraft} {p : Policy} :
    d.build = .ok p ↔
      (d.machines ≠ [] ∧ ∀ m ∈ d.machines, isBlank m.id = false ∧ m.ports ≠ []) ∧
        p = ⟨none, none, none, d.kind, none, ⟨d.machines, none, none⟩⟩ := by
  simp only [← ProtectedMachine.fault?_eq_none_iff, ← machinesFault?_eq_none_iff]
  unfold build
  cases machinesFault? ProtectedMachine.fault? d.machines <;> simp [eq_comm]

/-- A draft of an order is finished if it has all that an order must have. -/
theorem OrderDraft.build_eq_ok_iff {d : OrderDraft} {o : AccessOrder} :
    d.build = .ok o ↔
      (d.machines ≠ [] ∧ ∀ m ∈ d.machines, m.Complete) ∧ o = ⟨d.machines, d.justification⟩ := by
  simp only [← WantedMachine.fault?_eq_none_iff, ← machinesFault?_eq_none_iff]
  unfold build
  cases machinesFault? WantedMachine.fault? d.machines <;> simp [eq_comm]

/-- **An order that is finished has all it must have; a policy, all but its rules.** After any calls
the draft of either is finished with the machines that the calls have added, and a policy is complete
if and only if each rule has a duration and, if it lists any, a source. -/
theorem builds_complete_iff (policyCalls : List PolicyCall) (orderCalls : List OrderCall) :
    (∀ p : Policy, (PolicyDraft.after policyCalls).build = .ok p →
      p.properties.machines = policyCalls.filterMap PolicyCall.machine? ∧
        (p.Complete ↔ ∀ m ∈ p.properties.machines, ∀ r ∈ m.ports, r.Complete)) ∧
    ∀ o : AccessOrder, (OrderDraft.after orderCalls).build = .ok o →
      o.machines = orderCalls.filterMap OrderCall.machine? ∧ o.Complete := by
  constructor
  · intro p hbuild
    obtain ⟨⟨hsome, heach⟩, rfl⟩ := PolicyDraft.build_eq_ok_iff.1 hbuild
    refine ⟨PolicyDraft.machines_foldl policyCalls {}, ?_, ?_⟩
    · intro hcomplete m hm
      exact (hcomplete.machines m hm).rules
    · intro hrules
      exact ⟨hsome, fun m hm => ⟨(heach m hm).1, (heach m hm).2, hrules m hm⟩, nofun⟩
  · intro o hbuild
    obtain ⟨⟨hsome, heach⟩, rfl⟩ := OrderDraft.build_eq_ok_iff.1 hbuild
    exact ⟨OrderDraft.machines_foldl orderCalls {}, hsome, heach⟩

/-- The calls for a policy with one rule, which has this duration. -/
def oneRule (duration : String) : List PolicyCall :=
  [.addMachine ((ProtectedMachine.new "vm1").addPort (.new 22 .tcp duration))]

/-- A policy whose one rule has a duration is finished, and complete. -/
theorem builds_complete_with_duration :
    ∃ p, (PolicyDraft.after (oneRule "PT3H")).build = .ok p ∧ p.Complete := by
  have hbuild : (PolicyDraft.after (oneRule "PT3H")).build =
      .ok ⟨none, none, none, none, none,
        ⟨[⟨"vm1", [⟨22, .tcp, none, none, "PT3H"⟩], none⟩], none, none⟩⟩ := by
    decide
  have hrule : PortRule.Complete ⟨22, .tcp, none, none, "PT3H"⟩ := ⟨by decide, nofun⟩
  exact ⟨_, hbuild, ((builds_complete_iff _ []).1 _ hbuild).2.2 (by simpa using hrule)⟩

/-- Not every finished policy is complete: nothing is said of a duration that is empty. -/
theorem not_forall_build_complete :
    ¬ ∀ (calls : List PolicyCall) (p : Policy),
      (PolicyDraft.after calls).build = .ok p → p.Complete := by
  intro h
  have hbuild : (PolicyDraft.after (oneRule "")).build =
      .ok ⟨none, none, none, none, none,
        ⟨[⟨"vm1", [⟨22, .tcp, none, none, ""⟩], none⟩], none, none⟩⟩ := by
    decide
  have hmachine := (h _ _ hbuild).machines _ List.mem_cons_self
  have hrule := hmachine.rules _ List.mem_cons_self
  exact absurd hrule.duration (by simp)

end JitAccess
