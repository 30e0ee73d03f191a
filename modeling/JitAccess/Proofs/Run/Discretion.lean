import JitAccess.Proofs.Run.World
import Mathlib.Data.List.Forall2

/-!
# Work that does not give a token away

Two pieces of work, each with an access token of its own, are told apart by nothing but the messages
that they send, and these by nothing but the value that authorizes them. This is a relation between two
runs; there is one rule for each way to put work together.

* `Message.Reauthorized`: two messages that differ in the value of one field.
* `World.Reauthorized`: two worlds that differ in the messages that were sent, and these in that.
* `Discreet`: work that leads from such worlds to such worlds.
-/

namespace JitAccess

open Http Trace

/-! ## Messages and worlds -/

/-- Two messages that differ in nothing but a value that authorizes them. -/
structure Http.Message.Reauthorized (value value' : String) (m m' : Message) : Prop where
  method : m'.method = m.method
  url : m'.url = m.url
  body : m'.body = m.body
  fields : ∃ before after, m.fields = before ++ ("authorization", value) :: after ∧
    m'.fields = before ++ ("authorization", value') :: after

/-- Two worlds that differ in nothing but what authorized the messages that were sent. -/
def World.Reauthorized (value value' : String) (w w' : World) : Prop :=
  ∃ messages', w' = { w with messages := messages' } ∧
    w.messages.Forall₂ (Message.Reauthorized value value') messages'

theorem World.Reauthorized.refl (value value' : String) {w : World} (h : w.messages = []) :
    w.Reauthorized value value' w :=
  ⟨w.messages, rfl, h ▸ .nil⟩

/-! ## Discreet work -/

variable {α β γ δ : Type} {value value' : String}

/-- Whether two pieces of work come to what is related, and to worlds that differ in nothing but what
authorized the messages, wherever they begin in two such worlds. -/
def Discreet (value value' : String) (act : Act α) (act' : Act β) (R : α → β → Prop) : Prop :=
  ∀ w w', World.Reauthorized value value' w w' →
    R (act w).1 (act' w').1 ∧ World.Reauthorized value value' (act w).2 (act' w').2

namespace Discreet

variable {act : Act α} {act' : Act β} {R : α → β → Prop} {f : α → Act γ} {f' : β → Act δ}
  {S : γ → δ → Prop}

theorem pure {a : α} {b : β} (h : R a b) : Discreet value value' (Pure.pure a) (Pure.pure b) R :=
  fun _ _ hw => ⟨h, hw⟩

theorem bind (hact : Discreet value value' act act' R)
    (hf : ∀ a b, R a b → Discreet value value' (f a) (f' b) S) :
    Discreet value value' (act >>= f) (act' >>= f') S := by
  intro w w' hw
  obtain ⟨hvalue, hworld⟩ := hact w w' hw
  exact hf _ _ hvalue _ _ hworld

/-- Work after which nothing more is done. -/
theorem map (hact : Discreet value value' act act' R) {g : α → γ} {g' : β → δ}
    (hg : ∀ a b, R a b → S (g a) (g' b)) :
    Discreet value value' (do return g (← act)) (do return g' (← act')) S :=
  hact.bind fun _ _ h => pure (hg _ _ h)

theorem report {level : Level} {message : String} {fields : Fields} :
    Discreet value value' (report level message fields) (JitAccess.report level message fields) Eq := by
  rintro w _ ⟨messages', rfl, hmessages⟩
  exact ⟨rfl, messages', rfl, hmessages⟩

theorem within (h : Discreet value value' act act' R) (spans : List Span) :
    Discreet value value' (within spans act) (JitAccess.within spans act') R := by
  rintro w _ ⟨messages', rfl, hmessages⟩
  obtain ⟨hvalue, messages'', hworld, hmessages''⟩ := h { w with spans }
    { w with spans, messages := messages' } ⟨messages', rfl, hmessages⟩
  have hclosed := congrArg (fun v : World => { v with spans := w.spans }) hworld
  exact ⟨hvalue, messages'', hclosed, hmessages''⟩

theorem inSpan (h : Discreet value value' act act' R) (span : Span) :
    Discreet value value' (inSpan span act) (JitAccess.inSpan span act') R := by
  rintro w _ ⟨messages', rfl, hmessages⟩
  exact h.within (w.spans ++ [span]) w _ ⟨messages', rfl, hmessages⟩

/-- What is recorded of some work: the same events, and messages that differ as said. -/
theorem recorded (h : Discreet value value' act act' R) :
    Discreet value value' (recorded act) (JitAccess.recorded act') fun r r' =>
      R r.1 r'.1 ∧ r.2.1.Forall₂ (Message.Reauthorized value value') r'.2.1 ∧ r'.2.2 = r.2.2 := by
  rintro w _ ⟨messages', rfl, hmessages⟩
  obtain ⟨hvalue, messages'', hworld, hmessages''⟩ := h { w with messages := [], events := [] }
    { w with messages := [], events := [] } (.refl value value' rfl)
  have hevents := congrArg World.events hworld
  have hjournal := congrArg (fun v : World =>
    { v with messages := messages' ++ v.messages, events := w.events ++ v.events }) hworld
  refine ⟨⟨hvalue, ?_, hevents⟩, messages' ++ messages'', hjournal,
    List.rel_append hmessages hmessages''⟩
  show List.Forall₂ _ _ (act' _).2.messages
  rw [hworld]
  exact hmessages''

/-- Work that may fail, and what is done after it unless it fails. -/
theorem run_bind {run run' : Run α} {g g' : α → Run γ}
    (hrun : Discreet value value' run.attempt run'.attempt Eq)
    (hg : ∀ a, Discreet value value' (g a).attempt (g' a).attempt Eq) :
    Discreet value value' (run >>= g).attempt (run' >>= g').attempt Eq := by
  show Discreet _ _ (run.attempt >>= ExceptT.bindCont g) (run'.attempt >>= ExceptT.bindCont g') _
  refine hrun.bind ?_
  rintro x _ rfl
  cases x with
  | error e => exact pure rfl
  | ok a => exact hg a

/-- Work that does not fail. -/
theorem lift {act act' : Act α} (hact : Discreet value value' act act' Eq) :
    Discreet value value' (liftM act : Run α).attempt (liftM act' : Run α).attempt Eq :=
  fun w w' hw => hact.map (fun _ _ h => congrArg Except.ok h) w w' hw

/-- Work that does not fail, and what is done after it. -/
theorem lift_bind {g : α → Run γ} {g' : β → Run γ} (hact : Discreet value value' act act' R)
    (hg : ∀ a b, R a b → Discreet value value' (g a).attempt (g' b).attempt Eq) :
    Discreet value value' ((liftM act : Run α) >>= g).attempt ((liftM act' : Run β) >>= g').attempt
      Eq :=
  fun w w' hw => hact.bind hg w w' hw

theorem run_inSpan {run run' : Run α} (h : Discreet value value' run.attempt run'.attempt Eq)
    (span : Span) :
    Discreet value value' (Run.inSpan span run).attempt (Run.inSpan span run').attempt Eq :=
  h.inSpan span

end Discreet

end JitAccess
