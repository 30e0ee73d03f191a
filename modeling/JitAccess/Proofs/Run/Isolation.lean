import JitAccess.Proofs.Run.World

/-!
# Work that keeps to its own answers

A service answers the messages in the order in which they come, whoever sends them. Work is isolated if
what it comes to and what it sends depend on nothing else in the world than the answers to its own
messages and the spans that are open: not on tokens, jitters or the journal, and not on the answers that
the service has for others. There is one rule for each way to put work together.

* `World.Took`: the messages that lead from a world to another, each of which took an answer.
* `World.Alike`: two worlds in which some messages are answered alike.
* `IsolatedAt`, `Isolated`: work that cannot tell such worlds apart.
-/

namespace JitAccess

open Http Trace

variable {α β : Type}

/-! ## Worlds that answer alike -/

/-- Whether two services answer the first messages alike, as many as the number says. -/
def Service.Alike (n : Nat) : Service → Service → Prop
  | .unreachable, .unreachable => True
  | .scripted answers, .scripted answers' =>
    ∀ i < n, (Service.scripted answers).answer i = (Service.scripted answers').answer i
  | _, _ => False

namespace Service

variable {s t : Service} {n k : Nat}

theorem Alike.mono (h : s.Alike (n + k) t) : s.Alike n t := by
  cases s <;> cases t
  · trivial
  · exact h
  · exact h
  · exact fun i hi => h i (by omega)

theorem Alike.after (h : s.Alike (n + k) t) : (s.after n).Alike k (t.after n) := by
  cases s with
  | unreachable =>
    cases t with
    | unreachable => trivial
    | scripted answers => exact h
  | scripted answers =>
    cases t with
    | unreachable => exact h
    | scripted answers' =>
      intro i hi
      have hanswer := h (n + i) (by omega)
      rwa [← answer_after, ← answer_after] at hanswer

/-- Such services are both reached by messages, or neither is. -/
theorem Alike.reached (h : s.Alike n t) (messages : List Message) :
    t.reached messages = s.reached messages := by
  cases s <;> cases t
  · rfl
  · cases h
  · cases h
  · rfl

theorem Alike.answer {messages : List Message} (h : s.Alike (s.reached messages).length t) {i : Nat}
    (hi : i < messages.length) : t.answer i = s.answer i := by
  cases s <;> cases t
  · rfl
  · cases h
  · cases h
  · exact (h i hi).symm

theorem after_reached (s : Service) (messages : List Message) :
    s.after (s.reached messages).length = s.after messages.length := by
  cases s <;> rfl

end Service

/-- Two worlds that answer some messages alike, with the same spans open. -/
structure World.Alike (n : Nat) (w v : World) : Prop where
  service : w.service.Alike n v.service
  spans : v.spans = w.spans

/-- The messages that lead from a world to another. Each took an answer of the service. -/
structure World.Took (w : World) (sent : List Message) (w' : World) : Prop where
  messages : w'.messages = w.messages ++ sent
  service : w'.service = w.service.after sent.length
  spans : w'.spans = w.spans

namespace World

variable {w w₁ w₂ v v₁ : World} {sent sent' : List Message} {n : Nat}

theorem Took.of_quiet (hmessages : w₁.messages = w.messages) (hservice : w₁.service = w.service)
    (hspans : w₁.spans = w.spans) : w.Took [] w₁ := by
  refine ⟨by rw [hmessages, List.append_nil], ?_, hspans⟩
  rw [hservice]
  cases w.service <;> rfl

theorem Took.append (h : w.Took sent w₁) (h' : w₁.Took sent' w₂) : w.Took (sent ++ sent') w₂ := by
  constructor
  · rw [h'.messages, h.messages, List.append_assoc]
  · rw [h'.service, h.service, Service.after_after, List.length_append]
  · rw [h'.spans, h.spans]

theorem Alike.mono (h : World.Alike (sent ++ sent').length w v) :
    World.Alike sent.length w v := by
  rw [List.length_append] at h
  exact ⟨h.service.mono, h.spans⟩

theorem Alike.after (h : World.Alike (sent ++ sent').length w v) (hw : w.Took sent w₁)
    (hv : v.Took sent v₁) : World.Alike sent'.length w₁ v₁ := by
  rw [List.length_append] at h
  constructor
  · rw [hw.service, hv.service]
    exact h.service.after
  · rw [hw.spans, hv.spans, h.spans]

end World

/-! ## Isolated work -/

/-- Whether some work, done in a world, comes to something with a property, and to the same with the
same messages in every world that answers these messages alike. -/
def IsolatedAt (w : World) (act : Act α) (Q : α → Prop) : Prop :=
  Q (act w).1 ∧ ∃ sent, w.Took sent (act w).2 ∧
    ∀ v, World.Alike sent.length w v → (act v).1 = (act w).1 ∧ v.Took sent (act v).2

/-- Work that is isolated in every world. -/
def Isolated (act : Act α) (Q : α → Prop) : Prop := ∀ w, IsolatedAt w act Q

namespace IsolatedAt

variable {w : World} {act : Act α} {f : α → Act β} {P : α → Prop} {Q : β → Prop}

/-- Work that sends nothing, and whose outcome depends on the open spans alone. -/
theorem of_quiet (hworld : ∀ v, (act v).2.messages = v.messages ∧ (act v).2.service = v.service ∧
      (act v).2.spans = v.spans) (hvalue : ∀ v : World, v.spans = w.spans → (act v).1 = (act w).1)
    (hP : P (act w).1) : IsolatedAt w act P := by
  have htook (v : World) : v.Took [] (act v).2 :=
    .of_quiet (hworld v).1 (hworld v).2.1 (hworld v).2.2
  exact ⟨hP, [], htook w, fun v hv => ⟨hvalue v hv.spans, htook v⟩⟩

theorem pure {a : α} (h : P a) : IsolatedAt w (Pure.pure a) P :=
  of_quiet (fun _ => ⟨rfl, rfl, rfl⟩) (fun _ _ => rfl) h

theorem bind (hact : IsolatedAt w act P)
    (hf : P (act w).1 → IsolatedAt (act w).2 (f (act w).1) Q) : IsolatedAt w (act >>= f) Q := by
  obtain ⟨hP, sent, htook, hsame⟩ := hact
  obtain ⟨hQ, sent', htook', hsame'⟩ := hf hP
  refine ⟨hQ, sent ++ sent', htook.append htook', fun v hv => ?_⟩
  obtain ⟨hvalue, hv₁⟩ := hsame v hv.mono
  obtain ⟨hvalue', hv₂⟩ := hsame' (act v).2 (hv.after htook hv₁)
  rw [Act.bind_apply, Act.bind_apply, hvalue]
  exact ⟨hvalue', hv₁.append hv₂⟩

/-- Work after which nothing more is done. -/
theorem map (hact : IsolatedAt w act P) {g : α → β} (hg : ∀ a, P a → Q (g a)) :
    IsolatedAt w (do return g (← act)) Q :=
  hact.bind fun ha => pure (hg _ ha)

/-- Work inside other spans, which depend on those that are open. -/
theorem within (spans : List Span → List Span)
    (h : IsolatedAt { w with spans := spans w.spans } act P) :
    IsolatedAt w (fun v => JitAccess.within (spans v.spans) act v) P := by
  obtain ⟨hP, sent, htook, hsame⟩ := h
  refine ⟨hP, sent, ⟨htook.messages, htook.service, rfl⟩, fun v hv => ?_⟩
  obtain ⟨hvalue, hv'⟩ := hsame { v with spans := spans v.spans }
    ⟨hv.service, congrArg spans hv.spans⟩
  exact ⟨hvalue, hv'.messages, hv'.service, rfl⟩

end IsolatedAt

namespace Isolated

variable {act : Act α} {f : α → Act β} {P : α → Prop} {Q : β → Prop}

theorem of_quiet (hworld : ∀ v, (act v).2.messages = v.messages ∧ (act v).2.service = v.service ∧
      (act v).2.spans = v.spans)
    (hvalue : ∀ v w : World, v.spans = w.spans → (act v).1 = (act w).1) (hP : ∀ w, P (act w).1) :
    Isolated act P :=
  fun w => .of_quiet hworld (fun v hv => hvalue v w hv) (hP w)

theorem pure {a : α} (h : P a) : Isolated (Pure.pure a) P := fun _ => .pure h

theorem bind (hact : Isolated act P) (hf : ∀ a, P a → Isolated (f a) Q) :
    Isolated (act >>= f) Q :=
  fun w => (hact w).bind fun ha => hf _ ha _

theorem map (hact : Isolated act P) {g : α → β} (hg : ∀ a, P a → Q (g a)) :
    Isolated (do return g (← act)) Q :=
  fun w => (hact w).map hg

theorem report {level : Level} {message : String} {fields : Fields} :
    Isolated (report level message fields) fun _ => True :=
  of_quiet (fun _ => ⟨rfl, rfl, rfl⟩) (fun _ _ _ => rfl) fun _ => trivial

theorem within (h : Isolated act P) (spans : List Span) : Isolated (within spans act) P :=
  fun _ => .within (fun _ => spans) (h _)

theorem inSpan (h : Isolated act P) (span : Span) : Isolated (inSpan span act) P :=
  fun _ => .within (· ++ [span]) (h _)

/-- Work that may fail, and what is done after it unless it fails. -/
theorem run_bind {run : Run α} {g : α → Run β} (hrun : Isolated run.attempt fun _ => True)
    (hg : ∀ a, Isolated (g a).attempt fun _ => True) :
    Isolated (run >>= g).attempt fun _ => True := by
  show Isolated (run.attempt >>= ExceptT.bindCont g) _
  refine hrun.bind fun x _ => ?_
  cases x with
  | error e => exact pure trivial
  | ok a => exact hg a

/-- Work that does not fail. -/
theorem lift (hact : Isolated act fun _ => True) :
    Isolated (liftM act : Run α).attempt fun _ => True :=
  fun w => (hact w).map fun _ _ => trivial

/-- Work that does not fail, and what is done after it. -/
theorem lift_bind {g : α → Run β} (hact : Isolated act fun _ => True)
    (hg : ∀ a, Isolated (g a).attempt fun _ => True) :
    Isolated ((liftM act : Run α) >>= g).attempt fun _ => True :=
  fun w => hact.bind (fun a _ => hg a) w

theorem run_inSpan {run : Run α} (h : Isolated run.attempt fun _ => True) (span : Span) :
    Isolated (Run.inSpan span run).attempt fun _ => True :=
  h.inSpan span

/-- What is recorded of some work. The events tell also of what the answers do not decide. -/
theorem recorded (h : Isolated act P) (w : World) :
    P (recorded act w).1.1 ∧ w.Took (recorded act w).1.2.1 (recorded act w).2 ∧
      ∀ v, World.Alike (recorded act w).1.2.1.length w v →
        (recorded act v).1.1 = (recorded act w).1.1 ∧
        (recorded act v).1.2.1 = (recorded act w).1.2.1 ∧
        v.Took (recorded act w).1.2.1 (recorded act v).2 := by
  have htook {v : World} {sent : List Message}
      (hsent : World.Took { v with messages := [], events := [] } sent
        (act { v with messages := [], events := [] }).2) :
      (JitAccess.recorded act v).1.2.1 = sent ∧ v.Took sent (JitAccess.recorded act v).2 := by
    have hmessages : (JitAccess.recorded act v).1.2.1 = sent := hsent.messages
    refine ⟨hmessages, ?_, hsent.service, hsent.spans⟩
    rw [← hmessages]
    rfl
  obtain ⟨hP, sent, hsent, hsame⟩ := h { w with messages := [], events := [] }
  obtain ⟨hmessages, hw⟩ := htook hsent
  rw [hmessages]
  refine ⟨hP, hw, fun v hv => ?_⟩
  obtain ⟨hvalue, hsent'⟩ := hsame { v with messages := [], events := [] } ⟨hv.service, hv.spans⟩
  obtain ⟨hmessages', hv'⟩ := htook hsent'
  exact ⟨hvalue, hmessages', hv'⟩

end Isolated

end JitAccess
