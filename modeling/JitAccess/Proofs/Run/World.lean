import JitAccess.Run.World

/-!
# What work does to the world

Work that may fail is looked at through `Run.attempt`: from a world it gives an outcome and the world
after it. Each way to put work together, and each effect, has one lemma here, so that later proofs
do not open the monads.
-/

namespace JitAccess

open Http Trace

variable {α β : Type}

/-! ## Putting work together -/

namespace Run

@[simp] theorem attempt_pure (a : α) (w : World) : (pure a : Run α).attempt w = (.ok a, w) := rfl

@[simp] theorem attempt_throw (e : Failure) (w : World) :
    (throw e : Run α).attempt w = (.error e, w) := rfl

@[simp] theorem attempt_ofAct (a : Act (Except Failure α)) : (Run.ofAct a).attempt = a := rfl

@[simp] theorem attempt_lift (a : Act α) (w : World) :
    (liftM a : Run α).attempt w = (.ok (a w).1, (a w).2) := rfl

theorem attempt_bind (r : Run α) (f : α → Run β) (w : World) :
    (r >>= f).attempt w = match r.attempt w with
      | (.ok a, w') => (f a).attempt w'
      | (.error e, w') => (.error e, w') := by
  show (ExceptT.bindCont f (r.attempt w).1 : Act (Except Failure β)) (r.attempt w).2 = _
  rcases r.attempt w with ⟨_ | _, _⟩ <;> rfl

theorem attempt_bind_ok {r : Run α} {w w' : World} {a : α} (h : r.attempt w = (.ok a, w'))
    (f : α → Run β) : (r >>= f).attempt w = (f a).attempt w' := by
  rw [attempt_bind, h]

theorem attempt_bind_error {r : Run α} {w w' : World} {e : Failure}
    (h : r.attempt w = (.error e, w')) (f : α → Run β) :
    (r >>= f).attempt w = (.error e, w') := by
  rw [attempt_bind, h]

end Run

theorem Act.bind_apply (a : Act α) (f : α → Act β) (w : World) :
    (a >>= f) w = f (a w).1 (a w).2 := rfl

@[simp] theorem Act.pure_apply (a : α) (w : World) : (pure a : Act α) w = (a, w) := rfl

/-! ## Messages -/

namespace Service

/-- The answer to a message that some others go before. -/
def answer : Service → Nat → Answer
  | .unreachable, _ => .dropped
  | .scripted answers, n => answers.getD n (.reply exhaustedReply)

/-- The service after some messages. -/
def after : Service → Nat → Service
  | .unreachable, _ => .unreachable
  | .scripted answers, n => .scripted (answers.drop n)

/-- Those of some messages that reach the service. -/
def reached : Service → List Message → List Message
  | .unreachable, _ => []
  | .scripted _, messages => messages

theorem answer_after (s : Service) (k n : Nat) : (s.after k).answer n = s.answer (k + n) := by
  cases s with
  | unreachable => rfl
  | scripted answers => simp [after, answer]

theorem after_after (s : Service) (k n : Nat) : (s.after k).after n = s.after (k + n) := by
  cases s with
  | unreachable => rfl
  | scripted answers => simp [after]

theorem reached_append (s : Service) (k : Nat) (l l' : List Message) :
    s.reached l ++ (s.after k).reached l' = s.reached (l ++ l') := by
  cases s <;> rfl

end Service

/-- The world after some messages of one kind, with the outcome of the last still to be seen. -/
def World.afterMessages (w : World) (m : Message) (n : Nat) : World :=
  { w with
    service := w.service.after n
    messages := w.messages ++ w.service.reached (List.replicate n m) }

theorem exchange_attempt (m : Message) (w : World) :
    (exchange m).attempt w =
      ((w.service.answer 0).outcome m.method, w.afterMessages m 1) := by
  obtain ⟨service, _, _, _, messages, _, _⟩ := w
  cases service with
  | unreachable => simp [exchange, World.afterMessages, Service.after, Service.reached,
      Service.answer, Answer.outcome]
  | scripted answers => cases answers <;> rfl

/-! ## Jitter -/

theorem drawJitter_apply (w : World) :
    drawJitter w = (w.jitters.getD 0 .neutral, { w with jitters := w.jitters.drop 1 }) := by
  obtain ⟨_, _, jitters, _, _, _, _⟩ := w
  cases jitters <;> rfl

/-! ## Journal -/

theorem recorded_of_eq {act : Act α} {w w' : World} {a : α}
    (h : act { w with messages := [], events := [] } = (a, w')) :
    recorded act w = ((a, w'.messages, w'.events),
      { w' with messages := w.messages ++ w'.messages, events := w.events ++ w'.events }) := by
  simp only [recorded, h]

end JitAccess
