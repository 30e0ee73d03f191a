import JitAccess.Policy.Operations
import JitAccess.Proofs.Client.Retrying
import JitAccess.Proofs.Run.Isolation

/-!
# Requests that keep to their own answers

A client with an access token of its own asks nobody for one. What a request comes to is then decided by
the answers to its own messages, and so is what each operation comes to.

* `Client.isolated_send`: a request, retries included.
* `Client.isolated_call`, `Client.isolated_getPolicy` and its siblings: the operations on one policy.
-/

namespace JitAccess

open Http Trace

/-- Whether a client has an access token of its own. -/
def Client.HasToken (c : Client) : Prop := ∃ token, c.credential = .accessToken token

theorem Credential.authorize_attempt_of_token {k : Credential} {token : String}
    (h : k = .accessToken token) (w : World) :
    k.authorize.attempt w = (.ok (bearer token), w.afterAsking k) := by
  subst h
  exact (Credential.accessToken token).authorize_attempt_eq w

/-- The least element of a set is that of any set with the same elements up to it. -/
theorem isLeast_congr {S T : Set Nat} {n m : Nat} (hn : IsLeast S n) (hm : IsLeast T m)
    (hsame : ∀ i ≤ n, i ∈ S ↔ i ∈ T) : n = m := by
  have hle : m ≤ n := hm.2 ((hsame n (Nat.le_refl n)).1 hn.1)
  exact Nat.le_antisymm (hn.2 ((hsame m hle).2 hm.1)) hle

namespace Client

variable {c : Client}

/-- A request, retries included. -/
theorem isolated_send (h : c.HasToken) (r : Request) (expected : List Status)
    (k : Classification) : Isolated (c.send r expected k).attempt fun _ => True := by
  obtain ⟨token, htoken⟩ := h
  have hauth (w : World) := Credential.authorize_attempt_of_token htoken w
  cases hm : r.message? (bearer token) with
  | none =>
    have hrun (w : World) := @send_attempt_of_refused c r expected k w _ (hauth w) hm
    exact .of_quiet (fun v => by rw [hrun]; exact ⟨rfl, rfl, rfl⟩) (fun v w _ => by rw [hrun, hrun])
      fun _ => trivial
  | some m =>
    intro w
    obtain ⟨n, hn, hrun⟩ := @send_attempt_of_message c r expected k w _ m (hauth w) hm
    have hlength : (List.replicate (n + 1) m).length = n + 1 := List.length_replicate
    have hafter (s : Service) := s.after_reached (List.replicate (n + 1) m)
    rw [hlength] at hafter
    rw [IsolatedAt, hrun]
    refine ⟨trivial, w.service.reached (List.replicate (n + 1) m), ⟨rfl, (hafter _).symm, rfl⟩,
      fun v hv => ?_⟩
    -- The answers up to the one that settles the request are the same, so it is the same one.
    have hanswer (i : Nat) (hi : i ≤ n) : v.service.answer i = w.service.answer i :=
      hv.service.answer (by rw [hlength]; omega)
    obtain ⟨n', hn', hrun'⟩ := @send_attempt_of_message c r expected k v _ m (hauth v) hm
    obtain rfl : n = n' := isLeast_congr hn hn' fun i hi => by
      show (EndsRetries _ _ _ ∨ _) ↔ (EndsRetries _ _ _ ∨ _)
      rw [hanswer i hi]
    have hreached := hv.service.reached (List.replicate (n + 1) m)
    rw [hrun', hanswer n (Nat.le_refl n), ← hreached]
    exact ⟨rfl, rfl, (hafter _).symm, rfl⟩

theorem isolated_readBody (reply : Reply) : Isolated reply.readBody.attempt fun _ => True := by
  unfold Reply.readBody
  split
  · exact .pure trivial
  · exact .pure trivial

theorem isolated_decodeBody {α : Type} (d : Json.Decoder α) (reply : Reply) :
    Isolated (reply.decodeBody d).attempt fun _ => True := by
  refine .run_bind (isolated_readBody reply) fun body => ?_
  split
  · exact .pure trivial
  · exact .pure trivial

/-! ## Operations on one policy -/

theorem isolated_call (h : c.HasToken) (method : String) (route : Route)
    (params : List (String × String)) (body : Option Json.Value) (options : CallOptions)
    (expected : List Status) :
    Isolated (c.call method route params body options expected).attempt fun _ => True :=
  .run_bind (.pure trivial) fun _ => isolated_send h _ _ _

/-- An operation that reports something, sends a request and does something with the reply. -/
theorem isolated_operation {α : Type} {span : Span} {level : Level} {words : String}
    {fields : Fields} {ask : Run Reply} {f : Reply → Run α}
    (hask : Isolated ask.attempt fun _ => True) (hf : ∀ reply, Isolated (f reply).attempt fun _ => True) :
    Isolated (Run.inSpan span (do
      report level words fields
      let reply ← ask
      f reply)).attempt fun _ => True := by
  have hreply : Isolated (ask >>= f).attempt fun _ => True := .run_bind hask hf
  exact .run_inSpan (.lift_bind .report fun _ => hreply) span

theorem isolated_decodeBody_report {α : Type} (d : Json.Decoder α) (level : Level) (words : String)
    (fields : α → Fields) (reply : Reply) :
    Isolated (do
      let a ← reply.decodeBody d
      report level words (fields a)
      return a : Run α).attempt fun _ => True := by
  refine .run_bind (isolated_decodeBody d reply) fun a => ?_
  exact .lift_bind .report fun _ => .pure trivial

theorem isolated_getPolicy (h : c.HasToken) (n : PolicyName) (options : CallOptions) :
    Isolated (c.getPolicy n options).attempt fun _ => True :=
  isolated_operation (isolated_call h _ _ _ _ _ _) (isolated_decodeBody _)

theorem isolated_writePolicy (h : c.HasToken) (n : PolicyName) (policy : Policy)
    (options : CallOptions) : Isolated (c.writePolicy n policy options).attempt fun _ => True :=
  isolated_operation (isolated_call h _ _ _ _ _ _) (isolated_decodeBody_report _ _ _ _)

theorem isolated_deletePolicy (h : c.HasToken) (n : PolicyName) (options : CallOptions) :
    Isolated (c.deletePolicy n options).attempt fun _ => True :=
  isolated_operation (isolated_call h _ _ _ _ _ _) fun _ => .lift .report

theorem isolated_initiateAccess (h : c.HasToken) (n : PolicyName) (order : AccessOrder)
    (options : CallOptions) : Isolated (c.initiateAccess n order options).attempt fun _ => True :=
  isolated_operation (isolated_call h _ _ _ _ _ _) (isolated_decodeBody_report _ _ _ _)

end Client

end JitAccess
