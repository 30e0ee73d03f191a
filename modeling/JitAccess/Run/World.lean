import JitAccess.Failure.Basic
import JitAccess.Http.Message
import JitAccess.Run.Backoff
import JitAccess.Run.Trace

/-!
# The world around a client

A client asks a source for tokens, sends messages to a service, draws jitter and reports events. The
world holds what each of these will answer, and keeps a journal of what the client did: the messages
that reached the service, the scopes that tokens were asked for, and the events. An `Act` changes
the world; a `Run` may fail, and keeps the journal also when it does.
-/

namespace JitAccess

open Http Trace

/-- What a service does with a message. -/
inductive Answer
  | reply (r : Reply)
  | dropped
  | silent

/-- A service that messages do not reach, or one that has a list of answers. A service without any
answer left replies with the bare status 599. -/
inductive Service
  | unreachable
  | scripted (answers : List Answer)

/-- What a client meets with, and what it did. -/
structure World where
  service : Service
  tokens : List (Except String String) := []
  jitters : List Jitter := []
  spans : List Span := []
  messages : List Message := []
  scopes : List String := []
  events : List Event := []

/-- Work that changes the world. -/
abbrev Act := StateM World

/-- Work that changes the world and may fail. -/
abbrev Run := ExceptT Failure Act

/-- Run to the end, with the failure as a value. -/
def Run.attempt {α : Type} (r : Run α) : Act (Except Failure α) := ExceptT.run r

/-- The outcome of an act as one that may be a failure. -/
def Run.ofAct {α : Type} (a : Act (Except Failure α)) : Run α := ExceptT.mk a

/-! ## Service -/

/-- The reply of a service without any answer left. -/
def exhaustedReply : Reply := ⟨599, [], some []⟩

/-- A reply as it comes for a method. Some replies never have a body. -/
def Reply.delivered (method : String) (r : Reply) : Reply :=
  if method == "HEAD" || isBodiless r.status then { r with body := some [] } else r

/-- The next answer of a service, and the service after it. -/
def Service.next : List Answer → Answer × List Answer
  | [] => (.reply exhaustedReply, [])
  | a :: rest => (a, rest)

/-- The outcome of a message with an answer. -/
def Answer.outcome (method : String) : Answer → Except Failure Reply
  | .reply r => .ok (Reply.delivered method r)
  | .dropped => .error (.request .broken)
  | .silent => .error (.request .timedOut)

/-- Send a message and wait for the reply. -/
def exchange (m : Message) : Run Reply := .ofAct fun w =>
  match w.service with
  | .unreachable => (.error (.request .broken), w)
  | .scripted answers =>
    let (answer, rest) := Service.next answers
    (answer.outcome m.method,
      { w with service := .scripted rest, messages := w.messages ++ [m] })

/-! ## Tokens -/

/-- The reason why a source has no token left. -/
def noTokenLeft : String := "no more tokens"

/-- Ask the source for a token for some scopes. -/
def askToken (scopes : List String) : Run String := .ofAct fun w =>
  let w := { w with scopes := w.scopes ++ scopes }
  match w.tokens with
  | [] => (.error (.auth noTokenLeft), w)
  | .ok token :: rest => (.ok token, { w with tokens := rest })
  | .error reason :: rest => (.error (.auth reason), { w with tokens := rest })

/-! ## Jitter -/

/-- Draw a jitter. -/
def drawJitter : Act Jitter := fun w =>
  match w.jitters with
  | [] => (.neutral, w)
  | j :: rest => (j, { w with jitters := rest })

/-! ## Trace -/

/-- Report an event inside the spans that are open. -/
def report (level : Level) (message : String) (fields : Fields) : Act Unit := fun w =>
  ((), { w with events := w.events ++ [⟨level, message, fields, w.spans⟩] })

/-- Work with exactly these spans open. -/
def within {α : Type} (spans : List Span) (act : Act α) : Act α := fun w =>
  let (a, w') := act { w with spans }
  (a, { w' with spans := w.spans })

/-- Work inside one more span. -/
def inSpan {α : Type} (span : Span) (act : Act α) : Act α := fun w =>
  within (w.spans ++ [span]) act w

/-- Work that may fail inside one more span. -/
def Run.inSpan {α : Type} (span : Span) (run : Run α) : Run α :=
  .ofAct (JitAccess.inSpan span run.attempt)

/-! ## Journal -/

/-- Work together with the messages that it sent and the events that it reported. -/
def recorded {α : Type} (act : Act α) : Act (α × List Message × List Event) := fun w =>
  let (a, w') := act { w with messages := [], events := [] }
  ((a, w'.messages, w'.events),
    { w' with messages := w.messages ++ w'.messages, events := w.events ++ w'.events })

end JitAccess
