import JitAccess.Client.CallOptions
import JitAccess.Client.Settings
import JitAccess.Failure.Redaction
import JitAccess.Failure.Report

/-!
# Sending requests

A request is authorized once, before anything is sent. A reply with an expected status is the
result. A reply that tells of passing trouble is followed by another try, unless its status has a
meaning of its own or no tries are left. Any other reply is a failure, of the kind that its status
means.
-/

namespace JitAccess

open Http Trace

/-- The text of the bytes of a body. -/
def bodyText (body : List UInt8) : String :=
  String.ofList (Text.Utf8.decodeLossy body)

/-- The code and the detail of a failed reply, from its body: those of an error report, else the
whole body, or the status' reason phrase where that is empty. -/
def codeAndDetail (status : Status) (body : List UInt8) : Option String × String :=
  match Json.Decoder.run ErrorReport.decoder body with
  | some report => (report.error.code, report.error.message.getD (bodyText body))
  | none => (none, if body.isEmpty then reasonPhrase status else bodyText body)

/-- What a failed reply tells. A body that could not be read is empty. -/
def FailedReply.ofReply (r : Reply) : FailedReply :=
  let body := r.body.getD []
  let (code, detail) := codeAndDetail r.status body
  { status := r.status, code
    detail := String.ofList (Redaction.presentable detail.toList)
    fields := r.fields.map lowerName, body }

/-- Fail with a reply. -/
def failWith {α : Type} (c : Classification) (r : Reply) : Run α := do
  let kind := c.classify r.status
  report .debug "request failed"
    [("status", .number r.status.toNat), ("kind", .text kind.message)]
  throw (.http kind (.ofReply r))

theorem toNat_add_one_of_lt {n limit : UInt32} (h : n.toNat < limit.toNat) :
    (n + 1).toNat = n.toNat + 1 := by
  have hlimit := limit.toNat_lt
  rw [UInt32.toNat_add, UInt32.toNat_one]
  omega

/-- Send a message, and again as long as it makes sense. `attempt` counts the retries so far in 32
bits; it is raised only below the greatest number of retries, and so does not overflow. -/
def sendRepeatedly (policy : RetryPolicy) (expected : List Status) (c : Classification)
    (m : Message) (attempt : UInt32) : Run Reply := do
  let r ← exchange m
  if expected.contains r.status then return r
  else if !isRetriable r.status || (c.kind? r.status).isSome then failWith c r
  else if _h : policy.maxRetries ≤ attempt then failWith c r
  else
    let pause := policy.backoff attempt.toNat (← drawJitter)
    report .warn "transient error, retrying"
      [("status", .number r.status.toNat), ("attempt", .number attempt.toNat),
        ("backoff_ms", .number (UInt64.ofNat pause.millis).toNat)]
    sendRepeatedly policy expected c m (attempt + 1)
termination_by policy.maxRetries.toNat - attempt.toNat
decreasing_by
  have hlt : attempt.toNat < policy.maxRetries.toNat := by
    simpa [UInt32.le_iff_toNat_le] using _h
  have hsucc := toNat_add_one_of_lt hlt
  omega

/-- The reply to a request, if its status is an expected one. -/
def Client.send (client : Client) (r : Request) (expected : List Status) (c : Classification) :
    Run Reply := do
  let authorization ← client.credential.authorize
  match r.message? authorization with
  | none => throw (.request .refused)
  | some m => sendRepeatedly client.retry expected c m 0

/-- The body of a reply. -/
def Http.Reply.readBody (r : Reply) : Run (List UInt8) :=
  match r.body with
  | some body => pure body
  | none => throw (.request .broken)

/-- What the body of a reply means. -/
def Http.Reply.decodeBody {α : Type} (d : Json.Decoder α) (r : Reply) : Run α := do
  match Json.Decoder.run d (← r.readBody) with
  | some a => return a
  | none => throw (.request .undecodable)

end JitAccess
