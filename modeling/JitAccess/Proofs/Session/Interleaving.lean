import JitAccess.Proofs.Client.Continuation
import JitAccess.Proofs.Listing.Course
import JitAccess.Proofs.Session.Isolation

/-!
# Listings that are read in turns

Between the steps on a listing there may be steps on others, and requests that have nothing to do with
any. For the listing it is as if there were none of them, and as if the service had only the answers
that it gave to the messages of the listing.

* `Service.answersTo`: these answers.
* `Client.Detached`: the invariant, for a listing alone and the same listing among others.
* `Client.session_interleaved`: the steps on a listing come to what they come to without the others.
-/

namespace JitAccess

open Http Trace

variable {c : Client}

/-! ## Answers -/

namespace Service

/-- The answers to the next messages. -/
def first (s : Service) (n : Nat) : List Answer := (List.range n).map s.answer

/-- The service with other answers, unless it is not reached at all. -/
def only : Service → List Answer → Service
  | .unreachable, _ => .unreachable
  | .scripted _, answers => .scripted answers

/-- The answers to the messages of the steps on a listing, if the numbers say how many messages each
step of all sends. -/
def answersTo (name : String) : Service → List Step → List Nat → List Answer
  | s, step :: steps, n :: counts =>
    (if step.concerns name then s.first n else []) ++ (s.after n).answersTo name steps counts
  | _, _, _ => []

theorem alike_only (s : Service) (n : Nat) (rest : List Answer) :
    s.Alike n (s.only (s.first n ++ rest)) := by
  cases s with
  | unreachable => trivial
  | scripted answers =>
    intro i hi
    have hlength : i < ((Service.scripted answers).first n).length := by simpa [first] using hi
    show _ = (_ ++ rest).getD i _
    rw [List.getD_eq_getElem?_getD, List.getElem?_append_left hlength]
    simp [first, hi]

theorem after_only (s : Service) (n : Nat) (rest : List Answer) :
    (s.only (s.first n ++ rest)).after n = (s.after n).only rest := by
  cases s with
  | unreachable => rfl
  | scripted answers =>
    have hlength : ((Service.scripted answers).first n).length = n := by simp [first]
    show Service.scripted ((_ ++ rest).drop n) = .scripted rest
    rw [List.drop_left' hlength]

end Service

/-! ## Sessions -/

/-- What came of a step and what it sent. -/
def StepReport.told (r : StepReport) : Except Failure Step.Result × List Message :=
  (r.outcome, r.messages)

namespace Step

variable {l l' : OpenListings} {name : String} {step : Step} {w : World}

/-- The entries for the steps on a listing, among those for all steps. -/
def ownOf {α : Type} (name : String) (steps : List Step) (entries : List α) : List α :=
  ((steps.zip entries).filter (·.1.concerns name)).map (·.2)

theorem ownOf_cons {α : Type} (name : String) (step : Step) (steps : List Step) (entry : α)
    (entries : List α) :
    ownOf name (step :: steps) (entry :: entries) =
      if step.concerns name then entry :: ownOf name steps entries else ownOf name steps entries := by
  cases hstep : step.concerns name <;> simp [ownOf, hstep]

/-- Some work, with what is reported of it, and the listings after it. -/
def reported (act : Act Outcome) : Act (StepReport × OpenListings) := do
  let ((outcome, l), messages, events) ← recorded act
  return (⟨outcome, messages, events⟩, l)

/-- Where all messages of isolated work are answered alike, it comes to the same. -/
theorem took_reported {act : Act Outcome} {P : Outcome → Prop} (h : Isolated act P) (w : World) :
    P ((reported act w).1.1.outcome, (reported act w).1.2) ∧
      w.Took (reported act w).1.1.messages (reported act w).2 ∧
      ∀ v, World.Alike (reported act w).1.1.messages.length w v →
        (reported act v).1.1.told = (reported act w).1.1.told ∧
        (reported act v).1.2 = (reported act w).1.2 ∧
        v.Took (reported act w).1.1.messages (reported act v).2 := by
  obtain ⟨hP, htook, hsame⟩ := h.recorded w
  refine ⟨hP, htook, fun v hv => ?_⟩
  obtain ⟨houtcome, hmessages, htook'⟩ := hsame v hv
  have hresult := Prod.ext_iff.1 houtcome
  exact ⟨Prod.ext hresult.1 hmessages, hresult.2, htook'⟩

/-- Work that comes to the same from other listings is reported alike. -/
theorem Alike.reported {act act' : Act Outcome} (h : Alike name act act') (w : World) :
    (reported act w).1.1 = (Step.reported act' w).1.1 ∧
      (Step.reported act w).1.2.lookup name = (Step.reported act' w).1.2.lookup name ∧
      (Step.reported act w).2 = (Step.reported act' w).2 := by
  obtain ⟨houtcome, hlookup, hworld⟩ := h { w with messages := [], events := [] }
  have hreport : (Step.reported act w).1.1 = (Step.reported act' w).1.1 := by
    show StepReport.mk _ _ _ = StepReport.mk _ _ _
    rw [houtcome, hworld]
  refine ⟨hreport, hlookup, ?_⟩
  show World.mk _ _ _ _ _ _ _ = World.mk _ _ _ _ _ _ _
  rw [hworld]

theorem Spares.reported {act : Act Outcome} (h : Spares name l act) (w : World) :
    (Step.reported act w).1.2.lookup name = l.lookup name :=
  h _

/-- A step, with what is reported of it, and the listings after it. -/
def taken (c : Client) (l : OpenListings) (step : Step) : Act (StepReport × OpenListings) :=
  reported (step.perform c l)

/-- A step on another listing, or on none, leaves a listing as it is. -/
theorem lookup_taken (hstep : step.concerns name = false) (w : World) :
    (step.taken c l w).1.2.lookup name = l.lookup name :=
  (lookup_perform hstep).reported w

/-- A step is reported alike wherever its listing is the same. -/
theorem taken_congr (hstep : step.concerns name = true) (h : l.lookup name = l'.lookup name)
    (w : World) :
    (step.taken c l w).1.1 = (step.taken c l' w).1.1 ∧
      (step.taken c l w).1.2.lookup name = (step.taken c l' w).1.2.lookup name ∧
      (step.taken c l w).2 = (step.taken c l' w).2 :=
  (alike_perform hstep h).reported w

/-- A step comes to the same wherever its own messages are answered alike. -/
theorem took_taken (hc : c.HasToken) (hl : l.HasToken) (step : Step) (w : World) :
    (step.taken c l w).1.2.HasToken ∧
      w.Took (step.taken c l w).1.1.messages (step.taken c l w).2 ∧
      ∀ v, World.Alike (step.taken c l w).1.1.messages.length w v →
        (step.taken c l v).1.1.told = (step.taken c l w).1.1.told ∧
        (step.taken c l v).1.2 = (step.taken c l w).1.2 ∧
        v.Took (step.taken c l w).1.1.messages (step.taken c l v).2 :=
  took_reported (step.isolated_perform hc hl) w

end Step

namespace Client

theorem reports_cons (c : Client) (l : OpenListings) (step : Step) (steps : List Step) (w : World) :
    (c.session l (step :: steps) w).1 =
      (step.taken c l w).1.1 :: (c.session (step.taken c l w).1.2 steps (step.taken c l w).2).1 :=
  rfl

/-- A listing alone and the same listing among others, before some steps of which those on the listing
get the same answers in either place. -/
structure Detached (c : Client) (name : String) (steps : List Step) (alone l : OpenListings)
    (v w : World) : Prop where
  token : l.HasToken
  lookup : alone.lookup name = l.lookup name
  spans : v.spans = w.spans
  service : v.service = w.service.only (w.service.answersTo name steps
    ((c.session l steps w).1.map (·.messages.length)))

namespace Detached

variable {name : String} {step : Step} {steps : List Step} {alone l : OpenListings} {v w : World}

/-- A step on another listing, or on none, changes nothing for the listing alone. -/
theorem other (h : c.Detached name (step :: steps) alone l v w) (hc : c.HasToken)
    (hstep : step.concerns name = false) :
    c.Detached name steps alone (step.taken c l w).1.2 v (step.taken c l w).2 := by
  obtain ⟨htoken, htook, -⟩ := step.took_taken hc h.token w
  refine ⟨htoken, ?_, ?_, ?_⟩
  · rw [h.lookup, Step.lookup_taken hstep]
  · rw [h.spans, htook.spans]
  · rw [h.service, reports_cons, List.map_cons, Service.answersTo, hstep, htook.service]
    cases w.service <;> rfl

/-- A step on the listing comes to the same in either place. -/
theorem own (h : c.Detached name (step :: steps) alone l v w) (hc : c.HasToken)
    (hstep : step.concerns name = true) :
    (step.taken c alone v).1.1.told = (step.taken c l w).1.1.told ∧
      c.Detached name steps (step.taken c alone v).1.2 (step.taken c l w).1.2
        (step.taken c alone v).2 (step.taken c l w).2 := by
  obtain ⟨htoken, htook, hsame⟩ := step.took_taken hc h.token w
  obtain ⟨hreport, hlookup, hworld⟩ := Step.taken_congr (c := c) hstep h.lookup v
  have hservice := h.service
  rw [reports_cons, List.map_cons, Service.answersTo, hstep, if_pos rfl] at hservice
  have halike : World.Alike (step.taken c l w).1.1.messages.length w v := by
    refine ⟨?_, h.spans⟩
    rw [hservice]
    exact w.service.alike_only _ _
  obtain ⟨htold, hlistings, htook'⟩ := hsame v halike
  refine ⟨?_, htoken, ?_, ?_, ?_⟩
  · rw [hreport, htold]
  · rw [hlookup, hlistings]
  · rw [hworld, htook'.spans, htook.spans, h.spans]
  · rw [hworld, htook'.service, htook.service, hservice]
    exact w.service.after_only _ _

end Detached

/-- **Listings that are read in turns do not disturb each other.** Whatever the steps of a session are,
those on one listing come to the same, step by step and message by message, as they do without the
others, in a world in which the service has just the answers that their own messages got. -/
theorem session_interleaved (hc : c.HasToken) (l : OpenListings) (hl : l.HasToken) (name : String)
    (steps : List Step) (w v : World) (hspans : v.spans = w.spans)
    (hservice : v.service = w.service.only (w.service.answersTo name steps
      ((c.session l steps w).1.map (·.messages.length)))) :
    (c.session (l.only name) (steps.filter (·.concerns name)) v).1.map (·.told) =
      (Step.ownOf name steps (c.session l steps w).1).map (·.told) := by
  have hdetached : c.Detached name steps (l.only name) l v w :=
    ⟨hl, l.lookup_only name, hspans, hservice⟩
  -- The induction is on the steps; that the listing is detached is what each of them keeps.
  generalize l.only name = alone at hdetached ⊢
  clear hl hspans hservice
  induction steps generalizing l alone w v with
  | nil => rfl
  | cons step steps ih =>
    rw [reports_cons c l, Step.ownOf_cons]
    cases hstep : step.concerns name with
    | false =>
      rw [List.filter_cons_of_neg (by simp [hstep])]
      exact ih _ _ _ _ (hdetached.other hc hstep)
    | true =>
      obtain ⟨htold, hdetached'⟩ := hdetached.own hc hstep
      rw [List.filter_cons_of_pos (by simp [hstep]), reports_cons c alone, if_pos rfl,
        List.map_cons, List.map_cons, htold, ih _ _ _ _ hdetached']

/-- The values behind a URL of the public cloud. -/
def publicValues (query : String) : OpenListing :=
  .items ⟨.feed (.start publicCloud (.ok (.get (publicNext query none))) {} Json.Decoder.value []), []⟩

/-- Two listings. -/
def bothListings : OpenListings := [("a", publicValues "a"), ("b", publicValues "b")]

/-- Steps on two listings in turns, and one on neither. -/
def takingTurns : List Step :=
  [.next "a", .next "b", .get ⟨"rg1", "westeurope", "default"⟩ {}, .next "a", .next "b", .next "a"]

/-- A reply with a body. -/
def replyOf (status : Status) (body : String) : Answer :=
  .reply ⟨status, [], some (Text.Utf8.encode body.toList)⟩

/-- The two pages of one listing. -/
def ownAnswers : List Answer :=
  [replyOf 200 "\x7b\"value\":[\"vm1\"],\"nextLink\":\"/next?page=2\"\x7d",
    replyOf 200 "\x7b\"value\":[\"vm2\"]\x7d"]

/-- A service that has a page of that listing, a failure and then a page of another, no policy, and the
other page. -/
def sharedWorld : World where
  service := .scripted <| ownAnswers.take 1 ++
    [replyOf 503 "", replyOf 200 "\x7b\"value\":[\"vm3\",\"vm4\"]\x7d", replyOf 404 ""] ++
    ownAnswers.drop 1

theorem session_interleaved_with_retry :
    (publicCloud.HasToken ∧ OpenListings.HasToken bothListings) ∧
    (publicCloud.session bothListings takingTurns sharedWorld).1.map (·.messages.length) =
      [1, 2, 1, 1, 0, 0] ∧
    sharedWorld.service.only (sharedWorld.service.answersTo "a" takingTurns
      ((publicCloud.session bothListings takingTurns sharedWorld).1.map (·.messages.length))) =
        .scripted ownAnswers ∧
    (publicCloud.session (bothListings.only "a") (takingTurns.filter (·.concerns "a"))
        { service := .scripted ownAnswers }).1.map (·.told) =
      (Step.ownOf "a" takingTurns (publicCloud.session bothListings takingTurns sharedWorld).1).map
        (·.told) := by
  have htoken : publicCloud.HasToken := ⟨_, rfl⟩
  have hlistings : OpenListings.HasToken bothListings := by
    intro p hp
    rcases List.mem_cons.1 hp with rfl | hp
    · exact htoken
    · obtain rfl := List.mem_singleton.1 hp
      exact htoken
  have hcounts :
      (publicCloud.session bothListings takingTurns sharedWorld).1.map (·.messages.length) =
        [1, 2, 1, 1, 0, 0] := by decide +kernel
  have hservice : sharedWorld.service.only (sharedWorld.service.answersTo "a" takingTurns
      ((publicCloud.session bothListings takingTurns sharedWorld).1.map (·.messages.length))) =
        .scripted ownAnswers := by
    rw [hcounts]
    rfl
  refine ⟨⟨htoken, hlistings⟩, hcounts, hservice, ?_⟩
  exact session_interleaved htoken bothListings hlistings "a" takingTurns sharedWorld
    { service := .scripted ownAnswers } rfl hservice.symm

end Client

end JitAccess
