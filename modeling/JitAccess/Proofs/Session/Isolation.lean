import JitAccess.Proofs.Listing.Isolation
import JitAccess.Session.Basic

/-!
# Steps that keep to their own listings

A step on a listing looks at the entry of its name alone and leaves all other entries as they are. What
it comes to is decided by that entry and by the answers to its own messages.

* `Step.lookup_perform`: a step leaves the listings of other names alone.
* `Step.alike_perform`: a step looks at the listing of its own name alone.
* `Step.isolated_perform`: a step keeps to its own answers.
-/

namespace JitAccess

open Http Trace

variable {c : Client}

/-! ## Open listings -/

/-- What the entries with some names have for a name. -/
theorem lookup_filter {β : Type} (p : String → Bool) (l : List (String × β)) (name : String) :
    (l.filter (p ·.1)).lookup name = if p name then l.lookup name else none := by
  induction l with
  | nil => simp
  | cons entry l ih =>
    obtain ⟨key, b⟩ := entry
    by_cases hkey : name = key
    · subst hkey
      by_cases hp : p name <;> simp [hp, ih]
    · have hne : (name == key) = false := by simpa using hkey
      by_cases hp : p key <;> simp [List.lookup_cons, hp, hne, ih]

/-- Whether an open listing has an access token of its own, if it asks a service at all. -/
def OpenListing.HasToken : OpenListing → Prop
  | .items listing => listing.source.HasToken
  | .pages source => source.HasToken

/-- Whether all open listings have access tokens of their own. -/
def OpenListings.HasToken (l : OpenListings) : Prop := ∀ p ∈ l, p.2.HasToken

namespace OpenListings

variable {l : OpenListings} {name other : String} {listing : OpenListing}

/-- The listing of a name, without any others. -/
def only (l : OpenListings) (name : String) : OpenListings := l.filter (·.1 == name)

theorem lookup_only (l : OpenListings) (name : String) :
    (l.only name).lookup name = l.lookup name := by
  rw [only, lookup_filter (· == name), beq_self_eq_true, if_pos rfl]

@[simp] theorem lookup_erase_self (l : OpenListings) (name : String) :
    (l.erase name).lookup name = none := by
  rw [erase, lookup_filter (· != name), bne_self_eq_false]
  rfl

theorem lookup_erase_of_ne (h : name ≠ other) (l : OpenListings) :
    (l.erase other).lookup name = l.lookup name := by
  rw [erase, lookup_filter (· != other), if_pos (bne_iff_ne.2 h)]

@[simp] theorem lookup_put_self (l : OpenListings) (name : String) (listing : OpenListing) :
    (l.put name listing).lookup name = some listing := by
  rw [put, List.lookup_cons, beq_self_eq_true]

theorem lookup_put_of_ne (h : name ≠ other) (l : OpenListings) (listing : OpenListing) :
    (l.put other listing).lookup name = l.lookup name := by
  rw [put, List.lookup_cons, beq_eq_false_iff_ne.2 h]
  exact lookup_erase_of_ne h l

theorem HasToken.erase (h : l.HasToken) (name : String) : (l.erase name).HasToken := by
  intro p hp
  apply h p
  exact (List.mem_filter.1 hp).1

theorem HasToken.put (h : l.HasToken) (name : String) (listing : OpenListing)
    (hlisting : listing.HasToken) : (l.put name listing).HasToken := by
  intro p hp
  rcases List.mem_cons.1 hp with rfl | hp
  · exact hlisting
  · exact h.erase name p hp

theorem HasToken.lookup (h : l.HasToken) (hlookup : l.lookup name = some listing) :
    listing.HasToken := by
  obtain ⟨before, after, hl, -⟩ := List.lookup_eq_some_iff.1 hlookup
  exact h (name, listing) (hl ▸ List.mem_append_right _ List.mem_cons_self)

end OpenListings

/-! ## Steps -/

namespace Step

variable {α : Type} {l l' : OpenListings} {name other : String} {step : Step}

/-- The name of the listing that a step opens or works with. -/
def listing? : Step → Option String
  | .openListing name _ _ | .next name | .describe name | .collect name | .mapPages name _
  | .intoPages name | .close name => some name
  | .get _ _ | .write _ _ _ | .delete _ _ | .initiate _ _ _ | .send _ _ _ => none

/-- Whether a step opens the listing of a name or works with it. -/
def concerns (name : String) (step : Step) : Bool := step.listing? == some name

/-! ### Other listings -/

/-- Whether some work leaves the listing of a name as it is. -/
def Spares (name : String) (l : OpenListings) (act : Act Outcome) : Prop :=
  ∀ w, (act w).1.2.lookup name = l.lookup name

theorem spares_apart (f : α → Result) (run : Run α) : Spares name l (apart l f run) := fun _ => rfl

theorem spares_onItems {work : Listing Json.Value → Act Outcome}
    (h : ∀ listing, Spares name l (work listing)) : Spares name l (onItems l other work) := by
  unfold onItems
  split
  next listing _ => exact h listing
  · exact fun _ => rfl

theorem spares_advance (h : name ≠ other) : Spares name l (advance l other) := by
  unfold advance
  split
  · exact fun _ => OpenListings.lookup_put_of_ne h l _
  · exact fun _ => OpenListings.lookup_put_of_ne h l _
  · exact fun _ => rfl

/-- A step leaves the listings of other names alone. -/
theorem lookup_perform (h : step.concerns name = false) : Spares name l (step.perform c l) := by
  have hne {other : String} (hlisting : step.listing? = some other) : name ≠ other := by
    rintro rfl
    simp [concerns, hlisting] at h
  cases step with
  | openListing other origin options =>
    exact fun _ => OpenListings.lookup_put_of_ne (hne rfl) l _
  | next other => exact spares_advance (hne rfl)
  | describe other => exact spares_onItems fun _ _ => rfl
  | collect other =>
    have herase := OpenListings.lookup_erase_of_ne (hne rfl) l
    exact spares_onItems fun _ _ => herase
  | mapPages other f =>
    have hput := OpenListings.lookup_put_of_ne (hne rfl) l
    exact spares_onItems fun _ _ => hput _
  | intoPages other =>
    have hput := OpenListings.lookup_put_of_ne (hne rfl) l
    exact spares_onItems fun _ _ => hput _
  | close other => exact fun _ => OpenListings.lookup_erase_of_ne (hne rfl) l
  | get _ _ | delete _ _ | send _ _ _ => exact spares_apart _ _
  | write _ content _ =>
    cases content with
    | error e => exact fun _ => rfl
    | ok content => exact spares_apart _ _
  | initiate _ order _ =>
    cases order with
    | error e => exact fun _ => rfl
    | ok order => exact spares_apart _ _

/-! ### The listing of a step -/

/-- Whether work that starts from other listings comes to the same, also for the listing of a name. -/
def Alike (name : String) (act act' : Act Outcome) : Prop :=
  ∀ w, (act w).1.1 = (act' w).1.1 ∧ (act w).1.2.lookup name = (act' w).1.2.lookup name ∧
    (act w).2 = (act' w).2

/-- Some work, after which the listing of a name is put in its place. -/
theorem alike_put (l l' : OpenListings) (name : String) (act : Act α)
    (outcome : α → Except Failure Result) (listing : α → OpenListing) :
    Alike name (do let a ← act; return (outcome a, l.put name (listing a)))
      (do let a ← act; return (outcome a, l'.put name (listing a))) := by
  intro w
  refine ⟨rfl, ?_, rfl⟩
  rw [Act.bind_apply, Act.bind_apply]
  simp

/-- Some work, after which the listing of a name is closed. -/
theorem alike_erase (l l' : OpenListings) (name : String) (act : Act (Except Failure Result)) :
    Alike name (do return (← act, l.erase name)) (do return (← act, l'.erase name)) := by
  intro w
  refine ⟨rfl, ?_, rfl⟩
  rw [Act.bind_apply, Act.bind_apply]
  simp

theorem alike_return (h : l.lookup name = l'.lookup name) (outcome : Except Failure Result) :
    Alike name (return (outcome, l)) (return (outcome, l')) :=
  fun _ => ⟨rfl, h, rfl⟩

theorem alike_onItems (h : l.lookup name = l'.lookup name)
    {work work' : Listing Json.Value → Act Outcome}
    (hwork : ∀ listing, Alike name (work listing) (work' listing)) :
    Alike name (onItems l name work) (onItems l' name work') := by
  unfold onItems
  rw [← h]
  split
  next listing _ => exact hwork listing
  · exact alike_return h _

theorem alike_advance (h : l.lookup name = l'.lookup name) :
    Alike name (advance l name) (advance l' name) := by
  unfold advance
  rw [← h]
  split
  next listing _ => exact alike_put l l' name listing.next (fun r => more .item r.1) (.items ·.2)
  next source _ => exact alike_put l l' name source.next (fun r => more .page r.1) (.pages ·.2)
  · exact alike_return h _

/-- A step looks at the listing of its own name alone. -/
theorem alike_perform (hstep : step.concerns name = true) (h : l.lookup name = l'.lookup name) :
    Alike name (step.perform c l) (step.perform c l') := by
  have hname {own : String} (hlisting : step.listing? = some own) : own = name := by
    simpa [concerns, hlisting] using hstep
  cases step with
  | openListing own origin options =>
    obtain rfl := hname rfl
    exact alike_put l l' own (origin.listing c options) (fun _ => .ok .opened) .items
  | next own =>
    obtain rfl := hname rfl
    exact alike_advance h
  | describe own =>
    obtain rfl := hname rfl
    exact alike_onItems h fun _ => alike_return h _
  | collect own =>
    obtain rfl := hname rfl
    refine alike_onItems h fun listing => ?_
    exact alike_erase l l' own (do return (← listing.collect.attempt).map .items)
  | mapPages own f =>
    obtain rfl := hname rfl
    refine alike_onItems h fun listing => ?_
    exact alike_put l l' own (pure listing) (fun _ => .ok .mapped) fun _ => .items (listing.mapPages f)
  | intoPages own =>
    obtain rfl := hname rfl
    refine alike_onItems h fun listing => ?_
    exact alike_put l l' own (pure listing) (fun _ => .ok .paged) fun _ => .pages listing.intoPages
  | close own =>
    obtain rfl := hname rfl
    exact alike_erase l l' own (pure (.ok .closed))
  | get | write | delete | initiate | send => cases hstep

/-! ### The answers to a step -/

theorem isolated_apart (h : l.HasToken) (f : α → Result) {run : Run α}
    (hrun : Isolated run.attempt fun _ => True) : Isolated (apart l f run) fun o => o.2.HasToken :=
  hrun.map fun _ _ => h

theorem isolated_onItems (h : l.HasToken) {work : Listing Json.Value → Act Outcome}
    (hwork : ∀ listing, listing.source.HasToken → Isolated (work listing) fun o => o.2.HasToken) :
    Isolated (onItems l name work) fun o => o.2.HasToken := by
  unfold onItems
  split
  next listing hlookup => exact hwork listing (h.lookup hlookup)
  · exact .pure h

theorem isolated_advance (h : l.HasToken) (name : String) :
    Isolated (advance l name) fun o => o.2.HasToken := by
  unfold advance
  split
  next listing hlookup =>
    have hnext := Listing.isolated_next (h.lookup hlookup)
    exact hnext.map fun _ hl => h.put name (.items _) hl
  next source hlookup =>
    have hnext := Source.isolated_next (h.lookup hlookup)
    exact hnext.map fun _ hs => h.put name (.pages _) hs
  · exact .pure h

theorem isolated_request (hc : c.HasToken) (h : l.HasToken) (request : Request)
    (expected : List Status) (k : Classification) :
    Isolated (perform c l (.send request expected k)) fun o => o.2.HasToken := by
  apply isolated_apart h
  refine .run_bind (Client.isolated_send hc request expected k) fun reply => ?_
  exact .run_bind (Client.isolated_readBody reply) fun _ => .pure trivial

/-- A step keeps to its own answers. -/
theorem isolated_perform (hc : c.HasToken) (h : l.HasToken) (step : Step) :
    Isolated (step.perform c l) fun o => o.2.HasToken := by
  cases step with
  | openListing name origin options =>
    exact (origin.isolated_listing hc options).map fun _ hl => h.put name (.items _) hl
  | next name => exact isolated_advance h name
  | describe name => exact isolated_onItems h fun _ _ => .pure h
  | collect name =>
    refine isolated_onItems h fun _ hl => ?_
    exact (Listing.isolated_collect hl).map fun _ _ => h.erase name
  | mapPages name f =>
    exact isolated_onItems h fun _ hl => .pure (h.put name (.items _) (Source.HasToken.map hl f))
  | intoPages name => exact isolated_onItems h fun _ hl => .pure (h.put name (.pages _) hl)
  | close name => exact .pure (h.erase name)
  | get policy options => exact isolated_apart h _ (Client.isolated_getPolicy hc policy options)
  | write policy content options =>
    cases content with
    | error e => exact .pure h
    | ok content => exact isolated_apart h _ (Client.isolated_writePolicy hc policy content options)
  | delete policy options =>
    exact isolated_apart h _ (Client.isolated_deletePolicy hc policy options)
  | initiate policy order options =>
    cases order with
    | error e => exact .pure h
    | ok order => exact isolated_apart h _ (Client.isolated_initiateAccess hc policy order options)
  | send request expected classification =>
    exact isolated_request hc h request expected classification

end Step

end JitAccess
