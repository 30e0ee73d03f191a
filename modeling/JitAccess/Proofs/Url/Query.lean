import JitAccess.Proofs.Url.Form
import JitAccess.Proofs.Url.Segment
import JitAccess.Url.Parser
import Mathlib.Data.List.TakeWhile

/-!
# Where a query stands

A query begins at the first `?` of a URL's text, unless a `#` comes before, and ends at the next `#`.
No part before the query is written with either, whatever it was made from. So the query that stands in
the text is the query of the URL.

* `delimited_of_parse`: the parts before the query of a URL that has been read.
* `Delimited.extendPath`: the same with more segments, made from any texts.
* `Delimited.queryOf_text_withQuery`: the query that stands in the text.
-/

namespace JitAccess.Url

open Text

variable {s t scheme : String} {c : Char} {cs : List Char} {set : Percent.EncodeSet}
  {mapping : Domain.Mapping} {u : Url}

/-! ## Texts that end no path -/

/-- Whether a text has nothing in it that ends a path. -/
def Unended (s : String) : Prop := ∀ c ∈ s.toList, endsPath c = false

instance (s : String) : Decidable (Unended s) :=
  List.decidableBAll (endsPath · = false) s.toList

theorem endsPath_iff : endsPath c = true ↔ c = '?' ∨ c = '#' := by
  simp [endsPath]

/-- What holds of neither mark holds of no character that ends a path. -/
theorem endsPath_eq_false {p : Char → Bool} (hc : p c = true) (hquestion : p '?' = false)
    (hhash : p '#' = false) : endsPath c = false := by
  refine Bool.eq_false_iff.2 fun hends => ?_
  rcases endsPath_iff.1 hends with rfl | rfl
  · rw [hquestion] at hc
    cases hc
  · rw [hhash] at hc
    cases hc

theorem unended_append : Unended (s ++ t) ↔ Unended s ∧ Unended t := by
  unfold Unended
  rw [String.toList_append, List.forall_mem_append]

theorem unended_ofList : Unended (String.ofList cs) ↔ ∀ c ∈ cs, endsPath c = false := by
  rw [Unended, String.toList_ofList]

theorem unended_intercalate {l : List String} (hs : Unended s) (hl : ∀ t ∈ l, Unended t) :
    Unended (s.intercalate l) := by
  induction l with
  | nil =>
    rw [String.intercalate_nil]
    decide
  | cons t l ih =>
    obtain ⟨ht, hl⟩ := List.forall_mem_cons.1 hl
    by_cases hempty : l = []
    · subst hempty
      simpa using ht
    · rw [String.intercalate_cons_of_ne_nil hempty, unended_append, unended_append]
      exact ⟨⟨ht, hs⟩, ih hl⟩

theorem unended_toString (n : Nat) : Unended (toString n) := by
  intro c hc
  have hdigits : (toString n).toList = Nat.toDigits 10 n := Nat.toList_repr
  rw [hdigits] at hc
  exact endsPath_eq_false (Nat.isDigit_of_mem_toDigits (by decide) (by decide) hc) rfl rfl

/-! ## Encoded texts -/

theorem endsPath_upperHexDigit {n : Nat} (h : n < 16) : endsPath (upperHexDigit n) = false := by
  revert n; decide

theorem endsPath_lowerHexDigit {n : Nat} (h : n < 16) : endsPath (lowerHexDigit n) = false := by
  revert n; decide

theorem endsPath_of_mem_escape {b : UInt8} (h : c ∈ Percent.escape b) : endsPath c = false := by
  have hlt : b.toNat < 256 := b.toNat_lt
  simp only [Percent.escape, List.mem_cons, List.not_mem_nil, or_false] at h
  rcases h with rfl | rfl | rfl
  · decide
  · exact endsPath_upperHexDigit (by omega)
  · exact endsPath_upperHexDigit (by omega)

/-- An encoded text ends no path, if none of the characters does that are written as themselves. -/
theorem unended_encode (h : ∀ c ∈ cs, set c = false → endsPath c = false) :
    Unended (String.ofList (Percent.encode set cs)) := by
  rw [unended_ofList]
  intro c hc
  obtain ⟨d, hd, hc⟩ := List.mem_flatMap.1 hc
  unfold Percent.encodeChar at hc
  split at hc
  · obtain ⟨b, -, hc⟩ := List.mem_flatMap.1 hc
    exact endsPath_of_mem_escape hc
  next hset =>
    obtain rfl := List.mem_singleton.1 hc
    exact h c hd (Bool.eq_false_iff.2 hset)

theorem unended_encode_of_set (hquestion : set '?' = true) (hhash : set '#' = true)
    (cs : List Char) : Unended (String.ofList (Percent.encode set cs)) := by
  apply unended_encode
  intro c _ hc
  have hplain : (!set c) = true := by rw [hc]; rfl
  exact endsPath_eq_false (p := (!set ·)) hplain (by simp [hquestion]) (by simp [hhash])

/-! ## Hosts -/

theorem unended_text_of_ipv4 (address : UInt32) : Unended (Host.ipv4 address).text := by
  show Unended (".".intercalate _)
  apply unended_intercalate (by decide)
  simp only [List.forall_mem_cons, unended_toString, true_and]
  exact nofun

theorem unended_groupText (g : UInt16) : Unended (Host.groupText g) := by
  unfold Host.groupText
  rw [unended_ofList, List.forall_mem_map]
  intro d hd
  exact endsPath_lowerHexDigit (lt_of_mem_digits (by decide) _ d hd)

theorem unended_ipv6Text (groups : List UInt16) : Unended (Host.ipv6Text groups) := by
  have hjoin (gs : List UInt16) : Unended (":".intercalate (gs.map Host.groupText)) := by
    apply unended_intercalate (by decide)
    rw [List.forall_mem_map]
    intro g _
    exact unended_groupText g
  unfold Host.ipv6Text
  dsimp only
  split
  · exact hjoin _
  · rw [unended_append, unended_append]
    exact ⟨⟨hjoin _, by decide⟩, hjoin _⟩

theorem unended_text_of_ipv6 (groups : List UInt16) : Unended (Host.ipv6 groups).text := by
  show Unended ("[" ++ Host.ipv6Text groups ++ "]")
  rw [unended_append, unended_append]
  exact ⟨⟨by decide, unended_ipv6Text groups⟩, by decide⟩

theorem isForbiddenInName_of_endsPath (h : endsPath c = true) :
    Host.isForbiddenInName c = true := by
  rcases endsPath_iff.1 h with rfl | rfl <;> decide

theorem isForbiddenInHost_of_endsPath (h : endsPath c = true) :
    Host.isForbiddenInHost c = true := by
  rcases endsPath_iff.1 h with rfl | rfl <;> decide

theorem unended_of_special {host : Host} (h : Host.special mapping cs = .ok host) :
    Unended host.text := by
  unfold Host.special at h
  split at h
  · split at h
    · split at h
      · cases h
        exact unended_text_of_ipv6 _
      · cases h
    · cases h
  · split at h
    · cases h
    · split at h
      · cases h
      next hallowed =>
        split at h
        · cases h
        · split at h
          · cases h
          · split at h
            · split at h
              · cases h
                exact unended_text_of_ipv4 _
              · cases h
            · cases h
              show Unended (String.ofList _)
              rw [unended_ofList]
              intro c hc
              refine Bool.eq_false_iff.2 fun hends => hallowed ?_
              rw [List.any_eq_true]
              exact ⟨c, hc, by rw [isForbiddenInName_of_endsPath hends, Bool.true_or]⟩

theorem unended_of_general {host : Host} (h : Host.general cs = .ok host) : Unended host.text := by
  unfold Host.general at h
  split at h
  · split at h
    · split at h
      · cases h
        exact unended_text_of_ipv6 _
      · cases h
    · cases h
  · split at h
    · cases h
    next hallowed =>
      cases h
      apply unended_encode
      intro c hc _
      refine Bool.eq_false_iff.2 fun hends => hallowed ?_
      rw [List.any_eq_true]
      exact ⟨c, hc, isForbiddenInHost_of_endsPath hends⟩

/-! ## Authorities -/

/-- Whether no part of an authority has anything in it that ends a path. -/
structure Authority.Delimited (a : Authority) : Prop where
  username : Unended a.username
  password : Unended a.password
  host : ∀ host ∈ a.host, Unended host.text

theorem Authority.Delimited.text {a : Authority} (h : a.Delimited) : Unended a.text := by
  have huser : Unended a.userText := by
    unfold Authority.userText
    split
    · decide
    · split
      · exact unended_append.2 ⟨h.username, by decide⟩
      · simp only [unended_append]
        exact ⟨⟨⟨h.username, by decide⟩, h.password⟩, by decide⟩
  unfold Authority.text
  simp only [unended_append]
  refine ⟨⟨⟨by decide, huser⟩, ?_⟩, ?_⟩
  · cases hhost : a.host with
    | none => decide
    | some host => exact h.host host hhost
  · cases a.port with
    | none => decide
    | some port => exact unended_append.2 ⟨by decide, unended_toString _⟩

theorem unended_readUserinfo (cs : List Char) :
    Unended (readUserinfo cs).1 ∧ Unended (readUserinfo cs).2 :=
  ⟨unended_encode_of_set (by decide) (by decide) _, unended_encode_of_set (by decide) (by decide) _⟩

theorem delimited_of_readAuthority {r : Authority × List Char}
    (h : readAuthority mapping scheme cs = .ok r) : r.1.Delimited := by
  unfold readAuthority at h
  dsimp only [bind, Except.bind, pure, Except.pure, throw, throwThe, MonadExceptOf.throw] at h
  have huser := unended_readUserinfo ((splitUserinfo (isSpecial scheme) cs).1.getD [])
  split at h
  · cases h
  split at h
  · cases h
  -- The host is read in one of two ways, and nothing after that depends on which.
  split at h <;>
  · split at h
    · cases h
    next host hhost =>
      have htext : Unended host.text := by
        first
        | exact unended_of_special hhost
        | exact unended_of_general hhost
      have hnamed : ∀ named ∈ (if host == .name "" then none else some host),
          Unended named.text := by
        intro named hnamed
        split at hnamed
        · cases hnamed
        · obtain rfl := Option.mem_some_iff.1 hnamed
          exact htext
      generalize (if host == .name "" then none else some host) = named at h hnamed
      split at h
      · split at h
        · cases h
        split at h
        · cases h
        split at h
        · cases h
        · cases h
          exact ⟨huser.1, huser.2, hnamed⟩
      · split at h
        · cases h
        · cases h
          exact ⟨huser.1, huser.2, hnamed⟩

/-! ## Paths -/

theorem unended_text_segments {segments : List String} :
    Unended (Path.segments segments).text ↔ ∀ s ∈ segments, Unended s := by
  have hslash : Unended "/" := by decide
  show Unended (String.join (segments.map ("/" ++ ·))) ↔ _
  induction segments with
  | nil => exact iff_of_true (by decide) (List.forall_mem_nil _)
  | cons s segments ih =>
    rw [List.map_cons, String.join_cons, unended_append, unended_append, List.forall_mem_cons, ih]
    exact and_congr_left fun _ => and_iff_right hslash

theorem unended_plainDrive (h : isDrive s = true) : Unended (plainDrive s) := by
  unfold isDrive at h
  split at h
  next c d hs =>
    have halpha : c.isAlpha := (Bool.and_eq_true_iff.1 h).1
    have hdrive : plainDrive s = String.ofList [c, ':'] := by rw [plainDrive, hs]; rfl
    rw [hdrive, unended_ofList]
    simpa using ⟨endsPath_eq_false halpha rfl rfl, by decide⟩
  · cases h

theorem holdsOfSegments_unended (hquestion : set '?' = true) (hhash : set '#' = true) :
    HoldsOfSegments Unended set where
  empty := by decide
  drive _ h := unended_plainDrive h
  encode cs _ := unended_encode_of_set hquestion hhash cs

theorem unended_readTrail {before : List String} (h : ∀ s ∈ before, Unended s) (scheme : String)
    (cs : List Char) : ∀ s ∈ (readTrail scheme before cs).1.segments, Unended s :=
  AllFrom.addTexts (k := 0) (t := .after before)
    (holdsOfSegments_unended (by decide) (by decide)) h _

theorem unended_readPathStart (scheme : String) (cs : List Char) :
    ∀ s ∈ (readPathStart scheme cs).1, Unended s := by
  have htrail (cs : List Char) : ∀ s ∈ (readSegments scheme [] cs).1, Unended s :=
    unended_readTrail (List.forall_mem_nil _) scheme cs
  unfold readPathStart
  split
  · exact htrail _
  · split
    · exact List.forall_mem_nil _
    · exact htrail _
    · split
      · exact List.forall_mem_nil _
      · exact htrail _

/-! ## Whole URLs -/

/-- Whether no part of a URL before its query has anything in it that ends a path. -/
structure Delimited (u : Url) : Prop where
  scheme : Unended u.scheme
  authority : ∀ a ∈ u.authority, a.Delimited
  path : Unended u.path.text

theorem delimited_of_readHierarchical (hscheme : Unended scheme)
    (h : readHierarchical mapping scheme cs = .ok u) : u.Delimited := by
  unfold readHierarchical at h
  cases hauthority : readAuthority mapping scheme cs with
  | error e =>
    rw [hauthority] at h
    cases h
  | ok r =>
    rw [hauthority] at h
    cases h
    constructor
    · exact hscheme
    · intro a ha
      obtain rfl := Option.mem_some_iff.1 ha
      exact delimited_of_readAuthority hauthority
    · exact unended_text_segments.2 (unended_readPathStart scheme _)

theorem delimited_of_readGeneral (hscheme : Unended scheme)
    (h : readGeneral mapping scheme cs = .ok u) : u.Delimited := by
  unfold readGeneral at h
  split at h
  · exact delimited_of_readHierarchical hscheme h
  · cases h
    exact ⟨hscheme, nofun, unended_text_segments.2 (unended_readTrail (List.forall_mem_nil _) scheme _)⟩
  · cases h
    refine ⟨hscheme, nofun, ?_⟩
    apply unended_encode
    intro c hc _
    simpa using List.mem_takeWhile_imp hc

theorem delimited_fileUrl {host : Option Host} {trail : Trail}
    (hhost : ∀ h ∈ host, Unended h.text) (htrail : ∀ s ∈ trail.segments, Unended s)
    (rest : List Char) : (fileUrl host trail rest).Delimited := by
  have hempty : Unended "" := by decide
  have hfile : Unended "file" := by decide
  have hpath : AllFrom Unended 0 (fromNonempty trail.segments) :=
    AllFrom.fromNonempty hempty htrail
  refine ⟨hfile, ?_, unended_text_segments.2 hpath⟩
  intro a ha
  obtain rfl := Option.mem_some_iff.1 ha
  refine ⟨hempty, hempty, ?_⟩
  intro h hh
  dsimp only at hh
  split at hh
  · cases hh
  · exact hhost h hh

theorem delimited_readFilePath {host : Option Host} (hhost : ∀ h ∈ host, Unended h.text)
    (cs : List Char) : (readFilePath host [] cs).Delimited :=
  delimited_fileUrl hhost (unended_readTrail (List.forall_mem_nil _) "file" cs) _

theorem unended_of_readFileHost {r : Option Host × List Char}
    (h : readFileHost mapping cs = .ok r) : ∀ host ∈ r.1, Unended host.text := by
  unfold readFileHost at h
  dsimp only [bind, Except.bind, pure, Except.pure] at h
  split at h
  · cases h
    exact nofun
  split at h
  · cases h
    exact nofun
  split at h
  · cases h
  next hhost =>
    split at h
    · cases h
      exact nofun
    · cases h
      intro host hmem
      obtain rfl := Option.mem_some_iff.1 hmem
      exact unended_of_special hhost

theorem delimited_readFilePath_none (cs : List Char) : (readFilePath none [] cs).Delimited := by
  apply delimited_readFilePath
  intro host hhost
  cases hhost

theorem delimited_of_readFileHierarchical (h : readFileHierarchical mapping cs = .ok u) :
    u.Delimited := by
  unfold readFileHierarchical at h
  cases hhost : readFileHost mapping cs with
  | error e =>
    rw [hhost] at h
    cases h
  | ok r =>
    rw [hhost] at h
    cases h
    exact delimited_readFilePath (unended_of_readFileHost hhost) _

theorem delimited_of_readFile (h : readFile mapping none cs = .ok u) : u.Delimited := by
  unfold readFile at h
  split at h
  next hbase => cases hbase
  · cases h
    exact delimited_readFilePath_none []
  · split at h
    · split at h
      · split at h
        · exact delimited_of_readFileHierarchical h
        · cases h
          exact delimited_readFilePath_none _
      · cases h
        exact delimited_readFilePath_none _
    · cases h
      exact delimited_readFilePath_none _

theorem unended_of_splitScheme? {rest : List Char} (h : splitScheme? cs = some (scheme, rest)) :
    Unended scheme := by
  unfold splitScheme? at h
  dsimp only at h
  split at h
  · split at h
    · obtain ⟨rfl, -⟩ := Prod.mk.inj (Option.some.inj h)
      rw [unended_ofList, List.forall_mem_map]
      intro c hc
      refine Bool.eq_false_iff.2 fun hends => ?_
      have hscheme := List.mem_takeWhile_imp hc
      rcases endsPath_iff.1 hends with hlower | hlower
      · rw [eq_of_toLower hlower (by decide)] at hscheme
        cases hscheme
      · rw [eq_of_toLower hlower (by decide)] at hscheme
        cases hscheme
    · cases h
  · cases h

/-- No part before the query ends a path in a URL that has been read. -/
theorem delimited_of_parse (h : parse s mapping = .ok u) : u.Delimited := by
  unfold parse read at h
  dsimp only at h
  split at h
  next scheme rest hscheme =>
    have hscheme := unended_of_splitScheme? hscheme
    split at h
    · exact delimited_of_readFile h
    · unfold readSchemed at h
      split at h
      · exact delimited_of_readHierarchical hscheme h
      · exact delimited_of_readGeneral hscheme h
  · cases h

theorem holdsOfSegments_unended_segmentSet (scheme : String) :
    HoldsOfSegments Unended (segmentSet scheme) := by
  unfold segmentSet
  split
  · exact holdsOfSegments_unended (by decide) (by decide)
  · exact holdsOfSegments_unended (by decide) (by decide)

namespace Delimited

/-- More segments end no path either, whatever they are made from. -/
theorem extendPath (h : u.Delimited) (raws : List String) : (u.extendPath raws).Delimited := by
  obtain ⟨scheme, authority, guarded, path, query, fragment⟩ := u
  cases path with
  | rootless => exact h
  | segments l =>
    have hsegments : AllFrom Unended 0 (withoutTrailingSlash l) := by
      have hl := unended_text_segments.1 h.path
      unfold withoutTrailingSlash
      split
      · exact AllFrom.dropLast (k := 0) hl
      · exact hl
    have hextended := hsegments.foldl_addSegment (holdsOfSegments_unended_segmentSet scheme) raws
    exact ⟨h.scheme, h.authority, unended_text_segments.2 hextended⟩

theorem withQuery (h : u.Delimited) (pairs : List (String × String)) :
    (u.withQuery pairs).Delimited :=
  ⟨h.scheme, h.authority, h.path⟩

theorem beforePath (h : u.Delimited) : Unended u.beforePath := by
  unfold Url.beforePath
  cases hauthority : u.authority with
  | some a => exact (h.authority a hauthority).text
  | none =>
    show Unended (if u.guarded then "/." else "")
    split <;> decide

end Delimited

/-! ## Queries -/

/-- The query that stands in the text of a URL, if there is one: what is between the first `?`, unless
a `#` comes before, and the next `#`. -/
def queryOf (cs : List Char) : Option (List Char) :=
  match cs.dropWhile (!endsPath ·) with
  | '?' :: rest => some (rest.takeWhile (· != '#'))
  | _ => none

theorem queryOf_append (hs : Unended s) (rest : List Char) :
    queryOf (s.toList ++ rest) = queryOf rest := by
  unfold queryOf
  rw [List.dropWhile_append_of_pos]
  intro c hc
  rw [hs c hc]
  rfl

/-- The query of a URL stands in its text. -/
theorem Delimited.queryOf_text (h : u.Delimited) {q : String} (hq : u.query = some q)
    (hhash : '#' ∉ q.toList) : queryOf u.text.toList = some q.toList := by
  have hbefore : Unended (u.scheme ++ ":" ++ u.beforePath ++ u.path.text) := by
    simp only [unended_append]
    exact ⟨⟨⟨h.scheme, by decide⟩, h.beforePath⟩, h.path⟩
  have hplain : ∀ c ∈ q.toList, (c != '#') = true := by
    intro c hc
    rw [bne_iff_ne]
    rintro rfl
    exact hhash hc
  unfold Url.text
  rw [hq, String.append_assoc, String.toList_append, queryOf_append hbefore, String.toList_append,
    String.toList_append]
  cases u.fragment with
  | none =>
    show some ((q.toList ++ []).takeWhile (· != '#')) = some q.toList
    rw [List.takeWhile_append_of_pos hplain, List.takeWhile_nil, List.append_nil]
  | some f =>
    dsimp only
    rw [String.toList_append]
    show some ((q.toList ++ '#' :: f.toList).takeWhile (· != '#')) = some q.toList
    rw [List.takeWhile_append_of_pos hplain, List.takeWhile_cons_of_neg (by decide),
      List.append_nil]

example : queryOf "https://h/a?b=c?d#e?f".toList = some "b=c?d".toList := by decide +kernel

/-- Pairs that are written as a query stand in the text as they were written. -/
theorem Delimited.queryOf_text_withQuery (h : u.Delimited) (pairs : List (String × String)) :
    queryOf (u.withQuery pairs).text.toList = some (Form.writePairs pairs) := by
  have hhash : '#' ∉ (String.ofList (Form.writePairs pairs)).toList := by
    rw [String.toList_ofList]
    exact Form.not_mem_writePairs (by decide) (by decide) (by decide) pairs
  have hquery := (h.withQuery pairs).queryOf_text rfl hhash
  rwa [String.toList_ofList] at hquery

end JitAccess.Url
