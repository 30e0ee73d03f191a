import JitAccess.Url.Origin

/-!
# Origins and servers

A URL names a server by its scheme, host and port. Two URLs of one origin name the same server,
unless one of them is a `blob` URL: it has the origin of the URL inside it, and names no server.

* `isBase_or_of_join`: a URL that is relative to a base has a path of segments or no authority.
* `parse_text_of_isBase`: a path of segments is no URL, so only a rootless `blob` URL has an origin.
* `sameServer_iff_of_agrees`: which URLs of one origin name the same server.
-/

namespace JitAccess.Url

variable {mapping : Domain.Mapping} {base u v : Url} {scheme s : String} {cs : List Char}

/-! ## Paths of segments -/

theorem isBase_of_readHierarchical (h : readHierarchical mapping scheme cs = .ok u) :
    u.isBase = true := by
  unfold readHierarchical at h
  cases hauthority : readAuthority mapping scheme cs with
  | error e => rw [hauthority] at h; cases h
  | ok r => rw [hauthority] at h; cases h; rfl

theorem isBase_readFileRoot (base : Option Url) (cs : List Char) :
    (readFileRoot base cs).isBase = true := by
  unfold readFileRoot
  split
  · dsimp only
    split
    · rfl
    · split <;> rfl
  · rfl

theorem isBase_of_readFileHierarchical (h : readFileHierarchical mapping cs = .ok u) :
    u.isBase = true := by
  unfold readFileHierarchical at h
  cases hhost : readFileHost mapping cs with
  | error e => rw [hhost] at h; cases h
  | ok r => rw [hhost] at h; cases h; rfl

theorem isBase_of_readFile {base : Option Url} (hbase : ∀ b ∈ base, b.isBase = true)
    (h : readFile mapping base cs = .ok u) : u.isBase = true := by
  unfold readFile at h
  split at h
  next b _ => cases h; exact hbase b rfl
  · cases h; rfl
  · split at h
    · split at h
      · split at h
        · exact isBase_of_readFileHierarchical h
        · cases h; exact isBase_readFileRoot _ _
      · cases h; exact isBase_readFileRoot _ _
    · split at h
      next b =>
        dsimp only at h
        split at h
        · cases h; exact hbase b rfl
        · split at h
          · cases h; exact hbase b rfl
          · split at h <;> (cases h; rfl)
      · cases h; rfl

theorem isBase_of_readRelative (hbase : base.isBase = true)
    (h : readRelative mapping base cs = .ok u) : u.isBase = true := by
  unfold readRelative at h
  dsimp only at h
  split at h
  · cases h; exact hbase
  · cases h; exact hbase
  · cases h; exact hbase
  · split at h
    · split at h
      · split at h
        · exact isBase_of_readHierarchical h
        · split at h
          · exact isBase_of_readHierarchical h
          · cases h; rfl
      · cases h; rfl
    · cases h; rfl

theorem isBase_or_of_readGeneral (h : readGeneral mapping scheme cs = .ok u) :
    u.isBase = true ∨ u.authority = none := by
  unfold readGeneral at h
  split at h
  · exact Or.inl (isBase_of_readHierarchical h)
  · cases h; exact Or.inl rfl
  · cases h; exact Or.inr rfl

theorem isBase_or_of_readSchemed {base : Option Url} (hbase : ∀ b ∈ base, b.isBase = true)
    (h : readSchemed mapping base scheme cs = .ok u) : u.isBase = true ∨ u.authority = none := by
  unfold readSchemed at h
  split at h
  · refine Or.inl ?_
    dsimp only at h
    split at h
    next b =>
      split at h
      · exact isBase_of_readRelative (hbase b rfl) h
      · exact isBase_of_readHierarchical h
    · exact isBase_of_readHierarchical h
  · exact isBase_or_of_readGeneral h

/-- Only a URL without an authority has a rootless path. -/
theorem isBase_or_of_join (hbase : base.isBase = true) (h : base.join s mapping = .ok u) :
    u.isBase = true ∨ u.authority = none := by
  unfold join read at h
  dsimp only at h
  split at h
  · split at h
    · refine Or.inl (isBase_of_readFile (fun b hb => ?_) h)
      obtain ⟨hb, -⟩ := Option.filter_eq_some_iff.1 hb
      cases hb
      exact hbase
    · exact isBase_or_of_readSchemed (by simpa using hbase) h
  · split at h
    · cases h; exact Or.inl hbase
    · split at h
      · cases h
      · split at h
        · exact Or.inl (isBase_of_readFile (by simpa using hbase) h)
        · exact Or.inl (isBase_of_readRelative hbase h)

/-! ## Paths that are no URLs -/

theorem dropWhile_concat {p : Char → Bool} {c : Char} (hc : p c = false) (cs : List Char) :
    (cs ++ [c]).dropWhile p = cs.dropWhile p ++ [c] := by
  rw [List.dropWhile_append]
  split
  next hempty => simp [List.isEmpty_iff.1 hempty, hc]
  · rfl

theorem trimmed_slash (cs : List Char) : ∃ ds, trimmed ('/' :: cs) = '/' :: ds := by
  refine ⟨(cs.reverse.dropWhile fun c => decide (c.toNat ≤ 0x20)).reverse, ?_⟩
  have hslash : ('/' :: cs).dropWhile (fun c => decide (c.toNat ≤ 0x20)) = '/' :: cs := rfl
  unfold trimmed
  dsimp only
  rw [hslash, List.reverse_cons, dropWhile_concat rfl, List.reverse_append]
  rfl

theorem parse_slash (cs : List Char) :
    parse (String.ofList ('/' :: cs)) mapping = .error .relativeWithoutBase := by
  obtain ⟨ds, hds⟩ := trimmed_slash cs
  unfold parse read
  rw [String.toList_ofList, hds]
  rfl

theorem text_segments (l : List String) :
    (Path.segments l).text = "" ∨ ∃ cs, (Path.segments l).text = String.ofList ('/' :: cs) := by
  cases l with
  | nil => exact Or.inl rfl
  | cons s rest =>
    refine Or.inr ⟨s.toList ++ (Path.segments rest).text.toList, ?_⟩
    simp [Path.text, ← String.toList_inj]

theorem text_path_of_isBase (h : u.isBase = true) :
    u.path.text = "" ∨ ∃ cs, u.path.text = String.ofList ('/' :: cs) := by
  obtain ⟨_, _, _, path, _, _⟩ := u
  cases path with
  | rootless => cases h
  | segments l => exact text_segments l

theorem parse_text_of_isBase (h : u.isBase = true) :
    parse u.path.text mapping = .error .relativeWithoutBase := by
  rcases text_path_of_isBase h with htext | ⟨cs, htext⟩
  · rw [htext]
    rfl
  · rw [htext, parse_slash]

/-! ## Servers -/

/-- Whether two URLs name the same server. A port that is not given is the scheme's own. -/
def SameServer (u v : Url) : Prop :=
  u.scheme = v.scheme ∧ u.host? = v.host? ∧ u.port? = v.port?

theorem Origin.agrees_iff {o o' : Origin} :
    o.agrees o' = true ↔ ∃ scheme host port, o = .server scheme host port ∧ o' = o := by
  cases o <;> cases o' <;> simp [agrees]
  grind

/-- A URL that has an origin names the server itself, or is a rootless `blob` URL. -/
theorem server_or_of_originWithin {depth : Nat} {host : Host} {port : UInt16}
    (h : originWithin mapping depth u = .server scheme host port) :
    (isHostScheme u.scheme = true ∧ u.scheme = scheme ∧ u.host? = some host ∧
        u.port? = some port) ∨
      (u.scheme = "blob" ∧ u.isBase = false) := by
  unfold originWithin at h
  split at h
  next hscheme =>
    split at h
    next hhost hport => cases h; exact Or.inl ⟨hscheme, rfl, hhost, hport⟩
    · cases h
  · split at h
    next hblob =>
      refine Or.inr ⟨beq_iff_eq.1 hblob, Bool.eq_false_iff.2 fun hbase => ?_⟩
      rw [parse_text_of_isBase hbase] at h
      cases depth <;> cases h
    · cases h

/-- A URL of the origin of a base names the same server exactly when it is no `blob` URL. A `blob`
URL of that origin has a rootless path. -/
theorem sameServer_iff_of_agrees (hbase : base.isBase = true)
    (h : (u.origin mapping).agrees (base.origin mapping) = true) :
    (u.SameServer base ↔ u.scheme ≠ "blob") ∧ (u.scheme = "blob" → u.isBase = false) := by
  obtain ⟨scheme, host, port, hu, hv⟩ := Origin.agrees_iff.1 h
  rw [hu] at hv
  have hserver := (server_or_of_originWithin hv).resolve_right fun hblob =>
    absurd hbase (by rw [hblob.2]; decide)
  obtain ⟨hscheme, rfl, hhost, hport⟩ := hserver
  have hbase_ne : base.scheme ≠ "blob" := by
    intro hblob
    rw [hblob] at hscheme
    cases hscheme
  rcases server_or_of_originWithin hu with ⟨-, hs, hh, hp⟩ | ⟨hblob, hrootless⟩
  · have hne : u.scheme ≠ "blob" := hs ▸ hbase_ne
    exact ⟨⟨fun _ => hne, fun _ => ⟨hs, hh.trans hhost.symm, hp.trans hport.symm⟩⟩,
      fun hblob => absurd hblob hne⟩
  · refine ⟨⟨fun hsame => ?_, fun hne => absurd hblob hne⟩, fun _ => hrootless⟩
    rw [hsame.1]
    exact hbase_ne

end JitAccess.Url
