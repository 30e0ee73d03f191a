import JitAccess.Client.CallOptions
import Mathlib

/-!
# Overrides of what statuses mean

A classification is determined by the kinds that it has for statuses. Overrides are entered one after the
other, so that the last for a status is the one that is found. They may as well be kept in a table, which
has one kind for each status and is gone through in an order that nobody knows.

* `Classification.kind?_insert`: what one more entry changes.
* `Classification.ext_iff_kind?`: classifications that answer alike are equal.
* `Classification.last?`, `Classification.last?_eq_some_iff`: the last override for a status.
* `Classification.last?_of_perm_table`: what is last in a table, in any order.
* `Classification.withOverrides_lastWins`: all together.
-/

namespace JitAccess

open Http

namespace Classification

variable {c d : Classification} {status : Status} {kind : FailureKind} {entries order : List Entry}

/-! ## Entries -/

theorem lookup_cons (e : Entry) (entries : List Entry) (status : Status) :
    (e :: entries).lookup status = if status = e.1 then some e.2 else entries.lookup status := by
  by_cases hs : status = e.1
  · rw [if_pos hs, hs, List.lookup_cons_self]
  · rw [if_neg hs, List.lookup_cons, beq_false_of_ne hs]

theorem lookup_put (status : Status) (kind : FailureKind) (entries : List Entry) (s : Status) :
    (put status kind entries).lookup s =
      if s = status then some kind else entries.lookup s := by
  induction entries with
  | nil => simp [put, lookup_cons]
  | cons e entries ih =>
    rw [put]
    by_cases hlt : status < e.1
    · rw [if_pos hlt, lookup_cons]
    · rw [if_neg hlt]
      by_cases heq : status = e.1
      · rw [if_pos heq, lookup_cons, lookup_cons]
        by_cases hs : s = status
        · rw [if_pos hs, if_pos hs]
        · rw [if_neg hs, if_neg hs, if_neg (heq ▸ hs)]
      · rw [if_neg heq, lookup_cons, lookup_cons, ih]
        by_cases hs : s = e.1
        · have hne : s ≠ status := fun h => heq (h.symm.trans hs)
          rw [if_pos hs, if_neg hne, if_pos hs]
        · rw [if_neg hs, if_neg hs]

/-- One more entry changes the kind of its own status and no other. -/
theorem kind?_insert (c : Classification) (status : Status) (kind : FailureKind) (s : Status) :
    (c.insert status kind).kind? s = if s = status then some kind else c.kind? s :=
  lookup_put status kind c.entries s

/-- An entry is what is found for its status, if no two are for one status. -/
theorem mem_iff_lookup_of_pairwise_ne (h : entries.Pairwise (·.1 ≠ ·.1)) :
    (status, kind) ∈ entries ↔ entries.lookup status = some kind := by
  induction entries with
  | nil => simp
  | cons e entries ih =>
    obtain ⟨hfirst, hrest⟩ := List.pairwise_cons.1 h
    rw [List.mem_cons, ih hrest, lookup_cons]
    by_cases hs : status = e.1
    · have hnone : entries.lookup status ≠ some kind := by
        intro hlookup
        exact hfirst _ ((ih hrest).2 hlookup) hs.symm
      rw [if_pos hs, or_iff_left hnone, Prod.ext_iff, Option.some_inj, eq_comm (a := kind)]
      exact and_iff_right hs
    · have hne : (status, kind) ≠ e := fun he => hs (congrArg Prod.fst he)
      rw [if_neg hs, or_iff_right hne]

theorem pairwise_ne (c : Classification) : c.entries.Pairwise (·.1 ≠ ·.1) :=
  c.sorted.imp fun h => UInt16.ne_of_lt h

/-- Classifications are equal exactly if they have the same kind, or none, for each status. -/
theorem ext_iff_kind? : c = d ↔ ∀ status, c.kind? status = d.kind? status := by
  constructor
  · intro h status
    rw [h]
  · intro h
    have hmem (e : Entry) : e ∈ c.entries ↔ e ∈ d.entries := by
      rw [mem_iff_lookup_of_pairwise_ne c.pairwise_ne, mem_iff_lookup_of_pairwise_ne d.pairwise_ne]
      exact Eq.congr_left (h e.1)
    have hperm : c.entries.Perm d.entries := by
      refine (List.perm_ext_iff_of_nodup ?_ ?_).2 hmem
      · exact c.pairwise_ne.imp fun hne heq => hne (congrArg Prod.fst heq)
      · exact d.pairwise_ne.imp fun hne heq => hne (congrArg Prod.fst heq)
    -- Both lists are sorted by status, and statuses are in one order only.
    have hentries : c.entries = d.entries := by
      refine hperm.eq_of_pairwise ?_ c.sorted d.sorted
      intro a b _ _ hab hba
      exact absurd hba (UInt16.lt_asymm hab)
    cases c
    cases d
    simpa using hentries

/-! ## The last override -/

/-- The kind of the last override for a status, if there is any. -/
def last? (overrides : List Entry) (status : Status) : Option FailureKind :=
  overrides.reverse.lookup status

theorem last?_cons (e : Entry) (entries : List Entry) (status : Status) :
    last? (e :: entries) status =
      (last? entries status).or (if status = e.1 then some e.2 else none) := by
  rw [last?, List.reverse_cons, List.lookup_append, lookup_cons]
  rfl

/-- Only the overrides for a status itself matter for what is last. -/
theorem last?_filter (entries : List Entry) (status : Status) :
    last? (entries.filter (·.1 = status)) status = last? entries status := by
  induction entries with
  | nil => rfl
  | cons e entries ih =>
    by_cases hs : e.1 = status
    · rw [List.filter_cons_of_pos (by simpa using hs), last?_cons, last?_cons, ih]
    · rw [List.filter_cons_of_neg (by simpa using hs), ih, last?_cons, if_neg (Ne.symm hs),
        Option.or_none]

/-- An override is the last for its status if none after it is for the same. -/
theorem last?_eq_some_iff : last? entries status = some kind ↔
    ∃ before after, entries = before ++ (status, kind) :: after ∧ ∀ e ∈ after, e.1 ≠ status := by
  rw [last?, List.lookup_eq_some_iff]
  constructor
  · rintro ⟨after, before, hentries, hafter⟩
    refine ⟨before.reverse, after.reverse, ?_, ?_⟩
    · rw [← List.reverse_reverse entries, hentries]
      simp
    · intro e he
      have hne := hafter e (List.mem_reverse.1 he)
      exact Ne.symm (bne_iff_ne.1 hne)
  · rintro ⟨before, after, rfl, hafter⟩
    refine ⟨after.reverse, before.reverse, by simp, ?_⟩
    intro e he
    exact bne_iff_ne.2 (Ne.symm (hafter e (List.mem_reverse.1 he)))

theorem kind?_foldl_insert (overrides : List Entry) (c : Classification) (status : Status) :
    (overrides.foldl (fun c e => c.insert e.1 e.2) c).kind? status =
      (last? overrides status).or (c.kind? status) := by
  induction overrides generalizing c with
  | nil => rfl
  | cons e overrides ih =>
    rw [List.foldl_cons, ih, kind?_insert, last?_cons, Option.or_assoc]
    by_cases hs : status = e.1
    · rw [if_pos hs, if_pos hs, Option.some_or]
    · rw [if_neg hs, if_neg hs, Option.none_or]

/-- The kind of a status is that of the last override for it, and else the standard one. -/
theorem kind?_withOverrides (overrides : List Entry) (status : Status) :
    (withOverrides overrides).kind? status =
      (last? overrides status).or (standard.kind? status) :=
  kind?_foldl_insert overrides standard status

theorem withOverrides_congr (h : ∀ status, last? entries status = last? order status) :
    withOverrides entries = withOverrides order := by
  apply ext_iff_kind?.2
  intro status
  rw [kind?_withOverrides, kind?_withOverrides, h]

/-- How the overrides for different statuses stand to each other makes no difference. -/
theorem withOverrides_of_filter
    (h : ∀ status, order.filter (·.1 = status) = entries.filter (·.1 = status)) :
    withOverrides order = withOverrides entries := by
  apply withOverrides_congr
  intro status
  rw [← last?_filter order, h, last?_filter]

/-- Overrides change nothing exactly if the last for each status gives it its standard kind. -/
theorem withOverrides_eq_standard_iff (overrides : List Entry) :
    withOverrides overrides = standard ↔
      ∀ status kind, last? overrides status = some kind → standard.kind? status = some kind := by
  rw [ext_iff_kind?]
  apply forall_congr'
  intro status
  rw [kind?_withOverrides]
  cases hlast : last? overrides status with
  | none => simp
  | some kind => simp [eq_comm]

theorem kind?_standard_ne_requestFailed (status : Status) :
    standard.kind? status ≠ some .requestFailed := by
  intro h
  rw [kind?, ← mem_iff_lookup_of_pairwise_ne standard.pairwise_ne] at h
  simp [standard] at h

/-- A status counts as a failed request if it has no kind, or if an override says so. -/
theorem classify_eq_requestFailed_iff (overrides : List Entry) (status : Status) :
    (withOverrides overrides).classify status = .requestFailed ↔
      (withOverrides overrides).kind? status = none ∨
        last? overrides status = some .requestFailed := by
  have hstandard := kind?_standard_ne_requestFailed status
  rw [classify, kind?_withOverrides]
  cases hlast : last? overrides status with
  | some kind => simp
  | none =>
    cases hkind : standard.kind? status with
    | none => simp
    | some kind =>
      rw [hkind] at hstandard
      simpa using hstandard

/-! ## Tables of overrides -/

/-- The table of some overrides, entered one after the other. -/
def table (overrides : List Entry) : Std.HashMap Status FailureKind :=
  overrides.foldl (fun t e => t.insert e.1 e.2) ∅

theorem getElem?_foldl_insert (overrides : List Entry) (t : Std.HashMap Status FailureKind)
    (status : Status) :
    (overrides.foldl (fun t e => t.insert e.1 e.2) t)[status]? =
      (last? overrides status).or t[status]? := by
  induction overrides generalizing t with
  | nil => rfl
  | cons e overrides ih =>
    rw [List.foldl_cons, ih, Std.HashMap.getElem?_insert, last?_cons, Option.or_assoc]
    by_cases hs : status = e.1
    · rw [if_pos hs, if_pos (beq_iff_eq.2 hs.symm), Option.some_or]
    · rw [if_neg hs, if_neg fun h => hs (beq_iff_eq.1 h).symm, Option.none_or]

/-- A table has the last override for each status. -/
theorem getElem?_table (overrides : List Entry) (status : Status) :
    (table overrides)[status]? = last? overrides status := by
  rw [table, getElem?_foldl_insert]
  simp

/-- The last override for a status is in a table the only one, in whatever order one looks. -/
theorem last?_of_perm_table (h : order.Perm (table entries).toList) (status : Status) :
    last? order status = last? entries status := by
  have hdistinct : order.reverse.Pairwise (·.1 ≠ ·.1) := by
    refine ((List.reverse_perm order).trans h).symm.pairwise ?_ fun hab => Ne.symm hab
    exact Std.HashMap.distinct_keys_toList.imp fun hab => by simpa using hab
  ext kind
  rw [last?, ← mem_iff_lookup_of_pairwise_ne hdistinct, List.mem_reverse, h.mem_iff,
    Std.HashMap.mem_toList_iff_getElem?_eq_some, getElem?_table]

theorem overrides_foldl_override (overrides : List Entry) (options : CallOptions) :
    (overrides.foldl (fun o e => o.override e.1 e.2) options).overrides =
      options.overrides ++ overrides := by
  induction overrides generalizing options with
  | nil => simp
  | cons e overrides ih =>
    rw [List.foldl_cons, ih]
    simp [CallOptions.override]

/-- **The last override for a status counts.** Whatever overrides a classification is made with, one by
one: a status has the kind of the last override for it, and without one its standard kind, if it has
any. It counts as a failed request exactly if it has no kind or the last override says so. Entries that
are added later are overrides at the end, and so are those that are added to the options of a call. How
the overrides for different statuses stand to each other makes no difference. Neither does it if they
are first kept in a table, in whatever order this is then gone through. Two classifications are equal
exactly if they have the same kinds; so overrides change nothing exactly if the last for each status
gives it its standard kind. -/
theorem withOverrides_lastWins (overrides : List Entry) :
    (∀ status, (withOverrides overrides).kind? status =
      (last? overrides status).or (standard.kind? status)) ∧
    (∀ status, (withOverrides overrides).classify status = .requestFailed ↔
      (withOverrides overrides).kind? status = none ∨
        last? overrides status = some .requestFailed) ∧
    (∀ later : List Entry, later.foldl (fun c e => c.insert e.1 e.2) (withOverrides overrides) =
      withOverrides (overrides ++ later)) ∧
    (∀ options : CallOptions,
      (overrides.foldl (fun o e => o.override e.1 e.2) options).classification =
        withOverrides (options.overrides ++ overrides)) ∧
    (∀ order : List Entry, (∀ status, order.filter (·.1 = status) = overrides.filter (·.1 = status)) →
      withOverrides order = withOverrides overrides) ∧
    (∀ order : List Entry, order.Perm (table overrides).toList →
      withOverrides order = withOverrides overrides) ∧
    (∀ c d : Classification, c = d ↔ ∀ status, c.kind? status = d.kind? status) ∧
    (withOverrides overrides = standard ↔ ∀ status kind,
      last? overrides status = some kind → standard.kind? status = some kind) := by
  refine ⟨kind?_withOverrides overrides, classify_eq_requestFailed_iff overrides, ?_, ?_,
    fun _ => withOverrides_of_filter, ?_, fun _ _ => ext_iff_kind?,
    withOverrides_eq_standard_iff overrides⟩
  · intro later
    exact List.foldl_append.symm
  · intro options
    exact congrArg withOverrides (overrides_foldl_override overrides options)
  · intro order horder
    exact withOverrides_congr (last?_of_perm_table horder)

end Classification

end JitAccess
