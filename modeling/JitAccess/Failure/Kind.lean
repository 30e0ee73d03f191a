import JitAccess.Http.Status

/-!
# Kinds of failure

A `Classification` maps statuses to kinds of failure. It lists its entries by status, each status
once, so that two classifications that answer alike are equal.
-/

namespace JitAccess

/-- What a status outside the expected ones means. -/
inductive FailureKind
  | authentication
  | notFound
  | alreadyExists
  | notModified
  | requestFailed
  | custom (name : String)
deriving DecidableEq, Repr

/-- The wording of a kind. -/
def FailureKind.message : FailureKind → String
  | .authentication => "Client authentication failed"
  | .notFound => "Resource not found"
  | .alreadyExists => "Resource already exists"
  | .notModified => "Resource not modified"
  | .requestFailed => "Request failed"
  | .custom name => name

/-- An entry of a classification. -/
abbrev Classification.Entry := Http.Status × FailureKind

/-- The entries with one more. It takes the place of an entry for the same status. -/
def Classification.put (status : Http.Status) (kind : FailureKind) : List Entry → List Entry
  | [] => [(status, kind)]
  | e :: rest =>
    if status < e.1 then (status, kind) :: e :: rest
    else if status = e.1 then (status, kind) :: rest
    else e :: put status kind rest

theorem Classification.mem_put {status : Http.Status} {kind : FailureKind} {l : List Entry}
    {e : Entry} (h : e ∈ put status kind l) : e = (status, kind) ∨ e ∈ l := by
  induction l with
  | nil => simpa [put] using h
  | cons a rest ih =>
    simp only [put] at h
    split at h
    · simpa using h
    · split at h <;> simp only [List.mem_cons] at h ⊢ <;> grind

theorem Classification.pairwise_put {status : Http.Status} {kind : FailureKind} {l : List Entry}
    (h : l.Pairwise (·.1 < ·.1)) : (put status kind l).Pairwise (·.1 < ·.1) := by
  induction l with
  | nil => simp [put]
  | cons a rest ih =>
    rw [List.pairwise_cons] at h
    simp only [put]
    split
    next lt =>
      refine List.pairwise_cons.2 ⟨fun e he => ?_, List.pairwise_cons.2 h⟩
      rcases List.mem_cons.1 he with rfl | he
      · exact lt
      · exact UInt16.lt_trans lt (h.1 e he)
    next notLt =>
      split
      next eq => subst eq; exact List.pairwise_cons.2 h
      next ne =>
        refine List.pairwise_cons.2 ⟨fun e he => ?_, ih h.2⟩
        rcases mem_put he with rfl | he
        · exact UInt16.lt_of_le_of_ne (UInt16.not_lt.1 notLt) (Ne.symm ne)
        · exact h.1 e he

/-- A map from statuses to kinds of failure. -/
structure Classification where
  entries : List Classification.Entry
  sorted : entries.Pairwise (·.1 < ·.1)
deriving DecidableEq

namespace Classification

/-- The statuses with a kind of their own. -/
def standard : Classification :=
  ⟨[(304, .notModified), (401, .authentication), (404, .notFound), (409, .alreadyExists)],
    by decide⟩

/-- The classification with one more entry, in the place of any other for the status. -/
def insert (c : Classification) (status : Http.Status) (kind : FailureKind) : Classification :=
  ⟨put status kind c.entries, pairwise_put c.sorted⟩

/-- The standard classification with overrides, of which the last for a status counts. -/
def withOverrides (overrides : List Entry) : Classification :=
  overrides.foldl (fun c e => c.insert e.1 e.2) standard

/-- The kind of a status, if it has an entry. -/
def kind? (c : Classification) (status : Http.Status) : Option FailureKind :=
  c.entries.lookup status

/-- The kind of a status outside the expected ones. -/
def classify (c : Classification) (status : Http.Status) : FailureKind :=
  (c.kind? status).getD .requestFailed

end Classification

end JitAccess
