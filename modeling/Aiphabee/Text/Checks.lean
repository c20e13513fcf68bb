import Mathlib.Data.List.Forall2

/-!
# Sequences of checks

A validator runs its checks in order and fails with the error of the first one
that does not hold.  The lemmas say when a sequence of checks succeeds, and
what each check contributes.
-/

namespace Aiphabee.Checks

variable {ε α γ : Type}

def require (value : Option α) (error : ε) : Except ε α :=
  match value with
  | some a => .ok a
  | none => .error error

def ensure (condition : Prop) [Decidable condition] (error : ε) : Except ε Unit :=
  if condition then .ok () else .error error

def errorWhen (failed : Prop) [Decidable failed] (error : ε) : List ε :=
  if failed then [error] else []

variable {error : ε}

theorem errorWhen_eq_nil {failed : Prop} [Decidable failed] :
    errorWhen failed error = [] ↔ ¬failed := by
  by_cases h : failed <;> simp [errorWhen, h]

@[simp] theorem require_some (a : α) (error : ε) : require (some a) error = .ok a :=
  rfl

theorem require_eq_ok {value : Option α} {a : α} :
    require value error = .ok a ↔ value = some a := by
  cases value <;> simp [require]

variable {condition : Prop}

theorem ensure_eq_ok [Decidable condition] {a : Unit} :
    ensure condition error = .ok a ↔ condition := by
  by_cases h : condition <;> simp [ensure, h]

theorem ensure_of [Decidable condition] (error : ε) (h : condition) :
    ensure condition error = .ok () :=
  if_pos h

theorem ensure_of_not [Decidable condition] (error : ε) (h : ¬condition) :
    ensure condition error = .error error :=
  if_neg h

/-- A sequence succeeds exactly when its first part does and the rest does from there. -/
theorem bind_eq_ok {first : Except ε α} {next : α → Except ε γ} {result : γ} :
    (first >>= next) = .ok result ↔ ∃ a, first = .ok a ∧ next a = .ok result := by
  cases first with
  | error error => simp [bind, Except.bind]
  | ok a => simp [bind, Except.bind]

/-- A translation of the errors does not change when a part succeeds. -/
theorem mapError_eq_ok {ε' : Type} {translate : ε → ε'} {first : Except ε α} {a : α} :
    first.mapError translate = .ok a ↔ first = .ok a := by
  cases first with
  | error error =>
    constructor
    · intro h
      cases h
    · intro h
      cases h
  | ok a =>
    constructor
    · intro h
      cases h
      rfl
    · intro h
      cases h
      rfl

/-- After a part that succeeds the rest is run. -/
@[simp] theorem ok_bind (a : α) (next : α → Except ε γ) :
    ((Except.ok a : Except ε α) >>= next) = next a :=
  rfl

/-- After a part that fails nothing is run. -/
@[simp] theorem error_bind (error : ε) (next : α → Except ε γ) :
    ((Except.error error : Except ε α) >>= next) = .error error :=
  rfl

variable {results : List γ}
variable {rows : List α}
variable {check : α → Except ε γ}

theorem mapM_eq_ok :
    rows.mapM check = .ok results ↔
      List.Forall₂ (fun row result => check row = .ok result) rows results := by
  induction rows generalizing results with
  | nil =>
    rw [List.mapM_nil, List.forall₂_nil_left_iff]
    constructor
    · intro h
      cases h
      rfl
    · rintro rfl
      rfl
  | cons row rest ih =>
    rw [List.mapM_cons, bind_eq_ok]
    constructor
    · rintro ⟨result, hresult, hrest⟩
      obtain ⟨others, hothers, heq⟩ := bind_eq_ok.mp hrest
      cases heq
      exact List.Forall₂.cons hresult (ih.mp hothers)
    · intro h
      cases h with
      | cons hresult hrest =>
        refine ⟨_, hresult, ?_⟩
        rw [ih.mpr hrest]
        rfl

theorem mapM_eq_some {read : α → Option γ} :
    rows.mapM read = some results ↔
      List.Forall₂ (fun row result => read row = some result) rows results := by
  induction rows generalizing results with
  | nil =>
    rw [List.mapM_nil, List.forall₂_nil_left_iff]
    simp [eq_comm]
  | cons row rest ih =>
    rw [List.mapM_cons]
    constructor
    · intro h
      obtain ⟨result, hresult, hrest⟩ := Option.bind_eq_some_iff.mp h
      obtain ⟨others, hothers, heq⟩ := Option.bind_eq_some_iff.mp hrest
      cases heq
      exact List.Forall₂.cons hresult (ih.mp hothers)
    · intro h
      cases h with
      | cons hresult hrest =>
        rw [hresult, ih.mpr hrest]
        rfl

theorem exists_of_mapM {read : α → Option γ} {result : γ} (h : rows.mapM read = some results)
    (hresult : result ∈ results) : ∃ row ∈ rows, read row = some result := by
  have hall := mapM_eq_some.mp h
  clear h
  induction hall with
  | nil => cases hresult
  | cons hfirst _ ih =>
    rcases List.mem_cons.mp hresult with rfl | hrest
    · exact ⟨_, List.mem_cons_self, hfirst⟩
    · obtain ⟨row, hrow, hread⟩ := ih hrest
      exact ⟨row, List.mem_cons_of_mem _ hrow, hread⟩

theorem mapM_eq_ok_map {accepted : α → Prop} {resultOf : α → γ}
    (h : ∀ row result, check row = .ok result ↔ accepted row ∧ result = resultOf row) :
    rows.mapM check = .ok results ↔
      (∀ row ∈ rows, accepted row) ∧ results = rows.map resultOf := by
  rw [mapM_eq_ok]
  induction rows generalizing results with
  | nil => simp
  | cons row rest ih =>
    rw [List.forall₂_cons_left_iff, List.forall_mem_cons]
    constructor
    · rintro ⟨first, others, hfirst, hothers, rfl⟩
      obtain ⟨hrow, rfl⟩ := (h _ _).mp hfirst
      obtain ⟨hrest, rfl⟩ := ih.mp hothers
      exact ⟨⟨hrow, hrest⟩, rfl⟩
    · rintro ⟨⟨hrow, hrest⟩, rfl⟩
      exact ⟨_, _, (h _ _).mpr ⟨hrow, rfl⟩, ih.mpr ⟨hrest, rfl⟩, rfl⟩

end Aiphabee.Checks
