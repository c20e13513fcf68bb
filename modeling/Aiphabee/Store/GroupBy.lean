import Mathlib.Algebra.GroupWithZero.Nat
import Mathlib.Data.List.Nodup
import Mathlib.Data.List.Induction
import Mathlib.Algebra.BigOperators.Group.List.Basic

/-!
# Grouping the rows of a list by a key

A map in insertion order is a list of entries.  `groupBy` reads a list of rows
and keeps one entry a key: the first row with the key starts the value of the
entry, and every later one is merged into it.

The main result, `groupBy_eq`, is the closed form of this loop: the keys are
the distinct keys of the rows in the order in which they first appear, and the
value of a key is computed from the rows with that key alone.  The sums of the
groups add up to the sum of all rows.
-/

namespace Aiphabee.GroupBy

universe u v w

variable {ρ : Type u}
variable {κ : Type v} [DecidableEq κ]
variable {β : Type w}

/-- Change the value under a key, or add a last entry for it. -/
def upsert (k : κ) (start : β) (merge : β → β) : List (κ × β) → List (κ × β)
  | [] => [(k, start)]
  | entry :: rest =>
    if entry.1 = k then
      (k, merge entry.2) :: rest
    else
      entry :: upsert k start merge rest

/-- One entry a key, in the order in which the keys first appear. -/
def groupBy (key : ρ → κ) (start : ρ → β) (merge : β → ρ → β) (rows : List ρ) : List (κ × β) :=
  rows.foldl
    (fun entries row =>
      upsert (key row) (start row) (fun value => merge value row) entries)
    []

def groupValue (start : ρ → β) (merge : β → ρ → β) : List ρ → Option β
  | [] => none
  | row :: rest => some (rest.foldl merge (start row))

variable {key : ρ → κ}
variable {start : ρ → β}
variable {merge : β → ρ → β}

section Upsert

variable {k : κ}
variable {first : β}
variable {change : β → β}

/-- A key without an entry gets a last one. -/
theorem upsert_of_notMem {entries : List (κ × β)} (h : k ∉ entries.map Prod.fst) :
    upsert k first change entries = entries ++ [(k, first)] := by
  induction entries with
  | nil => rfl
  | cons entry rest ih =>
    simp only [List.map_cons, List.mem_cons, not_or] at h
    have hne : entry.1 ≠ k := fun heq => h.1 heq.symm
    simp [upsert, hne, ih h.2]

theorem upsert_of_mem {entries : List (κ × β)} (hnodup : (entries.map Prod.fst).Nodup)
    (h : k ∈ entries.map Prod.fst) :
    upsert k first change entries =
      entries.map fun entry =>
        if entry.1 = k then (k, change entry.2) else entry := by
  induction entries with
  | nil => simp at h
  | cons entry rest ih =>
    simp only [List.map_cons, List.nodup_cons] at hnodup
    by_cases heq : entry.1 = k
    · have hrest : ∀ other ∈ rest, other.1 ≠ k := by
        intro other hother hk
        refine hnodup.1 (List.mem_map.mpr ⟨other, hother, ?_⟩)
        rw [hk, heq]
      have hmap : rest.map (fun entry =>
          if entry.1 = k then (k, change entry.2) else entry) = rest := by
        calc
          _ = rest.map id :=
            List.map_congr_left fun other hother => if_neg (hrest other hother)
          _ = rest := List.map_id rest
      simp [upsert, heq, hmap]
    · have hmem : k ∈ rest.map Prod.fst := by
        rcases List.mem_cons.mp h with hk | hk
        · exact absurd hk.symm heq
        · exact hk
      simp [upsert, heq, ih hnodup.2 hmem]

end Upsert

/-- A new last element is kept unless it has appeared before. -/
theorem eraseDups_concat (ks : List κ) (k : κ) :
    (ks ++ [k]).eraseDups = if k ∈ ks then ks.eraseDups else ks.eraseDups ++ [k] := by
  rw [List.eraseDups_append]
  by_cases h : k ∈ ks
  · simp [List.removeAll, h]
  · simp [List.removeAll, h, List.eraseDups_cons]

/-- The keys in the order of their first appearance are distinct. -/
theorem nodup_eraseDups (ks : List κ) : ks.eraseDups.Nodup := by
  induction ks using List.reverseRecOn with
  | nil => simp
  | append_singleton ks k ih =>
    rw [eraseDups_concat]
    split
    · exact ih
    next h =>
      refine List.nodup_append.mpr ⟨ih, List.nodup_singleton k, ?_⟩
      rintro a ha b hb rfl
      obtain rfl := List.mem_singleton.mp hb
      exact h (List.mem_eraseDups.mp ha)

/-- Distinct keys are those of their first appearance. -/
theorem eraseDups_of_nodup {ks : List κ} (h : ks.Nodup) : ks.eraseDups = ks := by
  induction ks using List.reverseRecOn with
  | nil => rfl
  | append_singleton ks k ih =>
    obtain ⟨hks, -, hdisjoint⟩ := List.nodup_append.mp h
    have hk : k ∉ ks := fun hmem => hdisjoint k hmem k List.mem_cons_self rfl
    rw [eraseDups_concat, if_neg hk, ih hks]

section ClosedForm

theorem groupValue_concat (rows : List ρ) (row : ρ) :
    groupValue start merge (rows ++ [row]) =
      some (match groupValue start merge rows with
        | none => start row
        | some value => merge value row) := by
  cases rows <;> simp [groupValue]

/-- A further row changes the entries by one `upsert`. -/
theorem groupBy_concat (rows : List ρ) (row : ρ) :
    groupBy key start merge (rows ++ [row]) =
      upsert (key row) (start row) (fun value => merge value row)
        (groupBy key start merge rows) := by
  simp [groupBy]

theorem filter_key_concat (rows : List ρ) (row : ρ) (k : κ) :
    (rows ++ [row]).filter (fun other => key other = k) =
      rows.filter (fun other => key other = k) ++ if key row = k then [row] else [] := by
  by_cases h : key row = k <;> simp [h]

variable {rows : List ρ}

theorem groupValue_isSome {k : κ} (h : k ∈ rows.map key) :
    ∃ value, groupValue start merge (rows.filter fun row => key row = k) = some value := by
  obtain ⟨row, hrow, hk⟩ := List.mem_map.mp h
  have hmem : row ∈ rows.filter fun row => key row = k := by
    simp [hrow, hk]
  cases hfilter : rows.filter fun row => key row = k with
  | nil => rw [hfilter] at hmem; cases hmem
  | cons first rest => exact ⟨_, rfl⟩

theorem groupBy_eq (rows : List ρ) :
    (groupBy key start merge rows).map (fun entry => (entry.1, some entry.2)) =
      (rows.map key).eraseDups.map fun k =>
        (k, groupValue start merge (rows.filter fun row => key row = k)) := by
  induction rows using List.reverseRecOn with
  | nil => rfl
  | append_singleton rows row ih =>
    have hkeys : (groupBy key start merge rows).map Prod.fst = (rows.map key).eraseDups := by
      simpa [Function.comp_def] using congrArg (List.map Prod.fst) ih
    simp only [groupBy_concat, List.map_append, List.map_cons, List.map_nil,
      eraseDups_concat, filter_key_concat]
    by_cases h : key row ∈ rows.map key
    · -- The entry of the key exists: both sides change at that key and nowhere else.
      have hnodup : ((groupBy key start merge rows).map Prod.fst).Nodup := by
        rw [hkeys]
        exact nodup_eraseDups _
      have hmem : key row ∈ (groupBy key start merge rows).map Prod.fst := by
        rw [hkeys]
        exact List.mem_eraseDups.mpr h
      have hchange := congrArg
        (List.map fun entry : κ × Option β =>
          if entry.1 = key row then
            (entry.1, entry.2.map fun value => merge value row)
          else entry) ih
      rw [List.map_map, List.map_map] at hchange
      rw [upsert_of_mem hnodup hmem, if_pos h, List.map_map]
      refine Eq.trans ?_ (hchange.trans ?_)
      · refine List.map_congr_left fun entry _ => ?_
        by_cases heq : entry.1 = key row <;> simp [heq]
      · refine List.map_congr_left fun k hk => ?_
        by_cases heq : k = key row
        · subst heq
          obtain ⟨value, hvalue⟩ : ∃ value,
              groupValue start merge (rows.filter fun other => key other = key row) =
                some value :=
            groupValue_isSome h
          simp [groupValue_concat, hvalue]
        · have hne : key row ≠ k := fun h => heq h.symm
          simp [heq, hne]
    · have hmem : key row ∉ (groupBy key start merge rows).map Prod.fst := by
        rw [hkeys]
        exact fun hk => h (List.mem_eraseDups.mp hk)
      have hempty : rows.filter (fun other => key other = key row) = [] := by
        refine List.filter_eq_nil_iff.mpr fun other hother => ?_
        simpa using fun heq => h (List.mem_map.mpr ⟨other, hother, heq⟩)
      rw [upsert_of_notMem hmem, if_neg h, List.map_append, List.map_append, ih]
      congr 1
      · refine List.map_congr_left fun k hk => ?_
        have hne : key row ≠ k := by
          rintro rfl
          exact h (List.mem_eraseDups.mp hk)
        simp [hne]
      · simp [hempty, groupValue]

theorem keys_groupBy (rows : List ρ) :
    (groupBy key start merge rows).map Prod.fst = (rows.map key).eraseDups := by
  have h : ((groupBy key start merge rows).map fun entry => (entry.1, some entry.2)).map
      Prod.fst = _ :=
    congrArg (List.map Prod.fst) (groupBy_eq rows)
  simpa [Function.comp_def] using h

theorem groupValue_of_mem {entry : κ × β} (h : entry ∈ groupBy key start merge rows) :
    groupValue start merge (rows.filter fun row => key row = entry.1) = some entry.2 := by
  have hmem : (entry.1, some entry.2) ∈
      (groupBy key start merge rows).map fun entry => (entry.1, some entry.2) :=
    List.mem_map.mpr ⟨entry, h, rfl⟩
  rw [groupBy_eq] at hmem
  obtain ⟨k, -, heq⟩ := List.mem_map.mp hmem
  obtain ⟨rfl, hvalue⟩ := Prod.mk.inj heq
  exact hvalue

/-- The entries are those under a finer key, when the rows do not tell the two keys apart. -/
theorem groupBy_comp {κ' : Type v} [DecidableEq κ'] (f : κ → κ')
    (hinj : ∀ row ∈ rows, ∀ other ∈ rows, f (key row) = f (key other) → key row = key other) :
    groupBy (fun row => f (key row)) start merge rows =
      (groupBy key start merge rows).map fun entry => (f entry.1, entry.2) := by
  induction rows using List.reverseRecOn with
  | nil => rfl
  | append_singleton rows row ih =>
    have hrows : ∀ entry ∈ groupBy key start merge rows,
        ∃ other ∈ rows, key other = entry.1 := by
      intro entry hentry
      have hmem := List.mem_map_of_mem (f := Prod.fst) hentry
      rw [keys_groupBy] at hmem
      exact List.mem_map.mp (List.mem_eraseDups.mp hmem)
    have hupsert : ∀ entries : List (κ × β),
        (∀ entry ∈ entries, f entry.1 = f (key row) → entry.1 = key row) →
        upsert (f (key row)) (start row) (fun value => merge value row)
            (entries.map fun entry => (f entry.1, entry.2)) =
          (upsert (key row) (start row) (fun value => merge value row) entries).map
            fun entry => (f entry.1, entry.2) := by
      intro entries hentries
      induction entries with
      | nil => rfl
      | cons entry rest ih =>
        have hrest := ih fun other hother => hentries other (List.mem_cons_of_mem _ hother)
        by_cases heq : entry.1 = key row
        · simp [upsert, heq]
        · have hne : f entry.1 ≠ f (key row) :=
            fun h => heq (hentries entry List.mem_cons_self h)
          simp [upsert, heq, hne, hrest]
    rw [groupBy_concat, groupBy_concat, ih ?_, hupsert]
    · intro entry hentry hf
      obtain ⟨other, hother, hkey⟩ := hrows entry hentry
      rw [← hkey] at hf ⊢
      exact hinj other (List.mem_append_left _ hother) row (by simp) hf
    · intro row hrow other hother
      exact hinj row (List.mem_append_left _ hrow) other (List.mem_append_left _ hother)

end ClosedForm

theorem sum_upsert {M : Type*} [AddCommMonoid M] (value : κ → β → M) {k : κ} {first : β}
    {change : β → β} {amount : M} (hfirst : value k first = amount)
    (hchange : ∀ other, value k (change other) = value k other + amount) (entries : List (κ × β)) :
    ((upsert k first change entries).map fun entry => value entry.1 entry.2).sum =
      (entries.map fun entry => value entry.1 entry.2).sum + amount := by
  induction entries with
  | nil => simp [upsert, hfirst]
  | cons entry rest ih =>
    by_cases heq : entry.1 = k
    · subst heq
      simp only [upsert, if_true, List.map_cons, List.sum_cons, hchange]
      exact add_right_comm _ _ _
    · simp only [upsert, if_neg heq, List.map_cons, List.sum_cons, ih]
      exact (add_assoc _ _ _).symm

theorem sum_groupBy {M : Type*} [AddCommMonoid M] (value : κ → β → M) (amount : ρ → M)
    (hstart : ∀ row, value (key row) (start row) = amount row)
    (hmerge : ∀ other row,
      value (key row) (merge other row) = value (key row) other + amount row)
    (rows : List ρ) :
    ((groupBy key start merge rows).map fun entry => value entry.1 entry.2).sum =
      (rows.map amount).sum := by
  induction rows using List.reverseRecOn with
  | nil => rfl
  | append_singleton rows row ih =>
    rw [groupBy_concat, sum_upsert value (hstart row) (fun other => hmerge other row), ih]
    simp

/-- Adding up some rows of a list is adding up all of them, the others as zero. -/
theorem sum_map_filter {M : Type*} [AddCommMonoid M] {α : Type*} (counts : α → Bool)
    (amount : α → M) (rows : List α) :
    ((rows.filter counts).map amount).sum =
      (rows.map fun row => if counts row then amount row else 0).sum := by
  induction rows with
  | nil => rfl
  | cons row rest ih => cases h : counts row <;> simp [h, ih]

/-- The groups of some keys add up to the rows of these keys. -/
theorem sum_groupBy_filter (value : β → Nat) (amount : ρ → Nat) (counts : κ → Bool)
    (hstart : ∀ row, value (start row) = amount row)
    (hmerge : ∀ other row, value (merge other row) = value other + amount row) (rows : List ρ) :
    (((groupBy key start merge rows).filter fun entry => counts entry.1).map
        fun entry => value entry.2).sum =
      ((rows.filter fun row => counts (key row)).map amount).sum := by
  rw [sum_map_filter, sum_map_filter]
  refine sum_groupBy (fun k other => if counts k then value other else 0) _ (fun row => ?_)
    (fun other row => ?_) rows
  · rw [hstart]
  · rw [hmerge]
    split <;> rfl

end Aiphabee.GroupBy
