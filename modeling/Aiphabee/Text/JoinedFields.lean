import Mathlib.Data.List.Basic

/-!
# Fields joined with a separator

Fields that are joined with a separator are read back when none of them holds
the separator.  In general the joined text shows the pieces of the fields
between separators, one field after the other, and nothing else.
-/

namespace Aiphabee.JoinedFields

section Pieces

variable {α : Type*}
variable {separator : α}

variable {left right : List (List α)}

/-- Joining two lists of fields is joining all of them. -/
theorem intercalate_append (hleft : left ≠ []) (hright : right ≠ []) :
    [separator].intercalate (left ++ right) =
      [separator].intercalate left ++ separator :: [separator].intercalate right := by
  induction left with
  | nil => exact absurd rfl hleft
  | cons first rest ih =>
    cases rest with
    | nil =>
      rw [List.singleton_append, List.intercalate_cons_of_ne_nil hright,
        List.intercalate_singleton]
      simp
    | cons second rest =>
      have hrest := ih (List.cons_ne_nil _ _)
      have hall : second :: rest ++ right ≠ [] := List.cons_ne_nil _ _
      rw [List.cons_append, List.intercalate_cons_of_ne_nil hall, hrest,
        List.intercalate_cons_cons]
      simp

variable {fields : List (List α)}

theorem mem_intercalate {a : α} (h : a ∈ [separator].intercalate fields) :
    a = separator ∨ ∃ field ∈ fields, a ∈ field := by
  induction fields with
  | nil => exact absurd h (by simp)
  | cons field rest ih =>
    rcases eq_or_ne rest [] with rfl | hrest
    · rw [List.intercalate_singleton] at h
      exact .inr ⟨field, List.mem_cons_self, h⟩
    · rw [List.intercalate_cons_of_ne_nil hrest, List.mem_append, List.mem_append,
        List.mem_singleton] at h
      rcases h with (h | h) | h
      · exact .inr ⟨field, List.mem_cons_self, h⟩
      · exact .inl h
      · rcases ih h with hseparator | ⟨other, hother, hmem⟩
        · exact .inl hseparator
        · exact .inr ⟨other, List.mem_cons_of_mem _ hother, hmem⟩

variable [DecidableEq α]

def pieces (separator : α) (fields : List (List α)) : List (List α) :=
  fields.flatMap (List.splitOn separator)

theorem intercalate_inj (hleft : left ≠ [] ∧ ∀ field ∈ left, separator ∉ field)
    (hright : right ≠ [] ∧ ∀ field ∈ right, separator ∉ field)
    (h : [separator].intercalate left = [separator].intercalate right) : left = right := by
  have hsplit := congrArg (List.splitOn separator) h
  rwa [List.splitOn_intercalate separator hleft.2 hleft.1,
    List.splitOn_intercalate separator hright.2 hright.1] at hsplit

theorem separator_not_mem_of_mem_splitOn {field piece : List α}
    (h : piece ∈ field.splitOn separator) : separator ∉ piece := by
  induction field generalizing piece with
  | nil =>
    rw [List.mem_singleton.mp h]
    exact List.not_mem_nil
  | cons a field ih =>
    have hne : field.splitOn separator ≠ [] := List.splitOnP_ne_nil _ _
    obtain ⟨first, rest, hsplit⟩ := List.exists_cons_of_ne_nil hne
    rw [List.splitOn_eq_splitOnP] at hsplit ih
    rw [List.splitOn_eq_splitOnP, List.splitOnP_cons_eq_if_modifyHead, hsplit] at h
    by_cases ha : a = separator
    · rw [if_pos (by simp [ha]), List.mem_cons] at h
      rcases h with rfl | hrest
      · exact List.not_mem_nil
      · exact ih (by rwa [hsplit])
    · rw [if_neg (by simp [ha]), List.modifyHead_cons, List.mem_cons] at h
      rcases h with rfl | hrest
      · have hfirst : separator ∉ first := ih (by rw [hsplit]; exact List.mem_cons_self)
        exact fun hmem => (List.mem_cons.mp hmem).elim (fun heq => ha heq.symm) hfirst
      · exact ih (by rw [hsplit]; exact List.mem_cons_of_mem _ hrest)

theorem pieces_spec (h : fields ≠ []) :
    pieces separator fields ≠ [] ∧ ∀ piece ∈ pieces separator fields, separator ∉ piece := by
  constructor
  · obtain ⟨first, rest, rfl⟩ := List.exists_cons_of_ne_nil h
    have hne : first.splitOn separator ≠ [] := List.splitOnP_ne_nil _ _
    simp [pieces, hne]
  · intro piece hpiece
    obtain ⟨field, _, hmem⟩ := List.mem_flatMap.mp hpiece
    exact separator_not_mem_of_mem_splitOn hmem

theorem intercalate_pieces (h : fields ≠ []) :
    [separator].intercalate (pieces separator fields) = [separator].intercalate fields := by
  induction fields with
  | nil => exact absurd rfl h
  | cons first rest ih =>
    have hfirst : first.splitOn separator ≠ [] := List.splitOnP_ne_nil _ _
    have hcons : pieces separator (first :: rest) =
        first.splitOn separator ++ pieces separator rest := rfl
    cases rest with
    | nil =>
      rw [hcons, pieces, List.flatMap_nil, List.append_nil, List.intercalate_splitOn,
        List.intercalate_singleton]
    | cons second rest =>
      have hrest : second :: rest ≠ [] := List.cons_ne_nil _ _
      rw [hcons, intercalate_append hfirst (pieces_spec hrest).1, List.intercalate_splitOn,
        ih hrest, List.intercalate_cons_of_ne_nil hrest]
      simp

/-- Two lists of fields join to one text exactly when they have the same pieces. -/
theorem intercalate_eq_iff (hleft : left ≠ []) (hright : right ≠ []) :
    [separator].intercalate left = [separator].intercalate right ↔
      pieces separator left = pieces separator right := by
  constructor
  · intro h
    refine intercalate_inj (pieces_spec hleft) (pieces_spec hright) ?_
    rw [intercalate_pieces hleft, intercalate_pieces hright, h]
  · intro h
    rw [← intercalate_pieces hleft, ← intercalate_pieces hright, h]

end Pieces

theorem toList_intercalate (separator : Char) (texts : List String) :
    ((String.ofList [separator]).intercalate texts).toList =
      [separator].intercalate (texts.map String.toList) := by
  induction texts with
  | nil => rfl
  | cons first rest ih =>
    cases rest with
    | nil => simp
    | cons second rest =>
      rw [String.intercalate_cons_cons, String.toList_append, String.toList_append, ih,
        String.toList_ofList, List.map_cons, List.map_cons, List.map_cons,
        List.intercalate_cons_cons]

theorem intercalate_texts_eq_iff {separator : Char} {left right : List String} (hleft : left ≠ [])
    (hright : right ≠ []) :
    (String.ofList [separator]).intercalate left = (String.ofList [separator]).intercalate right ↔
      pieces separator (left.map String.toList) = pieces separator (right.map String.toList) := by
  rw [← String.toList_inj, toList_intercalate, toList_intercalate]
  exact intercalate_eq_iff (by simpa using hleft) (by simpa using hright)

end Aiphabee.JoinedFields
