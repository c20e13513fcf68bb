import Mathlib.Data.List.Infix

/-!
# The longest prefix that is kept

A greedy loop takes the items of a list from the front for as long as what it has taken
is kept.  If no longer list is kept once a shorter one is not, the loop ends with the
longest prefix that is kept.
-/

namespace Aiphabee.GreedyPrefix

variable {α : Type}

def extend (keeps : List α → Bool) (taken : List α) : List α → List α
  | [] => taken
  | item :: rest =>
    if keeps (taken ++ [item]) then extend keeps (taken ++ [item]) rest else taken

variable {keeps : List α → Bool}
variable {taken rest front : List α}

theorem extend_prefix :
    taken <+: extend keeps taken rest ∧ extend keeps taken rest <+: taken ++ rest := by
  induction rest generalizing taken with
  | nil => exact ⟨List.prefix_rfl, List.prefix_append _ _⟩
  | cons item rest ih =>
    rw [extend]
    split
    · have hmore : taken ++ [item] <+: extend keeps (taken ++ [item]) rest ∧
          extend keeps (taken ++ [item]) rest <+: taken ++ [item] ++ rest := ih
      obtain ⟨htaken, hrest⟩ := hmore
      rw [List.append_assoc, List.singleton_append] at hrest
      exact ⟨(List.prefix_append _ _).trans htaken, hrest⟩
    · exact ⟨List.prefix_rfl, List.prefix_append _ _⟩

/-- The loop ends with what it began with or with items that are kept. -/
theorem extend_keeps :
    extend keeps taken rest = taken ∨ keeps (extend keeps taken rest) = true := by
  induction rest generalizing taken with
  | nil => exact Or.inl rfl
  | cons item rest ih =>
    rw [extend]
    split
    next hkeeps =>
      have hmore : extend keeps (taken ++ [item]) rest = taken ++ [item] ∨
          keeps (extend keeps (taken ++ [item]) rest) = true := ih
      rcases hmore with hsame | hkept
      · rw [hsame]
        exact Or.inr hkeeps
      · exact Or.inr hkept
    next => exact Or.inl rfl

/-- Every longer front of the items that is kept is part of what the loop ends with. -/
theorem prefix_extend
    (hclosed : ∀ {shorter longer : List α},
      shorter <+: longer → keeps longer = true → keeps shorter = true)
    (htaken : taken <+: front)
    (hfront : front <+: taken ++ rest)
    (hkeeps : keeps front = true) :
    front <+: extend keeps taken rest := by
  induction rest generalizing taken with
  | nil =>
    rw [List.append_nil] at hfront
    exact hfront
  | cons item rest ih =>
    obtain ⟨more, rfl⟩ := htaken
    cases more with
    | nil =>
      rw [List.append_nil]
      exact extend_prefix.1
    | cons next more =>
      obtain ⟨hitem, -⟩ := List.cons_prefix_cons.mp ((List.prefix_append_right_inj _).mp hfront)
      subst hitem
      have hnext : taken ++ [next] <+: taken ++ next :: more :=
        ⟨more, by simp⟩
      rw [extend, if_pos (hclosed hnext hkeeps)]
      refine ih hnext ?_
      rw [List.append_assoc, List.singleton_append]
      exact hfront

end Aiphabee.GreedyPrefix
