import Mathlib.Data.List.Sort
import Mathlib.Data.List.TakeWhile

/-!
# Sorting the rows of a list by a total preorder

A comparator that cannot tell two rows apart leaves them in the order in which
they come.  So what a stable sort makes of a list depends on the order of the list
exactly when rows that compare equal are different, which is
`insertionSort_forall_perm_iff`.

The first row of a descending sort is a greatest one, and a map that is filled
row by row holds, under a key, the place of the last row with that key.
-/

namespace Aiphabee.StableSort

universe u

variable {α : Type u}

section Orders

variable (r : α → α → Prop) [DecidableRel r] [Std.Total r] [IsTrans α r]

/-- The rows in the order of `r`; what of them is in order already stays in its order. -/
structure SortsStably (rows sorted : List α) : Prop where
  perm : rows.Perm sorted
  pairwise : sorted.Pairwise r
  stable : ∀ part : List α, part.Pairwise r → part.Sublist rows → part.Sublist sorted

theorem insertionSort_sortsStably (rows : List α) : SortsStably r rows (rows.insertionSort r) where
  perm := (List.perm_insertionSort r rows).symm
  pairwise := List.pairwise_insertionSort r rows
  stable _ hpart hsublist := List.sublist_insertionSort hpart hsublist

/-- Rows that compare equal are the same row. -/
def TiesAgree (rows : List α) : Prop :=
  ∀ a ∈ rows, ∀ b ∈ rows, r a b → r b a → a = b

variable {r}

theorem insertionSort_perm {rows others : List α} (hties : TiesAgree r rows)
    (hperm : rows.Perm others) : rows.insertionSort r = others.insertionSort r := by
  refine List.Perm.eq_of_pairwise ?_ (List.pairwise_insertionSort r _)
    (List.pairwise_insertionSort r _) ?_
  · intro a b ha hb hab hba
    exact hties a ((List.mem_insertionSort r).mp ha) b
      (hperm.mem_iff.mpr ((List.mem_insertionSort r).mp hb)) hab hba
  · exact (List.perm_insertionSort r _).trans
      (hperm.trans (List.perm_insertionSort r _).symm)

omit [Std.Total r] [IsTrans α r] in
/-- The row that comes first in a list comes first among those it compares equal to. -/
theorem find_orderedInsert (p : α → Bool) {a : α} (hp : p a = true) (rows : List α)
    (hclass : ∀ b ∈ rows, p b = true → r a b) : (rows.orderedInsert r a).find? p = some a := by
  have hbefore : (rows.takeWhile fun b => ¬r a b).find? p = none := by
    refine List.find?_eq_none.mpr fun b hb hpb => ?_
    have hnot := List.mem_takeWhile_imp hb
    exact (of_decide_eq_true hnot) (hclass b ((List.takeWhile_sublist _).mem hb) hpb)
  rw [List.orderedInsert_eq_take_drop, List.find?_append, hbefore, List.find?_cons_of_pos hp]
  rfl

omit [Std.Total r] [IsTrans α r] in
theorem find_orderedInsert_of_neg (p : α → Bool) {a : α} (hp : p a = false) (rows : List α) :
    (rows.orderedInsert r a).find? p = rows.find? p := by
  rw [List.orderedInsert_eq_take_drop, List.find?_append,
    List.find?_cons_of_neg (by rw [hp]; exact Bool.false_ne_true), ← List.find?_append,
    List.takeWhile_append_dropWhile]

variable {rows : List α}

theorem insertionSort_forall_perm_iff [DecidableEq α] :
    (∀ others, rows.Perm others → rows.insertionSort r = others.insertionSort r) ↔
      TiesAgree r rows := by
  constructor
  · intro h a ha b hb hab hba
    by_contra hne
    -- the two rows come first, once in the one order and once in the other
    have hb' : b ∈ rows.erase a := (List.mem_erase_of_ne (Ne.symm hne)).mpr hb
    have hfirst : rows.Perm (a :: b :: (rows.erase a).erase b) :=
      (List.perm_cons_erase ha).trans ((List.perm_cons_erase hb').cons a)
    have hsecond : rows.Perm (b :: a :: (rows.erase a).erase b) :=
      hfirst.trans (List.Perm.swap b a _)
    have heq := (h _ hfirst).symm.trans (h _ hsecond)
    let likeA : α → Bool := fun c => r a c ∧ r c a
    have hlike : ∀ c, likeA c = true → r a c := fun c hc => (of_decide_eq_true hc).1
    have hfind := congrArg (List.find? likeA) heq
    simp only [List.insertionSort_cons] at hfind
    rw [find_orderedInsert likeA (decide_eq_true ⟨refl_of r a, refl_of r a⟩) _
        fun c _ => hlike c,
      find_orderedInsert likeA (decide_eq_true ⟨hab, hba⟩) _
        fun c _ hc => trans_of r hba (hlike c hc)] at hfind
    exact hne (Option.some.inj hfind)
  · intro hties others hperm
    exact insertionSort_perm hties hperm

theorem head_insertionSort {first : α} (h : (rows.insertionSort r).head? = some first) :
    first ∈ rows ∧ ∀ b ∈ rows, r first b := by
  obtain ⟨rest, hsorted⟩ := List.head?_eq_some_iff.mp h
  have hpairwise := List.pairwise_insertionSort r rows
  rw [hsorted] at hpairwise
  have hmem : ∀ b, b ∈ first :: rest ↔ b ∈ rows := by
    intro b
    rw [← hsorted]
    exact List.mem_insertionSort r
  refine ⟨(hmem first).mp List.mem_cons_self, fun b hb => ?_⟩
  rcases List.mem_cons.mp ((hmem b).mpr hb) with rfl | hrest
  · exact refl_of r b
  · exact (List.pairwise_cons.mp hpairwise).1 b hrest

omit [Std.Total r] [IsTrans α r] in
theorem head_insertionSort_eq_none_iff :
    (rows.insertionSort r).head? = none ↔ rows = [] := by
  rw [List.head?_eq_none_iff, ← List.length_eq_zero_iff, List.length_insertionSort,
    List.length_eq_zero_iff]

end Orders

section LastPlaces

variable (p : α → Bool)

/-- The last place of a list that holds a row with a property. -/
def lastIndex (rows : List α) : Option Nat :=
  ((rows.zipIdx.filter fun entry => p entry.1).getLast?).map Prod.snd

variable {p}

theorem lastIndex_spec {rows : List α} {index : Nat} {row : α} (hrow : rows[index]? = some row)
    (hp : p row = true) :
    ∃ last other, lastIndex p rows = some last ∧ rows[last]? = some other ∧ p other = true ∧
      index ≤ last := by
  have hmem : (row, index) ∈ rows.zipIdx.filter fun entry => p entry.1 :=
    List.mem_filter.mpr ⟨List.mk_mem_zipIdx_iff_getElem?.mpr hrow, hp⟩
  have hne : (rows.zipIdx.filter fun entry => p entry.1) ≠ [] := List.ne_nil_of_mem hmem
  have hlast := List.getLast?_eq_some_getLast hne
  generalize (rows.zipIdx.filter fun entry => p entry.1).getLast hne = found at hlast
  obtain ⟨hfound, hpfound⟩ := List.mem_filter.mp (List.mem_of_getLast? hlast)
  refine ⟨found.2, found.1, by rw [lastIndex, hlast]; rfl,
    List.mem_zipIdx_iff_getElem?.mp hfound, hpfound, ?_⟩
  have hincreasing : (rows.zipIdx.filter fun entry => p entry.1).Pairwise
      fun earlier later => earlier.2 < later.2 := by
    refine List.Pairwise.filter _ (List.pairwise_map.mp ?_)
    rw [List.zipIdx_map_snd]
    exact List.pairwise_lt_range'
  obtain ⟨before, hsplit⟩ := List.getLast?_eq_some_iff.mp hlast
  rw [hsplit] at hmem hincreasing
  rcases List.mem_append.mp hmem with hearlier | hfinal
  · exact ((List.pairwise_append.mp hincreasing).2.2 _ hearlier found
      List.mem_cons_self).le
  · exact (congrArg Prod.snd (List.mem_singleton.mp hfinal)).le

end LastPlaces

end Aiphabee.StableSort
