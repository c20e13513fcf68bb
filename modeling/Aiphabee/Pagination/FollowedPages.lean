import Mathlib.Data.List.Basic

/-!
# Following the cursors of pages

A server answers a cursor with a page, and a page may carry the cursor of the next
one.  A reader starts without a cursor and follows the cursors until a page carries
none.

`SlicesFrom` says that the page at a cursor is the slice of a list from an offset on,
and that it carries the cursor of the offset behind it as long as something is left.
The main result, `readsAll_of_slices`, is that the reader then comes to an end and has
read the list: nothing lost, nothing twice, and a next cursor exactly when something
is left.
-/

namespace Aiphabee.FollowedPages

universe u v w x

variable {ι : Type u} {κ : Type v} {π : Type w} {ε : Type x}

section Following

variable (serve : Option κ → Except ε π) (next : π → Option κ)

inductive Follows : Option κ → List π → Prop
  | last
      {cursor : Option κ}
      {page : π}
      (hserve : serve cursor = .ok page)
      (hnext : next page = none) :
      Follows cursor [page]
  | more
      {cursor : Option κ}
      {page : π}
      {following : κ}
      {pages : List π}
      (hserve : serve cursor = .ok page)
      (hnext : next page = some following)
      (hrest : Follows (some following) pages) :
      Follows cursor (page :: pages)

variable {serve next}

theorem Follows.unique {cursor : Option κ} {pages others : List π}
    (h : Follows serve next cursor pages) (hothers : Follows serve next cursor others) :
    pages = others := by
  induction h generalizing others with
  | last hserve hnext =>
    cases hothers with
    | last hserve' _ =>
      rw [hserve] at hserve'
      cases hserve'
      rfl
    | more hserve' hnext' _ =>
      rw [hserve] at hserve'
      cases hserve'
      rw [hnext] at hnext'
      cases hnext'
  | more hserve hnext _ ih =>
    cases hothers with
    | last hserve' hnext' =>
      rw [hserve] at hserve'
      cases hserve'
      rw [hnext] at hnext'
      cases hnext'
    | more hserve' hnext' hrest' =>
      rw [hserve] at hserve'
      cases hserve'
      rw [hnext] at hnext'
      cases hnext'
      rw [ih hrest']

/--
A reader without a cursor comes to an end, has read all items in their order, and found
a next cursor on exactly the pages behind which items are left.
-/
def ReadsAll (serve : Option κ → Except ε π) (next : π → Option κ) (items : π → List ι)
    (all : List ι) : Prop :=
  ∃ pages,
    Follows serve next none pages ∧
      (∀ others, Follows serve next none others → others = pages) ∧
      pages.flatMap items = all ∧
      ∀ before page after, pages = before ++ page :: after →
        ((next page).isSome ↔ ((before ++ [page]).flatMap items).length < all.length)

end Following

section Slices

def slice (all : List ι) (offset limit : Nat) : List ι :=
  (all.drop offset).take limit

def nextOffset (all : List ι) (offset limit : Nat) : Option Nat :=
  let following := offset + (slice all offset limit).length
  if following < all.length then some following else none

def SlicesFrom (serve : Option κ → Except ε π) (next : π → Option κ) (items : π → List ι)
    (encode : Nat → κ) (all : List ι) (limit : Nat) (cursor : Option κ) (offset : Nat) : Prop :=
  ∃ page,
    serve cursor = .ok page ∧ items page = slice all offset limit ∧
      next page = (nextOffset all offset limit).map encode

variable {serve : Option κ → Except ε π} {next : π → Option κ} {items : π → List ι}
variable {encode : Nat → κ} {all : List ι} {limit : Nat}

theorem slice_append_drop (all : List ι) (offset limit : Nat) :
    slice all offset limit ++ all.drop (offset + (slice all offset limit).length) =
      all.drop offset := by
  have hdrop : (all.drop offset).drop (slice all offset limit).length =
      (all.drop offset).drop limit := by
    rw [slice, List.length_take]
    rcases Nat.le_total limit (all.drop offset).length with hle | hle
    · rw [Nat.min_eq_left hle]
    · rw [Nat.min_eq_right hle, List.drop_length, List.drop_of_length_le hle]
  rw [← List.drop_drop, hdrop]
  exact List.take_append_drop limit (all.drop offset)

theorem length_slice (all : List ι) (offset limit : Nat) :
    (slice all offset limit).length = min limit (all.length - offset) := by
  simp [slice]

theorem exists_follows (hlimit : 1 ≤ limit)
    (hpages : ∀ offset, offset < all.length →
      SlicesFrom serve next items encode all limit (some (encode offset)) offset)
    {cursor : Option κ}
    {offset : Nat}
    (hoffset : offset ≤ all.length)
    (hpage : SlicesFrom serve next items encode all limit cursor offset) :
    ∃ pages,
      Follows serve next cursor pages ∧
        pages.flatMap items = all.drop offset ∧
        ∀ before page after, pages = before ++ page :: after →
          ((next page).isSome ↔
            offset + ((before ++ [page]).flatMap items).length < all.length) := by
  induction hleft : all.length - offset using Nat.strongRecOn generalizing cursor offset with
  | ind left ih =>
    obtain ⟨page, hserve, hitems, hnext⟩ := hpage
    have hlength := length_slice all offset limit
    by_cases hmore : offset + (slice all offset limit).length < all.length
    · rw [nextOffset, if_pos hmore] at hnext
      have hsmaller : all.length - (offset + (slice all offset limit).length) < left := by
        omega
      obtain ⟨pages, hfollows, hflat, hcursors⟩ :=
        ih _ hsmaller (Nat.le_of_lt hmore) (hpages _ hmore) rfl
      refine ⟨page :: pages, Follows.more hserve hnext hfollows, ?_, ?_⟩
      · rw [List.flatMap_cons, hflat, hitems, slice_append_drop]
      · intro before other after heq
        cases before with
        | nil =>
          obtain ⟨rfl, -⟩ := List.cons.inj heq
          refine iff_of_true (by rw [hnext]; rfl) ?_
          simpa [hitems] using hmore
        | cons first before =>
          obtain ⟨rfl, htail⟩ := List.cons.inj heq
          have hlater := hcursors before other after htail
          rw [hlater, List.cons_append, List.flatMap_cons, List.length_append, hitems,
            Nat.add_assoc]
    · rw [nextOffset, if_neg hmore] at hnext
      refine ⟨[page], Follows.last hserve hnext, ?_, ?_⟩
      · have hnone : all.drop (offset + (slice all offset limit).length) = [] :=
          List.drop_eq_nil_of_le (Nat.le_of_not_lt hmore)
        rw [List.flatMap_singleton, hitems, ← slice_append_drop all offset limit, hnone,
          List.append_nil]
      · intro before other after heq
        cases before with
        | nil =>
          obtain ⟨rfl, -⟩ := List.cons.inj heq
          refine iff_of_false (by rw [hnext]; exact Bool.false_ne_true) ?_
          simpa [hitems] using hmore
        | cons first before =>
          have hnil := (List.cons.inj heq).2
          exact absurd hnil (by simp)

theorem readsAll_of_slices (hlimit : 1 ≤ limit)
    (hfirst : SlicesFrom serve next items encode all limit none 0)
    (hpages : ∀ offset, offset < all.length →
      SlicesFrom serve next items encode all limit (some (encode offset)) offset) :
    ReadsAll serve next items all := by
  obtain ⟨pages, hfollows, hflat, hcursors⟩ :=
    exists_follows hlimit hpages (Nat.zero_le _) hfirst
  refine ⟨pages, hfollows, fun others hothers => hothers.unique hfollows, hflat, ?_⟩
  intro before page after heq
  have hiff := hcursors before page after heq
  rwa [Nat.zero_add] at hiff

end Slices

end Aiphabee.FollowedPages
