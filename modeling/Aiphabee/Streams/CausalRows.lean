import Mathlib.Data.List.Range

/-!
# Rows that do not look ahead

A function from a list of entries to a list of rows is *causal* when it gives one
row for each entry, and the rows of the first entries do not change when more
entries follow.  A single row, as a function of the entries and its place, *looks
back* when it depends on the entries up to its place alone.

The rules here build causal functions out of rows that look back: mapping with a
place, composing, taking a window, and the two loops that push one row after the
other.
-/

namespace Aiphabee.CausalRows

universe u v w

variable {α : Type u} {β : Type v} {γ : Type w}

def Lookback (row : List α → Nat → γ) : Prop :=
  ∀ (entries : List α) (count place : Nat), place < count → place < entries.length →
    row (entries.take count) place = row entries place

/-- One row for each entry, and the rows of the first entries stay when more entries follow. -/
structure Causal (rows : List α → List β) : Prop where
  length_eq : ∀ entries, (rows entries).length = entries.length
  take_eq : ∀ entries count, rows (entries.take count) = (rows entries).take count

/-- What is computed from a row that looks back looks back. -/
theorem Lookback.map {δ : Type*} {row : List α → Nat → γ} (h : Lookback row) (f : Nat → γ → δ) :
    Lookback fun entries place => f place (row entries place) :=
  fun entries count place hcount hplace =>
    congrArg (f place) (h entries count place hcount hplace)

/-- What is computed from two rows that look back looks back. -/
theorem Lookback.map₂ {δ ε : Type*} {left : List α → Nat → γ} {right : List α → Nat → δ}
    (hleft : Lookback left) (hright : Lookback right) (f : γ → δ → ε) :
    Lookback fun entries place => f (left entries place) (right entries place) := by
  intro entries count place hcount hplace
  dsimp only
  rw [hleft entries count place hcount hplace, hright entries count place hcount hplace]

theorem Lookback.comp {row : List β → Nat → γ} {rows : List α → List β} (h : Lookback row)
    (hrows : Causal rows) : Lookback fun entries place => row (rows entries) place := by
  intro entries count place hcount hplace
  dsimp only
  rw [hrows.take_eq]
  exact h (rows entries) count place hcount (by rwa [hrows.length_eq])

theorem Lookback.entry :
    Lookback fun (entries : List α) place => entries[place]? := by
  intro entries count place hcount _
  dsimp only
  rw [List.getElem?_take, if_pos hcount]

theorem Lookback.window (start : Nat → Nat) :
    Lookback fun (entries : List α) place => (entries.take (place + 1)).drop (start place) := by
  intro entries count place hcount _
  dsimp only
  rw [List.take_take, Nat.min_eq_left hcount]

theorem Causal.id : Causal fun entries : List α => entries where
  length_eq := fun _ => rfl
  take_eq := fun _ _ => rfl

theorem Causal.comp {outer : List β → List γ} {inner : List α → List β} (houter : Causal outer)
    (hinner : Causal inner) :
    Causal fun entries => outer (inner entries) where
  length_eq := fun entries => (houter.length_eq _).trans (hinner.length_eq entries)
  take_eq := by
    intro entries count
    rw [hinner.take_eq, houter.take_eq]

theorem Causal.map (f : α → β) :
    Causal fun entries => entries.map f where
  length_eq := fun _ => List.length_map f
  take_eq := fun _ _ => List.map_take

/-- Mapping causal rows with their places, where each new row may read all entries behind it. -/
theorem Causal.mapIdx {rows : List α → List β} {row : List α → Nat → β → γ} (hrows : Causal rows)
    (h : ∀ entry, Lookback fun entries place => row entries place entry) :
    Causal fun entries => (rows entries).mapIdx (row entries) where
  length_eq := fun entries => List.length_mapIdx.trans (hrows.length_eq entries)
  take_eq := by
    intro entries count
    apply List.ext_getElem?
    intro place
    rw [hrows.take_eq, List.getElem?_mapIdx, List.getElem?_take, List.getElem?_take,
      List.getElem?_mapIdx]
    split
    · next hcount =>
        cases hentry : (rows entries)[place]? with
        | none => rfl
        | some entry =>
          have hplace : place < entries.length := by
            rw [← hrows.length_eq]
            exact (List.getElem?_eq_some_iff.mp hentry).1
          exact congrArg some (h entry entries count place hcount hplace)
    · rfl

variable (next : List β → α → β)

def pushEach (entries : List α) : List β :=
  entries.foldl (fun rows entry => rows ++ [next rows entry]) []

def pushBelow (next : List β → Nat → β) : Nat → List β
  | 0 => []
  | bound + 1 => pushBelow next bound ++ [next (pushBelow next bound) bound]

@[simp] theorem pushEach_append_singleton (entries : List α) (entry : α) :
    pushEach next (entries ++ [entry]) =
      pushEach next entries ++ [next (pushEach next entries) entry] := by
  simp [pushEach]

@[simp] theorem length_pushEach (entries : List α) :
    (pushEach next entries).length = entries.length := by
  induction entries using List.reverseRecOn with
  | nil => rfl
  | append_singleton entries entry ih => simp [ih]

@[simp] theorem length_pushBelow (next : List β → Nat → β) (bound : Nat) :
    (pushBelow next bound).length = bound := by
  induction bound with
  | zero => rfl
  | succ bound ih => simp [pushBelow, ih]

theorem Causal.pushEach :
    Causal (pushEach next) where
  length_eq := length_pushEach next
  take_eq := by
    intro entries count
    induction entries using List.reverseRecOn with
    | nil => simp [CausalRows.pushEach]
    | append_singleton entries entry ih =>
      rcases Nat.lt_or_ge entries.length count with hlong | hshort
      · have hall : (entries ++ [entry]).length ≤ count := by
          rw [List.length_append]
          exact hlong
        rw [List.take_of_length_le hall,
          List.take_of_length_le ((length_pushEach _ _).trans_le hall)]
      · rw [List.take_append_of_le_length hshort, ih, pushEach_append_singleton,
          List.take_append_of_le_length (by simpa using hshort)]

/-- The first rows of a loop are those of the loop with a smaller bound. -/
theorem take_pushBelow (next : List β → Nat → β) (bound count : Nat) :
    (pushBelow next bound).take count = pushBelow next (min count bound) := by
  induction bound with
  | zero => simp [pushBelow]
  | succ bound ih =>
    rcases Nat.lt_or_ge bound count with hlong | hshort
    · rw [List.take_of_length_le ((length_pushBelow _ _).trans_le hlong), Nat.min_eq_right hlong]
    · rw [pushBelow, List.take_append_of_le_length (by simpa using hshort), ih,
        Nat.min_eq_left hshort, Nat.min_eq_left (Nat.le_succ_of_le hshort)]

theorem pushBelow_congr {next other : List β → Nat → β} {bound : Nat}
    (h : ∀ rows place, place < bound → next rows place = other rows place) :
    pushBelow next bound = pushBelow other bound := by
  induction bound with
  | zero => rfl
  | succ bound ih =>
    have hbefore := ih fun rows place hplace => h rows place (Nat.lt_succ_of_lt hplace)
    rw [pushBelow, pushBelow, hbefore, h _ bound (Nat.lt_succ_self bound)]

/-- A loop over the places of the entries is causal when each row looks back. -/
theorem Causal.pushBelow {next : List α → List β → Nat → β}
    (h : ∀ rows, Lookback fun entries place => next entries rows place) :
    Causal fun entries => pushBelow (next entries) entries.length where
  length_eq := fun _ => length_pushBelow _ _
  take_eq := by
    intro entries count
    rw [take_pushBelow, List.length_take]
    refine pushBelow_congr fun rows place hplace => ?_
    have hbounds := Nat.lt_min.mp hplace
    exact h rows entries count place hbounds.1 hbounds.2

end Aiphabee.CausalRows
