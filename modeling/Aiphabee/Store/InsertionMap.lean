import Mathlib.Data.List.Induction
import Aiphabee.Store.KeyedTable

/-!
# Maps in insertion order

A map is a list of entries.  A key that is set again keeps its place and takes
the new value, so that a map made from a list of entries holds, under every key,
the value of the last entry with it.
-/

namespace Aiphabee.InsertionMap

open KeyedTable

universe u v w

variable {κ : Type u} [DecidableEq κ]
variable {β : Type v}
variable (entries : List (κ × β))

def set (entry : κ × β) : List (κ × β) :=
  if (lookup Prod.fst entries entry.1).isSome then
    put Prod.fst entries entry
  else
    entries ++ [entry]

def ofEntries : List (κ × β) :=
  entries.foldl set []

/-- The value under a key. -/
def get (k : κ) : Option β :=
  (lookup Prod.fst entries k).map Prod.snd

def lastValue (k : κ) : Option β :=
  ((entries.filter fun entry => entry.1 = k).getLast?).map Prod.snd

variable {entries others : List (κ × β)}
variable {k : κ}

theorem get_set (entries : List (κ × β)) (entry : κ × β) (k : κ) :
    get (set entries entry) k = if entry.1 = k then some entry.2 else get entries k := by
  by_cases hkey : entry.1 = k
  · subst hkey
    rw [if_pos rfl, get, set]
    split
    · next hsome =>
        obtain ⟨found, hfound⟩ := Option.isSome_iff_exists.mp hsome
        rw [lookup_put_self hfound]
        rfl
    · next hnone =>
        rw [Option.not_isSome_iff_eq_none] at hnone
        rw [lookup_append_self hnone]
        rfl
  · rw [if_neg hkey, get, get, set]
    split
    · rw [lookup_put_of_ne hkey]
    · rw [lookup_append_of_ne hkey]

theorem ofEntries_concat (entries : List (κ × β)) (entry : κ × β) :
    ofEntries (entries ++ [entry]) = set (ofEntries entries) entry := by
  rw [ofEntries, List.foldl_append]
  rfl

theorem get_ofEntries (entries : List (κ × β)) (k : κ) :
    get (ofEntries entries) k = lastValue entries k := by
  induction entries using List.reverseRecOn with
  | nil => rfl
  | append_singleton entries entry ih =>
    rw [ofEntries_concat, get_set, ih, lastValue, lastValue, List.filter_append]
    by_cases hkey : entry.1 = k
    · rw [if_pos hkey, List.filter_singleton, decide_eq_true hkey, cond_true,
        List.getLast?_concat]
      rfl
    · rw [if_neg hkey, List.filter_cons_of_neg (by simpa using hkey), List.filter_nil,
        List.append_nil]

theorem lastValue_eq_none_iff :
    lastValue entries k = none ↔ k ∉ entries.map Prod.fst := by
  rw [lastValue, Option.map_eq_none_iff, List.getLast?_eq_none_iff, List.filter_eq_nil_iff]
  constructor
  · rintro h hmem
    obtain ⟨entry, hentry, hkey⟩ := List.mem_map.mp hmem
    exact h entry hentry (decide_eq_true hkey)
  · intro h entry hentry hkey
    exact h (List.mem_map.mpr ⟨entry, hentry, of_decide_eq_true hkey⟩)

theorem mem_of_lastValue {value : β} (h : lastValue entries k = some value) :
    (k, value) ∈ entries := by
  obtain ⟨entry, hlast, rfl⟩ := Option.map_eq_some_iff.mp h
  obtain ⟨hentry, hkey⟩ := List.mem_filter.mp (List.mem_of_getLast? hlast)
  rw [← of_decide_eq_true hkey]
  exact hentry

theorem filter_eq_nil_of_not_mem (h : k ∉ entries.map Prod.fst) :
    (entries.filter fun entry => entry.1 = k) = [] := by
  refine List.filter_eq_nil_iff.mpr fun entry hentry hkey => h ?_
  exact List.mem_map.mpr ⟨entry, hentry, of_decide_eq_true hkey⟩

theorem lastValue_append_of_not_mem (h : k ∉ entries.map Prod.fst) :
    lastValue (entries ++ others) k = lastValue others k := by
  rw [lastValue, lastValue, List.filter_append, filter_eq_nil_of_not_mem h, List.nil_append]

theorem lastValue_append_of_not_mem_right (h : k ∉ others.map Prod.fst) :
    lastValue (entries ++ others) k = lastValue entries k := by
  rw [lastValue, lastValue, List.filter_append, filter_eq_nil_of_not_mem h, List.append_nil]

theorem lastValue_flatMap {ρ : Type w} (rows : List ρ) (keys : ρ → List κ) (f : ρ → β) (k : κ) :
    lastValue (rows.flatMap fun row => (keys row).map fun key => (key, f row)) k =
      ((rows.filter fun row => k ∈ keys row).getLast?).map f := by
  induction rows using List.reverseRecOn with
  | nil => rfl
  | append_singleton rows row ih =>
    rw [List.flatMap_append, List.filter_append, List.flatMap_singleton]
    by_cases hmem : k ∈ keys row
    · have hkeys : ((keys row).map fun key => (key, f row)).filter
          (fun entry => entry.1 = k) ≠ [] := by
        refine List.ne_nil_of_mem (a := (k, f row)) (List.mem_filter.mpr ⟨?_, by simp⟩)
        exact List.mem_map.mpr ⟨k, hmem, rfl⟩
      have hlast := List.mem_of_getLast? (List.getLast?_eq_some_getLast hkeys)
      obtain ⟨key, -, hkey⟩ := List.mem_map.mp (List.mem_filter.mp hlast).1
      rw [lastValue, List.filter_append, List.getLast?_append_of_ne_nil _ hkeys,
        List.getLast?_eq_some_getLast hkeys, ← hkey, List.filter_singleton,
        decide_eq_true hmem, cond_true, List.getLast?_concat]
      rfl
    · rw [lastValue_append_of_not_mem_right (by simpa using hmem), ih, List.filter_singleton,
        decide_eq_false hmem, cond_false, List.append_nil]

theorem lastValue_map {ρ : Type w} (rows : List ρ) (key : ρ → κ) (f : ρ → β) (k : κ) :
    lastValue (rows.map fun row => (key row, f row)) k =
      ((rows.filter fun row => key row = k).getLast?).map f := by
  rw [lastValue, List.filter_map, List.getLast?_map, Option.map_map]
  rfl

theorem mem_ofEntries_iff {entry : κ × β} :
    entry ∈ ofEntries entries ↔ lastValue entries entry.1 = some entry.2 := by
  have hspec : Distinct Prod.fst (ofEntries entries) := by
    induction entries using List.reverseRecOn with
    | nil => exact List.nodup_nil
    | append_singleton entries entry ih =>
      rw [ofEntries_concat, set]
      split
      · exact Distinct.put ih
      · next hnone =>
          rw [Option.not_isSome_iff_eq_none, lookup_eq_none] at hnone
          rw [Distinct, List.map_append, List.nodup_append']
          refine ⟨ih, List.nodup_singleton _, ?_⟩
          intro key hold hnew
          obtain ⟨other, hother, rfl⟩ := List.mem_map.mp hold
          exact hnone other hother (by simpa using hnew)
  rw [← get_ofEntries, get]
  constructor
  · intro h
    rw [lookup_of_mem hspec h]
    rfl
  · intro h
    obtain ⟨found, hfound, hvalue⟩ := Option.map_eq_some_iff.mp h
    have hsame : found = entry := Prod.ext (lookup_key hfound) hvalue
    exact hsame ▸ lookup_mem hfound

end Aiphabee.InsertionMap
