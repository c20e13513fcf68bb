import Aiphabee.Text.JoinedFields
import Aiphabee.Usage.PartnerReconciliationGroups

/-!
# The words of an identifier

The words of a text are its runs of letters and digits, in lower case.  A
sanitised text is the words of the text, joined with underscores, so that texts
with the same words cannot be told apart by it.  Sanitised texts that are joined
with a single underscore again are told apart exactly by all their words, in
order: where the words of one text end and those of the next begin is lost.
-/

namespace Aiphabee.UsageLedger

open JsString (toLowerCase)
open PartnerReconciliation (isIdCharacter replaceRuns stripUnderscores sanitizeChars
  sanitizeId toList_sanitizeId)

variable (chars : List Char)

/-- The runs of letters and digits, empty ones where two other characters meet. -/
def splitRuns : List (List Char) :=
  chars.splitOnP fun c => !isIdCharacter c

def runsOf : List (List Char) :=
  (splitRuns chars).filter (· ≠ [])

variable (value : String)

def words : List (List Char) :=
  runsOf (value.toList.flatMap toLowerCase)

/-- The words that an identifier shows of a text; `unset` stands for a text without any. -/
def idWords : List (List Char) :=
  if words value = [] then ["unset".toList] else words value

def joinWords (parts : List (List Char)) : List Char :=
  ['_'].intercalate parts

/-- The characters without the underscores at the end. -/
def stripRight : List Char :=
  (chars.reverse.dropWhile (· = '_')).reverse

/-- A character other than an underscore is kept. -/
theorem stripRight_cons {c : Char} (hc : c ≠ '_') (chars : List Char) :
    stripRight (c :: chars) = c :: stripRight chars := by
  rw [stripRight, stripRight, List.reverse_cons, List.dropWhile_append]
  by_cases hempty : (chars.reverse.dropWhile (· = '_')).isEmpty = true
  · rw [if_pos hempty, List.isEmpty_iff.mp hempty,
      List.dropWhile_cons_of_neg (by simpa using hc)]
    rfl
  · rw [if_neg hempty, List.reverse_append]
    rfl

/-- An underscore is kept exactly when something is kept after it. -/
theorem stripRight_underscore :
    stripRight ('_' :: chars) =
      if stripRight chars = [] then [] else '_' :: stripRight chars := by
  rw [stripRight, stripRight, List.reverse_cons, List.dropWhile_append]
  by_cases hempty : (chars.reverse.dropWhile (· = '_')).isEmpty = true
  · rw [if_pos hempty, List.isEmpty_iff.mp hempty, if_pos List.reverse_nil,
      List.dropWhile_cons_of_pos (by decide)]
    rfl
  · rw [if_neg hempty, List.reverse_append, if_neg]
    · rfl
    · rw [List.reverse_eq_nil_iff, ← List.isEmpty_iff]
      exact hempty

theorem joinWords_nil : joinWords [] = [] :=
  rfl

theorem joinWords_cons (first : List Char) (rest : List (List Char)) :
    joinWords (first :: rest) =
      first ++ if rest = [] then [] else '_' :: joinWords rest := by
  cases rest with
  | nil => simp [joinWords, List.intercalate]
  | cons second rest => simp [joinWords, List.intercalate]

theorem joinWords_eq_nil {parts : List (List Char)} (hparts : ∀ part ∈ parts, part ≠ []) :
    joinWords parts = [] ↔ parts = [] := by
  cases parts with
  | nil => simp [joinWords_nil]
  | cons first rest =>
    have hfirst := hparts first List.mem_cons_self
    simp [joinWords_cons, hfirst]

theorem ne_nil_of_mem_runsOf {chars run : List Char} (h : run ∈ runsOf chars) : run ≠ [] := by
  simpa using (List.mem_filter.mp h).2

/--
What is left of the replaced text at its right end: the runs, joined, when a run
of other characters has been replaced before; else the first run stands first
even when it is empty.
-/
theorem stripRight_replaceRuns :
    stripRight (replaceRuns true chars) = joinWords (runsOf chars) ∧
      ∃ first rest,
        splitRuns chars = first :: rest ∧
          stripRight (replaceRuns false chars) =
            first ++
              if rest.filter (· ≠ []) = [] then []
              else '_' :: joinWords (rest.filter (· ≠ [])) := by
  induction chars with
  | nil => exact ⟨rfl, [], [], rfl, rfl⟩
  | cons c chars ih =>
    obtain ⟨hin, first, rest, hsplit, hout⟩ := ih
    by_cases hc : isIdCharacter c = true
    · have hne : c ≠ '_' := by
        rintro rfl
        revert hc
        decide
      have hcons : splitRuns (c :: chars) = (c :: first) :: rest := by
        rw [splitRuns, List.splitOnP_cons_eq_if_modifyHead, ← splitRuns, hsplit]
        simp [hc]
      have hkept :
          stripRight (c :: replaceRuns false chars) =
            (c :: first) ++
              if rest.filter (· ≠ []) = [] then []
              else '_' :: joinWords (rest.filter (· ≠ [])) := by
        rw [stripRight_cons hne, hout]
        rfl
      refine ⟨?_, c :: first, rest, hcons, ?_⟩
      · have hruns : runsOf (c :: chars) = (c :: first) :: rest.filter (· ≠ []) := by
          have := congrArg (List.filter (· ≠ [])) hcons
          simpa [runsOf] using this
        rw [hruns, joinWords_cons]
        simpa [replaceRuns, hc] using hkept
      · simpa [replaceRuns, hc] using hkept
    · have hcons : splitRuns (c :: chars) = [] :: splitRuns chars := by
        simp [splitRuns, List.splitOnP_cons_eq_if_modifyHead, hc]
      have hruns : runsOf (c :: chars) = runsOf chars := by
        have := congrArg (List.filter (· ≠ [])) hcons
        simpa [runsOf] using this
      refine ⟨?_, [], splitRuns chars, hcons, ?_⟩
      · simpa [replaceRuns, hc, hruns] using hin
      · have hruns : ∀ part ∈ runsOf chars, part ≠ [] := fun _ hpart => ne_nil_of_mem_runsOf hpart
        have hnil := joinWords_eq_nil hruns
        have hreplace : replaceRuns false (c :: chars) = '_' :: replaceRuns true chars := by
          simp [replaceRuns, hc]
        rw [hreplace, stripRight_underscore, hin]
        simp only [hnil]
        rfl

/-- A replaced text does not begin with an underscore after a run of other characters. -/
theorem dropWhile_replaceRuns :
    ((replaceRuns true chars).dropWhile (· = '_')) = replaceRuns true chars := by
  have hhead := (PartnerReconciliation.replaceRuns_noDoubleUnderscore chars true).2 rfl
  cases hreplaced : replaceRuns true chars with
  | nil => rfl
  | cons c rest =>
    have hne : c ≠ '_' := by
      rintro rfl
      exact hhead (by rw [hreplaced]; rfl)
    simp [hne]

theorem stripUnderscores_replaceRuns :
    stripUnderscores (replaceRuns false chars) = joinWords (runsOf chars) := by
  have hstrip : ∀ l, stripUnderscores l = stripRight (l.dropWhile (· = '_')) := fun _ => rfl
  rw [hstrip]
  cases chars with
  | nil => rfl
  | cons c chars =>
    by_cases hc : isIdCharacter c = true
    · have hne : c ≠ '_' := by
        rintro rfl
        revert hc
        decide
      have hsame : replaceRuns false (c :: chars) = replaceRuns true (c :: chars) := by
        simp [replaceRuns, hc]
      rw [hsame, dropWhile_replaceRuns]
      exact (stripRight_replaceRuns _).1
    · have hreplace : replaceRuns false (c :: chars) = '_' :: replaceRuns true chars := by
        simp [replaceRuns, hc]
      have hskip : replaceRuns true (c :: chars) = replaceRuns true chars := by
        simp [replaceRuns, hc]
      rw [hreplace, List.dropWhile_cons_of_pos (by simp), dropWhile_replaceRuns, ← hskip]
      exact (stripRight_replaceRuns _).1

theorem sanitizeChars_eq_joinWords :
    sanitizeChars value.toList = joinWords (idWords value) := by
  have hnil : joinWords (words value) = [] ↔ words value = [] :=
    joinWords_eq_nil fun _ => ne_nil_of_mem_runsOf
  simp only [sanitizeChars, stripUnderscores_replaceRuns, idWords]
  change (if joinWords (words value) = [] then _ else joinWords (words value)) = _
  by_cases hwords : words value = []
  · rw [if_pos (hnil.mpr hwords), if_pos hwords]
    rfl
  · rw [if_neg (fun h => hwords (hnil.mp h)), if_neg hwords]

theorem isIdCharacter_of_mem_splitRuns {chars run : List Char} (h : run ∈ splitRuns chars) :
    ∀ c ∈ run, isIdCharacter c = true := by
  induction chars generalizing run with
  | nil =>
    rw [List.mem_singleton.mp h]
    simp
  | cons c chars ih =>
    have hne : splitRuns chars ≠ [] := List.splitOnP_ne_nil _ _
    obtain ⟨first, rest, hsplit⟩ := List.exists_cons_of_ne_nil hne
    rw [splitRuns, List.splitOnP_cons_eq_if_modifyHead, ← splitRuns] at h
    by_cases hc : isIdCharacter c = true
    · simp only [hc, hsplit, Bool.not_true, Bool.false_eq_true, if_false, List.modifyHead_cons,
        List.mem_cons] at h
      rcases h with rfl | hrest
      · have hmem : first ∈ splitRuns chars := by simp [hsplit]
        have hfirst := ih hmem
        exact List.forall_mem_cons.mpr ⟨hc, hfirst⟩
      · exact ih (by simp [hsplit, hrest])
    · simp only [hc, Bool.not_false, if_true, List.mem_cons] at h
      rcases h with rfl | hrest
      · simp
      · exact ih hrest

theorem underscore_not_mem_idWords {value : String} {word : List Char} (h : word ∈ idWords value) :
    '_' ∉ word := by
  rw [idWords] at h
  split at h
  · rw [List.mem_singleton.mp h]
    decide
  · have hrun : word ∈ splitRuns (value.toList.flatMap toLowerCase) := (List.mem_filter.mp h).1
    intro hmem
    have := isIdCharacter_of_mem_splitRuns hrun _ hmem
    revert this
    decide

theorem idWords_ne_nil : idWords value ≠ [] := by
  rw [idWords]
  split
  · exact List.cons_ne_nil _ _
  · assumption

/-- The words of an identifier are the pieces of the sanitised text. -/
theorem splitOn_sanitizeChars :
    (sanitizeChars value.toList).splitOn '_' = idWords value := by
  rw [sanitizeChars_eq_joinWords, joinWords]
  exact List.splitOn_intercalate '_' (fun _ => underscore_not_mem_idWords) (idWords_ne_nil value)

/-- The words that the texts of a list show, one text after the other. -/
def allWords (values : List String) : List (List Char) :=
  values.flatMap idWords

/-- Texts sanitised and joined with underscores, as the identifiers are. -/
def joinIds (values : List String) : String :=
  "_".intercalate (values.map sanitizeId)

theorem pieces_sanitizeIds (values : List String) :
    JoinedFields.pieces '_' ((values.map sanitizeId).map String.toList) = allWords values := by
  induction values with
  | nil => rfl
  | cons value rest ih =>
    have hcons : allWords (value :: rest) = idWords value ++ allWords rest := rfl
    rw [hcons, ← ih, ← splitOn_sanitizeChars, ← toList_sanitizeId]
    rfl

theorem joinIds_eq_iff {left right : List String} (hleft : left ≠ []) (hright : right ≠ []) :
    joinIds left = joinIds right ↔ allWords left = allWords right := by
  rw [← pieces_sanitizeIds, ← pieces_sanitizeIds]
  exact @JoinedFields.intercalate_texts_eq_iff '_' _ _ (by simpa using hleft)
    (by simpa using hright)

end Aiphabee.UsageLedger
