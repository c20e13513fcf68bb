import Mathlib.Data.List.Basic

/-!
# Lines that arrive in pieces

A text is cut into the lines that a separator ends and the rest behind the last
separator.  A reader that keeps the rest in a buffer and puts the next piece
behind it sees the lines of the whole text, however the text is cut in pieces,
and so does one whose segments are ended by a word of several units; a decoder
that carries the bytes of an unfinished character is the same kind of reader one
level below.
-/

namespace Aiphabee.LineBuffer

universe u v

section Lines

variable {α : Type u} [DecidableEq α]

def splitLines (separator : α) : List α → List (List α) × List α
  | [] => ([], [])
  | c :: rest =>
    let (lines, tail) := splitLines separator rest
    if c = separator then
      ([] :: lines, tail)
    else
      match lines with
      | [] => ([], c :: tail)
      | line :: lines => ((c :: line) :: lines, tail)

def joinLines (separator : α) (lines : List (List α)) (tail : List α) : List α :=
  lines.flatMap (fun line => line ++ [separator]) ++ tail

@[simp] theorem splitLines_nil (separator : α) : splitLines separator [] = ([], []) :=
  rfl

theorem splitLines_separator (separator : α) (text : List α) :
    splitLines separator (separator :: text) =
      ([] :: (splitLines separator text).1, (splitLines separator text).2) := by
  simp [splitLines]

variable {separator : α}

theorem splitLines_of_not_mem {text : List α} (h : separator ∉ text) :
    splitLines separator text = ([], text) := by
  induction text with
  | nil => rfl
  | cons c rest ih =>
    obtain ⟨hc, hrest⟩ : separator ≠ c ∧ separator ∉ rest := by simpa using h
    simp [splitLines, ih hrest, Ne.symm hc]

theorem splitLines_line {line : List α} (h : separator ∉ line) (text : List α) :
    splitLines separator (line ++ separator :: text) =
      (line :: (splitLines separator text).1, (splitLines separator text).2) := by
  induction line with
  | nil => exact splitLines_separator separator text
  | cons c rest ih =>
    obtain ⟨hc, hrest⟩ : separator ≠ c ∧ separator ∉ rest := by simpa using h
    simp [splitLines, ih hrest, Ne.symm hc]

theorem splitLines_joinLines {lines : List (List α)} {tail : List α}
    (hlines : ∀ line ∈ lines, separator ∉ line) (htail : separator ∉ tail) :
    splitLines separator (joinLines separator lines tail) = (lines, tail) := by
  induction lines with
  | nil => exact splitLines_of_not_mem htail
  | cons line rest ih =>
    have hjoin : joinLines separator (line :: rest) tail =
        line ++ separator :: joinLines separator rest tail := by
      simp [joinLines]
    rw [hjoin, splitLines_line (hlines line List.mem_cons_self),
      ih fun other hother => hlines other (List.mem_cons_of_mem _ hother)]

theorem splitLines_spec (separator : α) (text : List α) :
    joinLines separator (splitLines separator text).1 (splitLines separator text).2 = text ∧
      (∀ line ∈ (splitLines separator text).1, separator ∉ line) ∧
        separator ∉ (splitLines separator text).2 := by
  induction text with
  | nil => simp [joinLines]
  | cons c rest ih =>
    obtain ⟨hjoin, hlines, htail⟩ := ih
    by_cases hc : c = separator
    · subst hc
      rw [splitLines_separator]
      refine ⟨?_, ?_, htail⟩
      · simpa [joinLines] using hjoin
      · intro line hline
        rcases List.mem_cons.mp hline with rfl | hline
        · exact List.not_mem_nil
        · exact hlines line hline
    · cases hsplit : (splitLines separator rest).1 with
      | nil =>
        have hcons : splitLines separator (c :: rest) =
            ([], c :: (splitLines separator rest).2) := by
          simp [splitLines, hc, hsplit]
        rw [hsplit] at hjoin
        rw [hcons]
        refine ⟨?_, by simp, ?_⟩
        · simpa [joinLines] using hjoin
        · simp [htail, Ne.symm hc]
      | cons line lines =>
        have hcons : splitLines separator (c :: rest) =
            ((c :: line) :: lines, (splitLines separator rest).2) := by
          simp [splitLines, hc, hsplit]
        rw [hsplit] at hjoin hlines
        rw [hcons]
        refine ⟨?_, ?_, htail⟩
        · simpa [joinLines] using hjoin
        · intro other hother
          rcases List.mem_cons.mp hother with rfl | hother
          · simpa [Ne.symm hc] using hlines line List.mem_cons_self
          · exact hlines other (List.mem_cons_of_mem _ hother)

theorem splitLines_eq_iff (separator : α) (text tail : List α) (lines : List (List α)) :
    splitLines separator text = (lines, tail) ↔
      text = joinLines separator lines tail ∧
        (∀ line ∈ lines, separator ∉ line) ∧ separator ∉ tail := by
  constructor
  · intro h
    obtain ⟨hjoin, hlines, htail⟩ := splitLines_spec separator text
    rw [h] at hjoin hlines htail
    exact ⟨hjoin.symm, hlines, htail⟩
  · rintro ⟨rfl, hlines, htail⟩
    exact splitLines_joinLines hlines htail

theorem splitLines_append (separator : α) (first second : List α) :
    splitLines separator (first ++ second) =
      ((splitLines separator first).1 ++
        (splitLines separator ((splitLines separator first).2 ++ second)).1,
      (splitLines separator ((splitLines separator first).2 ++ second)).2) := by
  obtain ⟨hfirst, hlines, -⟩ := splitLines_spec separator first
  obtain ⟨hsecond, hmore, htail⟩ :=
    splitLines_spec separator ((splitLines separator first).2 ++ second)
  refine (splitLines_eq_iff separator _ _ _).mpr ⟨?_, ?_, htail⟩
  · calc first ++ second
        = joinLines separator (splitLines separator first).1
            ((splitLines separator first).2 ++ second) := by
          conv_lhs => rw [← hfirst]
          simp [joinLines]
      _ = _ := by
          conv_lhs => rw [← hsecond]
          simp [joinLines]
  · intro line hline
    rcases List.mem_append.mp hline with hline | hline
    · exact hlines line hline
    · exact hmore line hline

end Lines

section Segments

variable {α : Type u} [DecidableEq α]

def splitAtWord (word : List α) : Nat → List α → List (List α) × List α
  | _, [] => ([], [])
  | skipped + 1, _ :: rest => splitAtWord word skipped rest
  | 0, c :: rest =>
    if word <+: c :: rest then
      let (segments, tail) := splitAtWord word (word.length - 1) rest
      ([] :: segments, tail)
    else
      match splitAtWord word 0 rest with
      | ([], tail) => ([], c :: tail)
      | (segment :: segments, tail) => ((c :: segment) :: segments, tail)

/-- The cuts at the leftmost places where the word stands, none of them over another. -/
def splitWord (word text : List α) : List (List α) × List α :=
  splitAtWord word 0 text

@[simp] theorem splitWord_nil (word : List α) : splitWord word [] = ([], []) :=
  rfl

theorem splitAtWord_skip (word : List α) (skipped : Nat) (text : List α) :
    splitAtWord word skipped text = splitWord word (text.drop skipped) := by
  induction text generalizing skipped with
  | nil => cases skipped <;> rfl
  | cons c rest ih =>
    cases skipped with
    | zero => rfl
    | succ skipped => simpa [splitAtWord] using ih skipped

variable {word : List α}

theorem splitWord_word (hword : word ≠ []) (text : List α) :
    splitWord word (word ++ text) =
      ([] :: (splitWord word text).1, (splitWord word text).2) := by
  obtain ⟨c, units, rfl⟩ := List.exists_cons_of_ne_nil hword
  have hprefix : c :: units <+: c :: (units ++ text) := List.prefix_append (c :: units) text
  rw [splitWord, List.cons_append, splitAtWord, if_pos hprefix, splitAtWord_skip]
  simp

theorem splitWord_cons {word text : List α} {c : α} (h : ¬ word <+: c :: text) :
    splitWord word (c :: text) =
      match splitWord word text with
      | ([], tail) => ([], c :: tail)
      | (segment :: segments, tail) => ((c :: segment) :: segments, tail) := by
  rw [splitWord, splitAtWord, if_neg h]
  rfl

theorem splitWord_first (hword : word ≠ []) (text : List α) :
    ((splitWord word text).1 = [] → (splitWord word text).2 = text) ∧
      ((splitWord word text).1 ≠ [] → word.length ≤ text.length) := by
  induction text with
  | nil => exact ⟨fun _ => rfl, fun h => absurd rfl h⟩
  | cons c rest ih =>
    by_cases hc : word <+: c :: rest
    · obtain ⟨text, htext⟩ := hc
      rw [← htext, splitWord_word hword]
      exact ⟨fun h => absurd h (List.cons_ne_nil _ _), fun _ => by simp⟩
    · rw [splitWord_cons hc]
      obtain ⟨htail, hlength⟩ := ih
      cases hsplit : splitWord word rest with
      | mk segments tail =>
        rw [hsplit] at htail hlength
        cases segments with
        | nil => exact ⟨fun _ => congrArg (c :: ·) (htail rfl), fun h => absurd rfl h⟩
        | cons segment segments =>
          refine ⟨fun h => absurd h (List.cons_ne_nil _ _), fun _ => ?_⟩
          exact Nat.le_succ_of_le (hlength (List.cons_ne_nil _ _))

theorem splitWord_append_of_first (hword : word ≠ []) {first second : List α}
    (h : (splitWord word first).1 = []) :
    splitWord word (first ++ second) =
      ((splitWord word first).1 ++ (splitWord word ((splitWord word first).2 ++ second)).1,
        (splitWord word ((splitWord word first).2 ++ second)).2) := by
  rw [(splitWord_first hword first).1 h, h, List.nil_append]

/-- A text goes on behind the rest of what came before it, wherever the word is cut. -/
theorem splitWord_append (hword : word ≠ []) (first second : List α) :
    splitWord word (first ++ second) =
      ((splitWord word first).1 ++ (splitWord word ((splitWord word first).2 ++ second)).1,
        (splitWord word ((splitWord word first).2 ++ second)).2) := by
  induction hlength : first.length using Nat.strongRecOn generalizing first with
  | _ n ih =>
  subst hlength
  cases first with
  | nil => rfl
  | cons c rest =>
    by_cases hc : word <+: c :: rest
    · obtain ⟨text, htext⟩ := hc
      have hshorter : text.length < (c :: rest).length := by
        have hpositive := List.length_pos_iff.mpr hword
        simp only [← htext, List.length_append]
        omega
      rw [← htext, List.append_assoc, splitWord_word hword, splitWord_word hword,
        ih text.length hshorter text rfl]
      rfl
    · have hrest := ih rest.length (Nat.lt_succ_self _) rest rfl
      cases hsplit : splitWord word rest with
      | mk segments tail =>
        cases segments with
        | nil =>
          refine splitWord_append_of_first hword ?_
          rw [splitWord_cons hc, hsplit]
        | cons segment segments =>
          -- the word ends in the first text, so that it does not begin at its head
          have hlong : word.length ≤ rest.length :=
            (splitWord_first hword rest).2 (by rw [hsplit]; exact List.cons_ne_nil _ _)
          have happend : ¬ word <+: c :: (rest ++ second) := fun hprefix =>
            hc (List.prefix_of_prefix_length_le hprefix (List.prefix_append (c :: rest) second)
              (Nat.le_succ_of_le hlong))
          rw [hsplit] at hrest
          rw [List.cons_append, splitWord_cons happend, hrest, splitWord_cons hc, hsplit]
          rfl

end Segments

section Decoders

/-- A decoder that keeps the units of an unfinished character between its pieces. -/
structure StreamDecoder (β : Type v) (α : Type u) where
  Carry : Type
  start : Carry
  decode : Carry → List β → Carry × List α
  finish : Carry → List α
  decode_nil : ∀ carry, decode carry [] = (carry, [])
  decode_append : ∀ carry first second,
    decode carry (first ++ second) =
      ((decode (decode carry first).1 second).1,
        (decode carry first).2 ++ (decode (decode carry first).1 second).2)

variable {α : Type u} {β : Type v}

def StreamDecoder.text (decoder : StreamDecoder β α) (units : List β) : List α :=
  (decoder.decode decoder.start units).2 ++
    decoder.finish (decoder.decode decoder.start units).1

end Decoders

section Readers

variable {α σ : Type u} [DecidableEq α] {ε : Type v}

structure Reader (α σ : Type u) where
  state : σ
  buffer : List α

/-- A piece is put behind the buffer and its lines are taken off, one after the other. -/
def feed (separator : α) (onLine : σ → List α → Except ε σ) (reader : Reader α σ) (piece : List α) :
    Except ε (Reader α σ) := do
  let split := splitLines separator (reader.buffer ++ piece)
  let state ← split.1.foldlM onLine reader.state
  pure { state, buffer := split.2 }

theorem feed_eq (separator : α) (onLine : σ → List α → Except ε σ) (reader : Reader α σ)
    (piece : List α) :
    feed separator onLine reader piece =
      ((splitLines separator (reader.buffer ++ piece)).1.foldlM onLine reader.state).map
        fun state => ⟨state, (splitLines separator (reader.buffer ++ piece)).2⟩ := by
  cases h : (splitLines separator (reader.buffer ++ piece)).1.foldlM onLine reader.state with
  | error stopped => simp only [feed, h]; rfl
  | ok state => simp only [feed, h]; rfl

theorem feed_append (separator : α) (onLine : σ → List α → Except ε σ) (reader : Reader α σ)
    (first second : List α) :
    feed separator onLine reader (first ++ second) =
      (feed separator onLine reader first >>= fun next =>
        feed separator onLine next second) := by
  have hsplit := splitLines_append separator (reader.buffer ++ first) second
  rw [List.append_assoc] at hsplit
  rw [feed_eq, feed_eq, hsplit, List.foldlM_append]
  cases (splitLines separator (reader.buffer ++ first)).1.foldlM onLine reader.state with
  | error stopped => rfl
  | ok state =>
    change _ = feed separator onLine
      ⟨state, (splitLines separator (reader.buffer ++ first)).2⟩ second
    rw [feed_eq]
    rfl

end Readers

end Aiphabee.LineBuffer
