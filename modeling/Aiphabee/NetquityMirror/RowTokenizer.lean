import Mathlib.Data.List.DropRight
import Aiphabee.Text.JsText

/-!
# The row tokenizer of the export streams

The text of an export arrives in chunks and is cut into rows of fields.  Quotes at the
end of a chunk can close a field or be half of an escape, so they are held back until
the next chunk comes.

The main result, `createRowTokenizer_spec`, says that the rows do not depend on the
chunks, and that a table which was encoded is read back.
-/

namespace Aiphabee.MdbExport

variable {state : RowState}

structure RowField where
  value : JsText
  wasQuoted : Bool

def quote : UInt16 := 0x22
def comma : UInt16 := 0x2C
def lineFeed : UInt16 := 0x0A
def carriageReturn : UInt16 := 0x0D

/-- The variables of a tokenizer, and the rows it has handed on. -/
structure RowState where
  field : JsText := []
  fieldWasQuoted : Bool := false
  row : List RowField := []
  inQuotes : Bool := false
  rows : List (List RowField) := []

namespace RowState

variable (state : RowState)

def pushField : RowState :=
  { state with
    row := state.row ++ [{ value := state.field, wasQuoted := state.fieldWasQuoted }]
    field := []
    fieldWasQuoted := false }

/-- `onRow(row)`, and the next row begins. -/
def endRow : RowState :=
  { state with rows := state.rows ++ [state.row], row := [] }

/-- `field += char`. -/
def append (char : UInt16) : RowState :=
  { state with field := state.field ++ [char] }

def outside (char : UInt16) : RowState :=
  if char = quote ∧ state.field = [] then { state with inQuotes := true, fieldWasQuoted := true }
  else if char = comma then state.pushField
  else if char = lineFeed then state.pushField.endRow
  else if char = carriageReturn then state
  else state.append char

/-- A character that is no quote inside quotes. -/
def read (char : UInt16) : RowState :=
  if state.inQuotes then state.append char else state.outside char

/-- The closing quote of a field. -/
def close : RowState :=
  { state with inQuotes := false }

def processChars : RowState → JsText → RowState
  | state, [] => state
  | state, [char] => if state.inQuotes ∧ char = quote then state.close else state.read char
  | state, char :: next :: rest =>
    if state.inQuotes ∧ char = quote then
      -- `index += 1` skips the second half of an escape
      if next = quote then processChars (state.append quote) rest
      else processChars state.close (next :: rest)
    else
      processChars (state.read char) (next :: rest)

example (state : RowState) (h : state.inQuotes = true) :
    state.processChars [quote, quote] = state.append quote := by
  simp [processChars, h]

/-- What `flush` does behind the last character. -/
def finish : RowState :=
  if state.field ≠ [] ∨ state.fieldWasQuoted ∨ state.row ≠ [] then state.pushField.endRow
  else state

end RowState

structure RowTokenizer where
  state : RowState := {}
  carry : JsText := []

def RowTokenizer.pushChunk (tokenizer : RowTokenizer) (chunk : JsText) : RowTokenizer :=
  let text := tokenizer.carry ++ chunk
  { state := tokenizer.state.processChars (text.rdropWhile (· = quote))
    carry := text.rtakeWhile (· = quote) }

def RowTokenizer.flush (tokenizer : RowTokenizer) : RowState :=
  (tokenizer.state.processChars tokenizer.carry).finish

/-- The rows that a tokenizer hands on when it is given the chunks and flushed. -/
def RowTokenizer.rowsOf (chunks : List JsText) : List (List RowField) :=
  (chunks.foldl RowTokenizer.pushChunk {}).flush.rows

/-- The tokenizer of `lib.mjs`. -/
def Lib.createRowTokenizer : List JsText → List (List RowField) :=
  RowTokenizer.rowsOf

/-- The copy of it in `verify.mjs`. -/
def Verify.createRowTokenizer : List JsText → List (List RowField) :=
  RowTokenizer.rowsOf

/-- The scripts that hold a copy of the tokenizer. -/
inductive MirrorScript
  | lib
  | verify

def createRowTokenizer : MirrorScript → List JsText → List (List RowField)
  | .lib => Lib.createRowTokenizer
  | .verify => Verify.createRowTokenizer

def nullSentinel : JsText :=
  JsText.ofString "NULL"

def isNullField (field : RowField) : Bool :=
  !field.wasQuoted && field.value = nullSentinel

/-- A field of an exported table; a bare one holds nothing that means something outside quotes. -/
structure TableField extends RowField where
  bare : wasQuoted = false →
    ∀ char ∈ value, char ≠ quote ∧ char ≠ comma ∧ char ≠ lineFeed ∧ char ≠ carriageReturn

structure TableRow where
  first : TableField
  others : List TableField

def TableRow.fields (row : TableRow) : List TableField :=
  row.first :: row.others

def doubled (value : JsText) : JsText :=
  value.flatMap fun char => if char = quote then [quote, quote] else [char]

def encodeField (field : TableField) : JsText :=
  if field.wasQuoted then quote :: doubled field.value ++ [quote] else field.value

def encodeOthers (fields : List TableField) : JsText :=
  fields.flatMap fun field => comma :: encodeField field

def encodeRow (row : TableRow) : JsText :=
  encodeField row.first ++ encodeOthers row.others ++ [lineFeed]

def encodeTable (table : List TableRow) : JsText :=
  table.flatMap encodeRow

section Chunks

variable {char : UInt16}
variable {text front rest : JsText}

open RowState

theorem processChars_read (h : ¬(state.inQuotes ∧ char = quote)) :
    state.processChars (char :: rest) = (state.read char).processChars rest := by
  cases rest with
  | nil => simp only [processChars, if_neg h]
  | cons next rest => simp only [processChars, if_neg h]

theorem processChars_close (hquotes : state.inQuotes = true)
    (hnext : ∀ char, rest.head? = some char → char ≠ quote) :
    state.processChars (quote :: rest) = state.close.processChars rest := by
  cases rest with
  | nil => simp [processChars, hquotes]
  | cons next rest => simp [processChars, hquotes, hnext next rfl]

theorem processChars_escape (hquotes : state.inQuotes = true) :
    state.processChars (quote :: quote :: rest) = (state.append quote).processChars rest := by
  simp [processChars, hquotes]

/-- A text that ends with no quote can be cut off: nothing behind it is looked at. -/
theorem processChars_append (hlast : ∀ char, front.getLast? = some char → char ≠ quote) :
    state.processChars (front ++ rest) = (state.processChars front).processChars rest := by
  induction state, front using processChars.induct with
  | case1 state => rw [List.nil_append, processChars]
  | case2 state char hclose => exact absurd hclose.2 (hlast char rfl)
  | case3 state char hread =>
    rw [List.singleton_append, processChars_read hread, processChars, if_neg hread]
  | case4 state char others hclose ih =>
    obtain ⟨hquotes, rfl⟩ := hclose
    rw [List.cons_append, List.cons_append, processChars_escape hquotes,
      processChars_escape hquotes]
    refine ih fun last hothers => hlast last ?_
    cases others with
    | nil => cases hothers
    | cons _ _ => simpa using hothers
  | case5 state char next others hclose hnext ih =>
    obtain ⟨hquotes, rfl⟩ := hclose
    rw [List.cons_append, List.cons_append, processChars_close hquotes (by simpa using hnext),
      processChars_close hquotes (by simpa using hnext)]
    exact ih fun last hothers => hlast last (by simpa using hothers)
  | case6 state char next others hread ih =>
    rw [List.cons_append, processChars_read hread, processChars_read hread]
    exact ih fun last hothers => hlast last (by simpa using hothers)

theorem holdBack_append (hlast : ∀ char, front.getLast? = some char → char ≠ quote) :
    (front ++ rest).rdropWhile (· = quote) = front ++ rest.rdropWhile (· = quote) ∧
      (front ++ rest).rtakeWhile (· = quote) = rest.rtakeWhile (· = quote) := by
  induction rest using List.reverseRecOn with
  | nil =>
    have hstays : ∀ hne : front ≠ [], ¬decide (front.getLast hne = quote) = true := by
      intro hne hquote
      exact hlast _ (List.getLast?_eq_some_getLast hne) (of_decide_eq_true hquote)
    rw [List.append_nil, List.rdropWhile_nil, List.append_nil, List.rtakeWhile_nil]
    exact ⟨List.rdropWhile_eq_self_iff.mpr hstays, List.rtakeWhile_eq_nil_iff.mpr hstays⟩
  | append_singleton rest char ih =>
    rw [← List.append_assoc, List.rdropWhile_concat, List.rdropWhile_concat,
      List.rtakeWhile_concat, List.rtakeWhile_concat, ih.1, ih.2]
    split <;> simp

theorem getLast?_rdropWhile (h : (text.rdropWhile (· = quote)).getLast? = some char) :
    char ≠ quote := by
  have hne : text.rdropWhile (· = quote) ≠ [] := by
    rintro hnil
    rw [hnil] at h
    cases h
  rw [List.getLast?_eq_some_getLast hne, Option.some.injEq] at h
  have hstays := List.rdropWhile_last_not (fun char => decide (char = quote)) text hne
  rw [h] at hstays
  exact fun hquote => hstays (decide_eq_true hquote)

/-- What a tokenizer has done once it was given a text, in whatever chunks. -/
structure Holds (text : JsText) (tokenizer : RowTokenizer) : Prop where
  state : tokenizer.state = processChars {} (text.rdropWhile (· = quote))
  carry : tokenizer.carry = text.rtakeWhile (· = quote)

theorem Holds.pushChunk {tokenizer : RowTokenizer} (h : Holds text tokenizer) (chunk : JsText) :
    Holds (text ++ chunk) (tokenizer.pushChunk chunk) := by
  have hcut : text ++ chunk =
      text.rdropWhile (· = quote) ++ (text.rtakeWhile (· = quote) ++ chunk) := by
    rw [← List.append_assoc, List.rdropWhile_append_rtakeWhile]
  have hlast : ∀ char, (text.rdropWhile (· = quote)).getLast? = some char → char ≠ quote :=
    fun _ => getLast?_rdropWhile
  obtain ⟨hdrop, htake⟩ := @holdBack_append _ (text.rtakeWhile (· = quote) ++ chunk) hlast
  constructor
  · rw [hcut, hdrop, processChars_append hlast, ← h.state, ← h.carry]
    rfl
  · rw [hcut, htake, ← h.carry]
    rfl

theorem Holds.pushChunks {tokenizer : RowTokenizer} (h : Holds text tokenizer)
    (chunks : List JsText) :
    Holds (text ++ chunks.flatten) (chunks.foldl RowTokenizer.pushChunk tokenizer) := by
  induction chunks generalizing text tokenizer with
  | nil =>
    rw [List.flatten_nil, List.append_nil]
    exact h
  | cons chunk chunks ih =>
    rw [List.flatten_cons, ← List.append_assoc]
    exact ih (h.pushChunk chunk)

theorem createRowTokenizer_eq (script : MirrorScript) (chunks : List JsText) :
    createRowTokenizer script chunks = (processChars {} chunks.flatten).finish.rows := by
  have hstart : Holds [] {} := ⟨rfl, rfl⟩
  have hholds := hstart.pushChunks chunks
  have hlast : ∀ char, (chunks.flatten.rdropWhile (· = quote)).getLast? = some char →
      char ≠ quote := fun _ => getLast?_rdropWhile
  have hrows : createRowTokenizer script chunks = RowTokenizer.rowsOf chunks := by
    cases script <;> rfl
  rw [hrows, RowTokenizer.rowsOf, RowTokenizer.flush, hholds.state, hholds.carry, List.nil_append,
    ← processChars_append hlast, List.rdropWhile_append_rtakeWhile]

end Chunks

section RoundTrip

variable {value rest : JsText}

open RowState

theorem processChars_bare (hquotes : state.inQuotes = false)
    (hbare : ∀ char ∈ value,
      char ≠ quote ∧ char ≠ comma ∧ char ≠ lineFeed ∧ char ≠ carriageReturn) :
    state.processChars (value ++ rest) =
      ({ state with field := state.field ++ value } : RowState).processChars rest := by
  induction value generalizing state with
  | nil => rw [List.nil_append, List.append_nil]
  | cons char value ih =>
    obtain ⟨hquote, hcomma, hline, hreturn⟩ := hbare char List.mem_cons_self
    have hread : state.read char = state.append char := by
      simp [RowState.read, outside, hquotes, hquote, hcomma, hline, hreturn]
    rw [List.cons_append, processChars_read (by simp [hquotes]), hread,
      ih (by exact hquotes) fun c hc => hbare c (List.mem_cons_of_mem _ hc)]
    simp [RowState.append]

theorem processChars_doubled (hquotes : state.inQuotes = true)
    (hrest : ∀ char, rest.head? = some char → char ≠ quote) :
    state.processChars (doubled value ++ quote :: rest) =
      ({ state with field := state.field ++ value, inQuotes := false } : RowState).processChars
        rest := by
  induction value generalizing state with
  | nil =>
    rw [List.append_nil]
    exact processChars_close hquotes hrest
  | cons char value ih =>
    rw [doubled, List.flatMap_cons, List.append_assoc]
    by_cases hchar : char = quote
    · rw [if_pos hchar, List.cons_append, List.singleton_append, processChars_escape hquotes,
        ← doubled, ih (by exact hquotes), hchar, RowState.append]
      simp only [List.append_assoc, List.singleton_append]
    · have hread : state.read char = state.append char := if_pos hquotes
      rw [if_neg hchar, List.singleton_append, processChars_read (by simp [hchar]), hread,
        ← doubled, ih (by exact hquotes)]
      simp [RowState.append]

theorem processChars_encodeField (field : TableField) (row : List RowField)
    (rows : List (List RowField)) (hrest : ∀ char, rest.head? = some char → char ≠ quote) :
    ({ row, rows } : RowState).processChars (encodeField field ++ rest) =
      ({ field := field.value, fieldWasQuoted := field.wasQuoted, row, rows } :
        RowState).processChars rest := by
  rw [encodeField]
  cases hquoted : field.wasQuoted with
  | true =>
    rw [if_pos rfl, List.cons_append, List.cons_append, List.append_assoc,
      List.singleton_append, processChars_read (by simp)]
    exact processChars_doubled rfl hrest
  | false =>
    rw [if_neg Bool.false_ne_true]
    exact processChars_bare rfl (field.bare hquoted)

theorem processChars_encodeOthers (field : TableField) (others : List TableField)
    (row : List RowField) (rows : List (List RowField)) :
    ({ field := field.value, fieldWasQuoted := field.wasQuoted, row, rows } :
        RowState).processChars (encodeOthers others ++ lineFeed :: rest) =
      ({ rows := rows ++ [row ++ (field :: others).map (·.toRowField)] } :
        RowState).processChars rest := by
  induction others generalizing field row with
  | nil =>
    rw [encodeOthers, List.flatMap_nil, List.nil_append, processChars_read (by simp)]
    rfl
  | cons next others ih =>
    have hcomma : ({ field := field.value, fieldWasQuoted := field.wasQuoted, row, rows } :
        RowState).read comma = { row := row ++ [field.toRowField], rows } := rfl
    have hbehind : ∀ char, (encodeOthers others ++ lineFeed :: rest).head? = some char →
        char ≠ quote := by
      rintro char hchar rfl
      cases others with
      | nil => exact absurd (Option.some.inj hchar) (by decide)
      | cons _ _ => exact absurd (Option.some.inj hchar) (by decide)
    rw [encodeOthers, List.flatMap_cons, ← encodeOthers, List.cons_append, List.cons_append,
      List.append_assoc, processChars_read (by simp), hcomma,
      processChars_encodeField next _ _ hbehind, ih]
    simp

theorem processChars_encodeTable (table : List TableRow) (rows : List (List RowField)) :
    ({ rows } : RowState).processChars (encodeTable table) =
      { rows := rows ++ table.map fun row => row.fields.map (·.toRowField) } := by
  induction table generalizing rows with
  | nil => simp [encodeTable, processChars]
  | cons row table ih =>
    have hbehind : ∀ char,
        (encodeOthers row.others ++ lineFeed :: encodeTable table).head? = some char →
          char ≠ quote := by
      rintro char hchar rfl
      cases hothers : row.others with
      | nil => exact absurd (Option.some.inj (hothers ▸ hchar)) (by decide)
      | cons _ _ => exact absurd (Option.some.inj (hothers ▸ hchar)) (by decide)
    rw [encodeTable, List.flatMap_cons, ← encodeTable, encodeRow, List.append_assoc,
      List.append_assoc, List.singleton_append, processChars_encodeField _ _ _ hbehind,
      processChars_encodeOthers, ih]
    simp [TableRow.fields]

/--
The tokenizers of both scripts hand on the same rows however a text is cut, read an
encoded table back, and take the bare fields that hold the sentinel for null.
-/
theorem createRowTokenizer_spec :
    (∀ (script other : MirrorScript) (chunks : List JsText),
      createRowTokenizer script chunks = createRowTokenizer other [chunks.flatten]) ∧
    (∀ (script : MirrorScript) (table : List TableRow),
      createRowTokenizer script [encodeTable table] =
        table.map fun row => row.fields.map (·.toRowField)) ∧
    ∀ field : TableField, isNullField field.toRowField = true ↔
      field.wasQuoted = false ∧ field.value = nullSentinel := by
  refine ⟨fun script other chunks => ?_, fun script table => ?_, fun field => ?_⟩
  · rw [createRowTokenizer_eq, createRowTokenizer_eq, List.flatten_singleton]
  · rw [createRowTokenizer_eq, List.flatten_singleton, processChars_encodeTable table []]
    rfl
  · rw [isNullField, Bool.and_eq_true, Bool.not_eq_true', decide_eq_true_iff]

end RoundTrip

end Aiphabee.MdbExport
