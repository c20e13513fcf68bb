import Aiphabee.Calendar.CivilDays
import Aiphabee.Text.Checks
import Aiphabee.Text.LineBuffer

/-!
# The deletion files of a drop

A deletion file is parsed before any table of the drop is written, and its rows are
copied into the database after the others.  The parser, the encoder of the copied fields
and the reader of the copied text have each a grammar of their own.

The main result, `processDelSecFiles_never_late_iff`, says which files can still fail
when their rows are copied.
-/

namespace Aiphabee.DelSec

open JsDate (field)
open Calendar LineBuffer

structure Row where
  delDate : List Char
  code : List Char
deriving DecidableEq

/-- `DEL_SEC_LINE_PATTERN`, and the row that its groups give. -/
def parseLine : List Char → Option Row
  | y₁ :: y₂ :: y₃ :: y₄ :: slash :: m₁ :: m₂ :: slash' :: d₁ :: d₂ :: tab :: code =>
    if [y₁, y₂, y₃, y₄, m₁, m₂, d₁, d₂].all Char.isDigit ∧
        slash = '/' ∧ slash' = '/' ∧ tab = '\t' ∧ code ≠ [] ∧
        '\t' ∉ code ∧ '\r' ∉ code ∧ '\n' ∉ code then
      some { delDate := [y₁, y₂, y₃, y₄, '-', m₁, m₂, '-', d₁, d₂], code }
    else none
  | _ => none

/-- A line feed takes the carriage return before it along. -/
def withoutReturn (line : List Char) : List Char :=
  if line.getLast? = some '\r' then line.dropLast else line

def entryLines (raw : List Char) : List (List Char) :=
  ((splitLines '\n' raw).1.map withoutReturn ++ [(splitLines '\n' raw).2]).filter (· ≠ [])

structure Issue where
  filePath : String
  lineNumber : Nat
  line : List Char

structure ParsedFile where
  rows : List Row
  issues : List Issue

def parseDelSecFile (filePath : String) (raw : List Char) : ParsedFile where
  rows := (entryLines raw).filterMap parseLine
  issues := ((entryLines raw).zipIdx 1).filterMap fun (line, lineNumber) =>
    if parseLine line = none then some { filePath, lineNumber, line } else none

structure DelSecRows where
  rowCountByFile : List (String × Nat)
  rows : List Row

/-- The files of a drop are read in one go; one issue refuses the run. -/
def parseAllDelSecFiles (files : List (String × List Char)) : Except (List Issue) DelSecRows :=
  let parsed := files.map fun file => (file.1, parseDelSecFile file.1 file.2)
  let issues := parsed.flatMap (·.2.issues)
  if issues ≠ [] then .error issues
  else .ok {
    rowCountByFile := parsed.map fun file => (file.1, file.2.rows.length)
    rows := parsed.flatMap (·.2.rows) }

/-- Every quote twice. -/
def escape (value : List Char) : List Char :=
  value.flatMap fun c => if c = '"' then ['"', '"'] else [c]

def csvField (value : List Char) : List Char :=
  if '"' ∈ value ∨ '\n' ∈ value ∨ '\r' ∈ value ∨ ',' ∈ value then '"' :: escape value ++ ['"']
  else value

def csvLine (row : Row) : List Char :=
  csvField row.delDate ++ ',' :: csvField row.code

/-- What `psql` reads after the copy command, up to and with the end marker. -/
def copyInput (rows : List Row) : List Char :=
  ['\n'].intercalate (rows.map csvLine) ++ ['\n', '\\', '.', '\n']

/-! What `psql` and PostgreSQL make of the input of the copy command. -/
/-- The lines that are sent to the server end before the end marker. -/
def sentLines (input : List Char) : List (List Char) :=
  (splitLines '\n' input).1.takeWhile (· ≠ ['\\', '.'])

/-- Where a reader of CSV is; after a quote inside quotes, another one is a character. -/
inductive Place
  | outside
  | inside
  | afterQuote
deriving DecidableEq

structure CsvState where
  place : Place := .outside
  field : List Char := []
  record : List (List Char) := []
  records : List (List (List Char)) := []

def CsvState.outside (state : CsvState) (c : Char) : CsvState :=
  if c = '"' then { state with place := .inside }
  else if c = ',' then
    { state with place := .outside, field := [], record := state.record ++ [state.field] }
  else if c = '\n' then
    { records := state.records ++ [state.record ++ [state.field]] }
  else { state with place := .outside, field := state.field ++ [c] }

def CsvState.step (state : CsvState) (c : Char) : CsvState :=
  match state.place with
  | .outside => state.outside c
  | .inside =>
    if c = '"' then { state with place := .afterQuote }
    else { state with field := state.field ++ [c] }
  | .afterQuote =>
    if c = '"' then { state with place := .inside, field := state.field ++ [c] }
    else state.outside c

/-- A text of a database has no null character, and an open quote is an error. -/
def csvRecords (lines : List (List Char)) : Option (List (List (List Char))) :=
  let text := lines.flatMap (· ++ ['\n'])
  let state := text.foldl CsvState.step {}
  if '\x00' ∈ text ∨ state.place = .inside then none else some state.records

/-- The fields of a date name a day of the calendar; there is no year zero. -/
def IsRealDate (date : List Char) : Prop :=
  IsDate (field date 0 4) (field date 5 2) (field date 8 2) ∧
    1 ≤ field date 0 4

instance (date : List Char) : Decidable (IsRealDate date) :=
  decidable_of_iff
    (((1 ≤ (field date 5 2 : Int) ∧ (field date 5 2 : Int) ≤ 12) ∧
      1 ≤ (field date 8 2 : Int) ∧ (field date 8 2 : Int) ≤
        monthLength (field date 0 4) (field date 5 2)) ∧
      1 ≤ field date 0 4)
    (and_congr_left' ⟨fun h => ⟨h.1, h.2⟩, fun h => ⟨h.1, h.2⟩⟩)

/-- The value of a `varchar` column: only spaces may stand beyond its length. -/
def varchar (length : Nat) (value : List Char) : Option (List Char) :=
  if (value.drop length).all (· = ' ') then some (value.take length) else none

/-- A record in the staging table; an empty field is null, which no column takes. -/
def stagedRow : List (List Char) → Option Row
  | [delDate, code] =>
    if IsRealDate delDate ∧ code ≠ [] then (varchar 10 code).map (Row.mk delDate) else none
  | _ => none

def processDelSecFiles (rows : List Row) : Option (List Row) :=
  if rows = [] then some []
  else
    match csvRecords (sentLines (copyInput rows)) with
    | none => none
    | some records =>
      match records.mapM stagedRow with
      | none => none
      | some staged => if staged.length = rows.length then some staged else none

def between (record : List (List Char)) (records : List (List (List Char))) : CsvState :=
  { record, records }

theorem foldl_plain {text : List Char} (h : ∀ c ∈ text, c ≠ '"' ∧ c ≠ ',' ∧ c ≠ '\n')
    (state : CsvState) (hplace : state.place = .outside) :
    text.foldl CsvState.step state = { state with field := state.field ++ text } := by
  induction text generalizing state with
  | nil => simp
  | cons c text ih =>
    obtain ⟨⟨hquote, hcomma, hfeed⟩, htext⟩ := List.forall_mem_cons.mp h
    have hstep : state.step c = { state with field := state.field ++ [c] } := by
      simp [CsvState.step, CsvState.outside, hplace, hquote, hcomma, hfeed]
    rw [List.foldl_cons, hstep, ih htext { state with field := state.field ++ [c] } hplace]
    simp

theorem foldl_escape (text : List Char) (state : CsvState) (hplace : state.place = .inside) :
    (escape text).foldl CsvState.step state = { state with field := state.field ++ text } := by
  induction text generalizing state with
  | nil => simp [escape]
  | cons c text ih =>
    have hstep : (if c = '"' then ['"', '"'] else [c]).foldl CsvState.step state =
        { state with field := state.field ++ [c] } := by
      by_cases hc : c = '"'
      · simp [hc, CsvState.step, hplace]
      · simp [hc, CsvState.step, hplace]
    have hcons : escape (c :: text) = (if c = '"' then ['"', '"'] else [c]) ++ escape text := rfl
    rw [hcons, List.foldl_append, hstep, ih { state with field := state.field ++ [c] } hplace]
    simp

/-- A field is read back at the separator behind it. -/
theorem foldl_csvField (value : List Char) (record : List (List Char))
    (records : List (List (List Char))) (c : Char) (hc : c = ',' ∨ c = '\n') :
    (csvField value ++ [c]).foldl CsvState.step (between record records) =
      CsvState.outside { field := value, record, records } c := by
  have hquote : c ≠ '"' := by
    rcases hc with rfl | rfl <;> decide
  unfold csvField
  split
  · have hopen : CsvState.step (between record records) '"' =
        { between record records with place := .inside } := rfl
    rw [List.cons_append, List.cons_append, List.foldl_cons, hopen, List.append_assoc,
      List.foldl_append, foldl_escape value _ rfl]
    rcases hc with rfl | rfl <;> rfl
  · next h =>
      have hplain : ∀ c ∈ value, c ≠ '"' ∧ c ≠ ',' ∧ c ≠ '\n' := by
        simp only [not_or] at h
        refine fun c hmem => ⟨?_, ?_, ?_⟩ <;> rintro rfl
        · exact h.1 hmem
        · exact h.2.2.2 hmem
        · exact h.2.1 hmem
      rw [List.foldl_append, foldl_plain hplain _ rfl]
      rfl

theorem foldl_csvLine (row : Row) (records : List (List (List Char))) :
    (csvLine row ++ ['\n']).foldl CsvState.step (between [] records) =
      between [] (records ++ [[row.delDate, row.code]]) := by
  have hline : csvLine row ++ ['\n'] =
      (csvField row.delDate ++ [',']) ++ (csvField row.code ++ ['\n']) := by
    simp [csvLine]
  rw [hline, List.foldl_append, foldl_csvField _ _ _ _ (.inl rfl)]
  exact foldl_csvField row.code [row.delDate] records '\n' (.inr rfl)

theorem foldl_csvLines (rows : List Row) (records : List (List (List Char))) :
    ((rows.map csvLine).flatMap (· ++ ['\n'])).foldl CsvState.step (between [] records) =
      between [] (records ++ rows.map fun row => [row.delDate, row.code]) := by
  induction rows generalizing records with
  | nil => simp
  | cons row rows ih =>
    rw [List.map_cons, List.flatMap_cons, List.foldl_append, foldl_csvLine, ih]
    simp

/-- Which characters a field has besides those that its encoding adds. -/
theorem mem_csvField {c : Char} (hc : c ≠ '"') (value : List Char) :
    c ∈ csvField value ↔ c ∈ value := by
  have hescape : c ∈ escape value ↔ c ∈ value := by
    simp only [escape, List.mem_flatMap]
    constructor
    · rintro ⟨other, hother, hmem⟩
      split at hmem
      · simp [hc] at hmem
      · simpa [List.mem_singleton.mp hmem] using hother
    · exact fun hmem => ⟨c, hmem, by simp [hc]⟩
  unfold csvField
  split
  · simp [hc, hescape]
  · rfl

section Sending

/-- A row whose fields cannot end a line; the pattern of a line gives no other. -/
structure Row.OneLine (row : Row) : Prop where
  date : ∀ c ∈ row.delDate, c.isDigit = true ∨ c = '-'
  code : row.code ≠ []
  noFeed : '\n' ∉ row.code

theorem parseLine_oneLine {line : List Char} {row : Row} (h : parseLine line = some row) :
    row.OneLine := by
  unfold parseLine at h
  split at h
  · split at h
    · next hline =>
        obtain ⟨hdigits, -, -, -, hcode, -, -, hfeed⟩ := hline
        cases h
        refine ⟨?_, hcode, hfeed⟩
        simp only [List.all_cons, List.all_nil, Bool.and_eq_true, and_true] at hdigits
        simp [hdigits]
    · cases h
  · cases h

theorem intercalate_newline (line : List Char) (lines : List (List Char)) :
    ['\n'].intercalate (line :: lines) ++ ['\n'] = (line :: lines).flatMap (· ++ ['\n']) := by
  induction lines generalizing line with
  | nil => simp
  | cons next lines ih =>
    rw [List.intercalate_cons_cons, List.append_assoc, ih]
    rfl

variable {rows : List Row} (hrows : ∀ row ∈ rows, row.OneLine)

include hrows

theorem not_mem_csvLine {c : Char} (hdigit : c.isDigit = false)
    (hother : c ≠ '-' ∧ c ≠ '"' ∧ c ≠ ',') (hcode : ∀ row ∈ rows, c ∉ row.code) :
    ∀ line ∈ rows.map csvLine, c ∉ line := by
  intro line hline
  obtain ⟨row, hrow, rfl⟩ := List.mem_map.mp hline
  have hdate : c ∉ row.delDate := by
    intro hmem
    rcases (hrows row hrow).date c hmem with h | h
    · simp [hdigit] at h
    · exact hother.1 h
  simp [csvLine, mem_csvField hother.2.1, hother.2.2, hdate, hcode row hrow]

theorem sentLines_copyInput (hne : rows ≠ []) : sentLines (copyInput rows) = rows.map csvLine := by
  have hjoin : copyInput rows = joinLines '\n' (rows.map csvLine ++ [['\\', '.']]) [] := by
    rw [copyInput]
    obtain ⟨row, rest, rfl⟩ := List.exists_cons_of_ne_nil hne
    simpa [joinLines] using
      congrArg (· ++ ['\\', '.', '\n']) (intercalate_newline (csvLine row) (rest.map csvLine))
  have hlines : ∀ line ∈ rows.map csvLine ++ [['\\', '.']], '\n' ∉ line := by
    intro line hline
    rcases List.mem_append.mp hline with hline | hline
    · exact not_mem_csvLine hrows (by decide) (by decide)
        (fun row hrow => (hrows row hrow).noFeed) line hline
    · rw [List.mem_singleton.mp hline]
      decide
  have hmarker : ∀ line ∈ rows.map csvLine, line ≠ ['\\', '.'] := by
    rintro _ hline rfl
    obtain ⟨row, -, hrow⟩ := List.mem_map.mp hline
    have hcomma : ',' ∈ csvLine row := by simp [csvLine]
    rw [hrow] at hcomma
    revert hcomma
    decide
  rw [sentLines, hjoin, splitLines_joinLines hlines (by simp), List.takeWhile_append_of_pos]
  · simp
  · simpa using hmarker

theorem csvRecords_copyInput (hne : rows ≠ []) :
    csvRecords (sentLines (copyInput rows)) =
      if ∃ row ∈ rows, '\x00' ∈ row.code then none
      else some (rows.map fun row => [row.delDate, row.code]) := by
  have hread := foldl_csvLines rows []
  rw [sentLines_copyInput hrows hne, csvRecords]
  change List.foldl CsvState.step {} _ = _ at hread
  simp only [hread, between, reduceCtorEq, or_false, List.nil_append]
  congr 1
  rw [eq_iff_iff]
  constructor
  · intro hmem
    by_contra hcode
    simp only [not_exists, not_and] at hcode
    obtain ⟨line, hline, hnull⟩ := List.mem_flatMap.mp hmem
    have hnot := not_mem_csvLine hrows (by decide) (by decide) hcode line hline
    simp [hnot] at hnull
  · rintro ⟨row, hrow, hnull⟩
    refine List.mem_flatMap.mpr ⟨csvLine row, List.mem_map_of_mem hrow, ?_⟩
    simp [csvLine, mem_csvField, hnull]

end Sending

/-- A row that the table of deletions can take as it is. -/
structure Row.Loadable (row : Row) : Prop where
  date : IsRealDate row.delDate
  noNull : '\x00' ∉ row.code
  short : row.code.length ≤ 10

theorem varchar_eq_self_iff (length : Nat) (value : List Char) :
    varchar length value = some value ↔ value.length ≤ length := by
  unfold varchar
  constructor
  · intro h
    split at h
    · have htake := congrArg List.length (Option.some.inj h)
      simp only [List.length_take] at htake
      omega
    · cases h
  · intro h
    simp [List.drop_eq_nil_of_le h, List.take_of_length_le h]

theorem stagedRow_eq_self_iff {row : Row} (hcode : row.code ≠ []) :
    stagedRow [row.delDate, row.code] = some row ↔
      IsRealDate row.delDate ∧ row.code.length ≤ 10 := by
  simp only [stagedRow, hcode, ne_eq, not_false_eq_true, and_true]
  by_cases hdate : IsRealDate row.delDate
  · rw [if_pos hdate, Option.map_eq_some_iff]
    simp only [hdate, true_and, ← varchar_eq_self_iff]
    constructor
    · rintro ⟨value, hvalue, hrow⟩
      rw [hvalue, ← congrArg Row.code hrow]
    · exact fun h => ⟨row.code, h, rfl⟩
  · simp [hdate]

theorem processDelSecFiles_eq_self_iff {rows : List Row} (hrows : ∀ row ∈ rows, row.OneLine) :
    processDelSecFiles rows = some rows ↔ ∀ row ∈ rows, row.Loadable := by
  by_cases hne : rows = []
  · simp [processDelSecFiles, hne]
  · rw [processDelSecFiles, if_neg hne, csvRecords_copyInput hrows hne]
    by_cases hnull : ∃ row ∈ rows, '\x00' ∈ row.code
    · obtain ⟨row, hrow, hmem⟩ := hnull
      rw [if_pos ⟨row, hrow, hmem⟩]
      simp only [reduceCtorEq, false_iff, not_forall]
      exact ⟨row, hrow, fun h => h.noNull hmem⟩
    · rw [if_neg hnull]
      have hload : (∀ row ∈ rows, row.Loadable) ↔
          ∀ row ∈ rows, stagedRow [row.delDate, row.code] = some row := by
        refine forall₂_congr fun row hrow => ?_
        rw [stagedRow_eq_self_iff (hrows row hrow).code]
        exact ⟨fun h => ⟨h.date, h.short⟩,
          fun h => ⟨h.1, fun hmem => hnull ⟨row, hrow, hmem⟩, h.2⟩⟩
      have hstaged : (rows.map fun row => [row.delDate, row.code]).mapM stagedRow = some rows ↔
          ∀ row ∈ rows, stagedRow [row.delDate, row.code] = some row := by
        rw [Checks.mapM_eq_some, List.forall₂_map_left_iff, List.forall₂_same]
      rw [hload, ← hstaged]
      dsimp only
      generalize (rows.map fun row => [row.delDate, row.code]).mapM stagedRow = result
      cases result with
      | none => simp
      | some staged =>
        simp only [Option.some.injEq]
        constructor
        · intro h
          split at h
          · exact Option.some.inj h
          · cases h
        · rintro rfl
          rw [if_pos rfl]

theorem parseDelSecFile_issues_eq_nil_iff (filePath : String) (raw : List Char) :
    (parseDelSecFile filePath raw).issues = [] ↔
      ∀ line ∈ entryLines raw, parseLine line ≠ none := by
  simp only [parseDelSecFile, List.filterMap_eq_nil_iff, ite_eq_right_iff, reduceCtorEq,
    imp_false]
  constructor
  · intro h line hline
    rw [← List.zipIdx_map_fst 1 (entryLines raw)] at hline
    obtain ⟨entry, hentry, rfl⟩ := List.mem_map.mp hline
    exact h entry hentry
  · exact fun h entry hentry => h entry.1 (List.fst_mem_of_mem_zipIdx hentry)

theorem parseAllDelSecFiles_eq_ok_iff (files : List (String × List Char)) (parsed : DelSecRows) :
    parseAllDelSecFiles files = .ok parsed ↔
      (∀ file ∈ files, ∀ line ∈ entryLines file.2, parseLine line ≠ none) ∧
        parsed = {
          rowCountByFile := files.map fun file =>
            (file.1, ((entryLines file.2).filterMap parseLine).length)
          rows := files.flatMap fun file => (entryLines file.2).filterMap parseLine } := by
  have hissues : (files.map fun file => (file.1, parseDelSecFile file.1 file.2)).flatMap
      (·.2.issues) = [] ↔ ∀ file ∈ files, ∀ line ∈ entryLines file.2, parseLine line ≠ none := by
    simp only [List.flatMap_eq_nil_iff, List.forall_mem_map, parseDelSecFile_issues_eq_nil_iff]
  rw [← hissues]
  simp only [parseAllDelSecFiles]
  split
  · next h => simp [h]
  · next h =>
      rw [not_not] at h
      rw [Except.ok.injEq, h, List.map_map, List.flatMap_map]
      exact ⟨fun heq => ⟨rfl, heq.symm⟩, fun heq => heq.2.symm⟩

/--
A drop whose files are accepted can only fail for reasons outside them if and only if
each line of an accepted file names a day of the calendar and a code without null
characters that the column has room for.
-/
theorem processDelSecFiles_never_late_iff (files : List (String × List Char)) :
    (∀ parsed, parseAllDelSecFiles files = .ok parsed →
        (∀ row ∈ parsed.rows, IsRealDate row.delDate) ∧
          processDelSecFiles parsed.rows = some parsed.rows) ↔
      (∃ file ∈ files, ∃ line ∈ entryLines file.2, parseLine line = none) ∨
        ∀ file ∈ files, ∀ line ∈ entryLines file.2, ∀ row, parseLine line = some row →
          row.Loadable := by
  simp only [parseAllDelSecFiles_eq_ok_iff]
  have hmem : ∀ P : Row → Prop,
      (∀ row ∈ files.flatMap fun file => (entryLines file.2).filterMap parseLine, P row) ↔
        ∀ file ∈ files, ∀ line ∈ entryLines file.2, ∀ row, parseLine line = some row → P row := by
    intro P
    simp only [List.mem_flatMap, List.mem_filterMap]
    exact ⟨fun h file hfile line hline row hrow => h row ⟨file, hfile, line, hline, hrow⟩,
      fun h row ⟨file, hfile, line, hline, hrow⟩ => h file hfile line hline row hrow⟩
  have hrows := (hmem Row.OneLine).mpr fun _ _ _ _ _ hrow => parseLine_oneLine hrow
  rw [← hmem, ← processDelSecFiles_eq_self_iff hrows]
  constructor
  · intro h
    by_cases hnone : ∃ file ∈ files, ∃ line ∈ entryLines file.2, parseLine line = none
    · exact .inl hnone
    · refine .inr (h _ ⟨fun file hfile line hline heq => ?_, rfl⟩).2
      exact hnone ⟨file, hfile, line, hline, heq⟩
  · rintro h parsed ⟨haccepted, rfl⟩
    rcases h with ⟨file, hfile, line, hline, heq⟩ | h
    · exact absurd heq (haccepted file hfile line hline)
    · exact ⟨fun row hrow => ((processDelSecFiles_eq_self_iff hrows).mp h row hrow).date, h⟩

/-- The end of February is taken for a date, and the copy finds it too late. -/
theorem february_31_accepted :
    ¬ ∀ raw : List Char, ∀ parsed, parseAllDelSecFiles [("del_sec_0.dat", raw)] = .ok parsed →
      (∀ row ∈ parsed.rows, IsRealDate row.delDate) ∧
        processDelSecFiles parsed.rows = some parsed.rows := by
  intro h
  have hday : ¬ IsRealDate ['2', '0', '2', '6', '-', '0', '2', '-', '3', '1'] := by decide
  have hlines : entryLines "2026/02/31\t08558".toList = ["2026/02/31\t08558".toList] := by decide
  have haccepted := (parseAllDelSecFiles_eq_ok_iff
    [("del_sec_0.dat", "2026/02/31\t08558".toList)] _).mpr ⟨by simp; decide, rfl⟩
  refine hday ((h _ _ haccepted).1 ⟨_, ['0', '8', '5', '5', '8']⟩ ?_)
  simp only [List.flatMap_cons, List.flatMap_nil, hlines]
  decide

end Aiphabee.DelSec
