import Aiphabee.Text.JsString

/-!
# Strings as code units, UTF-8 and JSON strings

A string of the language is any list of UTF-16 code units: a surrogate may
stand alone.  JSON writes such a surrogate as an escape of six characters, so
that a JSON text is a list of Unicode characters, which UTF-8 encodes.
-/

namespace Aiphabee

/-- A string of the language. -/
abbrev JsText := List UInt16

/-- A string without lone surrogates. -/
abbrev Utf8Text := List Char

namespace JsText

instance lawfulBEq : LawfulBEq JsText := inferInstance

def isHighSurrogate (u : UInt16) : Bool :=
  0xD800 ≤ u.toNat && u.toNat ≤ 0xDBFF

def isLowSurrogate (u : UInt16) : Bool :=
  0xDC00 ≤ u.toNat && u.toNat ≤ 0xDFFF

/-- A number that no character has. -/
def isSurrogate (n : Nat) : Bool :=
  0xD800 ≤ n && n ≤ 0xDFFF

/-- The code points of a string; a surrogate without its partner stands for itself. -/
def codePoints : JsText → List Nat
  | [] => []
  | [u] => [u.toNat]
  | u :: v :: rest =>
    if isHighSurrogate u && isLowSurrogate v then
      (0x10000 + (u.toNat - 0xD800) * 0x400 + (v.toNat - 0xDC00)) :: codePoints rest
    else
      u.toNat :: codePoints (v :: rest)

def ofChars (chars : List Char) : JsText :=
  chars.flatMap fun c => (JsString.charUnits c).map UInt16.ofNat

/-- The code units of a string without lone surrogates. -/
def ofString (value : String) : JsText :=
  ofChars value.toList

def isWhiteSpace (u : UInt16) : Bool :=
  !isSurrogate u.toNat && JsString.isWhiteSpace (Char.ofNat u.toNat)

variable (value : JsText)

/-- The string without white space at either end. -/
def trim : JsText :=
  ((value.dropWhile isWhiteSpace).reverse.dropWhile isWhiteSpace).reverse

/-- Some code unit is in U+0000..U+001F or is U+007F. -/
def hasControlCharacter : Bool :=
  value.any fun u => u.toNat ≤ 0x1F || u.toNat = 0x7F

def encodeUtf8 (text : Utf8Text) : List UInt8 :=
  text.flatMap String.utf8EncodeChar

/-- `TextEncoder`: a lone surrogate becomes the replacement character. -/
def encode : List UInt8 :=
  encodeUtf8 ((codePoints value).map fun n =>
    if isSurrogate n then '\uFFFD' else Char.ofNat n)

/-- The fatal `TextDecoder`, which drops a byte order mark. -/
def decodeUtf8 (bytes : List UInt8) : Option Utf8Text :=
  let body := if [0xEF, 0xBB, 0xBF].isPrefixOf bytes then bytes.drop 3 else bytes
  body.toByteArray.utf8Decode?.map Array.toList

def utf8Size (text : Utf8Text) : Nat :=
  (text.map Char.utf8Size).sum

theorem length_encodeUtf8 (text : Utf8Text) : (encodeUtf8 text).length = utf8Size text := by
  simp [encodeUtf8, utf8Size, List.length_flatMap]

theorem utf8Size_append (left right : Utf8Text) :
    utf8Size (left ++ right) = utf8Size left + utf8Size right := by
  simp [utf8Size]

/-- A text that begins with a brace is read back from its bytes. -/
theorem decodeUtf8_encodeUtf8 (rest : Utf8Text) :
    decodeUtf8 (encodeUtf8 ('{' :: rest)) = some ('{' :: rest) := by
  have hfirst : encodeUtf8 ('{' :: rest) = 0x7B :: encodeUtf8 rest := rfl
  have hbody : (if [0xEF, 0xBB, 0xBF].isPrefixOf (encodeUtf8 ('{' :: rest)) then
      (encodeUtf8 ('{' :: rest)).drop 3 else encodeUtf8 ('{' :: rest)) =
      encodeUtf8 ('{' :: rest) := by
    rw [hfirst]
    rfl
  have hdecode : (encodeUtf8 ('{' :: rest)).toByteArray.utf8Decode? =
      some ('{' :: rest).toArray :=
    List.utf8Decode?_utf8Encode
  simp only [decodeUtf8, hbody, hdecode, Option.map_some]

/-- A number below sixteen as a hexadecimal digit. -/
def hexDigit (n : Nat) : Char :=
  if n < 10 then Char.ofNat (48 + n) else Char.ofNat (87 + n)

/-- The escape `\u` with four hexadecimal digits. -/
def unicodeEscape (n : Nat) : List Char :=
  ['\\', 'u', hexDigit (n / 0x1000 % 16), hexDigit (n / 0x100 % 16), hexDigit (n / 0x10 % 16),
    hexDigit (n % 16)]

/-- How JSON writes a code point of a string. -/
def escape (n : Nat) : List Char :=
  if n = 0x22 then ['\\', '"']
  else if n = 0x5C then ['\\', '\\']
  else if n = 0x08 then ['\\', 'b']
  else if n = 0x0C then ['\\', 'f']
  else if n = 0x0A then ['\\', 'n']
  else if n = 0x0D then ['\\', 'r']
  else if n = 0x09 then ['\\', 't']
  else if n < 0x20 || isSurrogate n then unicodeEscape n
  else [Char.ofNat n]

/-- `JSON.stringify` of a string. -/
def jsonString : Utf8Text :=
  '"' :: (codePoints value).flatMap escape ++ ['"']

/-- `JSON.stringify` of an array, from the texts of its elements. -/
def jsonArray (elements : List Utf8Text) : Utf8Text :=
  '[' :: List.intercalate [','] elements ++ [']']

/-- `JSON.stringify` of an object, from the texts of its fields. -/
def jsonObject (fields : List (String × Utf8Text)) : Utf8Text :=
  '{' :: List.intercalate [',']
    (fields.map fun field => ('"' :: field.1.toList) ++ ('"' :: ':' :: field.2)) ++ ['}']

/-- `JSON.stringify` of a whole number. -/
def jsonInt (n : Int) : Utf8Text :=
  if n < 0 then '-' :: Nat.toDigits 10 n.natAbs else Nat.toDigits 10 n.natAbs

theorem ofChars_ascii {chars : List Char} (h : ∀ c ∈ chars, c.toNat < 0x80) :
    ofChars chars = chars.map fun c => UInt16.ofNat c.toNat := by
  induction chars with
  | nil => rfl
  | cons c rest ih =>
    have hc := h c List.mem_cons_self
    have hrest := ih fun d hd => h d (List.mem_cons_of_mem _ hd)
    have hunits : JsString.charUnits c = [c.toNat] := by
      have hlow : ¬0x10000 ≤ c.toNat := by omega
      simp [JsString.charUnits, hlow]
    rw [ofChars] at hrest
    simp [ofChars, hunits, hrest]

/-- `\d`. -/
def isDigit (u : UInt16) : Bool :=
  48 ≤ u.toNat && u.toNat ≤ 57

/-- A code unit that JSON writes as it is, in one byte. -/
def isPlain (u : UInt16) : Bool :=
  0x20 ≤ u.toNat && u.toNat < 0x7F && u.toNat ≠ 0x22 && u.toNat ≠ 0x5C

theorem codePoints_of_noSurrogate {value : JsText} (h : ∀ u ∈ value, isSurrogate u.toNat = false) :
    codePoints value = value.map fun u => u.toNat := by
  fun_induction codePoints value with
  | case1 => rfl
  | case2 u => rfl
  | case3 u v rest hpair ih =>
    have hu := h u List.mem_cons_self
    simp only [isHighSurrogate, isLowSurrogate, isSurrogate, Bool.and_eq_true,
      Bool.and_eq_false_iff, decide_eq_true_eq, decide_eq_false_iff_not] at hpair hu
    omega
  | case4 u v rest hpair ih =>
    rw [ih fun w hw => h w (List.mem_cons_of_mem _ hw)]
    rfl

theorem utf8Size_jsonString :
    utf8Size (jsonString value) =
      ((codePoints value).map fun n => utf8Size (escape n)).sum + 2 := by
  have hquote : ('"' : Char).utf8Size = 1 := by decide
  have hflat : ∀ ns : List Nat,
      utf8Size (ns.flatMap escape) = (ns.map fun n => utf8Size (escape n)).sum := by
    intro ns
    induction ns with
    | nil => rfl
    | cons n rest ih => rw [List.flatMap_cons, utf8Size_append, ih, List.map_cons, List.sum_cons]
  rw [jsonString, List.cons_append, ← List.singleton_append, utf8Size_append, utf8Size_append,
    hflat]
  simp only [utf8Size, List.map_cons, List.map_nil, List.sum_cons, List.sum_nil, hquote]
  omega

theorem utf8Size_jsonString_of_plain {value : JsText} (h : ∀ u ∈ value, isPlain u = true) :
    utf8Size (jsonString value) = value.length + 2 := by
  have hnumbers : ∀ n < 0x7F, 0x20 ≤ n → n ≠ 0x22 → n ≠ 0x5C → utf8Size (escape n) = 1 := by
    decide
  have hplain : ∀ u ∈ value, isSurrogate u.toNat = false ∧ utf8Size (escape u.toNat) = 1 := by
    intro u hu
    have hu := h u hu
    simp only [isPlain, Bool.and_eq_true, decide_eq_true_eq] at hu
    refine ⟨?_, hnumbers _ hu.1.1.2 hu.1.1.1 hu.1.2 hu.2⟩
    simp only [isSurrogate, Bool.and_eq_false_iff, decide_eq_false_iff_not]
    omega
  have hsizes : (value.map fun u => utf8Size (escape u.toNat)) = value.map fun _ => 1 :=
    List.map_congr_left fun u hu => (hplain u hu).2
  rw [utf8Size_jsonString, codePoints_of_noSurrogate fun u hu => (hplain u hu).1, List.map_map]
  simp [Function.comp_def, hsizes, List.map_const']

theorem utf8Size_intercalate {texts : List Utf8Text} (h : texts ≠ []) :
    utf8Size (List.intercalate [','] texts) + 1 =
      (texts.map fun text => utf8Size text + 1).sum := by
  have hcomma : utf8Size [','] = 1 := by decide
  induction texts with
  | nil => exact absurd rfl h
  | cons text rest ih =>
    cases rest with
    | nil => simp [List.intercalate]
    | cons other rest =>
      have hrest := ih (List.cons_ne_nil _ _)
      rw [List.intercalate_cons_cons, utf8Size_append, utf8Size_append, hcomma, List.map_cons,
        List.sum_cons, ← hrest]
      omega

theorem utf8Size_jsonArray {elements : List Utf8Text} (h : elements ≠ []) :
    utf8Size (jsonArray elements) =
      (elements.map fun element => utf8Size element + 1).sum + 1 := by
  have hbrackets : ('[' : Char).utf8Size = 1 ∧ (']' : Char).utf8Size = 1 := by decide
  have hcommas := utf8Size_intercalate h
  rw [jsonArray, List.cons_append, ← List.singleton_append, utf8Size_append, utf8Size_append]
  simp only [utf8Size, List.map_cons, List.map_nil, List.sum_cons, List.sum_nil,
    hbrackets] at hcommas ⊢
  omega

theorem utf8Size_jsonObject {fields : List (String × Utf8Text)} (h : fields ≠ []) :
    utf8Size (jsonObject fields) =
      (fields.map fun field => utf8Size field.1.toList + utf8Size field.2 + 4).sum + 1 := by
  have hsigns : ('{' : Char).utf8Size = 1 ∧ ('}' : Char).utf8Size = 1 ∧
      ('"' : Char).utf8Size = 1 ∧ (':' : Char).utf8Size = 1 := by decide
  have hfield : ∀ field ∈ fields,
      utf8Size (('"' :: field.1.toList) ++ ('"' :: ':' :: field.2)) + 1 =
        utf8Size field.1.toList + utf8Size field.2 + 4 := by
    intro field _
    rw [utf8Size_append]
    simp only [utf8Size, List.map_cons, List.sum_cons, hsigns]
    omega
  have hcommas := utf8Size_intercalate
    (mt List.map_eq_nil_iff.mp h : fields.map (fun field =>
      ('"' :: field.1.toList) ++ ('"' :: ':' :: field.2)) ≠ [])
  rw [List.map_map] at hcommas
  rw [← List.map_congr_left hfield, jsonObject, List.cons_append, ← List.singleton_append,
    utf8Size_append, utf8Size_append]
  simp only [Function.comp_def] at hcommas
  rw [← hcommas]
  simp only [utf8Size, List.map_cons, List.map_nil, List.sum_cons, List.sum_nil, hsigns]
  omega

/-- A whole number below a power of ten has as many digits at most, and a sign. -/
theorem utf8Size_jsonInt_le {n : Int} {k : Nat} (hk : 0 < k) (h : n.natAbs < 10 ^ k) :
    utf8Size (jsonInt n) ≤ k + 1 := by
  have hdigits : utf8Size (Nat.toDigits 10 n.natAbs) ≤ k := by
    have hlength : (Nat.toDigits 10 n.natAbs).length ≤ k :=
      (Nat.length_toDigits_le_iff (by decide) hk).mpr h
    have hone : ∀ c ∈ Nat.toDigits 10 n.natAbs, c.utf8Size = 1 := by
      intro c hc
      have hdigit := Nat.isDigit_of_mem_toDigits (by decide) (by decide) hc
      simp only [Char.isDigit, Bool.and_eq_true, decide_eq_true_eq] at hdigit
      have hlast : c.val.toNat ≤ 57 := UInt32.le_iff_toNat_le.mp hdigit.2
      rw [Char.utf8Size_eq_one_iff, UInt32.le_iff_toNat_le]
      exact hlast.trans (by decide)
    have hsizes : (Nat.toDigits 10 n.natAbs).map Char.utf8Size =
        (Nat.toDigits 10 n.natAbs).map fun _ => 1 :=
      List.map_congr_left hone
    simpa [utf8Size, hsizes, List.map_const'] using hlength
  have hminus : ('-' : Char).utf8Size = 1 := by decide
  rw [jsonInt]
  split
  · rw [← List.singleton_append, utf8Size_append]
    simp only [utf8Size, List.map_cons, List.map_nil, List.sum_cons, List.sum_nil,
      hminus] at hdigits ⊢
    omega
  · omega

def compareUnits (a b : JsText) : Int :=
  if a < b then -1 else if b < a then 1 else 0

theorem compareUnits_nonpos {a b : JsText} : compareUnits a b ≤ 0 ↔ a ≤ b := by
  rw [← List.not_lt, compareUnits]
  by_cases hab : a < b
  · simp [hab, List.lt_asymm hab]
  · by_cases hba : b < a <;> simp [hab, hba]

theorem compareUnits_swap (a b : JsText) : compareUnits a b < 0 ↔ 0 < compareUnits b a := by
  unfold compareUnits
  by_cases hab : a < b
  · simp [hab, List.lt_asymm hab]
  · by_cases hba : b < a <;> simp [hab, hba]

theorem compareUnits_trans {a b c : JsText} (hab : compareUnits a b ≤ 0)
    (hbc : compareUnits b c ≤ 0) : compareUnits a c ≤ 0 :=
  compareUnits_nonpos.mpr
    (List.le_trans (compareUnits_nonpos.mp hab) (compareUnits_nonpos.mp hbc))

theorem eq_of_compareUnits {a b : JsText} (h : compareUnits a b = 0) : a = b := by
  have hswap := compareUnits_swap a b
  have hback := compareUnits_swap b a
  have hle : compareUnits b a ≤ 0 := by omega
  exact List.le_antisymm (compareUnits_nonpos.mp (by omega)) (compareUnits_nonpos.mp hle)

end JsText

end Aiphabee
