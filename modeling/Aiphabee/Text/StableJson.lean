import Mathlib.Data.List.Sort
import Aiphabee.Text.NumberText

/-!
# Stable texts of values

A value is written like JSON, with the keys of every object in their order.
Unlike JSON, the text shows a field that is there with an undefined value.  The
text of a value determines the value up to the order of the fields, as long as
no array holds an undefined element: every text ends where its value ends, and
begins with a character that tells what kind of value it is.
-/

namespace Aiphabee.StableJson

open JsText (jsonString escape codePoints)

structure FiniteNumber where
  value : ℚ
  readsBack : JsNumber.ofText (JsText.ofString (JsNumber.toText (.finite value))) = .finite value
deriving DecidableEq

/-- A value of the language that holds data. -/
inductive Value
  | undefined
  | null
  | boolean (value : Bool)
  | number (value : FiniteNumber)
  | string (value : JsText)
  | array (elements : List Value)
  | object (fields : List (JsText × Value))

/-- `String(number)`. -/
def FiniteNumber.text (number : FiniteNumber) : Utf8Text :=
  (JsNumber.toText (.finite number.value)).toList

/-- The order in which `sort` puts keys: that of their code units. -/
def keyBefore (first second : JsText × Value) : Prop :=
  first.1 ≤ second.1

instance : DecidableRel keyBefore := fun first second =>
  inferInstanceAs (Decidable (first.1 ≤ second.1))

mutual

def canonical : Value → Value
  | .array elements => .array (canonicalElements elements)
  | .object fields => .object ((canonicalFields fields).insertionSort keyBefore)
  | .undefined => .undefined
  | .null => .null
  | .boolean value => .boolean value
  | .number value => .number value
  | .string value => .string value

def canonicalElements : List Value → List Value
  | [] => []
  | value :: rest => canonical value :: canonicalElements rest

def canonicalFields : List (JsText × Value) → List (JsText × Value)
  | [] => []
  | (key, value) :: rest => (key, canonical value) :: canonicalFields rest

end

mutual

def render : Value → Utf8Text
  | .undefined => ['u', 'n', 'd', 'e', 'f', 'i', 'n', 'e', 'd']
  | .null => ['n', 'u', 'l', 'l']
  | .boolean true => ['t', 'r', 'u', 'e']
  | .boolean false => ['f', 'a', 'l', 's', 'e']
  | .number value => value.text
  | .string value => jsonString value
  | .array elements => '[' :: renderElements elements ++ [']']
  | .object fields => '{' :: renderFields fields ++ ['}']

/-- The texts of elements with commas between them; `join` writes nothing for undefined. -/
def renderElements : List Value → Utf8Text
  | [] => []
  | .undefined :: rest => renderRest rest
  | value :: rest => render value ++ renderRest rest

/-- The texts of further elements, a comma in front of each. -/
def renderRest : List Value → Utf8Text
  | [] => []
  | .undefined :: rest => ',' :: renderRest rest
  | value :: rest => ',' :: render value ++ renderRest rest

def renderFields : List (JsText × Value) → Utf8Text
  | [] => []
  | (key, value) :: rest =>
    jsonString key ++ ':' :: render value ++ renderMoreFields rest

def renderMoreFields : List (JsText × Value) → Utf8Text
  | [] => []
  | (key, value) :: rest =>
    ',' :: jsonString key ++ ':' :: render value ++ renderMoreFields rest

end

/-- The text that `stableStringify` gives; the value is not undefined itself. -/
def stableStringify (value : Value) : Utf8Text :=
  render (canonical value)

example : stableStringify (.array [.undefined, .null]) = "[,null]".toList := by
  simp only [stableStringify, canonical, canonicalElements, render, renderElements, renderRest]
  rfl

mutual

def Regular : Value → Prop
  | .array elements => RegularElements elements
  | .object fields => RegularFields fields
  | _ => True

def RegularElements : List Value → Prop
  | [] => True
  | value :: rest => value ≠ .undefined ∧ Regular value ∧ RegularElements rest

def RegularFields : List (JsText × Value) → Prop
  | [] => True
  | (_, value) :: rest => Regular value ∧ RegularFields rest

end

/-- The code units of a code point, or of a surrogate that stands alone. -/
def unitsOf (n : Nat) : JsText :=
  if 0x10000 ≤ n then
    [UInt16.ofNat (0xD800 + (n - 0x10000) / 0x400), UInt16.ofNat (0xDC00 + (n - 0x10000) % 0x400)]
  else
    [UInt16.ofNat n]

theorem flatMap_unitsOf_codePoints (value : JsText) :
    (codePoints value).flatMap unitsOf = value := by
  have hsingle : ∀ u : UInt16, unitsOf u.toNat = [u] := by
    intro u
    have hlow : ¬0x10000 ≤ u.toNat := by
      have hlt := u.toNat_lt
      omega
    rw [unitsOf, if_neg hlow, UInt16.ofNat_toNat]
  fun_induction codePoints value with
  | case1 => rfl
  | case2 u => simp [hsingle]
  | case3 u v rest hpair ih =>
    simp only [JsText.isHighSurrogate, JsText.isLowSurrogate, Bool.and_eq_true,
      decide_eq_true_eq] at hpair
    have hhigh : 0xD800 + (0x10000 + (u.toNat - 0xD800) * 0x400 + (v.toNat - 0xDC00) -
        0x10000) / 0x400 = u.toNat := by
      omega
    have hlow : 0xDC00 + (0x10000 + (u.toNat - 0xD800) * 0x400 + (v.toNat - 0xDC00) -
        0x10000) % 0x400 = v.toNat := by
      omega
    rw [List.flatMap_cons, ih, unitsOf, if_pos (by omega), hhigh, hlow, UInt16.ofNat_toNat,
      UInt16.ofNat_toNat]
    rfl
  | case4 u v rest hpair ih => rw [List.flatMap_cons, ih, hsingle]; rfl

theorem codePoints_lt {value : JsText} {n : Nat} (h : n ∈ codePoints value) :
    n < 0x110000 := by
  fun_induction codePoints value with
  | case1 => cases h
  | case2 u =>
    have hlt := u.toNat_lt
    rw [List.mem_singleton.mp h]
    omega
  | case3 u v rest hpair ih =>
    simp only [JsText.isHighSurrogate, JsText.isLowSurrogate, Bool.and_eq_true,
      decide_eq_true_eq] at hpair
    rcases List.mem_cons.mp h with hn | hrest
    · omega
    · exact ih hrest
  | case4 u v rest hpair ih =>
    have hlt := u.toNat_lt
    rcases List.mem_cons.mp h with hn | hrest
    · omega
    · exact ih hrest

def hexValue (c : Char) : Nat :=
  if c.toNat < 58 then c.toNat - 48 else c.toNat - 87

theorem hexValue_hexDigit :
    ∀ n < 16, hexValue (JsText.hexDigit n) = n := by
  decide +kernel

/-- The code point at the front of an escaped text, and what follows it. -/
def unescape : List Char → Option (Nat × List Char)
  | '\\' :: 'u' :: a :: b :: c :: d :: rest =>
    some (hexValue a * 0x1000 + hexValue b * 0x100 + hexValue c * 0x10 + hexValue d, rest)
  | '\\' :: 'b' :: rest => some (0x08, rest)
  | '\\' :: 'f' :: rest => some (0x0C, rest)
  | '\\' :: 'n' :: rest => some (0x0A, rest)
  | '\\' :: 'r' :: rest => some (0x0D, rest)
  | '\\' :: 't' :: rest => some (0x09, rest)
  | '\\' :: c :: rest => some (c.toNat, rest)
  | c :: rest => some (c.toNat, rest)
  | [] => none

theorem toNat_ofNat {n : Nat} (hlt : n < 0x110000) (hsurrogate : JsText.isSurrogate n = false) :
    (Char.ofNat n).toNat = n := by
  have hvalid : n.isValidChar := by
    simp only [JsText.isSurrogate, Bool.and_eq_false_iff, decide_eq_false_iff_not] at hsurrogate
    unfold Nat.isValidChar
    omega
  rw [Char.ofNat, dif_pos hvalid]
  exact UInt32.toNat_ofNatLT ..

/-- An escaped code point is read back. -/
theorem unescape_escape {n : Nat} (hlt : n < 0x110000) (rest : List Char) :
    unescape (escape n ++ rest) = some (n, rest) := by
  unfold escape
  split
  · next h => subst h; rfl
  split
  · next h => subst h; rfl
  split
  · next h => subst h; rfl
  split
  · next h => subst h; rfl
  split
  · next h => subst h; rfl
  split
  · next h => subst h; rfl
  split
  · next h => subst h; rfl
  next hquote hbackslash _ _ _ _ _ =>
  split
  · next hescaped =>
      have hsmall : n < 0x10000 := by
        simp only [JsText.isSurrogate, Bool.or_eq_true, Bool.and_eq_true, decide_eq_true_eq]
          at hescaped
        omega
      have hdigits := fun m => hexValue_hexDigit (m % 16) (Nat.mod_lt m (by decide))
      simp only [JsText.unicodeEscape, List.cons_append, List.nil_append, unescape, hdigits,
        Option.some.injEq, Prod.mk.injEq, and_true]
      omega
  · next hplain =>
      simp only [Bool.or_eq_true, decide_eq_true_eq, not_or, Bool.not_eq_true] at hplain
      have hchar := toNat_ofNat hlt hplain.2
      have hne : Char.ofNat n ≠ '\\' := by
        intro hsame
        rw [hsame] at hchar
        exact hbackslash hchar.symm
      rw [List.singleton_append, unescape.eq_def]
      split <;> simp_all

/-- An escaped code point does not begin with a quotation mark. -/
theorem escape_ne_quote {n : Nat} (hlt : n < 0x110000) (rest other : List Char) :
    escape n ++ rest ≠ '"' :: other := by
  intro h
  have hread := unescape_escape hlt rest
  rw [h] at hread
  have hquote : n = 0x22 := by
    have := (Prod.mk.inj (Option.some.inj hread)).1
    exact this.symm
  subst hquote
  cases h

variable {r s : List Char}

/-- Escaped texts in front of a quotation mark are of the same code points. -/
theorem escapes_inj {ns ms : List Nat} (hns : ∀ n ∈ ns, n < 0x110000) (hms : ∀ n ∈ ms, n < 0x110000)
    (h : ns.flatMap escape ++ '"' :: r = ms.flatMap escape ++ '"' :: s) :
    ns = ms ∧ r = s := by
  induction ns generalizing ms with
  | nil =>
    cases ms with
    | nil => exact ⟨rfl, (List.cons.inj h).2⟩
    | cons m ms =>
      rw [List.flatMap_cons, List.append_assoc] at h
      exact absurd h.symm (escape_ne_quote (hms m List.mem_cons_self) _ _)
  | cons n ns ih =>
    cases ms with
    | nil =>
      rw [List.flatMap_cons, List.append_assoc] at h
      exact absurd h (escape_ne_quote (hns n List.mem_cons_self) _ _)
    | cons m ms =>
      simp only [List.flatMap_cons, List.append_assoc] at h
      have hfirst := unescape_escape (hns n List.mem_cons_self)
        (ns.flatMap escape ++ '"' :: r)
      rw [h, unescape_escape (hms m List.mem_cons_self)] at hfirst
      obtain ⟨rfl, hrest⟩ := Prod.mk.inj (Option.some.inj hfirst)
      obtain ⟨rfl, rfl⟩ := ih (fun k hk => hns k (List.mem_cons_of_mem _ hk))
        (fun k hk => hms k (List.mem_cons_of_mem _ hk)) hrest.symm
      exact ⟨rfl, rfl⟩

theorem jsonString_inj {first second : JsText}
    (h : jsonString first ++ r = jsonString second ++ s) :
    first = second ∧ r = s := by
  simp only [jsonString, List.cons_append, List.append_assoc, List.nil_append,
    List.cons.injEq, true_and] at h
  obtain ⟨hpoints, hrest⟩ := escapes_inj (fun n hn => codePoints_lt hn)
    (fun n hn => codePoints_lt hn) h
  refine ⟨?_, hrest⟩
  rw [← flatMap_unitsOf_codePoints first, hpoints, flatMap_unitsOf_codePoints]

def isNumberCharacter (c : Char) : Bool :=
  c.isDigit || c = '.' || c = '-' || c = '+' || c = 'e'

def Delimited (r : List Char) : Prop :=
  ∀ c rest, r = c :: rest → isNumberCharacter c = false

theorem delimited_cons {c : Char} {rest : List Char} (h : isNumberCharacter c = false) :
    Delimited (c :: rest) := by
  intro d other hd
  rw [← (List.cons.inj hd).1]
  exact h

theorem toDigits_characters (n : Nat) : ∀ c ∈ Nat.toDigits 10 n, isNumberCharacter c = true := by
  intro c hc
  have hdigit := Nat.isDigit_of_mem_toDigits (by decide) (by decide) hc
  simp [isNumberCharacter, hdigit]

theorem exponentText_characters {digits : List Char}
    (hdigits : ∀ c ∈ digits, isNumberCharacter c = true) (exponent : Int) :
    ∀ c ∈ JsNumber.exponentText digits exponent, isNumberCharacter c = true := by
  intro c hc
  simp only [JsNumber.exponentText, List.mem_append, List.mem_cons, List.not_mem_nil,
    or_false] at hc
  rcases hc with ((hfirst | hfraction) | rfl | hsign) | hexponent
  · exact hdigits c (List.mem_of_mem_take hfirst)
  · split at hfraction
    · cases hfraction
    · rcases List.mem_cons.mp hfraction with rfl | hrest
      · rfl
      · exact hdigits c (List.mem_of_mem_drop hrest)
  · rfl
  · rw [hsign]
    split <;> rfl
  · exact toDigits_characters _ c hexponent

theorem positiveText_characters (value : ℚ) :
    ∀ c ∈ JsNumber.positiveText value, isNumberCharacter c = true := by
  intro c hc
  have hdigits := toDigits_characters (JsNumber.shortestDigits value).1
  simp only [JsNumber.positiveText] at hc
  split at hc
  · rcases List.mem_append.mp hc with hdigit | hzero
    · exact hdigits c hdigit
    · rw [List.eq_of_mem_replicate hzero]
      rfl
  split at hc
  · rcases List.mem_append.mp hc with htake | hrest
    · exact hdigits c (List.mem_of_mem_take htake)
    · rcases List.mem_cons.mp hrest with rfl | hdrop
      · rfl
      · exact hdigits c (List.mem_of_mem_drop hdrop)
  split at hc
  · rcases List.mem_append.mp hc with hzeros | hdigit
    · rcases List.mem_append.mp hzeros with hpoint | hzero
      · simp only [List.mem_cons, List.not_mem_nil, or_false] at hpoint
        rcases hpoint with rfl | rfl <;> rfl
      · rw [List.eq_of_mem_replicate hzero]
        rfl
    · exact hdigits c hdigit
  · exact exponentText_characters hdigits _ c hc

theorem FiniteNumber.text_characters (number : FiniteNumber) :
    ∀ c ∈ number.text, isNumberCharacter c = true := by
  intro c hc
  simp only [FiniteNumber.text, JsNumber.toText] at hc
  split at hc
  · obtain rfl : c = '0' := by simpa using hc
    rfl
  split at hc
  · rw [String.toList_ofList] at hc
    rcases List.mem_cons.mp hc with rfl | hrest
    · rfl
    · exact positiveText_characters _ c hrest
  · rw [String.toList_ofList] at hc
    exact positiveText_characters _ c hc

theorem FiniteNumber.text_inj {first second : FiniteNumber} (h : first.text = second.text) :
    first = second := by
  have htext := String.toList_injective h
  have hvalue := first.readsBack
  rw [htext, second.readsBack] at hvalue
  obtain ⟨value, hfirst⟩ := first
  obtain ⟨other, hsecond⟩ := second
  obtain rfl := JsNumber.finite.inj hvalue
  rfl

theorem FiniteNumber.text_ne_nil (number : FiniteNumber) : number.text ≠ [] := by
  intro hnil
  have hread := number.readsBack
  have htext : JsNumber.toText (.finite number.value) = "" := String.toList_injective hnil
  have hzero : number.value = 0 := by
    rw [htext] at hread
    have hempty : JsNumber.ofText (JsText.ofString "") = .finite 0 := by decide +kernel
    rw [hempty] at hread
    exact (JsNumber.finite.inj hread).symm
  rw [hzero] at htext
  exact absurd htext (by decide +kernel)

theorem characters_inj {first second r s : List Char}
    (hfirst : ∀ c ∈ first, isNumberCharacter c = true)
    (hsecond : ∀ c ∈ second, isNumberCharacter c = true) (hr : Delimited r) (hs : Delimited s)
    (h : first ++ r = second ++ s) : first = second ∧ r = s := by
  induction first generalizing second with
  | nil =>
    cases second with
    | nil => exact ⟨rfl, h⟩
    | cons d rest =>
      have hd := hr d (rest ++ s) h
      rw [hsecond d List.mem_cons_self] at hd
      cases hd
  | cons c first ih =>
    cases second with
    | nil =>
      have hc := hs c (first ++ r) h.symm
      rw [hfirst c List.mem_cons_self] at hc
      cases hc
    | cons d rest =>
      obtain ⟨rfl, htail⟩ := List.cons.inj h
      obtain ⟨rfl, rfl⟩ := ih (fun x hx => hfirst x (List.mem_cons_of_mem _ hx))
        (fun x hx => hsecond x (List.mem_cons_of_mem _ hx)) htail
      exact ⟨rfl, rfl⟩

def kindOf (c : Char) : Nat :=
  if c = 'u' then 0
  else if c = 'n' then 1
  else if c = 't' then 2
  else if c = 'f' then 3
  else if isNumberCharacter c then 4
  else if c = '"' then 5
  else if c = '[' then 6
  else if c = '{' then 7
  else 8

def kind : Value → Nat
  | .undefined => 0
  | .null => 1
  | .boolean true => 2
  | .boolean false => 3
  | .number _ => 4
  | .string _ => 5
  | .array _ => 6
  | .object _ => 7

theorem render_head (value : Value) :
    ∃ c rest, render value = c :: rest ∧ kindOf c = kind value := by
  cases value with
  | undefined => exact ⟨'u', _, by rw [render], rfl⟩
  | null => exact ⟨'n', _, by rw [render], rfl⟩
  | boolean value =>
    cases value with
    | true => exact ⟨'t', _, by rw [render], rfl⟩
    | false => exact ⟨'f', _, by rw [render], rfl⟩
  | number value =>
    cases htext : value.text with
    | nil => exact absurd htext value.text_ne_nil
    | cons c rest =>
      refine ⟨c, rest, by rw [render, htext], ?_⟩
      have hc := value.text_characters c (by rw [htext]; exact List.mem_cons_self)
      have hne : ∀ d : Char, isNumberCharacter d = false → c ≠ d := by
        rintro d hd rfl
        rw [hc] at hd
        cases hd
      simp only [kindOf, hne 'u' (by decide), hne 'n' (by decide), hne 't' (by decide),
        hne 'f' (by decide), hc, if_true, if_false]
      rfl
  | string value =>
    refine ⟨'"', _, by rw [render, jsonString, List.cons_append], ?_⟩
    rw [kind]
    decide
  | array elements =>
    refine ⟨'[', _, by rw [render, List.cons_append], ?_⟩
    rw [kind]
    decide
  | object fields =>
    refine ⟨'{', _, by rw [render, List.cons_append], ?_⟩
    rw [kind]
    decide

theorem kind_eq {first second : Value} (h : render first ++ r = render second ++ s) :
    kind first = kind second := by
  obtain ⟨c, rest, hfirst, hc⟩ := render_head first
  obtain ⟨d, other, hsecond, hd⟩ := render_head second
  rw [hfirst, hsecond] at h
  rw [← hc, ← hd, (List.cons.inj h).1]

theorem renderRest_cons {value : Value} (h : value ≠ .undefined) (rest : List Value) :
    renderRest (value :: rest) = ',' :: render value ++ renderRest rest := by
  cases value with
  | undefined => exact absurd rfl h
  | _ =>
    rw [renderRest]
    exact h

theorem renderElements_cons {value : Value} (h : value ≠ .undefined) (rest : List Value) :
    renderElements (value :: rest) = render value ++ renderRest rest := by
  cases value with
  | undefined => exact absurd rfl h
  | _ =>
    rw [renderElements]
    exact h

theorem delimited_rest (values : List Value) (r : List Char) (h : RegularElements values) :
    Delimited (renderRest values ++ ']' :: r) := by
  cases values with
  | nil =>
    rw [renderRest]
    exact delimited_cons (by decide)
  | cons value rest =>
    rw [renderRest_cons h.1]
    exact delimited_cons (by decide)

theorem delimited_moreFields (fields : List (JsText × Value)) (r : List Char) :
    Delimited (renderMoreFields fields ++ '}' :: r) := by
  cases fields with
  | nil =>
    rw [renderMoreFields]
    exact delimited_cons (by decide)
  | cons field rest =>
    rw [renderMoreFields]
    exact delimited_cons (by decide)

/-- Elements are rendered as further ones are, but for the first comma. -/
theorem rest_eq_of_elements {first second : List Value} (hfirst : RegularElements first)
    (hsecond : RegularElements second)
    (h : renderElements first ++ ']' :: r = renderElements second ++ ']' :: s) :
    renderRest first ++ ']' :: r = renderRest second ++ ']' :: s := by
  have hkind : ∀ value : Value, kindOf ']' ≠ kind value := by
    intro value
    cases value with
    | boolean value => cases value <;> decide
    | _ =>
      rw [kind]
      decide
  have hend : ∀ (value : Value) (rest tail : List Char), ']' :: tail ≠ render value ++ rest := by
    intro value rest tail h
    obtain ⟨c, others, hrender, hc⟩ := render_head value
    rw [hrender] at h
    exact hkind value ((List.cons.inj h).1 ▸ hc)
  cases first with
  | nil =>
    cases second with
    | nil => exact h
    | cons value rest =>
      rw [renderElements_cons hsecond.1, List.append_assoc] at h
      exact absurd h (hend value _ _)
  | cons value rest =>
    rw [renderElements_cons hfirst.1] at h
    cases second with
    | nil =>
      rw [List.append_assoc] at h
      exact absurd h.symm (hend value _ _)
    | cons other others =>
      rw [renderElements_cons hsecond.1] at h
      rw [renderRest_cons hfirst.1, renderRest_cons hsecond.1]
      exact congrArg (List.cons ',') h

theorem moreFields_eq_of_fields {first second : List (JsText × Value)}
    (h : renderFields first ++ '}' :: r = renderFields second ++ '}' :: s) :
    renderMoreFields first ++ '}' :: r = renderMoreFields second ++ '}' :: s := by
  cases first with
  | nil =>
    cases second with
    | nil => exact h
    | cons field rest => exact absurd (List.cons.inj h).1 (by decide)
  | cons field rest =>
    cases second with
    | nil => exact absurd (List.cons.inj h).1 (by decide)
    | cons other others => exact congrArg (List.cons ',') h

mutual

theorem render_inj (first second : Value) (r s : List Char) (hfirst : Regular first)
    (hsecond : Regular second) (hr : Delimited r) (hs : Delimited s)
    (h : render first ++ r = render second ++ s) : first = second ∧ r = s := by
  have hkind := kind_eq h
  cases first with
  | undefined =>
    cases second with
    | undefined => exact ⟨rfl, List.append_cancel_left h⟩
    | boolean value => cases value <;> cases hkind
    | _ => cases hkind
  | null =>
    cases second with
    | null => exact ⟨rfl, List.append_cancel_left h⟩
    | boolean value => cases value <;> cases hkind
    | _ => cases hkind
  | boolean value =>
    cases second with
    | boolean other =>
      have hsame : value = other := by
        cases value <;> cases other <;> first | rfl | cases hkind
      subst hsame
      exact ⟨rfl, List.append_cancel_left h⟩
    | _ => cases value <;> cases hkind
  | number value =>
    cases second with
    | number other =>
      rw [render, render] at h
      obtain ⟨htext, hrest⟩ :=
        characters_inj value.text_characters other.text_characters hr hs h
      exact ⟨congrArg Value.number (FiniteNumber.text_inj htext), hrest⟩
    | boolean value => cases value <;> cases hkind
    | _ => cases hkind
  | string value =>
    cases second with
    | string other =>
      rw [render, render] at h
      obtain ⟨rfl, hrest⟩ := jsonString_inj h
      exact ⟨rfl, hrest⟩
    | boolean value => cases value <;> cases hkind
    | _ => cases hkind
  | array elements =>
    cases second with
    | array others =>
      rw [render, render, List.append_assoc, List.append_assoc] at h
      obtain ⟨rfl, hrest⟩ := renderRest_inj elements others r s hfirst hsecond
        (rest_eq_of_elements hfirst hsecond (List.cons.inj h).2)
      exact ⟨rfl, hrest⟩
    | boolean value => cases value <;> cases hkind
    | _ => cases hkind
  | object fields =>
    cases second with
    | object others =>
      rw [render, render, List.append_assoc, List.append_assoc] at h
      obtain ⟨rfl, hrest⟩ := renderMoreFields_inj fields others r s hfirst hsecond
        (moreFields_eq_of_fields (List.cons.inj h).2)
      exact ⟨rfl, hrest⟩
    | boolean value => cases value <;> cases hkind
    | _ => cases hkind
termination_by structural first

theorem renderRest_inj (first second : List Value) (r s : List Char)
    (hfirst : RegularElements first) (hsecond : RegularElements second)
    (h : renderRest first ++ ']' :: r = renderRest second ++ ']' :: s) :
    first = second ∧ r = s := by
  cases first with
  | nil =>
    cases second with
    | nil => exact ⟨rfl, (List.cons.inj h).2⟩
    | cons value rest =>
      rw [renderRest_cons hsecond.1] at h
      exact absurd (List.cons.inj h).1 (by decide)
  | cons value rest =>
    cases second with
    | nil =>
      rw [renderRest_cons hfirst.1] at h
      exact absurd (List.cons.inj h).1 (by decide)
    | cons other others =>
      rw [renderRest_cons hfirst.1, renderRest_cons hsecond.1, List.append_assoc,
        List.append_assoc] at h
      obtain ⟨rfl, htail⟩ := render_inj value other _ _ hfirst.2.1 hsecond.2.1
        (delimited_rest rest r hfirst.2.2) (delimited_rest others s hsecond.2.2)
        (List.cons.inj h).2
      obtain ⟨rfl, hrest⟩ := renderRest_inj rest others r s hfirst.2.2 hsecond.2.2 htail
      exact ⟨rfl, hrest⟩
termination_by structural first

theorem renderMoreFields_inj (first second : List (JsText × Value)) (r s : List Char)
    (hfirst : RegularFields first) (hsecond : RegularFields second)
    (h : renderMoreFields first ++ '}' :: r = renderMoreFields second ++ '}' :: s) :
    first = second ∧ r = s := by
  cases first with
  | nil =>
    cases second with
    | nil => exact ⟨rfl, (List.cons.inj h).2⟩
    | cons field rest =>
      obtain ⟨key, value⟩ := field
      rw [renderMoreFields] at h
      exact absurd (List.cons.inj h).1 (by decide)
  | cons field rest =>
    obtain ⟨key, value⟩ := field
    cases second with
    | nil =>
      rw [renderMoreFields] at h
      exact absurd (List.cons.inj h).1 (by decide)
    | cons other others =>
      obtain ⟨otherKey, otherValue⟩ := other
      simp only [renderMoreFields, List.append_assoc, List.cons_append] at h
      obtain ⟨rfl, hcolon⟩ := jsonString_inj (List.cons.inj h).2
      obtain ⟨rfl, htail⟩ := render_inj value otherValue _ _ hfirst.1 hsecond.1
        (delimited_moreFields rest r) (delimited_moreFields others s)
        (List.cons.inj hcolon).2
      obtain ⟨rfl, hrest⟩ := renderMoreFields_inj rest others r s hfirst.2 hsecond.2 htail
      exact ⟨rfl, hrest⟩
termination_by structural first

end

theorem regularFields_iff (fields : List (JsText × Value)) :
    RegularFields fields ↔ ∀ field ∈ fields, Regular field.2 := by
  induction fields with
  | nil => exact ⟨fun _ _ h => (List.not_mem_nil h).elim, fun _ => trivial⟩
  | cons field rest ih =>
    rw [RegularFields, ih, List.forall_mem_cons]

theorem canonical_ne_undefined {value : Value} (h : value ≠ .undefined) :
    canonical value ≠ .undefined := by
  cases value with
  | undefined => exact absurd rfl h
  | _ =>
    rw [canonical]
    exact nofun

mutual

theorem Regular.canonical (value : Value) (h : Regular value) : Regular (canonical value) := by
  cases value with
  | array elements =>
    rw [StableJson.canonical]
    exact RegularElements.canonical elements h
  | object fields =>
    rw [StableJson.canonical, Regular, regularFields_iff]
    intro field hfield
    have hsorted := RegularFields.canonical fields h
    exact (regularFields_iff _).mp hsorted field ((List.mem_insertionSort keyBefore).mp hfield)
  | _ => trivial
termination_by structural value

theorem RegularElements.canonical (elements : List Value) (h : RegularElements elements) :
    RegularElements (canonicalElements elements) := by
  cases elements with
  | nil => trivial
  | cons value rest =>
    exact ⟨canonical_ne_undefined h.1, Regular.canonical value h.2.1,
      RegularElements.canonical rest h.2.2⟩
termination_by structural elements

theorem RegularFields.canonical (fields : List (JsText × Value)) (h : RegularFields fields) :
    RegularFields (canonicalFields fields) := by
  cases fields with
  | nil => trivial
  | cons field rest =>
    obtain ⟨key, value⟩ := field
    exact ⟨Regular.canonical value h.1, RegularFields.canonical rest h.2⟩
termination_by structural fields

end

/-- Values have one text exactly when they are the same up to the order of the fields. -/
theorem stableStringify_eq_iff {first second : Value} (hfirst : Regular first)
    (hsecond : Regular second) :
    stableStringify first = stableStringify second ↔ canonical first = canonical second := by
  constructor
  · intro h
    have hend : Delimited [] := fun _ _ h => nomatch h
    refine (render_inj (canonical first) (canonical second) [] [] (hfirst.canonical)
      (hsecond.canonical) hend hend ?_).1
    rw [List.append_nil, List.append_nil]
    exact h
  · intro h
    rw [stableStringify, stableStringify, h]

end Aiphabee.StableJson
