import Mathlib.Data.List.DropRight
import Mathlib.Data.List.Pairwise
import Aiphabee.Store.GroupBy
import Aiphabee.Text.NumberText

/-!
# The IP allowlist of an API key

The addresses and ranges of an allowlist are tested one by one, those of the fourth
version by a pattern, those of the sixth by the characters before the first slash and by
the number that the text behind it reads as.

The main result, `isValidIpAllowlistValue_grammar_iff`, says for which texts the test is
that of the grammar, and for which lists the normalized list has no duplicates.
-/

namespace Aiphabee.McpRuntime

open JsText (trim isWhiteSpace)

variable (value : JsText)
variable (address : JsText)

section Validation

/-- `\d`. -/
def isDecimalDigit (u : UInt16) : Bool :=
  0x30 ≤ u.toNat && u.toNat ≤ 0x39

/-- `[0-9A-Fa-f]`. -/
def isHexDigit (u : UInt16) : Bool :=
  isDecimalDigit u || (0x41 ≤ u.toNat && u.toNat ≤ 0x46) || (0x61 ≤ u.toNat && u.toNat ≤ 0x66)

/-- `/^\d{1,width}$/u`. -/
def isNumeral (width : Nat) (text : JsText) : Bool :=
  1 ≤ text.length && text.length ≤ width && text.all isDecimalDigit

/-- `Number.isInteger(Number(text))`, and the number is not below zero or above the bound. -/
def isWholeUpTo (bound : Nat) (text : JsText) : Bool :=
  match JsNumber.ofText text with
  | .finite value => value.den = 1 && 0 ≤ value && value ≤ bound
  | _ => false

/-- What the pattern of the address part takes: four numerals between dots. -/
def isDottedQuad : Bool :=
  (address.splitOn 0x2E).length = 4 && (address.splitOn 0x2E).all (isNumeral 3)

/-- A text has the form of the pattern exactly when its parts at the slash have it. -/
def isValidIpv4Cidr : Bool :=
  match value.splitOn 0x2F with
  | [address] => isDottedQuad address && (address.splitOn 0x2E).all (isWholeUpTo 255)
  | [address, cidr] =>
    isDottedQuad address && isNumeral 2 cidr &&
      (address.splitOn 0x2E).all (isWholeUpTo 255) && isWholeUpTo 32 cidr
  | _ => false

/-- `/^[0-9A-Fa-f:]+$/u`, and there is a colon. -/
def isHexColonText : Bool :=
  address.all (fun u => isHexDigit u || u = 0x3A) && address.contains 0x3A

/-- What follows a second slash is not looked at. -/
def isValidIpv6Cidr : Bool :=
  value.contains 0x3A &&
    match value.splitOn 0x2F with
    | [] => false
    | [address] => isHexColonText address
    | address :: cidr :: _ => isHexColonText address && isWholeUpTo 128 cidr

def isValidIpAllowlistValue : Bool :=
  isValidIpv4Cidr value || isValidIpv6Cidr value

def normalizeText : Option JsText :=
  if trim value = [] then none else some (trim value)

/-- `[...new Set(items)]`. -/
def distinct {α : Type} [DecidableEq α] (items : List α) : List α :=
  items.eraseDups

/-- The error `INVALID_IP_ALLOWLIST` names the values that are none. -/
def normalizeAndValidateIpAllowlist (ipAllowlist : Option (List JsText)) :
    Except (List JsText) (List JsText) :=
  let normalized := (distinct (ipAllowlist.getD [])).filterMap normalizeText
  let invalidValues := normalized.filter fun item => !isValidIpAllowlistValue item
  if invalidValues ≠ [] then .error invalidValues else .ok normalized

end Validation

/-! The grammar of addresses and ranges. -/
section Grammar

def decimalValue (digits : JsText) : Nat :=
  digits.foldl (fun n u => 10 * n + (u.toNat - 0x30)) 0

def IsBounded (width bound : Nat) (text : JsText) : Prop :=
  isNumeral width text = true ∧ decimalValue text ≤ bound

def IsIpv4Address : Prop :=
  ∃ octets : List JsText, octets.length = 4 ∧ (∀ octet ∈ octets, IsBounded 3 255 octet) ∧
    address = [0x2E].intercalate octets

/-- Up to four hexadecimal digits. -/
def IsGroup (text : JsText) : Prop :=
  1 ≤ text.length ∧ text.length ≤ 4 ∧ text.all isHexDigit = true

/-- Eight groups, or fewer and one abbreviation for those that are missing. -/
inductive IsIpv6Address : JsText → Prop
  | full (groups : List JsText) :
    groups.length = 8 → (∀ group ∈ groups, IsGroup group) →
      IsIpv6Address ([0x3A].intercalate groups)
  | abbreviated (left right : List JsText) :
    left.length + right.length ≤ 7 → (∀ group ∈ left ++ right, IsGroup group) →
      IsIpv6Address ([0x3A].intercalate left ++ [0x3A, 0x3A] ++ [0x3A].intercalate right)

inductive IsCidr (IsAddress : JsText → Prop) (width bound : Nat) : JsText → Prop
  | address {address : JsText} : IsAddress address → IsCidr IsAddress width bound address
  | range {address bits : JsText} :
    IsAddress address → IsBounded width bound bits →
      IsCidr IsAddress width bound (address ++ 0x2F :: bits)

def IsAllowlistEntry : Prop :=
  IsCidr IsIpv4Address 2 32 value ∨ IsCidr IsIpv6Address 3 128 value

end Grammar

section Numerals

theorem toNat_of_isDecimalDigit {u : UInt16} (h : isDecimalDigit u = true) :
    0x30 ≤ u.toNat ∧ u.toNat ≤ 0x39 := by
  simpa [isDecimalDigit] using h

variable {digits : JsText}

theorem trim_of_digits (h : ∀ u ∈ digits, isDecimalDigit u = true) :
    trim digits = digits := by
  have hspace : ∀ n, n ≤ 0x39 → 0x30 ≤ n → JsString.isWhiteSpace (Char.ofNat n) = false := by
    decide
  have hdrop : ∀ text : JsText, (∀ u ∈ text, isDecimalDigit u = true) →
      text.dropWhile isWhiteSpace = text := by
    intro text htext
    cases text with
    | nil => rfl
    | cons u rest =>
      have hu := toNat_of_isDecimalDigit (htext u List.mem_cons_self)
      simp [isWhiteSpace, hspace u.toNat hu.2 hu.1]
  rw [trim, hdrop _ h, hdrop _ (by simpa using h), List.reverse_reverse]

theorem foldlM_digits (h : ∀ u ∈ digits, isDecimalDigit u = true) (n : Nat) :
    digits.foldlM (fun value u => ((JsNumber.digitValue u).filter (· < 10)).map
        fun digit => value * 10 + digit) n =
      some (digits.foldl (fun n u => 10 * n + (u.toNat - 0x30)) n) := by
  induction digits generalizing n with
  | nil => rfl
  | cons u digits ih =>
    obtain ⟨hu, hdigits⟩ := List.forall_mem_cons.mp h
    have hrange := toNat_of_isDecimalDigit hu
    have hdigit : (JsNumber.digitValue u).filter (· < 10) = some (u.toNat - 0x30) := by
      rw [JsNumber.digitValue, if_pos hrange, Option.filter_some, if_pos]
      simp only [decide_eq_true_eq]
      omega
    rw [List.foldlM_cons, hdigit, List.foldl_cons, ← ih hdigits, Nat.mul_comm]
    rfl

theorem decimalValue_lt (h : ∀ u ∈ digits, isDecimalDigit u = true) :
    decimalValue digits < 10 ^ digits.length := by
  induction digits using List.reverseRecOn with
  | nil => simp [decimalValue]
  | append_singleton digits u ih =>
    have hu := toNat_of_isDecimalDigit (h u (by simp))
    have hdigits := ih fun v hv => h v (List.mem_append_left _ hv)
    have hvalue : decimalValue (digits ++ [u]) = 10 * decimalValue digits + (u.toNat - 0x30) := by
      simp [decimalValue]
    rw [hvalue, List.length_append, List.length_singleton, pow_succ]
    omega

theorem ofText_of_isNumeral {width : Nat} {text : JsText} (hwidth : width ≤ 3)
    (h : isNumeral width text = true) : JsNumber.ofText text = .finite (decimalValue text) := by
  simp only [isNumeral, Bool.and_eq_true, decide_eq_true_eq, List.all_eq_true] at h
  obtain ⟨⟨hpos, hlength⟩, hdigits⟩ := h
  have hvalue : decimalValue text < 2 ^ 53 :=
    (decimalValue_lt hdigits).trans_le <|
      (Nat.pow_le_pow_right (by decide) (hlength.trans hwidth)).trans (by decide)
  have hspan : JsNumber.spanDigits text = (text, []) := by
    rw [JsNumber.spanDigits, List.span_eq_takeWhile_dropWhile, Prod.mk.injEq,
      List.takeWhile_eq_self_iff, List.dropWhile_eq_nil_iff]
    exact ⟨hdigits, hdigits⟩
  have hdecimal : JsNumber.decimalOf text = some (decimalValue text : ℚ) := by
    have hne : text ≠ [] := List.ne_nil_of_length_pos hpos
    simp [JsNumber.decimalOf, hspan, JsNumber.wholeOfDigits, hne, foldlM_digits hdigits,
      decimalValue, JsNumber.exponentOf]
  have hletter : ∀ u, isDecimalDigit u = false → u ∉ text := by
    intro u hu hmem
    simp [hdigits u hmem] at hu
  have hsign : JsNumber.spanSign text = (1, text) := by
    unfold JsNumber.spanSign
    split
    · exact absurd (by simp) (hletter 43 (by decide))
    · exact absurd (by simp) (hletter 45 (by decide))
    · rfl
  have hword : text ≠ JsText.ofString "Infinity" := by
    rintro rfl
    exact hletter 73 (by decide) (by decide)
  simp only [JsNumber.ofText, trim_of_digits hdigits]
  split
  · simp at hpos
  · exact absurd (by simp) (hletter 98 (by decide))
  · exact absurd (by simp) (hletter 66 (by decide))
  · exact absurd (by simp) (hletter 111 (by decide))
  · exact absurd (by simp) (hletter 79 (by decide))
  · exact absurd (by simp) (hletter 120 (by decide))
  · exact absurd (by simp) (hletter 88 (by decide))
  · simp [hsign, hword, hdecimal, JsNumber.nearest_natCast hvalue]

theorem isWholeUpTo_iff {width bound : Nat} {text : JsText} (hwidth : width ≤ 3)
    (h : isNumeral width text = true) :
    isWholeUpTo bound text = true ↔ decimalValue text ≤ bound := by
  simp [isWholeUpTo, ofText_of_isNumeral hwidth h]

end Numerals

section Versions

theorem mem_intercalate {u separator : UInt16} {parts : List JsText}
    (h : u ∈ [separator].intercalate parts) : u = separator ∨ ∃ part ∈ parts, u ∈ part := by
  induction parts with
  | nil => simp at h
  | cons part parts ih =>
    cases parts with
    | nil => exact .inr ⟨part, List.mem_cons_self, by simpa using h⟩
    | cons next parts =>
      rw [List.intercalate_cons_cons] at h
      rcases List.mem_append.mp h with h | h
      · rcases List.mem_append.mp h with h | h
        · exact .inr ⟨part, List.mem_cons_self, h⟩
        · exact .inl (List.mem_singleton.mp h)
      · rcases ih h with h | ⟨other, hother, hu⟩
        · exact .inl h
        · exact .inr ⟨other, List.mem_cons_of_mem _ hother, hu⟩

theorem isBounded_iff {width bound : Nat} {text : JsText} (hwidth : width ≤ 3) :
    IsBounded width bound text ↔
      isNumeral width text = true ∧ isWholeUpTo bound text = true :=
  and_congr_right fun h => (isWholeUpTo_iff hwidth h).symm

theorem not_mem_of_isNumeral {width : Nat} {text : JsText} {u : UInt16}
    (hu : isDecimalDigit u = false) (h : isNumeral width text = true) : u ∉ text := by
  intro hmem
  simp only [isNumeral, Bool.and_eq_true, List.all_eq_true] at h
  simp [h.2 u hmem] at hu

theorem isIpv4Address_iff :
    IsIpv4Address address ↔
      isDottedQuad address = true ∧ (address.splitOn 0x2E).all (isWholeUpTo 255) = true := by
  have hsplit : IsIpv4Address address ↔ (address.splitOn 0x2E).length = 4 ∧
      ∀ octet ∈ address.splitOn 0x2E, IsBounded 3 255 octet := by
    constructor
    · rintro ⟨octets, hlength, hoctets, rfl⟩
      have hne : octets ≠ [] := List.ne_nil_of_length_pos (by omega)
      rw [List.splitOn_intercalate 0x2E
        (fun octet hoctet => not_mem_of_isNumeral (by decide) (hoctets octet hoctet).1) hne]
      exact ⟨hlength, hoctets⟩
    · rintro ⟨hlength, hoctets⟩
      exact ⟨_, hlength, hoctets, (List.intercalate_splitOn 0x2E).symm⟩
  simp only [hsplit, isDottedQuad, Bool.and_eq_true, decide_eq_true_eq, List.all_eq_true,
    isBounded_iff (le_refl 3), and_assoc]
  exact and_congr_right fun _ => forall₂_and

/-- What stands before and behind the slash of a range. -/
theorem isCidr_iff {IsAddress : JsText → Prop}
    (hslash : ∀ address, IsAddress address → 0x2F ∉ address) (width bound : Nat) (value : JsText) :
    IsCidr IsAddress width bound value ↔
      match value.splitOn 0x2F with
      | [address] => IsAddress address
      | [address, bits] => IsAddress address ∧ IsBounded width bound bits
      | _ => False := by
  constructor
  · rintro (⟨h⟩ | ⟨h, hbits⟩)
    · rwa [List.splitOn_eq_singleton (hslash _ h)]
    · rw [List.splitOn_append_cons_self_of_not_mem (hslash _ h),
        List.splitOn_eq_singleton (not_mem_of_isNumeral (by decide) hbits.1)]
      exact ⟨h, hbits⟩
  · intro h
    have hvalue : [0x2F].intercalate (value.splitOn 0x2F) = value := List.intercalate_splitOn 0x2F
    generalize value.splitOn 0x2F = parts at h hvalue
    match parts with
    | [] => exact h.elim
    | [address] =>
      rw [List.intercalate_singleton] at hvalue
      exact hvalue ▸ .address h
    | [address, bits] =>
      have hjoin : address ++ 0x2F :: bits = value := by simpa using hvalue
      exact hjoin ▸ .range h.1 h.2
    | _ :: _ :: _ :: _ => exact h.elim

theorem all_hexColon {groups : List JsText} (h : ∀ group ∈ groups, IsGroup group) :
    ∀ u ∈ [0x3A].intercalate groups, (isHexDigit u || u = 0x3A) = true := by
  intro u hu
  rcases mem_intercalate hu with rfl | ⟨group, hgroup, hmem⟩
  · simp
  · simp [List.all_eq_true.mp (h group hgroup).2.2 u hmem]

variable {address : JsText}

theorem isHexColonText_of_isIpv6Address (h : IsIpv6Address address) :
    isHexColonText address = true := by
  simp only [isHexColonText, Bool.and_eq_true, List.all_eq_true, List.contains_iff_mem]
  cases h with
  | full groups hlength hgroups =>
    refine ⟨all_hexColon hgroups, ?_⟩
    match groups with
    | first :: second :: rest => simp
  | abbreviated left right hlength hgroups =>
    refine ⟨?_, by simp⟩
    intro u hu
    simp only [List.mem_append] at hu hgroups
    rcases hu with (hu | hu) | hu
    · exact all_hexColon (fun group hgroup => hgroups group (.inl hgroup)) u hu
    · simp_all
    · exact all_hexColon (fun group hgroup => hgroups group (.inr hgroup)) u hu

/-- What is let pass as the sixth version is no slash, and not of the fourth version. -/
theorem not_mem_of_isHexColonText {u : UInt16} (hu : (isHexDigit u || u = 0x3A) = false)
    (h : isHexColonText address = true) :
    u ∉ address := by
  intro hmem
  simp only [isHexColonText, Bool.and_eq_true, List.all_eq_true] at h
  simp [h.1 u hmem] at hu

theorem not_isIpv4Address (h : isHexColonText address = true) :
    ¬IsIpv4Address address := by
  intro hv4
  have hquad := ((isIpv4Address_iff address).mp hv4).1
  rw [isDottedQuad, List.splitOn_eq_singleton (not_mem_of_isHexColonText (by decide) h)] at hquad
  simp at hquad

/-- The kinds of texts that are taken for the sixth version without being of it do not occur. -/
def StrictIpv6 : Prop :=
  match value.splitOn 0x2F with
  | [] => True
  | [address] => isHexColonText address = true → IsIpv6Address address
  | [address, bits] =>
    isHexColonText address = true → isWholeUpTo 128 bits = true →
      IsIpv6Address address ∧ isNumeral 3 bits = true
  | address :: bits :: _ => ¬(isHexColonText address = true ∧ isWholeUpTo 128 bits = true)

theorem isValidIpAllowlistValue_iff_entry :
    (isValidIpAllowlistValue value = true ↔ IsAllowlistEntry value) ↔ StrictIpv6 value := by
  have hslash : ∀ address, IsIpv4Address address → 0x2F ∉ address := by
    rintro address ⟨octets, -, hoctets, rfl⟩ hmem
    rcases mem_intercalate hmem with h | ⟨octet, hoctet, h⟩
    · cases h
    · exact not_mem_of_isNumeral (by decide) (hoctets octet hoctet).1 h
  have hslash' : ∀ address, IsIpv6Address address → 0x2F ∉ address := fun address h =>
    not_mem_of_isHexColonText (by decide) (isHexColonText_of_isIpv6Address h)
  have hvalue : [0x2F].intercalate (value.splitOn 0x2F) = value := List.intercalate_splitOn 0x2F
  rw [IsAllowlistEntry, isCidr_iff hslash, isCidr_iff hslash', isValidIpAllowlistValue,
    isValidIpv4Cidr, isValidIpv6Cidr, StrictIpv6]
  generalize value.splitOn 0x2F = parts at hvalue
  have hcolon : ∀ address rest, parts = address :: rest → isHexColonText address = true →
      value.contains 0x3A = true := by
    rintro address rest rfl h
    simp only [isHexColonText, Bool.and_eq_true, List.contains_iff_mem] at h
    rw [← hvalue, List.contains_iff_mem]
    cases rest with
    | nil => simpa using h.2
    | cons next rest => simp [h.2]
  match parts, hcolon with
  | [], _ => simp
  | [address], hcolon =>
    have hmem := hcolon address [] rfl
    have hv4 := isIpv4Address_iff address
    by_cases h : isHexColonText address = true
    · have hquad := hv4.not.mp (not_isIpv4Address h)
      rw [← Bool.and_eq_true, Bool.not_eq_true] at hquad
      simp [h, List.contains_iff_mem.mp (hmem h), not_isIpv4Address h, hquad]
    · have hv6 := mt isHexColonText_of_isIpv6Address h
      simp [h, hv4, hv6]
  | [address, bits], hcolon =>
    have hmem := hcolon address [bits] rfl
    have hv4 := isIpv4Address_iff address
    simp only [isBounded_iff (show 2 ≤ 3 by decide), isBounded_iff (le_refl 3)]
    by_cases h : isHexColonText address = true
    · have hquad := hv4.not.mp (not_isIpv4Address h)
      have hnone : (isDottedQuad address && isNumeral 2 bits &&
          (address.splitOn 0x2E).all (isWholeUpTo 255) && isWholeUpTo 32 bits) = false := by
        rw [Bool.eq_false_iff]
        simp only [ne_eq, Bool.and_eq_true]
        exact fun hall => hquad ⟨hall.1.1.1, hall.1.2⟩
      simp only [hnone, hmem h, h, Bool.false_or, Bool.true_and, not_isIpv4Address h, false_and,
        false_or, true_implies]
      by_cases hbits : isWholeUpTo 128 bits = true
      · simp [hbits]
      · simp [hbits]
    · have hv6 := mt isHexColonText_of_isIpv6Address h
      simp only [h, hv6, hv4, Bool.and_false, Bool.false_and, Bool.or_false, Bool.and_eq_true,
        false_and, or_false, false_implies, iff_true, Bool.false_eq_true]
      constructor
      · exact fun hall => ⟨⟨hall.1.1.1, hall.1.2⟩, hall.1.1.2, hall.2⟩
      · exact fun hall => ⟨⟨⟨hall.1.1, hall.2.1⟩, hall.1.2⟩, hall.2.2⟩
  | address :: bits :: _ :: _, hcolon =>
    by_cases h : isHexColonText address = true
    · simp [h, List.contains_iff_mem.mp (hcolon address _ rfl h)]
    · simp [h]

end Versions

section Lists

theorem trim_trim : trim (trim value) = trim value := by
  have htrim : ∀ text, trim text =
      (text.dropWhile isWhiteSpace).rdropWhile isWhiteSpace := fun _ => rfl
  have hhead : (trim value).dropWhile isWhiteSpace = trim value := by
    obtain ⟨tail, htail⟩ :=
      List.rdropWhile_prefix isWhiteSpace (value.dropWhile isWhiteSpace)
    have hfront := List.dropWhile_idempotent isWhiteSpace value
    rw [← htail, ← htrim, List.dropWhile_eq_self_iff] at hfront
    cases htext : trim value with
    | nil => rfl
    | cons u rest =>
      rw [htext] at hfront
      simpa using hfront
  rw [htrim (trim value), hhead, htrim, List.rdropWhile_idempotent]

/-- Two entries of a list are the same when what is left of them is. -/
def TrimmedApart (items : List JsText) : Prop :=
  ∀ a ∈ items, ∀ b ∈ items, trim a = trim b → trim a ≠ [] → a = b

variable {items result : List JsText}

theorem mem_distinct {α : Type} [DecidableEq α] (item : α) (items : List α) :
    item ∈ distinct items ↔ item ∈ items :=
  List.mem_eraseDups

theorem normalized_nodup_iff (items : List JsText) :
    ((distinct items).filterMap normalizeText).Nodup ↔ TrimmedApart items := by
  have hnormalize : ∀ item text, normalizeText item = some text ↔
      trim item = text ∧ text ≠ [] := by
    intro item text
    unfold normalizeText
    split
    · next h => simp +contextual [h]
    · next h => exact ⟨fun heq => ⟨Option.some.inj heq, Option.some.inj heq ▸ h⟩,
          fun heq => heq.1 ▸ rfl⟩
  rw [List.Nodup, List.pairwise_filterMap]
  constructor
  · intro h a ha b hb heq hne
    by_contra hab
    have hsymm : Std.Symm fun a b : JsText => ∀ text, normalizeText a = some text →
        ∀ other, normalizeText b = some other → text ≠ other :=
      ⟨fun _ _ h text htext other hother => (h other hother text htext).symm⟩
    exact h.forall ((mem_distinct a items).mpr ha) ((mem_distinct b items).mpr hb) hab _
      ((hnormalize a _).mpr ⟨rfl, hne⟩) _ ((hnormalize b _).mpr ⟨heq.symm, hne⟩) rfl
  · intro h
    refine (GroupBy.nodup_eraseDups items).pairwise_of_forall_ne fun a ha b hb hab => ?_
    rintro text htext _ hother rfl
    obtain ⟨ha', hne⟩ := (hnormalize a text).mp htext
    obtain ⟨hb', -⟩ := (hnormalize b text).mp hother
    exact hab (h a ((mem_distinct a items).mp ha) b ((mem_distinct b items).mp hb)
      (ha'.trans hb'.symm) (ha' ▸ hne))

theorem normalizeAndValidateIpAllowlist_eq_ok
    (h : normalizeAndValidateIpAllowlist (some items) = .ok result) :
    result = (distinct items).filterMap normalizeText ∧
      ∀ item ∈ result, isValidIpAllowlistValue item = true := by
  simp only [normalizeAndValidateIpAllowlist, Option.getD_some] at h
  split at h
  · cases h
  · next hvalid =>
    cases h
    refine ⟨rfl, ?_⟩
    simpa [List.filter_eq_nil_iff] using hvalid

theorem normalizeAndValidateIpAllowlist_again
    (h : normalizeAndValidateIpAllowlist (some items) = .ok result) (hnodup : result.Nodup) :
    normalizeAndValidateIpAllowlist (some result) = .ok result := by
  obtain ⟨rfl, hvalid⟩ := normalizeAndValidateIpAllowlist_eq_ok h
  have hself : ∀ item ∈ (distinct items).filterMap normalizeText,
      normalizeText item = some item := by
    intro item hitem
    obtain ⟨source, -, hsource⟩ := List.mem_filterMap.mp hitem
    simp only [normalizeText] at hsource
    split at hsource
    · cases hsource
    · next hne =>
      cases hsource
      rw [normalizeText, trim_trim, if_neg hne]
  have hagain : (distinct ((distinct items).filterMap normalizeText)).filterMap normalizeText =
      (distinct items).filterMap normalizeText := by
    rw [distinct, GroupBy.eraseDups_of_nodup hnodup, List.filterMap_congr hself,
      List.filterMap_some]
  rw [normalizeAndValidateIpAllowlist, Option.getD_some, hagain]
  refine if_neg (not_not.mpr (List.filter_eq_nil_iff.mpr fun item hitem => ?_))
  simp [hvalid item hitem]

/--
A text is taken exactly when it is an address or a range if and only if it is none of
those that are taken for the sixth version; a list that is normalized has no duplicates,
and is not changed again, if and only if no two of its entries are trimmed to the same.
-/
theorem isValidIpAllowlistValue_grammar_iff (value : JsText) (items : List JsText) :
    ((isValidIpAllowlistValue value = true ↔ IsAllowlistEntry value) ↔ StrictIpv6 value) ∧
      ((∀ result, normalizeAndValidateIpAllowlist (some items) = .ok result →
          result.Nodup ∧ normalizeAndValidateIpAllowlist (some result) = .ok result) ↔
        ∀ result, normalizeAndValidateIpAllowlist (some items) = .ok result →
          TrimmedApart items) := by
  refine ⟨isValidIpAllowlistValue_iff_entry value, forall₂_congr fun result h => ?_⟩
  rw [← normalized_nodup_iff, ← (normalizeAndValidateIpAllowlist_eq_ok h).1]
  exact ⟨And.left, fun hnodup => ⟨hnodup, normalizeAndValidateIpAllowlist_again h hnodup⟩⟩

/-- A slash with nothing behind it is taken for a range. -/
theorem empty_prefix_accepted :
    ¬ ∀ value, isValidIpAllowlistValue value = true ↔ IsAllowlistEntry value := by
  intro h
  have hstrict := (isValidIpAllowlistValue_iff_entry [0x3A, 0x3A, 0x2F]).mp (h _)
  have hnumeral := (hstrict (by decide) (by decide +kernel)).2
  revert hnumeral
  decide

end Lists

end Aiphabee.McpRuntime
