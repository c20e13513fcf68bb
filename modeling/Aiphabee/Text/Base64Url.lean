import Mathlib.Data.List.DropRight

/-!
# Base64 of the source language, and its form for URLs

`btoa` writes three bytes as four characters and pads the last quantum;
`atob` reads it back, with or without padding.  The form for URLs replaces two
characters of the alphabet and leaves the padding out.
-/

namespace Aiphabee.Base64Url

def sextetChar (n : Nat) : Char :=
  if n < 26 then Char.ofNat (65 + n)
  else if n < 52 then Char.ofNat (71 + n)
  else if n < 62 then Char.ofNat (n - 4)
  else if n = 62 then '+'
  else '/'

variable (c : Char)

def charSextet? : Option Nat :=
  let n := c.toNat
  if 65 ≤ n ∧ n ≤ 90 then some (n - 65)
  else if 97 ≤ n ∧ n ≤ 122 then some (n - 71)
  else if 48 ≤ n ∧ n ≤ 57 then some (n + 4)
  else if c = '+' then some 62
  else if c = '/' then some 63
  else none

def toUrl : Char :=
  if c = '+' then '-' else if c = '/' then '_' else c

/-- The character that the URL form stands for. -/
def fromUrl : Char :=
  if c = '-' then '+' else if c = '_' then '/' else c

/-- The characters of the pattern `[A-Za-z0-9_-]`. -/
def isUrlCharacter : Bool :=
  c.isAlphanum || c = '_' || c = '-'

theorem sextetChar_spec :
    ∀ n < 64,
      charSextet? (sextetChar n) = some n ∧ sextetChar n ≠ '=' ∧
        fromUrl (toUrl (sextetChar n)) = sextetChar n ∧
        isUrlCharacter (toUrl (sextetChar n)) = true ∧ toUrl (sextetChar n) ≠ '=' := by
  decide

/-- The sextets of some bytes; the last one is filled up with zero bits. -/
def sextets : List UInt8 → List Nat
  | [] => []
  | [a] => [a.toNat / 4, a.toNat % 4 * 16]
  | [a, b] => [a.toNat / 4, a.toNat % 4 * 16 + b.toNat / 16, b.toNat % 16 * 4]
  | a :: b :: c :: rest =>
    a.toNat / 4 :: (a.toNat % 4 * 16 + b.toNat / 16) :: (b.toNat % 16 * 4 + c.toNat / 64) ::
      c.toNat % 64 :: sextets rest

def bytesOfSextets : List Nat → List UInt8
  | a :: b :: c :: d :: rest =>
    UInt8.ofNat (a * 4 + b / 16) :: UInt8.ofNat (b % 16 * 16 + c / 4) ::
      UInt8.ofNat (c % 4 * 64 + d) :: bytesOfSextets rest
  | [a, b, c] => [UInt8.ofNat (a * 4 + b / 16), UInt8.ofNat (b % 16 * 16 + c / 4)]
  | [a, b] => [UInt8.ofNat (a * 4 + b / 16)]
  | _ => []

/-- The number of padding characters that complete the last quantum. -/
def paddingLength (length : Nat) : Nat :=
  (4 - length % 4) % 4

variable (bytes : List UInt8)

def btoa : List Char :=
  let body := (sextets bytes).map sextetChar
  body ++ List.replicate (paddingLength body.length) '='

/-- The text without white space and without the padding of a last quantum. -/
def atobBody (text : List Char) : List Char :=
  let compact := text.filter fun c =>
    !(c = ' ' || c = '\t' || c = '\n' || c = '\x0C' || c = '\r')
  if compact.length % 4 = 0 then
    if ['=', '='].isSuffixOf compact then compact.dropLast.dropLast
    else if ['='].isSuffixOf compact then compact.dropLast
    else compact
  else
    compact

/-- Base64 read back; it fails on other characters and on a single last one. -/
def atob (text : List Char) : Option (List UInt8) :=
  let body := atobBody text
  if body.length % 4 = 1 then none
  else (body.mapM charSextet?).map bytesOfSextets

/-- Base64 for URLs: other characters, and no padding. -/
def bytesToBase64Url : List Char :=
  ((btoa bytes).map toUrl).rdropWhile (· = '=')

/-- Base64 for URLs read back, with the padding put on again. -/
def base64UrlToBytes (value : List Char) : Option (List UInt8) :=
  let normalized := value.map fromUrl
  atob (normalized ++ List.replicate (paddingLength normalized.length) '=')

/-- Bytes become four sextets for every three, and less for the last ones. -/
theorem length_sextets :
    (sextets bytes).length = (4 * bytes.length + 2) / 3 := by
  fun_induction sextets bytes with
  | case1 => rfl
  | case2 a => simp
  | case3 a b => simp
  | case4 a b c rest ih =>
    simp only [List.length_cons, ih]
    omega

theorem sextets_lt : ∀ n ∈ sextets bytes, n < 64 := by
  fun_induction sextets bytes with
  | case1 => simp
  | case2 a =>
    have ha := a.toNat_lt
    intro n hn
    simp only [List.mem_cons, List.not_mem_nil, or_false] at hn
    omega
  | case3 a b =>
    have ha := a.toNat_lt
    have hb := b.toNat_lt
    intro n hn
    simp only [List.mem_cons, List.not_mem_nil, or_false] at hn
    omega
  | case4 a b c rest ih =>
    have ha := a.toNat_lt
    have hb := b.toNat_lt
    have hc := c.toNat_lt
    intro n hn
    simp only [List.mem_cons] at hn
    rcases hn with hn | hn | hn | hn | hn
    · omega
    · omega
    · omega
    · omega
    · exact ih n hn

theorem ofNat_eq {n : Nat} {byte : UInt8} (h : n = byte.toNat) : UInt8.ofNat n = byte := by
  rw [h, UInt8.ofNat_toNat]

theorem bytesOfSextets_sextets : bytesOfSextets (sextets bytes) = bytes := by
  fun_induction sextets bytes with
  | case1 => rfl
  | case2 a =>
    have ha := a.toNat_lt
    simp only [bytesOfSextets, List.cons.injEq, and_true]
    exact ofNat_eq (by omega)
  | case3 a b =>
    have ha := a.toNat_lt
    have hb := b.toNat_lt
    simp only [bytesOfSextets, List.cons.injEq, and_true]
    exact ⟨ofNat_eq (by omega), ofNat_eq (by omega)⟩
  | case4 a b c rest ih =>
    have ha := a.toNat_lt
    have hb := b.toNat_lt
    have hc := c.toNat_lt
    simp only [bytesOfSextets, ih, List.cons.injEq, and_true]
    exact ⟨ofNat_eq (by omega), ofNat_eq (by omega), ofNat_eq (by omega)⟩

theorem bytesToBase64Url_eq :
    bytesToBase64Url bytes = (sextets bytes).map fun n => toUrl (sextetChar n) := by
  have hbody : ∀ body : List Char, (∀ c ∈ body, c ≠ '=') → ∀ k,
      (body ++ List.replicate k '=').rdropWhile (· = '=') = body := by
    intro body hbody k
    induction k with
    | zero =>
      rw [List.replicate_zero, List.append_nil]
      refine List.rdropWhile_eq_self_iff.mpr fun hne => ?_
      simpa using hbody _ (List.getLast_mem hne)
    | succ k ih =>
      rw [List.replicate_succ', ← List.append_assoc, List.rdropWhile_concat_pos _ _ _ (by simp)]
      exact ih
  rw [bytesToBase64Url, btoa, List.map_append, List.map_replicate, List.map_map]
  refine hbody _ ?_ _
  intro c hc
  obtain ⟨n, hn, rfl⟩ := List.mem_map.mp hc
  exact (sextetChar_spec n (sextets_lt bytes n hn)).2.2.2.2

theorem length_bytesToBase64Url :
    (bytesToBase64Url bytes).length = (4 * bytes.length + 2) / 3 := by
  rw [bytesToBase64Url_eq, List.length_map, length_sextets]

theorem all_isUrlCharacter :
    ∀ c ∈ bytesToBase64Url bytes, isUrlCharacter c = true := by
  intro c hc
  rw [bytesToBase64Url_eq] at hc
  obtain ⟨n, hn, rfl⟩ := List.mem_map.mp hc
  exact (sextetChar_spec n (sextets_lt bytes n hn)).2.2.2.1

theorem atobBody_padded {body : List Char} (hbody : ∀ c ∈ body, charSextet? c ≠ none)
    (hlength : body.length % 4 ≠ 1) :
    atobBody (body ++ List.replicate (paddingLength body.length) '=') = body := by
  have hcompact : ∀ k,
      (body ++ List.replicate k '=').filter (fun c =>
        !(c = ' ' || c = '\t' || c = '\n' || c = '\x0C' || c = '\r')) =
        body ++ List.replicate k '=' := by
    intro k
    refine List.filter_eq_self.mpr fun c hc => ?_
    rcases List.mem_append.mp hc with hc | hc
    · have hne := hbody c hc
      simp only [Bool.not_eq_true', Bool.or_eq_false_iff, decide_eq_false_iff_not]
      refine ⟨⟨⟨⟨?_, ?_⟩, ?_⟩, ?_⟩, ?_⟩ <;> rintro rfl <;> exact hne rfl
    · obtain rfl := List.eq_of_mem_replicate hc
      decide
  have hlast : ['='].isSuffixOf body = false := by
    rw [← Bool.not_eq_true, List.isSuffixOf_iff_suffix]
    rintro ⟨front, rfl⟩
    exact hbody '=' (by simp) rfl
  simp only [atobBody, hcompact]
  have hcases : body.length % 4 = 0 ∨ body.length % 4 = 2 ∨ body.length % 4 = 3 := by omega
  rcases hcases with h | h | h
  · -- No padding: the last character is one of the alphabet.
    have htwo : ['=', '='].isSuffixOf body = false := by
      rw [← Bool.not_eq_true, List.isSuffixOf_iff_suffix]
      rintro ⟨front, rfl⟩
      exact hbody '=' (by simp) rfl
    simp [paddingLength, h, hlast, htwo]
  · have htwo : ['=', '='].isSuffixOf (body ++ ['=', '=']) = true :=
      List.isSuffixOf_iff_suffix.mpr (List.suffix_append _ _)
    have hmod : (body.length + 2) % 4 = 0 := by omega
    simp [paddingLength, h, htwo, hmod, List.replicate]
  · have hone : ['='].isSuffixOf (body ++ ['=']) = true :=
      List.isSuffixOf_iff_suffix.mpr (List.suffix_append _ _)
    have htwo : ['=', '='].isSuffixOf (body ++ ['=']) = false := by
      rw [← Bool.not_eq_true, List.isSuffixOf_iff_suffix]
      rintro ⟨front, hfront⟩
      have hbody' : front ++ ['='] = body := by
        have := congrArg List.dropLast hfront
        simpa using this
      exact hbody '=' (by simp [← hbody']) rfl
    have hmod : (body.length + 1) % 4 = 0 := by omega
    simp [paddingLength, h, hone, htwo, hmod]

/-- Bytes are read back from base64 for URLs, whatever their number. -/
theorem base64UrlToBytes_bytesToBase64Url :
    base64UrlToBytes (bytesToBase64Url bytes) = some bytes := by
  have hlength := length_sextets bytes
  have hnormalized : (bytesToBase64Url bytes).map fromUrl = (sextets bytes).map sextetChar := by
    rw [bytesToBase64Url_eq, List.map_map]
    refine List.map_congr_left fun n hn => ?_
    exact (sextetChar_spec n (sextets_lt bytes n hn)).2.2.1
  have hchars : ∀ c ∈ (sextets bytes).map sextetChar, charSextet? c ≠ none := by
    intro c hc
    obtain ⟨n, hn, rfl⟩ := List.mem_map.mp hc
    rw [(sextetChar_spec n (sextets_lt bytes n hn)).1]
    simp
  have hquantum : ((sextets bytes).map sextetChar).length % 4 ≠ 1 := by
    rw [List.length_map, hlength]
    omega
  have hread : ((sextets bytes).map sextetChar).mapM charSextet? = some (sextets bytes) := by
    have hall : ∀ ns : List Nat, (∀ n ∈ ns, n < 64) →
        (ns.map sextetChar).mapM charSextet? = some ns := by
      intro ns hns
      induction ns with
      | nil => rfl
      | cons n rest ih =>
        have hn := (sextetChar_spec n (hns n List.mem_cons_self)).1
        have hrest := ih fun m hm => hns m (List.mem_cons_of_mem _ hm)
        simp [List.mapM_cons, hn, hrest]
    exact hall _ (sextets_lt bytes)
  simp only [base64UrlToBytes, hnormalized]
  simp only [atob, atobBody_padded hchars hquantum, if_neg hquantum, hread, Option.map_some,
    bytesOfSextets_sextets]

end Aiphabee.Base64Url
