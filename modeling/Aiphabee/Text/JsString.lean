import Mathlib.Algebra.GroupWithZero.Nat
import Mathlib.Data.List.Lex

/-!
# String functions of the source language

The validators of the repository measure strings in UTF-16 code units, trim the
white space of the language, and look for control characters.
-/

namespace Aiphabee.JsString

variable (value : String)

def utf16Length : Nat :=
  (value.toList.map fun c => if 0x10000 ≤ c.toNat then 2 else 1).sum

/-- The UTF-16 code units of a character. -/
def charUnits (c : Char) : List Nat :=
  let n := c.toNat
  if 0x10000 ≤ n then [0xD800 + (n - 0x10000) / 0x400, 0xDC00 + (n - 0x10000) % 0x400]
  else [n]

def codeUnits : List Nat :=
  value.toList.flatMap charUnits

/-- The order in which `sort` without a comparator puts strings. -/
def sortsBefore (left right : String) : Bool :=
  codeUnits left ≤ codeUnits right

def sort (values : List String) : List String :=
  values.mergeSort sortsBefore

def isWhiteSpace (c : Char) : Bool :=
  let n := c.toNat
  (9 ≤ n && n ≤ 13) || n == 0x20 || n == 0xA0 || n == 0x1680 ||
    (0x2000 ≤ n && n ≤ 0x200A) || n == 0x2028 || n == 0x2029 || n == 0x202F ||
    n == 0x205F || n == 0x3000 || n == 0xFEFF

def trim : String :=
  String.ofList
    ((value.toList.dropWhile isWhiteSpace).reverse.dropWhile isWhiteSpace).reverse

theorem trim_of_forall {value : String} (h : ∀ c ∈ value.toList, isWhiteSpace c = false) :
    trim value = value := by
  have hdrop : ∀ chars : List Char,
      (∀ c ∈ chars, isWhiteSpace c = false) →
        chars.dropWhile isWhiteSpace = chars := by
    intro chars hchars
    cases chars with
    | nil => rfl
    | cons head rest => simp [hchars head List.mem_cons_self]
  have hreverse := hdrop value.toList.reverse (by simpa using h)
  simp [trim, hdrop _ h, hreverse]

/--
A letter in lower case.  The letters outside ASCII are left as they are when
their lower case is outside ASCII too: no test for letters of ASCII shows it.
-/
def toLowerCase (c : Char) : List Char :=
  if c = '\u212A' then ['k']
  else if c = '\u0130' then ['i', '\u0307']
  else [c.toLower]

def byteHex (byte : Nat) : List Char :=
  let digits := "0123456789abcdef".toList
  [digits.getD (byte / 16 % 16) '0', digits.getD (byte % 16) '0']

def hex (bytes : List UInt8) : String :=
  String.ofList (bytes.flatMap fun byte => byteHex byte.toNat)

theorem isWhiteSpace_hex (bytes : List UInt8) :
    ∀ c ∈ (hex bytes).toList, isWhiteSpace c = false := by
  have hdigit : ∀ n < 16,
      isWhiteSpace ("0123456789abcdef".toList.getD n '0') = false := by
    decide
  intro c hc
  obtain ⟨byte, _, hc⟩ : ∃ byte ∈ bytes, c ∈ byteHex byte.toNat := by
    simpa [hex] using hc
  rcases List.mem_cons.mp hc with rfl | hc
  · exact hdigit _ (Nat.mod_lt _ (by decide))
  · obtain rfl := List.mem_singleton.mp hc
    exact hdigit _ (Nat.mod_lt _ (by decide))

def hasControlCharacter : Bool :=
  value.toList.any fun c => c.toNat ≤ 0x1F || c.toNat == 0x7F

theorem sort_pairwise (values : List String) :
    (sort values).Pairwise fun left right => codeUnits left ≤ codeUnits right := by
  have h : (sort values).Pairwise fun left right => sortsBefore left right = true := by
    refine List.pairwise_mergeSort ?_ ?_ values
    · intro a b c hab hbc
      simp only [sortsBefore, decide_eq_true_eq] at hab hbc ⊢
      exact le_trans hab hbc
    · intro a b
      simp only [sortsBefore, Bool.or_eq_true, decide_eq_true_eq]
      exact le_total _ _
  exact h.imp fun h => of_decide_eq_true h

end Aiphabee.JsString
