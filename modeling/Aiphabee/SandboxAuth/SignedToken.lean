import Aiphabee.Text.Base64Url
import Aiphabee.Text.Checks
import Aiphabee.Text.JsNumber
import Aiphabee.Text.JsText

/-!
# Signed tokens

A token is a payload and its keyed hash, both in base64 for URLs and joined by
a dot.  The run token and the tool gateway token share this envelope; they
differ in the texts of their errors.

The two hash functions and the parser of JSON are given by the platform.
-/

namespace Aiphabee.SandboxAuth

open JsText (encode encodeUtf8 utf8Size)
open Checks

inductive SandboxRunTokenErrorCode
  | INVALID_CLAIMS
  | INVALID_SCOPE
  | INVALID_SECRET
  | INVALID_SIGNATURE
  | INVALID_TOKEN
  | TOKEN_EXPIRED
  | TOKEN_NOT_YET_VALID
deriving DecidableEq

structure SandboxRunTokenError where
  code : SandboxRunTokenErrorCode
  message : String

abbrev Result (α : Type) := Except SandboxRunTokenError α

inductive JsonValue
  | null
  | boolean (value : Bool)
  | number (value : JsNumber)
  | string (value : JsText)
  | array (elements : List JsonValue)
  | object (fields : List (JsText × JsonValue))

/-- What the runtime gives: the hash functions, and the parser of JSON. -/
structure Platform where
  sha256 : List UInt8 → Fin 32 → UInt8
  hmacSha256 : List UInt8 → List UInt8 → Fin 32 → UInt8
  parseJson : Utf8Text → Option JsonValue

def objectFields : JsonValue → Option (List (JsText × JsonValue))
  | .object fields => some fields
  | _ => none

variable (fields : List (JsText × JsonValue))
variable (key : String)

def fieldValue : Option JsonValue :=
  (fields.find? fun field => field.1 = JsText.ofString key).map Prod.snd

def hasExactKeys (keys : List String) : Bool :=
  fields.length = keys.length && keys.all fun key => (fieldValue fields key).isSome

def stringField : Option JsText :=
  match fieldValue fields key with
  | some (.string value) => some value
  | _ => none

/-- `Number.MAX_SAFE_INTEGER`. -/
def maxSafeInteger : Int := 2 ^ 53 - 1

def safeInteger? : JsNumber → Option Int
  | .finite value =>
    if value.den = 1 ∧ -maxSafeInteger ≤ value.num ∧ value.num ≤ maxSafeInteger then
      some value.num
    else
      none
  | _ => none

def safeIntegerField : Option Int :=
  match fieldValue fields key with
  | some (.number value) => safeInteger? value
  | _ => none

def stringArrayField : Option (List JsText) :=
  match fieldValue fields key with
  | some (.array elements) =>
    elements.mapM fun element =>
      match element with
      | .string value => some value
      | _ => none
  | _ => none

/-- The characters of the pattern `[A-Za-z0-9]`. -/
def isAlphanumeric (u : UInt16) : Bool :=
  (65 ≤ u.toNat && u.toNat ≤ 90) || (97 ≤ u.toNat && u.toNat ≤ 122) ||
    (48 ≤ u.toNat && u.toNat ≤ 57)

/-- The pattern `^[A-Za-z0-9][A-Za-z0-9._:-]{7,127}$`. -/
def isRunId : JsText → Bool
  | [] => false
  | first :: rest =>
    isAlphanumeric first && 7 ≤ rest.length && rest.length ≤ 127 &&
      rest.all fun u =>
        isAlphanumeric u || u.toNat = 46 || u.toNat = 95 || u.toNat = 58 || u.toNat = 45

/-- The pattern `^[a-f0-9]{64}$`. -/
def isHash (value : JsText) : Bool :=
  value.length = 64 &&
    value.all fun u => (97 ≤ u.toNat && u.toNat ≤ 102) || (48 ≤ u.toNat && u.toNat ≤ 57)

/-- The pattern `^[a-z][a-z0-9_]{0,127}$`. -/
def isToolName : JsText → Bool
  | [] => false
  | first :: rest =>
    (97 ≤ first.toNat && first.toNat ≤ 122) && rest.length ≤ 127 &&
      rest.all fun u =>
        (97 ≤ u.toNat && u.toNat ≤ 122) || (48 ≤ u.toNat && u.toNat ≤ 57) || u.toNat = 95

section Clock

/-- `Math.floor(nowMs / 1000)`. -/
def secondsOf : JsNumber → JsNumber
  | .finite value => .finite ⌊value / 1000⌋
  | other => other

def maxTokenTtlSeconds : Int := 600

def maxClockSkewSeconds : Int := 30

def numberOf (n : Int) : JsNumber :=
  .finite n

/-- The comparison `a < b`. -/
def numberLt (a b : JsNumber) : Bool :=
  JsNumber.le a b && !JsNumber.le b a

def addSeconds : JsNumber → Int → JsNumber
  | .finite value, n => .finite (value + n)
  | other, _ => other

/-- The times from 30 seconds before a token was issued up to the end of its validity. -/
def InWindow (iat exp : Int) (time : ℚ) : Prop :=
  1000 * ((iat : ℚ) - 30) ≤ time ∧ time < 1000 * (exp : ℚ)

def ClockAccepts (iat exp : Int) (nowSeconds : JsNumber) : Prop :=
  ¬numberLt (addSeconds nowSeconds maxClockSkewSeconds) (numberOf iat) ∧
    ¬JsNumber.le (numberOf exp) nowSeconds

theorem clock_iff (iat exp : Int) (time : ℚ) :
    ClockAccepts iat exp (secondsOf (.finite time)) ↔ InWindow iat exp time := by
  have hissued : ¬numberLt (addSeconds (secondsOf (.finite time)) maxClockSkewSeconds)
      (numberOf iat) ↔ iat - 30 ≤ ⌊time / 1000⌋ := by
    simp only [numberLt, addSeconds, secondsOf, numberOf, JsNumber.le, maxClockSkewSeconds,
      Bool.and_eq_true, Bool.not_eq_true', decide_eq_true_eq, decide_eq_false_iff_not, not_and,
      not_not]
    norm_cast
    omega
  have hexpires : ¬JsNumber.le (numberOf exp) (secondsOf (.finite time)) ↔
      ⌊time / 1000⌋ < exp := by
    simp only [secondsOf, numberOf, JsNumber.le, decide_eq_true_eq, not_le]
    norm_cast
  rw [ClockAccepts, hissued, hexpires, Int.le_floor, Int.floor_lt, InWindow,
    le_div_iff₀ (by norm_num),
    div_lt_iff₀ (by norm_num)]
  push_cast
  constructor <;> rintro ⟨hlow, hhigh⟩ <;> constructor <;> linarith

theorem safeInteger_bounds {value : JsNumber} {n : Int} (h : safeInteger? value = some n) :
    value = numberOf n ∧ -maxSafeInteger ≤ n ∧ n ≤ maxSafeInteger := by
  cases value with
  | nan => cases h
  | infinity negative => cases h
  | finite value =>
    rw [safeInteger?, Option.ite_none_right_eq_some] at h
    obtain ⟨⟨hden, hlow, hhigh⟩, hn⟩ := h
    obtain rfl := Option.some.inj hn
    refine ⟨?_, hlow, hhigh⟩
    rw [numberOf, (Rat.den_eq_one_iff value).mp hden]

theorem safeInteger_numberOf {n : Int} (h : -maxSafeInteger ≤ n ∧ n ≤ maxSafeInteger) :
    safeInteger? (numberOf n) = some n := by
  rw [numberOf, safeInteger?, Option.ite_none_right_eq_some]
  rw [Rat.num_intCast]
  exact ⟨⟨Rat.den_intCast n, h⟩, rfl⟩

theorem clockAccepts_issue {iat exp : Int} (h : iat < exp) :
    ClockAccepts iat exp (numberOf iat) := by
  constructor
  · simp only [numberLt, addSeconds, numberOf, JsNumber.le, maxClockSkewSeconds,
      Bool.and_eq_true, Bool.not_eq_true', decide_eq_true_eq, decide_eq_false_iff_not, not_and,
      not_not]
    norm_cast
    omega
  · simp only [numberOf, JsNumber.le, decide_eq_true_eq, not_le]
    exact_mod_cast h

variable {fields : List (JsText × JsonValue)}

theorem safeIntegerField_range {key : String} {n : Int} (h : safeIntegerField fields key = some n) :
    -maxSafeInteger ≤ n ∧ n ≤ maxSafeInteger := by
  rw [safeIntegerField] at h
  split at h
  · exact (safeInteger_bounds h).2
  · cases h

theorem objectFields_eq_some {value : JsonValue} (h : objectFields value = some fields) :
    value = .object fields := by
  cases value <;> simp [objectFields] at h
  rw [h]

end Clock

structure EnvelopeMessages where
  tooLong : String
  twoParts : String
  badSignature : String
  notJson : String

/-- The character of a code unit; a surrogate has none that occurs in a token. -/
def unitChar (u : UInt16) : Char :=
  Char.ofNat u.toNat

def base64UrlToBytes (value : JsText) : Result (List UInt8) := do
  let chars := value.map unitChar
  ensure (chars ≠ [] ∧ chars.all Base64Url.isUrlCharacter)
    ⟨.INVALID_TOKEN, "token contains invalid base64url data"⟩
  require (Base64Url.base64UrlToBytes chars)
    ⟨.INVALID_TOKEN, "token contains malformed base64url data"⟩

def importHmacKey (secret : JsText) : Result (List UInt8) := do
  ensure (32 ≤ (encode secret).length)
    ⟨.INVALID_SECRET, "sandbox run token secret must be at least 32 bytes"⟩
  pure (encode secret)

/-- The keyed hash of some bytes. -/
def sign (platform : Platform) (key bytes : List UInt8) : List UInt8 :=
  List.ofFn (platform.hmacSha256 key bytes)

def tokenPart (bytes : List UInt8) : JsText :=
  JsText.ofChars (Base64Url.bytesToBase64Url bytes)

def sealToken (platform : Platform) (secret : JsText) (payloadText : Utf8Text) : Result JsText := do
  let payloadBytes := encodeUtf8 payloadText
  let key ← importHmacKey secret
  let signature := sign platform key payloadBytes
  pure (tokenPart payloadBytes ++ 46 :: tokenPart signature)

def maxTokenLength : Nat := 4096

def openToken (platform : Platform) (messages : EnvelopeMessages) (token secret : JsText) :
    Result (Utf8Text × JsonValue) := do
  ensure (token.length ≤ maxTokenLength) ⟨.INVALID_TOKEN, messages.tooLong⟩
  match token.splitOn 46 with
  | [payloadPart, signaturePart] =>
    let payloadBytes ← base64UrlToBytes payloadPart
    let signature ← base64UrlToBytes signaturePart
    let key ← importHmacKey secret
    ensure (signature = sign platform key payloadBytes)
      ⟨.INVALID_SIGNATURE, messages.badSignature⟩
    let payloadText ← require (JsText.decodeUtf8 payloadBytes)
      ⟨.INVALID_TOKEN, messages.notJson⟩
    let parsed ← require (platform.parseJson payloadText)
      ⟨.INVALID_TOKEN, messages.notJson⟩
    pure (payloadText, parsed)
  | _ => throw ⟨.INVALID_TOKEN, messages.twoParts⟩

section EnvelopeRoundTrip

variable {platform : Platform}
variable {secret token : JsText}
variable {payloadText : Utf8Text}

theorem importHmacKey_eq_ok {key : List UInt8} :
    importHmacKey secret = .ok key ↔
      32 ≤ (encode secret).length ∧ encode secret = key := by
  simp only [importHmacKey, bind_eq_ok, ensure_eq_ok]
  constructor
  · rintro ⟨_, hlength, hkey⟩
    exact ⟨hlength, Except.ok.inj hkey⟩
  · rintro ⟨hlength, rfl⟩
    exact ⟨(), hlength, rfl⟩

theorem isUrlCharacter_ascii {c : Char} (h : Base64Url.isUrlCharacter c = true) :
    c.toNat < 0x80 ∧ c.toNat ≠ 46 := by
  have h : (((decide (65 ≤ c.val ∧ c.val ≤ 90) || (97 ≤ c.val && c.val ≤ 122)) ||
      (48 ≤ c.val && c.val ≤ 57)) || c = '_' || c = '-') = true := h
  simp only [Bool.or_eq_true, Bool.and_eq_true, decide_eq_true_eq,
    UInt32.le_iff_toNat_le] at h
  rcases h with (((h | h) | h) | rfl) | rfl
  · have hlow : 65 ≤ c.val.toNat ∧ c.val.toNat ≤ 90 := h
    change c.val.toNat < 0x80 ∧ c.val.toNat ≠ 46
    omega
  · have hlow : 97 ≤ c.val.toNat ∧ c.val.toNat ≤ 122 := h
    change c.val.toNat < 0x80 ∧ c.val.toNat ≠ 46
    omega
  · have hlow : 48 ≤ c.val.toNat ∧ c.val.toNat ≤ 57 := h
    change c.val.toNat < 0x80 ∧ c.val.toNat ≠ 46
    omega
  · decide
  · decide

theorem tokenPart_spec (bytes : List UInt8) :
    (tokenPart bytes).map unitChar = Base64Url.bytesToBase64Url bytes ∧
      46 ∉ tokenPart bytes ∧
      (tokenPart bytes).length = (4 * bytes.length + 2) / 3 := by
  have hascii : ∀ c ∈ Base64Url.bytesToBase64Url bytes, c.toNat < 0x80 ∧ c.toNat ≠ 46 :=
    fun c hc => isUrlCharacter_ascii (Base64Url.all_isUrlCharacter bytes c hc)
  have hunits : ∀ c ∈ Base64Url.bytesToBase64Url bytes,
      (UInt16.ofNat c.toNat).toNat = c.toNat := by
    intro c hc
    have hc := (hascii c hc).1
    exact UInt16.toNat_ofNat_of_lt' (hc.trans (by decide))
  rw [tokenPart, JsText.ofChars_ascii fun c hc => (hascii c hc).1]
  refine ⟨?_, ?_, ?_⟩
  · rw [List.map_map]
    refine (List.map_congr_left fun c hc => ?_).trans (List.map_id _)
    simp only [Function.comp_apply, unitChar, hunits c hc, Char.ofNat_toNat, id]
  · intro hdot
    obtain ⟨c, hc, heq⟩ := List.mem_map.mp hdot
    have hnat := congrArg UInt16.toNat heq
    rw [hunits c hc] at hnat
    exact (hascii c hc).2 hnat
  · rw [List.length_map, Base64Url.length_bytesToBase64Url]

theorem base64UrlToBytes_tokenPart {bytes : List UInt8} (h : bytes ≠ []) :
    base64UrlToBytes (tokenPart bytes) = .ok bytes := by
  obtain ⟨hchars, -, -⟩ := tokenPart_spec bytes
  have hne : Base64Url.bytesToBase64Url bytes ≠ [] := by
    have hpositive : 0 < bytes.length := List.length_pos_iff.mpr h
    rw [← List.length_pos_iff, Base64Url.length_bytesToBase64Url]
    omega
  have hall : (Base64Url.bytesToBase64Url bytes).all Base64Url.isUrlCharacter = true :=
    List.all_eq_true.mpr (Base64Url.all_isUrlCharacter bytes)
  simp only [base64UrlToBytes, hchars, ensure_of _ (And.intro hne hall), ok_bind,
    Base64Url.base64UrlToBytes_bytesToBase64Url, require_some]

theorem sealToken_eq_ok :
    sealToken platform secret payloadText = .ok token ↔
      32 ≤ (encode secret).length ∧
        token =
          tokenPart (encodeUtf8 payloadText) ++
            46 :: tokenPart
              (sign platform (encode secret) (encodeUtf8 payloadText)) := by
  simp only [sealToken, bind_eq_ok, importHmacKey_eq_ok]
  constructor
  · rintro ⟨key, ⟨hlength, rfl⟩, htoken⟩
    exact ⟨hlength, (Except.ok.inj htoken).symm⟩
  · rintro ⟨hlength, rfl⟩
    exact ⟨_, ⟨hlength, rfl⟩, rfl⟩

theorem length_sealToken (h : sealToken platform secret payloadText = .ok token) :
    token.length = (4 * utf8Size payloadText + 2) / 3 + 44 := by
  obtain ⟨-, rfl⟩ := sealToken_eq_ok.mp h
  rw [List.length_append, List.length_cons, (tokenPart_spec _).2.2, (tokenPart_spec _).2.2,
    JsText.length_encodeUtf8, sign, List.length_ofFn]

theorem openToken_sealToken {rest : Utf8Text} {value : JsonValue} (messages : EnvelopeMessages)
    (hsealed : sealToken platform secret ('{' :: rest) = .ok token)
    (hlength : token.length ≤ maxTokenLength)
    (hparsed : platform.parseJson ('{' :: rest) = some value) :
    openToken platform messages token secret = .ok ('{' :: rest, value) := by
  obtain ⟨hsecret, rfl⟩ := sealToken_eq_ok.mp hsealed
  have hsplit :
      (tokenPart (encodeUtf8 ('{' :: rest)) ++
        46 :: tokenPart (sign platform (encode secret)
          (encodeUtf8 ('{' :: rest)))).splitOn 46 =
        [tokenPart (encodeUtf8 ('{' :: rest)),
          tokenPart (sign platform (encode secret)
            (encodeUtf8 ('{' :: rest)))] := by
    rw [List.splitOn_append_cons_self_of_not_mem (tokenPart_spec _).2.1,
      List.splitOn_eq_singleton (tokenPart_spec _).2.1]
  have hpayload : encodeUtf8 ('{' :: rest) ≠ [] := by
    rw [show encodeUtf8 ('{' :: rest) = 0x7B :: encodeUtf8 rest from rfl]
    exact List.cons_ne_nil _ _
  have hsignature :
      sign platform (encode secret) (encodeUtf8 ('{' :: rest)) ≠ [] := by
    rw [← List.length_pos_iff, sign, List.length_ofFn]
    decide
  have hkey : importHmacKey secret = .ok (encode secret) :=
    importHmacKey_eq_ok.mpr ⟨hsecret, rfl⟩
  rw [openToken, ensure_of _ hlength, ok_bind, hsplit]
  simp only [base64UrlToBytes_tokenPart hpayload, base64UrlToBytes_tokenPart hsignature, hkey,
    ok_bind, ensure_of, JsText.decodeUtf8_encodeUtf8, require_some, hparsed]
  rfl

theorem openToken_of_length (messages : EnvelopeMessages) (h : maxTokenLength < token.length) :
    openToken platform messages token secret = .error ⟨.INVALID_TOKEN, messages.tooLong⟩ := by
  rw [openToken, ensure_of_not _ (Nat.not_le.mpr h), error_bind]

structure Carries
    (platform : Platform)
    (token secret : JsText)
    (payloadText : Utf8Text)
    (parsed : JsonValue) : Prop where
  parsed : platform.parseJson payloadText = some parsed
  parts : ∃ payloadPart signaturePart payloadBytes,
    token = payloadPart ++ 46 :: signaturePart ∧
      base64UrlToBytes payloadPart = .ok payloadBytes ∧
      base64UrlToBytes signaturePart =
        .ok (sign platform (encode secret) payloadBytes) ∧
      JsText.decodeUtf8 payloadBytes = some payloadText

variable {messages : EnvelopeMessages}

theorem carries_of_openToken {parsed : JsonValue}
    (h : openToken platform messages token secret = .ok (payloadText, parsed)) :
    Carries platform token secret payloadText parsed := by
  simp only [openToken, bind_eq_ok, ensure_eq_ok] at h
  obtain ⟨-, -, h⟩ := h
  split at h
  next payloadPart signaturePart hsplit =>
    simp only [bind_eq_ok, ensure_eq_ok, require_eq_ok,
      importHmacKey_eq_ok] at h
    obtain ⟨payloadBytes, hpayload, signature, hsignature, key, ⟨-, rfl⟩, _, rfl, text, htext,
      value, hvalue, hresult⟩ := h
    obtain ⟨rfl, rfl⟩ := Prod.mk.inj (Except.ok.inj hresult)
    refine ⟨hvalue, payloadPart, signaturePart, payloadBytes, ?_, hpayload, hsignature, htext⟩
    have hjoin : [46].intercalate (token.splitOn 46) = token := List.intercalate_splitOn 46
    rw [hsplit] at hjoin
    simpa [List.intercalate] using hjoin.symm
  next => cases h

theorem secret_of_openToken {opened : Utf8Text × JsonValue}
    (h : openToken platform messages token secret = .ok opened) :
    32 ≤ (encode secret).length := by
  simp only [openToken, bind_eq_ok] at h
  obtain ⟨-, -, h⟩ := h
  split at h
  next =>
    simp only [bind_eq_ok, importHmacKey_eq_ok] at h
    obtain ⟨-, -, -, -, -, ⟨hsecret, -⟩, -⟩ := h
    exact hsecret
  next => cases h

theorem length_sealToken_le_iff (h : sealToken platform secret payloadText = .ok token) :
    token.length ≤ maxTokenLength ↔ utf8Size payloadText ≤ 3039 := by
  rw [length_sealToken h, maxTokenLength]
  omega

theorem utf8Size_jsonInt_safe {n : Int} (h : -maxSafeInteger ≤ n ∧ n ≤ maxSafeInteger) :
    utf8Size (JsText.jsonInt n) ≤ 17 := by
  refine JsText.utf8Size_jsonInt_le (by decide : 0 < 16) ?_
  simp only [maxSafeInteger] at h
  omega

end EnvelopeRoundTrip

end Aiphabee.SandboxAuth
