import Aiphabee.SandboxAuth.RunTokenRoundTrip
import Aiphabee.SandboxAuth.ToolGatewayToken

/-!
# The round trip of tool gateway tokens, and when both kinds have it

The ids of a tool gateway token have 128 code units at most, and three bytes a
unit fit into a token.  A lone surrogate takes six: five ids of lone surrogates
make a token that is issued, and that is too long to be verified.
-/

namespace Aiphabee.SandboxAuth

open JsText (utf8Size jsonInt jsonString)
open Checks

variable {claims : SandboxToolGatewayTokenClaims}
variable {requiredToolName : Option JsText}

structure ToolGatewayBounds (claims : SandboxToolGatewayTokenClaims) : Prop where
  jti : isToolGatewayId claims.jti = true
  leaseId : isToolGatewayId claims.leaseId = true
  runId : isToolGatewayId claims.runId = true
  tenantId : isToolGatewayId claims.tenantId = true
  userId : isToolGatewayId claims.userId = true
  toolName : isToolName claims.toolName = true
  safeIat : -maxSafeInteger ≤ claims.iat ∧ claims.iat ≤ maxSafeInteger
  safeExp : -maxSafeInteger ≤ claims.exp ∧ claims.exp ≤ maxSafeInteger
  lifetime : claims.iat < claims.exp ∧ claims.exp - claims.iat ≤ maxTokenTtlSeconds

def HoldsToolGatewayClaims (value : JsonValue) (claims : SandboxToolGatewayTokenClaims) : Prop :=
  ∃ fields, value = .object fields ∧
    safeIntegerField fields "exp" = some claims.exp ∧
    safeIntegerField fields "iat" = some claims.iat ∧
    stringField fields "jti" = some claims.jti ∧
    stringField fields "lease_id" = some claims.leaseId ∧
    stringField fields "run_id" = some claims.runId ∧
    stringField fields "tenant_id" = some claims.tenantId ∧
    stringField fields "tool_name" = some claims.toolName ∧
    stringField fields "user_id" = some claims.userId

theorem validateToolGatewayClaims_eq_ok {value : JsonValue} {nowSeconds : JsNumber}
    (h : validateToolGatewayClaims value nowSeconds requiredToolName = .ok claims) :
    ToolGatewayBounds claims ∧ ClockAccepts claims.iat claims.exp nowSeconds ∧
      (∀ required ∈ requiredToolName, claims.toolName = required) ∧
      HoldsToolGatewayClaims value claims := by
  simp only [validateToolGatewayClaims, validateToolGatewayId, bind_eq_ok,
    require_eq_ok, ensure_eq_ok, Option.filter_eq_some_iff] at h
  obtain ⟨fields, hfields, _, -, _, -, iat, hiat, exp, hexp, _, hlifetime, _, hissued, _,
    hexpires, toolName, ⟨htool, htoolName⟩, _, hrequired, jti, ⟨hjti, hjtiId⟩, leaseId,
    ⟨hlease, hleaseId⟩, runId, ⟨hrun, hrunId⟩, tenantId, ⟨htenant, htenantId⟩, userId,
    ⟨huser, huserId⟩, hclaims⟩ := h
  obtain rfl := Except.ok.inj hclaims
  have hvalue : value = .object fields := objectFields_eq_some hfields
  exact ⟨⟨hjtiId, hleaseId, hrunId, htenantId, huserId, htoolName, safeIntegerField_range hiat,
    safeIntegerField_range hexp, hlifetime⟩, ⟨hissued, hexpires⟩, hrequired,
    ⟨fields, hvalue, hexp, hiat, hjti, hlease, hrun, htenant, htool, huser⟩⟩

theorem toolGatewayClaimsObject_fields (exp iat : JsNumber)
    (jti leaseId runId tenantId toolName userId : JsText) :
    ∃ fields,
      toolGatewayClaimsObject exp iat jti leaseId runId tenantId toolName userId =
        .object fields ∧
      hasExactKeys fields
        ["aud", "exp", "iat", "jti", "lease_id", "run_id", "tenant_id", "tool_name", "user_id",
          "v"] = true ∧
      safeIntegerField fields "v" = some 1 ∧
      stringField fields "aud" =
        some (JsText.ofString sandboxToolGatewayTokenAudience) ∧
      safeIntegerField fields "exp" = safeInteger? exp ∧
      safeIntegerField fields "iat" = safeInteger? iat ∧
      stringField fields "jti" = some jti ∧
      stringField fields "lease_id" = some leaseId ∧
      stringField fields "run_id" = some runId ∧
      stringField fields "tenant_id" = some tenantId ∧
      stringField fields "tool_name" = some toolName ∧
      stringField fields "user_id" = some userId :=
  ⟨_, rfl, rfl, rfl, rfl, rfl, rfl, rfl, rfl, rfl, rfl, rfl, rfl⟩

theorem validateToolGatewayClaims_of_bounds {nowSeconds : JsNumber} (h : ToolGatewayBounds claims)
    (hclock : ClockAccepts claims.iat claims.exp nowSeconds)
    (hrequired : ∀ required ∈ requiredToolName, claims.toolName = required) :
    validateToolGatewayClaims (toolGatewayClaimsValue claims) nowSeconds requiredToolName =
      .ok claims := by
  obtain ⟨fields, hobject, hkeys, hv, haud, hexp, hiat, hjti, hlease, hrun, htenant, htool,
    huser⟩ :=
    toolGatewayClaimsObject_fields (numberOf claims.exp) (numberOf claims.iat) claims.jti
      claims.leaseId claims.runId claims.tenantId claims.toolName claims.userId
  rw [safeInteger_numberOf h.safeExp] at hexp
  rw [safeInteger_numberOf h.safeIat] at hiat
  rw [toolGatewayClaimsValue, hobject]
  simp only [validateToolGatewayClaims, validateToolGatewayId, objectFields, require_some,
    ok_bind, hkeys, hv, haud, hexp, hiat, hjti, hlease, hrun, htenant, htool, huser,
    Option.filter_some, h.jti, h.leaseId, h.runId, h.tenantId, h.userId, h.toolName, h.lifetime,
    ensure_of _ hclock.1, ensure_of _ hclock.2, ensure_of _ hrequired,
    ensure_of, and_self, if_true]
  rfl

section ToolGatewayRoundTrip

variable {platform : Platform}

theorem isToolName_spec {value : JsText} (h : isToolName value = true) :
    (∀ u ∈ value, JsText.isPlain u = true) ∧ value.length ≤ 128 := by
  cases value with
  | nil => cases h
  | cons first rest =>
    simp only [isToolName, Bool.and_eq_true, Bool.or_eq_true, decide_eq_true_eq,
      List.all_eq_true] at h
    obtain ⟨⟨hfirst, hlength⟩, hrest⟩ := h
    refine ⟨fun u hu => ?_, by rw [List.length_cons]; omega⟩
    simp only [JsText.isPlain, Bool.and_eq_true, decide_eq_true_eq]
    rcases List.mem_cons.mp hu with rfl | hu
    · omega
    · have := hrest u hu
      omega

def idBytes (ids : List JsText) : Nat :=
  (ids.map fun id => utf8Size (jsonString id)).sum

theorem utf8Size_toolGatewayClaimsText (h : ToolGatewayBounds claims) :
    utf8Size (toolGatewayClaimsText claims) =
      idBytes [claims.jti, claims.leaseId, claims.runId, claims.tenantId, claims.userId] +
        claims.toolName.length + utf8Size (jsonInt claims.iat) +
        utf8Size (jsonInt claims.exp) + 127 := by
  have htool := JsText.utf8Size_jsonString_of_plain (isToolName_spec h.toolName).1
  have haudience : utf8Size
      (jsonString (JsText.ofString sandboxToolGatewayTokenAudience)) = 31 := by
    decide
  have hone : utf8Size (jsonInt 1) = 1 := by decide
  have hkeys : utf8Size "aud".toList = 3 ∧ utf8Size "exp".toList = 3 ∧
      utf8Size "iat".toList = 3 ∧ utf8Size "jti".toList = 3 ∧
      utf8Size "lease_id".toList = 8 ∧ utf8Size "run_id".toList = 6 ∧
      utf8Size "tenant_id".toList = 9 ∧ utf8Size "tool_name".toList = 9 ∧
      utf8Size "user_id".toList = 7 ∧ utf8Size "v".toList = 1 := by
    decide
  rw [toolGatewayClaimsText, JsText.utf8Size_jsonObject (List.cons_ne_nil _ _)]
  simp only [idBytes, List.map_cons, List.map_nil, List.sum_cons, List.sum_nil, htool, haudience,
    hone]
  omega

def wholeNumber : JsNumber → Int
  | .finite value => ⌊value⌋
  | _ => 0

/--
The ids, the tool name and the digits of the two times of an input take 2912
bytes at most: all that a token leaves for them.
-/
def FitsToken (input : IssueSandboxToolGatewayTokenInput) : Prop :=
  let iat := wholeNumber (secondsOf input.nowMs)
  let exp := iat + wholeNumber input.ttlSeconds
  idBytes [input.tokenId, input.leaseId, input.runId, input.tenantId, input.userId] +
      input.toolName.length + utf8Size (jsonInt iat) +
      utf8Size (jsonInt exp) ≤ 2912

variable {input : IssueSandboxToolGatewayTokenInput}
variable {issued : IssuedSandboxToolGatewayToken}

theorem issueSandboxToolGatewayToken_eq_ok
    (h : issueSandboxToolGatewayToken platform input = .ok issued) :
    ToolGatewayBounds issued.claims ∧
      sealToken platform input.secret (toolGatewayClaimsText issued.claims) =
        .ok issued.token ∧
      issued.claims =
        { exp := wholeNumber (secondsOf input.nowMs) + wholeNumber input.ttlSeconds
          iat := wholeNumber (secondsOf input.nowMs)
          jti := input.tokenId
          leaseId := input.leaseId
          runId := input.runId
          tenantId := input.tenantId
          toolName := input.toolName
          userId := input.userId } := by
  simp only [issueSandboxToolGatewayToken, bind_eq_ok, require_eq_ok,
    Option.filter_eq_some_iff] at h
  obtain ⟨ttlSeconds, ⟨httl, -⟩, claims, hclaims, token, htoken, hissued⟩ := h
  obtain rfl := Except.ok.inj hissued
  obtain ⟨hbounds, -, -, fields', hobject', hexp', hiat', hjti', hlease', hrun', htenant',
    htool', huser'⟩ := validateToolGatewayClaims_eq_ok hclaims
  refine ⟨hbounds, htoken, ?_⟩
  obtain ⟨fields, hobject, -, -, -, hexp, hiat, hjti, hlease, hrun, htenant, htool, huser⟩ :=
    toolGatewayClaimsObject_fields (addSeconds (secondsOf input.nowMs) ttlSeconds)
      (secondsOf input.nowMs) input.tokenId input.leaseId input.runId input.tenantId
      input.toolName input.userId
  obtain rfl := JsonValue.object.inj (hobject.symm.trans hobject')
  have hnow := (safeInteger_bounds (hiat.symm.trans hiat')).1
  have hend := (safeInteger_bounds (hexp.symm.trans hexp')).1
  have hlife := (safeInteger_bounds httl).1
  have hwhole : ∀ n : Int, wholeNumber (numberOf n) = n := fun n => Int.floor_intCast n
  have hsum : claims.exp = claims.iat + ttlSeconds := by
    rw [hnow, numberOf, addSeconds, numberOf] at hend
    have hrat := JsNumber.finite.inj hend
    exact_mod_cast hrat.symm
  cases hfields : claims
  rw [hfields] at hsum hnow hjti' hlease' hrun' htenant' htool' huser'
  simp only at hsum hnow hjti' hlease' hrun' htenant' htool' huser'
  simp only [hnow, hlife, hwhole, hsum, SandboxToolGatewayTokenClaims.mk.injEq, true_and]
  exact ⟨Option.some.inj (hjti'.symm.trans hjti), Option.some.inj (hlease'.symm.trans hlease),
    Option.some.inj (hrun'.symm.trans hrun), Option.some.inj (htenant'.symm.trans htenant),
    Option.some.inj (htool'.symm.trans htool), Option.some.inj (huser'.symm.trans huser)⟩

theorem verifySandboxToolGatewayToken_eq_ok {token secret : JsText} {nowMs : JsNumber}
    (h : verifySandboxToolGatewayToken platform token secret nowMs requiredToolName =
      .ok claims) :
    ∃ parsed, Carries platform token secret (toolGatewayClaimsText claims) parsed ∧
      ToolGatewayBounds claims ∧ ClockAccepts claims.iat claims.exp (secondsOf nowMs) ∧
      (∀ required ∈ requiredToolName, claims.toolName = required) ∧
      HoldsToolGatewayClaims parsed claims := by
  simp only [verifySandboxToolGatewayToken, bind_eq_ok, ensure_eq_ok] at h
  obtain ⟨⟨payloadText, parsed⟩, hopen, claims', hclaims, _, hcanonical, hresult⟩ := h
  obtain rfl := Except.ok.inj hresult
  obtain ⟨hbounds, hclock, hrequired, hholds⟩ := validateToolGatewayClaims_eq_ok hclaims
  refine ⟨parsed, ?_, hbounds, hclock, hrequired, hholds⟩
  have hcarries := carries_of_openToken hopen
  rwa [hcanonical]

theorem verifyToolGateway_issued {secret token : JsText} (hbounds : ToolGatewayBounds claims)
    (hsealed : sealToken platform secret (toolGatewayClaimsText claims) = .ok token)
    (hlength : token.length ≤ maxTokenLength)
    (hparsed : platform.parseJson (toolGatewayClaimsText claims) =
      some (toolGatewayClaimsValue claims))
    (hrequired : ∀ required ∈ requiredToolName, claims.toolName = required)
    (time : ℚ) :
    (InWindow claims.iat claims.exp time →
      verifySandboxToolGatewayToken platform token secret (.finite time) requiredToolName =
        .ok claims) ∧
    (¬InWindow claims.iat claims.exp time →
      ∃ error,
        verifySandboxToolGatewayToken platform token secret (.finite time) requiredToolName =
          .error error) := by
  have hopen : openToken platform toolGatewayMessages token secret =
      .ok (toolGatewayClaimsText claims, toolGatewayClaimsValue claims) := by
    obtain ⟨rest, hrest⟩ : ∃ rest, toolGatewayClaimsText claims = '{' :: rest := ⟨_, rfl⟩
    rw [hrest] at hsealed hparsed ⊢
    exact openToken_sealToken _ hsealed hlength hparsed
  have hverify :
      verifySandboxToolGatewayToken platform token secret (.finite time) requiredToolName =
        (validateToolGatewayClaims (toolGatewayClaimsValue claims) (secondsOf (.finite time))
            requiredToolName >>=
          fun verified =>
            ensure (toolGatewayClaimsText verified = toolGatewayClaimsText claims)
              ⟨.INVALID_CLAIMS, "tool gateway token is not canonical"⟩ >>= fun _ =>
                pure verified) := by
    rw [verifySandboxToolGatewayToken, hopen]
    rfl
  constructor
  · intro hwindow
    have hclock := (clock_iff claims.iat claims.exp time).mpr hwindow
    rw [hverify, validateToolGatewayClaims_of_bounds hbounds hclock hrequired, ok_bind,
      ensure_of _ rfl]
    rfl
  · intro hwindow
    cases hresult : verifySandboxToolGatewayToken platform token secret (.finite time)
        requiredToolName with
    | error error => exact ⟨error, rfl⟩
    | ok verified =>
      rw [hverify] at hresult
      simp only [bind_eq_ok] at hresult
      obtain ⟨verified', hvalid, -⟩ := hresult
      obtain ⟨-, hclock, -, fields', hobject', hexp', hiat', -⟩ :=
        validateToolGatewayClaims_eq_ok hvalid
      obtain ⟨fields, hobject, -, -, -, hexp, hiat, -⟩ :=
        toolGatewayClaimsObject_fields (numberOf claims.exp) (numberOf claims.iat) claims.jti
          claims.leaseId claims.runId claims.tenantId claims.toolName claims.userId
      obtain rfl := JsonValue.object.inj (hobject.symm.trans hobject')
      rw [hexp, safeInteger_numberOf hbounds.safeExp] at hexp'
      rw [hiat, safeInteger_numberOf hbounds.safeIat] at hiat'
      rw [← Option.some.inj hexp', ← Option.some.inj hiat'] at hclock
      exact absurd ((clock_iff claims.iat claims.exp time).mp hclock) hwindow

theorem length_issued_le_iff (h : issueSandboxToolGatewayToken platform input = .ok issued) :
    issued.token.length ≤ maxTokenLength ↔ FitsToken input := by
  obtain ⟨hbounds, hsealed, hclaims⟩ := issueSandboxToolGatewayToken_eq_ok h
  rw [length_sealToken_le_iff hsealed, utf8Size_toolGatewayClaimsText hbounds, hclaims]
  simp only [FitsToken]
  omega

def inputClaims (input : IssueSandboxToolGatewayTokenInput) (iat ttlSeconds : Int) :
    SandboxToolGatewayTokenClaims :=
  { exp := iat + ttlSeconds
    iat := iat
    jti := input.tokenId
    leaseId := input.leaseId
    runId := input.runId
    tenantId := input.tenantId
    toolName := input.toolName
    userId := input.userId }

theorem issueSandboxToolGatewayToken_of_bounds {iat ttlSeconds : Int}
    (hnow : secondsOf input.nowMs = numberOf iat)
    (httl : safeInteger? input.ttlSeconds = some ttlSeconds)
    (hrange : 1 ≤ ttlSeconds ∧ ttlSeconds ≤ maxTokenTtlSeconds)
    (hsecret : 32 ≤ (JsText.encode input.secret).length)
    (hbounds : ToolGatewayBounds (inputClaims input iat ttlSeconds)) :
    ∃ token, issueSandboxToolGatewayToken platform input =
      .ok ⟨inputClaims input iat ttlSeconds, token⟩ := by
  have hsum : addSeconds (numberOf iat) ttlSeconds = numberOf (iat + ttlSeconds) := by
    simp only [numberOf, addSeconds]
    push_cast
    rfl
  have hvalid : validateToolGatewayClaims
      (toolGatewayClaimsValue (inputClaims input iat ttlSeconds)) (numberOf iat) none =
        .ok (inputClaims input iat ttlSeconds) :=
    validateToolGatewayClaims_of_bounds hbounds (clockAccepts_issue hbounds.lifetime.1) (by simp)
  obtain ⟨token, hseal⟩ : ∃ token, sealToken platform input.secret
      (toolGatewayClaimsText (inputClaims input iat ttlSeconds)) = .ok token :=
    ⟨_, sealToken_eq_ok.mpr ⟨hsecret, rfl⟩⟩
  refine ⟨token, ?_⟩
  rw [issueSandboxToolGatewayToken, httl, hnow]
  simp only [Option.filter_some, hrange, and_self, decide_true, if_true, require_some,
    ok_bind, hsum]
  rw [toolGatewayClaimsValue] at hvalid
  dsimp only [inputClaims] at hvalid hseal
  rw [hvalid, ok_bind, hseal, ok_bind]
  rfl

end ToolGatewayRoundTrip

def RunTokenRoundTrip (platform : Platform) (input : IssueSandboxRunTokenInput)
    (issued : IssuedSandboxRunToken) : Prop :=
  ∀ requiredScope : Option SandboxRunScope,
    (∀ scope ∈ requiredScope, scope ∈ input.scopes) →
    ∀ time : ℚ,
      (InWindow issued.claims.iat issued.claims.exp time →
        verifySandboxRunToken platform issued.token input.secret (.finite time) requiredScope =
          .ok issued.claims) ∧
      (¬InWindow issued.claims.iat issued.claims.exp time →
        ∃ error,
          verifySandboxRunToken platform issued.token input.secret (.finite time)
            requiredScope = .error error)

def ToolGatewayTokenRoundTrip (platform : Platform) (input : IssueSandboxToolGatewayTokenInput)
    (issued : IssuedSandboxToolGatewayToken) : Prop :=
  ∀ requiredToolName : Option JsText,
    (∀ required ∈ requiredToolName, input.toolName = required) →
    ∀ time : ℚ,
      (InWindow issued.claims.iat issued.claims.exp time →
        verifySandboxToolGatewayToken platform issued.token input.secret (.finite time)
          requiredToolName = .ok issued.claims) ∧
      (¬InWindow issued.claims.iat issued.claims.exp time →
        ∃ error,
          verifySandboxToolGatewayToken platform issued.token input.secret (.finite time)
            requiredToolName = .error error)

theorem not_toolGatewayTokenRoundTrip {platform : Platform}
    {input : IssueSandboxToolGatewayTokenInput} {issued : IssuedSandboxToolGatewayToken}
    (hbounds : ToolGatewayBounds issued.claims) (hlong : maxTokenLength < issued.token.length) :
    ¬ToolGatewayTokenRoundTrip platform input issued := by
  intro hround
  have hlife : (issued.claims.iat : ℚ) < issued.claims.exp := by
    exact_mod_cast hbounds.lifetime.1
  have hwindow : InWindow issued.claims.iat issued.claims.exp (1000 * issued.claims.iat) :=
    ⟨by linarith, by linarith⟩
  have hverify := (hround none (by simp) _).1 hwindow
  rw [verifySandboxToolGatewayToken, openToken_of_length _ hlong] at hverify
  cases hverify

/--
Every issued run token makes the round trip, and an issued tool gateway token
does exactly when its input fits.  Every token of either kind that is verified
carries, under the right signature, claims within the bounds.
-/
theorem tokens_roundTrip (platform : Platform) :
    (∀ input issued,
      issueSandboxRunToken platform input = .ok issued →
      platform.parseJson (claimsText issued.claims) = some (claimsValue issued.claims) →
      RunTokenRoundTrip platform input issued) ∧
    (∀ token secret nowMs requiredScope claims,
      verifySandboxRunToken platform token secret nowMs requiredScope = .ok claims →
      ClaimBounds claims ∧
        ∃ parsed texts, Carries platform token secret (claimsText claims) parsed ∧
          HoldsClaims parsed texts claims) ∧
    (∀ input issued,
      issueSandboxToolGatewayToken platform input = .ok issued →
      platform.parseJson (toolGatewayClaimsText issued.claims) =
        some (toolGatewayClaimsValue issued.claims) →
      (ToolGatewayTokenRoundTrip platform input issued ↔ FitsToken input)) ∧
    (∀ token secret nowMs requiredToolName claims,
      verifySandboxToolGatewayToken platform token secret nowMs requiredToolName = .ok claims →
      ToolGatewayBounds claims ∧
        ∃ parsed, Carries platform token secret (toolGatewayClaimsText claims) parsed ∧
          HoldsToolGatewayClaims parsed claims) := by
  refine ⟨?_, ?_, ?_, ?_⟩
  · intro input issued hissued hparsed requiredScope hrequired time
    obtain ⟨hbounds, hscopes, hsealed⟩ := issueSandboxRunToken_eq_ok hissued
    exact verify_issued hbounds hsealed hparsed
      (fun scope hscope => (hscopes scope).mpr (hrequired scope hscope)) time
  · intro token secret nowMs requiredScope claims hverify
    obtain ⟨parsed, hcarries, hbounds, -, -, texts, hholds⟩ :=
      verifySandboxRunToken_eq_ok hverify
    exact ⟨hbounds, parsed, texts, hcarries, hholds⟩
  · intro input issued hissued hparsed
    obtain ⟨hbounds, hsealed, hclaims⟩ := issueSandboxToolGatewayToken_eq_ok hissued
    rw [← length_issued_le_iff hissued]
    constructor
    · intro hround
      by_contra hlong
      exact not_toolGatewayTokenRoundTrip hbounds (Nat.lt_of_not_le hlong) hround
    · intro hlength requiredToolName hrequired time
      refine verifyToolGateway_issued hbounds hsealed hlength hparsed ?_ time
      intro required hmem
      rw [← hrequired required hmem, hclaims]
  · intro token secret nowMs requiredToolName claims hverify
    obtain ⟨parsed, hcarries, hbounds, -, -, hholds⟩ :=
      verifySandboxToolGatewayToken_eq_ok hverify
    exact ⟨hbounds, parsed, hcarries, hholds⟩

/-- An input whose five ids are lone surrogates only. -/
def loneSurrogateInput : IssueSandboxToolGatewayTokenInput :=
  { leaseId := List.replicate 128 0xD800
    nowMs := .finite 1783749600000
    runId := List.replicate 128 0xD800
    secret := List.replicate 32 0x61
    tenantId := List.replicate 128 0xD800
    tokenId := List.replicate 128 0xD800
    toolName := [0x74]
    ttlSeconds := .finite 300
    userId := List.replicate 128 0xD800 }

def loneSurrogateClaims : SandboxToolGatewayTokenClaims :=
  inputClaims loneSurrogateInput 1783749600 300

def loneSurrogatePlatform (sha256 : List UInt8 → Fin 32 → UInt8)
    (hmacSha256 : List UInt8 → List UInt8 → Fin 32 → UInt8) : Platform where
  sha256 := sha256
  hmacSha256 := hmacSha256
  parseJson text :=
    if text = toolGatewayClaimsText loneSurrogateClaims then
      some (toolGatewayClaimsValue loneSurrogateClaims)
    else
      none

/-- A token for ids of lone surrogates is issued, but is too long to be verified. -/
theorem loneSurrogates_not_roundTrip :
    ¬FitsToken loneSurrogateInput ∧
      ∀ sha256 hmacSha256, ∃ issued,
        issueSandboxToolGatewayToken (loneSurrogatePlatform sha256 hmacSha256)
          loneSurrogateInput = .ok issued ∧
        (loneSurrogatePlatform sha256 hmacSha256).parseJson
            (toolGatewayClaimsText issued.claims) =
          some (toolGatewayClaimsValue issued.claims) ∧
        ¬ToolGatewayTokenRoundTrip (loneSurrogatePlatform sha256 hmacSha256) loneSurrogateInput
          issued := by
  have hsize : utf8Size (jsonString (List.replicate 128 0xD800)) = 770 := by
    decide +kernel
  have hid : isToolGatewayId (List.replicate 128 0xD800) = true := by decide +kernel
  have hfits : ¬FitsToken loneSurrogateInput := by
    simp only [FitsToken, loneSurrogateInput, idBytes, List.map_cons, List.map_nil,
      List.sum_cons, List.sum_nil, hsize]
    omega
  have hbounds : ToolGatewayBounds loneSurrogateClaims :=
    { jti := hid
      leaseId := hid
      runId := hid
      tenantId := hid
      userId := hid
      toolName := by decide
      safeIat := by decide
      safeExp := by decide
      lifetime := by decide }
  refine ⟨hfits, fun sha256 hmacSha256 => ?_⟩
  have hnow : secondsOf loneSurrogateInput.nowMs = numberOf 1783749600 := by
    norm_num [secondsOf, loneSurrogateInput, numberOf]
  have httl : safeInteger? loneSurrogateInput.ttlSeconds = some 300 :=
    safeInteger_numberOf (n := 300) (by decide)
  obtain ⟨token, hissued⟩ : ∃ token,
      issueSandboxToolGatewayToken (loneSurrogatePlatform sha256 hmacSha256)
        loneSurrogateInput = .ok ⟨loneSurrogateClaims, token⟩ :=
    issueSandboxToolGatewayToken_of_bounds hnow httl (by decide) (by decide +kernel) hbounds
  refine ⟨_, hissued, if_pos rfl, not_toolGatewayTokenRoundTrip hbounds ?_⟩
  rw [← Nat.not_le, length_issued_le_iff hissued]
  exact hfits

end Aiphabee.SandboxAuth
