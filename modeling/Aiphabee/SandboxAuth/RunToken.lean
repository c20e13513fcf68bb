import Aiphabee.SandboxAuth.SignedToken

/-!
# The sandbox run token

A run token names a run, hashes of its tenant and its user, a budget of calls,
the scopes of its holder and the time in which it is valid.  What is issued is
validated by the same function as what is verified.
-/

namespace Aiphabee.SandboxAuth

open Checks
open JsText (ofString jsonInt jsonString jsonArray encode)

inductive SandboxRunScope
  | create
  | destroy
  | exec
  | file
  | status
deriving DecidableEq

def SandboxRunScope.text : SandboxRunScope → String
  | .create => "sandbox:create"
  | .destroy => "sandbox:destroy"
  | .exec => "sandbox:exec"
  | .file => "sandbox:file"
  | .status => "sandbox:status"

/-- The scopes in the order of their texts. -/
def sandboxRunScopes : List SandboxRunScope :=
  [.create, .destroy, .exec, .file, .status]

def scopeOfText? (text : JsText) : Option SandboxRunScope :=
  sandboxRunScopes.find? fun scope => ofString scope.text = text

def scopeTexts (scopes : List SandboxRunScope) : List JsText :=
  scopes.map fun scope => ofString scope.text

def normalizeScopes (scopes : List JsText) : Result (List SandboxRunScope) := do
  let known ← require (scopes.mapM scopeOfText?)
    ⟨.INVALID_SCOPE, "token must contain only known scopes"⟩
  ensure (known ≠ []) ⟨.INVALID_SCOPE, "token must contain only known scopes"⟩
  pure (known.eraseDups.mergeSort fun left right => JsString.sortsBefore left.text right.text)

structure SandboxRunTokenClaims where
  exp : Int
  iat : Int
  jti : JsText
  maxCalls : Int
  scopes : List SandboxRunScope
  tenantHash : JsText
  userHash : JsText

def claimsText (claims : SandboxRunTokenClaims) : Utf8Text :=
  JsText.jsonObject
    [("exp", jsonInt claims.exp),
      ("iat", jsonInt claims.iat),
      ("jti", jsonString claims.jti),
      ("max_calls", jsonInt claims.maxCalls),
      ("scopes", jsonArray ((scopeTexts claims.scopes).map jsonString)),
      ("tenant_hash", jsonString claims.tenantHash),
      ("user_hash", jsonString claims.userHash),
      ("v", jsonInt 1)]

/-- An object with the fields of a run token. -/
def claimsObject (exp iat : JsNumber) (jti : JsText) (maxCalls : JsNumber) (scopes : List JsText)
    (tenantHash userHash : JsText) : JsonValue :=
  .object
    [(ofString "exp", .number exp),
      (ofString "iat", .number iat),
      (ofString "jti", .string jti),
      (ofString "max_calls", .number maxCalls),
      (ofString "scopes", .array (scopes.map .string)),
      (ofString "tenant_hash", .string tenantHash),
      (ofString "user_hash", .string userHash),
      (ofString "v", .number (numberOf 1))]

def claimsValue (claims : SandboxRunTokenClaims) : JsonValue :=
  claimsObject (numberOf claims.exp) (numberOf claims.iat) claims.jti (numberOf claims.maxCalls)
    (scopeTexts claims.scopes) claims.tenantHash claims.userHash

def maxCallsLimit : Int := 64

def validateClaims (value : JsonValue) (nowSeconds : JsNumber)
    (requiredScope : Option SandboxRunScope) : Result SandboxRunTokenClaims := do
  let claims ← require (objectFields value)
    ⟨.INVALID_CLAIMS, "token claims must be an object"⟩
  ensure
    (hasExactKeys claims
      ["exp", "iat", "jti", "max_calls", "scopes", "tenant_hash", "user_hash", "v"])
    ⟨.INVALID_CLAIMS, "token claims have an unexpected shape"⟩
  ensure (safeIntegerField claims "v" = some 1)
    ⟨.INVALID_CLAIMS, "token version is unsupported"⟩
  let jti ← require ((stringField claims "jti").filter isRunId)
    ⟨.INVALID_CLAIMS, "token jti is invalid"⟩
  let tenantHash ← require ((stringField claims "tenant_hash").filter isHash)
    ⟨.INVALID_CLAIMS, "token identity hashes are invalid"⟩
  let userHash ← require ((stringField claims "user_hash").filter isHash)
    ⟨.INVALID_CLAIMS, "token identity hashes are invalid"⟩
  let maxCalls ← require
    ((safeIntegerField claims "max_calls").filter fun n => 1 ≤ n ∧ n ≤ maxCallsLimit)
    ⟨.INVALID_CLAIMS, "token max_calls is invalid"⟩
  let iat ← require (safeIntegerField claims "iat")
    ⟨.INVALID_CLAIMS, "token timestamps are invalid"⟩
  let exp ← require (safeIntegerField claims "exp")
    ⟨.INVALID_CLAIMS, "token timestamps are invalid"⟩
  ensure (iat < exp ∧ exp - iat ≤ maxTokenTtlSeconds)
    ⟨.INVALID_CLAIMS, "token TTL exceeds the allowed window"⟩
  ensure (¬numberLt (addSeconds nowSeconds maxClockSkewSeconds) (numberOf iat))
    ⟨.TOKEN_NOT_YET_VALID, "token is not yet valid"⟩
  ensure (¬JsNumber.le (numberOf exp) nowSeconds) ⟨.TOKEN_EXPIRED, "token has expired"⟩
  let texts ← require (stringArrayField claims "scopes")
    ⟨.INVALID_SCOPE, "token scopes are invalid"⟩
  let scopes ← normalizeScopes texts
  ensure
    (jsonArray ((scopeTexts scopes).map jsonString) =
      jsonArray (texts.map jsonString))
    ⟨.INVALID_SCOPE, "token scopes must be unique and sorted"⟩
  ensure (∀ scope ∈ requiredScope, scope ∈ scopes)
    ⟨.INVALID_SCOPE,
      "token lacks required scope " ++ (requiredScope.map SandboxRunScope.text).getD ""⟩
  pure { exp, iat, jti, maxCalls, scopes, tenantHash, userHash }

def bytesToHex (bytes : List UInt8) : JsText :=
  JsText.ofChars (bytes.flatMap fun byte =>
    [JsText.hexDigit (byte.toNat / 16), JsText.hexDigit (byte.toNat % 16)])

variable (platform : Platform)

def hashSandboxRunIdentity (kind : String) (value : JsText) : Result JsText := do
  ensure (JsText.trim value ≠ []) ⟨.INVALID_CLAIMS, kind ++ " identity is required"⟩
  let preimage := ofString ("aiphabee:sandbox-run:" ++ kind ++ ":") ++ value
  pure (bytesToHex (List.ofFn (platform.sha256 (encode preimage))))

def deriveSandboxId (jti tenantHash userHash : JsText) : Result JsText := do
  ensure (isRunId jti ∧ isHash tenantHash ∧ isHash userHash)
    ⟨.INVALID_CLAIMS, "sandbox identity claims are invalid"⟩
  let preimage := ofString "aiphabee:sandbox:" ++ jti ++ 58 :: tenantHash ++ 58 :: userHash
  let digest := bytesToHex (List.ofFn (platform.sha256 (encode preimage)))
  pure (ofString "ab-" ++ digest.take 32)

structure IssueSandboxRunTokenInput where
  maxCalls : JsNumber
  nowMs : JsNumber
  runId : JsText
  scopes : List SandboxRunScope
  secret : JsText
  tenantId : JsText
  ttlSeconds : JsNumber
  userId : JsText

structure IssuedSandboxRunToken where
  claims : SandboxRunTokenClaims
  sandboxId : JsText
  token : JsText

def issueSandboxRunToken (input : IssueSandboxRunTokenInput) : Result IssuedSandboxRunToken := do
  let nowSeconds := secondsOf input.nowMs
  let ttlSeconds ← require
    ((safeInteger? input.ttlSeconds).filter fun n => 1 ≤ n ∧ n ≤ 600)
    ⟨.INVALID_CLAIMS, "token ttlSeconds must be between 1 and 600"⟩
  let scopes ← normalizeScopes (scopeTexts input.scopes)
  let tenantHash ← hashSandboxRunIdentity platform "tenant" input.tenantId
  let userHash ← hashSandboxRunIdentity platform "user" input.userId
  let claims ← validateClaims
    (claimsObject (addSeconds nowSeconds ttlSeconds) nowSeconds input.runId input.maxCalls
      (scopeTexts scopes) tenantHash userHash)
    nowSeconds none
  let token ← sealToken platform input.secret (claimsText claims)
  let sandboxId ← deriveSandboxId platform claims.jti claims.tenantHash claims.userHash
  pure { claims, sandboxId, token }

def runTokenMessages : EnvelopeMessages :=
  { tooLong := "token exceeds maximum length"
    twoParts := "token must have payload and signature parts"
    badSignature := "token signature is invalid"
    notJson := "token payload is not valid UTF-8 JSON" }

def verifySandboxRunToken (token secret : JsText) (nowMs : JsNumber)
    (requiredScope : Option SandboxRunScope) : Result SandboxRunTokenClaims := do
  let (payloadText, parsed) ← openToken platform runTokenMessages token secret
  let claims ← validateClaims parsed (secondsOf nowMs) requiredScope
  ensure (claimsText claims = payloadText)
    ⟨.INVALID_CLAIMS, "token payload is not canonical"⟩
  pure claims

end Aiphabee.SandboxAuth
