import Aiphabee.SandboxAuth.SignedToken

/-!
# The tool gateway token

A tool gateway token lets a sandbox call one tool for one lease of one run.  It
carries the identities themselves, not hashes of them.
-/

namespace Aiphabee.SandboxAuth

open Checks
open JsText (ofString jsonString jsonInt)

def sandboxToolGatewayTokenAudience : String :=
  "aiphabee:sandbox-tool-gateway"

structure SandboxToolGatewayTokenClaims where
  exp : Int
  iat : Int
  jti : JsText
  leaseId : JsText
  runId : JsText
  tenantId : JsText
  toolName : JsText
  userId : JsText

def toolGatewayClaimsText (claims : SandboxToolGatewayTokenClaims) : Utf8Text :=
  JsText.jsonObject
    [("aud", jsonString (ofString sandboxToolGatewayTokenAudience)),
      ("exp", jsonInt claims.exp),
      ("iat", jsonInt claims.iat),
      ("jti", jsonString claims.jti),
      ("lease_id", jsonString claims.leaseId),
      ("run_id", jsonString claims.runId),
      ("tenant_id", jsonString claims.tenantId),
      ("tool_name", jsonString claims.toolName),
      ("user_id", jsonString claims.userId),
      ("v", jsonInt 1)]

def toolGatewayClaimsObject (exp iat : JsNumber)
    (jti leaseId runId tenantId toolName userId : JsText) : JsonValue :=
  .object
    [(ofString "aud",
        .string (ofString sandboxToolGatewayTokenAudience)),
      (ofString "exp", .number exp),
      (ofString "iat", .number iat),
      (ofString "jti", .string jti),
      (ofString "lease_id", .string leaseId),
      (ofString "run_id", .string runId),
      (ofString "tenant_id", .string tenantId),
      (ofString "tool_name", .string toolName),
      (ofString "user_id", .string userId),
      (ofString "v", .number (numberOf 1))]

def toolGatewayClaimsValue (claims : SandboxToolGatewayTokenClaims) : JsonValue :=
  toolGatewayClaimsObject (numberOf claims.exp) (numberOf claims.iat) claims.jti claims.leaseId
    claims.runId claims.tenantId claims.toolName claims.userId

def isToolGatewayId (value : JsText) : Bool :=
  1 ≤ value.length && value.length ≤ 128 && JsText.trim value = value &&
    !JsText.hasControlCharacter value

def validateToolGatewayId (claims : List (JsText × JsonValue)) (key label : String) :
    Result JsText :=
  require ((stringField claims key).filter isToolGatewayId)
    ⟨.INVALID_CLAIMS, label ++ " is invalid"⟩

def validateToolGatewayClaims (value : JsonValue) (nowSeconds : JsNumber)
    (requiredToolName : Option JsText) : Result SandboxToolGatewayTokenClaims := do
  let claims ← require (objectFields value)
    ⟨.INVALID_CLAIMS, "tool gateway claims must be an object"⟩
  ensure
    (hasExactKeys claims
      ["aud", "exp", "iat", "jti", "lease_id", "run_id", "tenant_id", "tool_name", "user_id",
        "v"])
    ⟨.INVALID_CLAIMS, "tool gateway claims have an unexpected shape"⟩
  ensure
    (safeIntegerField claims "v" = some 1 ∧
      stringField claims "aud" = some (ofString sandboxToolGatewayTokenAudience))
    ⟨.INVALID_CLAIMS, "tool gateway token authority is invalid"⟩
  let iat ← require (safeIntegerField claims "iat")
    ⟨.INVALID_CLAIMS, "tool gateway timestamps are invalid"⟩
  let exp ← require (safeIntegerField claims "exp")
    ⟨.INVALID_CLAIMS, "tool gateway timestamps are invalid"⟩
  ensure (iat < exp ∧ exp - iat ≤ maxTokenTtlSeconds)
    ⟨.INVALID_CLAIMS, "tool gateway token TTL is invalid"⟩
  ensure (¬numberLt (addSeconds nowSeconds maxClockSkewSeconds) (numberOf iat))
    ⟨.TOKEN_NOT_YET_VALID, "tool gateway token is not yet valid"⟩
  ensure (¬JsNumber.le (numberOf exp) nowSeconds)
    ⟨.TOKEN_EXPIRED, "tool gateway token has expired"⟩
  let toolName ← require ((stringField claims "tool_name").filter isToolName)
    ⟨.INVALID_SCOPE, "tool gateway tool name is invalid"⟩
  ensure (∀ required ∈ requiredToolName, toolName = required)
    ⟨.INVALID_SCOPE, "tool gateway token is scoped to another tool"⟩
  let jti ← validateToolGatewayId claims "jti" "tool gateway token id"
  let leaseId ← validateToolGatewayId claims "lease_id" "tool gateway lease id"
  let runId ← validateToolGatewayId claims "run_id" "tool gateway run id"
  let tenantId ← validateToolGatewayId claims "tenant_id" "tool gateway tenant id"
  let userId ← validateToolGatewayId claims "user_id" "tool gateway user id"
  pure { exp, iat, jti, leaseId, runId, tenantId, toolName, userId }

structure IssueSandboxToolGatewayTokenInput where
  leaseId : JsText
  nowMs : JsNumber
  runId : JsText
  secret : JsText
  tenantId : JsText
  tokenId : JsText
  toolName : JsText
  ttlSeconds : JsNumber
  userId : JsText

structure IssuedSandboxToolGatewayToken where
  claims : SandboxToolGatewayTokenClaims
  token : JsText

def issueSandboxToolGatewayToken (platform : Platform) (input : IssueSandboxToolGatewayTokenInput) :
    Result IssuedSandboxToolGatewayToken := do
  let nowSeconds := secondsOf input.nowMs
  let ttlSeconds ← require
    ((safeInteger? input.ttlSeconds).filter fun n => 1 ≤ n ∧ n ≤ maxTokenTtlSeconds)
    ⟨.INVALID_CLAIMS, "tool gateway ttlSeconds must be between 1 and 600"⟩
  let claims ← validateToolGatewayClaims
    (toolGatewayClaimsObject (addSeconds nowSeconds ttlSeconds) nowSeconds input.tokenId
      input.leaseId input.runId input.tenantId input.toolName input.userId)
    nowSeconds none
  let token ← sealToken platform input.secret (toolGatewayClaimsText claims)
  pure { claims, token }

def toolGatewayMessages : EnvelopeMessages :=
  { tooLong := "tool gateway token exceeds maximum length"
    twoParts := "tool gateway token must have payload and signature parts"
    badSignature := "tool gateway token signature is invalid"
    notJson := "tool gateway token payload is not valid UTF-8 JSON" }

def verifySandboxToolGatewayToken (platform : Platform) (token secret : JsText) (nowMs : JsNumber)
    (requiredToolName : Option JsText) : Result SandboxToolGatewayTokenClaims := do
  let (payloadText, parsed) ← openToken platform toolGatewayMessages token secret
  let claims ← validateToolGatewayClaims parsed (secondsOf nowMs) requiredToolName
  ensure (toolGatewayClaimsText claims = payloadText)
    ⟨.INVALID_CLAIMS, "tool gateway token is not canonical"⟩
  pure claims

end Aiphabee.SandboxAuth
