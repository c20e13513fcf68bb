import Aiphabee.ToolGateway.Gateway

/-!
# The way of a tool call out of a sandbox

The bridge does not pass on the request of a sandbox.  It makes a request of
its own from the parameters of the sandbox's lease and the bytes of the body,
so that the headers that the gateway trusts never come from the sandbox.
-/

namespace Aiphabee.ToolGateway

open Http
open SandboxAuth

def sandboxToolGatewayHost : String := "tool-gateway.internal"

def sandboxToolGatewayUrl : Url where
  protocol := "https:"
  hostname := sandboxToolGatewayHost
  port := ""
  pathname := "/v1/tools/call"
  search := ""
  hash := ""

/-- The service that takes the requests; it gives no response where it throws. -/
structure SandboxToolGatewayEgressEnv where
  TOOL_GATEWAY : Option (Request → Option Response)

structure SandboxToolGatewayEgressParams where
  leaseId : JsText
  runId : JsText
  tenantId : JsText
  token : JsText
  userId : JsText

def denied (status : Nat) (code : String) : Response :=
  errorResponse status code

/-- A character of base64 for URLs. -/
def isTokenUnit (u : UInt16) : Bool :=
  isAlphanumeric u || u.toNat = 95 || u.toNat = 45

/-- The pattern `^[A-Za-z0-9_-]+\.[A-Za-z0-9_-]+$`. -/
def matchesTokenPattern (token : JsText) : Bool :=
  match token.splitOn 46 with
  | [payload, signature] =>
    payload ≠ [] && payload.all isTokenUnit && signature ≠ [] && signature.all isTokenUnit
  | _ => false

/--
The parameters of a lease.  Their keys are compared as one joined text; with the
five strings it holds exactly these keys.
-/
def trustedParams (params : Option JsonValue) : Option SandboxToolGatewayEgressParams := do
  let record ← params.bind objectFields
  guard (hasExactKeys record ["lease_id", "run_id", "tenant_id", "token", "user_id"])
  let leaseId ← stringField record "lease_id"
  let runId ← stringField record "run_id"
  let tenantId ← stringField record "tenant_id"
  let token ← stringField record "token"
  let userId ← stringField record "user_id"
  guard (token.length ≤ 4096 ∧ matchesTokenPattern token)
  pure { leaseId, runId, tenantId, token, userId }

def boundedBody (request : Request) : Option (List UInt8) :=
  readBounded maxRequestBytes request

def isToolGatewayRequest (request : Request) : Prop :=
  request.url.protocol = "https:" ∧ request.url.hostname = sandboxToolGatewayHost ∧
    request.url.port = "" ∧ request.url.pathname = "/v1/tools/call" ∧
    request.url.search = "" ∧ request.url.hash = "" ∧ request.method = "POST" ∧
    mediaType request = some (JsText.ofString "application/json")

instance (request : Request) : Decidable (isToolGatewayRequest request) :=
  inferInstanceAs (Decidable (_ ∧ _ ∧ _ ∧ _ ∧ _ ∧ _ ∧ _ ∧ _))

/-- The headers of the request that the bridge makes. -/
def trustedHeaders (params : SandboxToolGatewayEgressParams) : Option Headers :=
  Headers.ofRecord
    [("authorization", JsText.ofString "Bearer " ++ params.token),
      ("content-type", JsText.ofString "application/json"),
      ("x-aiphabee-sandbox-lease-id", params.leaseId),
      ("x-aiphabee-sandbox-run-id", params.runId),
      ("x-aiphabee-tenant-id", params.tenantId),
      ("x-aiphabee-user-id", params.userId)]

/-- The response, which is missing where the bridge throws, and the request that it passed on. -/
structure Forwarding where
  response : Option Response
  forwarded : Option Request

def forwardSandboxToolGatewayRequest (request : Request) (env : SandboxToolGatewayEgressEnv)
    (contextParams : Option JsonValue) : Forwarding :=
  if ¬isToolGatewayRequest request then
    { response := some (denied 403 "SANDBOX_EGRESS_DENIED"), forwarded := none }
  else
    match trustedParams contextParams, env.TOOL_GATEWAY with
    | some params, some fetch =>
      match boundedBody request with
      | none =>
        { response := some (denied 400 "SANDBOX_TOOL_GATEWAY_INVALID_REQUEST")
          forwarded := none }
      | some body =>
        -- An id that no header can hold makes the constructor of the request throw.
        match trustedHeaders params with
        | none => { response := none, forwarded := none }
        | some headers =>
          let forwarded : Request :=
            { method := "POST"
              url := sandboxToolGatewayUrl
              headers := headers
              body := some (Body.ofBytes body) }
          { response :=
              some ((fetch forwarded).getD (denied 502 "SANDBOX_TOOL_GATEWAY_FAILED"))
            forwarded := some forwarded }
    | _, _ =>
      { response := some (denied 503 "SANDBOX_TOOL_GATEWAY_UNAVAILABLE"), forwarded := none }

section Trust

variable {request : Request}
variable {env : SandboxToolGatewayEgressEnv}
variable {contextParams : Option JsonValue}
variable {forwarded : Request}

theorem forwarded_spec
    (h : (forwardSandboxToolGatewayRequest request env contextParams).forwarded =
      some forwarded) :
    ∃ params headers body,
      trustedParams contextParams = some params ∧ trustedHeaders params = some headers ∧
        boundedBody request = some body ∧
        forwarded =
          { method := "POST"
            url := sandboxToolGatewayUrl
            headers := headers
            body := some (Body.ofBytes body) } := by
  simp only [forwardSandboxToolGatewayRequest] at h
  split at h
  next => cases h
  next =>
    split at h
    next params fetch hparams hfetch =>
      split at h
      next => cases h
      next body hbody =>
        split at h
        next => cases h
        next headers hheaders =>
          exact ⟨params, headers, body, hparams, hheaders, hbody, (Option.some.inj h).symm⟩
    next => cases h

/-- The headers of a request that is passed on come from the parameters of the lease alone. -/
theorem forwarded_headers
    (h : (forwardSandboxToolGatewayRequest request env contextParams).forwarded =
      some forwarded) :
    (trustedParams contextParams).bind trustedHeaders = some forwarded.headers := by
  obtain ⟨params, headers, body, hparams, hheaders, -, rfl⟩ := forwarded_spec h
  rw [hparams, Option.bind_some, hheaders]

end Trust

/--
The executor of the gateway is called only for a token that is verified at that
time for the requested tool, with all four identities of the headers in its
claims; and two requests of sandboxes with the same parameters are passed on
with the same headers, whatever headers they have.
-/
theorem toolGateway_binding :
    (∀ platform clock request dependencies input,
      (handleSandboxToolGatewayRequest platform clock request dependencies).executed =
          some input →
        Authorized platform clock request dependencies input) ∧
    (∀ contextParams request env forwarded,
      (forwardSandboxToolGatewayRequest request env contextParams).forwarded =
          some forwarded →
        (trustedParams contextParams).bind trustedHeaders = some forwarded.headers) ∧
    (∀ contextParams first firstEnv firstForwarded second secondEnv secondForwarded,
      (forwardSandboxToolGatewayRequest first firstEnv contextParams).forwarded =
          some firstForwarded →
        (forwardSandboxToolGatewayRequest second secondEnv contextParams).forwarded =
            some secondForwarded →
          firstForwarded.headers = secondForwarded.headers) := by
  refine ⟨?_, ?_, ?_⟩
  · intro platform clock request dependencies input h
    exact executed_iff.mp h
  · intro contextParams request env forwarded h
    exact forwarded_headers h
  · intro contextParams first firstEnv firstForwarded second secondEnv secondForwarded hfirst
      hsecond
    have hheaders := (forwarded_headers hfirst).symm.trans (forwarded_headers hsecond)
    exact Option.some.inj hheaders

end Aiphabee.ToolGateway
