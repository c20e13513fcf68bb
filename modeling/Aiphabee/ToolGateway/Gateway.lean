import Aiphabee.SandboxAuth.TokenRoundTrip
import Aiphabee.Web.Http

/-!
# The tool gateway

The gateway receives the tool calls of the sandboxes.  It runs a tool only for
a token that is valid for this tool at this time, and only where the identities
in the trusted headers are those of the token.
-/

namespace Aiphabee.ToolGateway

open JsText (ofString)
open Http Checks
open SandboxAuth

def maxRequestBytes : Nat := 65536

def toolGatewayPath : String := "/v1/tools/call"

def errorResponse (status : Nat) (code : String) : Response :=
  Response.json
    (JsText.jsonObject
      [("error", JsText.jsonObject [("code", JsText.jsonString (ofString code))]),
        ("ok", "false".toList)])
    [("cache-control", ofString "no-store")] status

variable (request : Request)

def bearerToken : Option JsText :=
  match request.headers.get "authorization" with
  | none => none
  | some value =>
    if (ofString "Bearer ").isPrefixOf value then
      let token := value.drop 7
      if 0 < token.length ∧ token.length ≤ 4096 then some token else none
    else
      none

/-- The identities that the bridge puts into the headers. -/
structure LeaseBinding where
  leaseId : JsText
  runId : JsText
  tenantId : JsText
  userId : JsText

def bindingHeader (name : String) : Option JsText :=
  (request.headers.get name).filter fun value => 1 ≤ value.length && value.length ≤ 128

def trustedLeaseBinding : Option LeaseBinding := do
  let leaseId ← bindingHeader request "x-aiphabee-sandbox-lease-id"
  let runId ← bindingHeader request "x-aiphabee-sandbox-run-id"
  let tenantId ← bindingHeader request "x-aiphabee-tenant-id"
  let userId ← bindingHeader request "x-aiphabee-user-id"
  pure { leaseId, runId, tenantId, userId }

structure ToolCall where
  arguments : List (JsText × JsonValue)
  toolName : JsText

def objectField (fields : List (JsText × JsonValue)) (key : String) :
    Option (List (JsText × JsonValue)) :=
  (fieldValue fields key).bind objectFields

def parseBody (platform : Platform) (request : Request) : Option ToolCall := do
  guard (mediaType request = some (ofString "application/json"))
  let bytes ← readBounded maxRequestBytes request
  let text ← JsText.decodeUtf8 bytes
  let parsed ← platform.parseJson text
  let fields ← objectFields parsed
  guard (hasExactKeys fields ["arguments", "tool_name"])
  let arguments ← objectField fields "arguments"
  let toolName ← stringField fields "tool_name"
  pure { arguments, toolName }

structure SandboxToolGatewayExecutionInput where
  arguments : List (JsText × JsonValue)
  claims : SandboxToolGatewayTokenClaims
  toolName : JsText

/-- The executor gives no response where it throws. -/
structure SandboxToolGatewayDependencies where
  execute : SandboxToolGatewayExecutionInput → Option Response
  isToolExecutable : JsText → Bool
  nowMs : Option JsNumber
  secret : Option JsText

/-- The response to the sandbox; none where the platform refuses to build it. -/
def boundedToolResponse (response : Response) : Option Response :=
  if 200 ≤ response.status ∧ response.status ≤ 599 then
    some
      { status := response.status
        headers :=
          ("cache-control", ofString "no-store") ::
            ((response.headers.get "content-type").toList.map fun value =>
              ("content-type", value)) ++
            (response.headers.get "x-request-id").toList.map fun value =>
              ("x-request-id", value)
        body := response.body }
  else
    none

def isToolCallRoute : Prop :=
  request.method = "POST" ∧ request.url.pathname = toolGatewayPath ∧
    request.url.search.length = 0 ∧ request.url.hash.length = 0

instance (request : Request) : Decidable (isToolCallRoute request) :=
  inferInstanceAs (Decidable (_ ∧ _ ∧ _ ∧ _))

def verificationFailure (error : SandboxRunTokenError) : Response :=
  if error.code = .INVALID_SECRET then
    errorResponse 503 "TOOL_GATEWAY_UNAVAILABLE"
  else
    errorResponse 401 "TOOL_GATEWAY_UNAUTHORIZED"

/-- What the handler passes to the executor, or the response with which it refuses. -/
def authorizeToolCall (platform : Platform) (clock : JsNumber) (request : Request)
    (dependencies : SandboxToolGatewayDependencies) :
    Except Response SandboxToolGatewayExecutionInput := do
  ensure (isToolCallRoute request) (errorResponse 404 "TOOL_GATEWAY_ROUTE_DENIED")
  let secret ← require (dependencies.secret.filter (0 < ·.length))
    (errorResponse 503 "TOOL_GATEWAY_UNAVAILABLE")
  let token ← require (bearerToken request)
    (errorResponse 401 "TOOL_GATEWAY_UNAUTHORIZED")
  let leaseBinding ← require (trustedLeaseBinding request)
    (errorResponse 401 "TOOL_GATEWAY_UNAUTHORIZED")
  let body ← require (parseBody platform request)
    (errorResponse 400 "TOOL_GATEWAY_INVALID_REQUEST")
  let claims ←
    (verifySandboxToolGatewayToken platform token secret (dependencies.nowMs.getD clock)
      (some body.toolName)).mapError verificationFailure
  ensure
    (claims.leaseId = leaseBinding.leaseId ∧ claims.runId = leaseBinding.runId ∧
      claims.tenantId = leaseBinding.tenantId ∧ claims.userId = leaseBinding.userId)
    (errorResponse 401 "TOOL_GATEWAY_UNAUTHORIZED")
  ensure (dependencies.isToolExecutable claims.toolName)
    (errorResponse 403 "TOOL_GATEWAY_TOOL_DENIED")
  pure { arguments := body.arguments, claims, toolName := claims.toolName }

/-- The response of the handler, and the call of the executor where it makes one. -/
structure Handled where
  response : Response
  executed : Option SandboxToolGatewayExecutionInput

def handleSandboxToolGatewayRequest (platform : Platform) (clock : JsNumber) (request : Request)
    (dependencies : SandboxToolGatewayDependencies) : Handled :=
  match authorizeToolCall platform clock request dependencies with
  | .error response => { response, executed := none }
  | .ok input =>
    { response :=
        ((dependencies.execute input).bind boundedToolResponse).getD
          (errorResponse 502 "TOOL_GATEWAY_EXECUTION_FAILED")
      executed := some input }

section Authorization

variable {platform : Platform}
variable {clock : JsNumber}
variable {request : Request}
variable {dependencies : SandboxToolGatewayDependencies}
variable {input : SandboxToolGatewayExecutionInput}

/-- What must hold for a call of the executor. -/
structure Authorized
    (platform : Platform)
    (clock : JsNumber)
    (request : Request)
    (dependencies : SandboxToolGatewayDependencies)
    (input : SandboxToolGatewayExecutionInput) : Prop where
  route : isToolCallRoute request
  verified : ∃ secret token,
    dependencies.secret = some secret ∧ bearerToken request = some token ∧
      verifySandboxToolGatewayToken platform token secret (dependencies.nowMs.getD clock)
        (some input.toolName) = .ok input.claims
  requested : parseBody platform request = some ⟨input.arguments, input.toolName⟩
  tool : input.toolName = input.claims.toolName
  lease : request.headers.get "x-aiphabee-sandbox-lease-id" = some input.claims.leaseId
  run : request.headers.get "x-aiphabee-sandbox-run-id" = some input.claims.runId
  tenant : request.headers.get "x-aiphabee-tenant-id" = some input.claims.tenantId
  user : request.headers.get "x-aiphabee-user-id" = some input.claims.userId
  executable : dependencies.isToolExecutable input.claims.toolName = true

theorem trustedLeaseBinding_eq_some {binding : LeaseBinding} :
    trustedLeaseBinding request = some binding ↔
      bindingHeader request "x-aiphabee-sandbox-lease-id" = some binding.leaseId ∧
      bindingHeader request "x-aiphabee-sandbox-run-id" = some binding.runId ∧
      bindingHeader request "x-aiphabee-tenant-id" = some binding.tenantId ∧
      bindingHeader request "x-aiphabee-user-id" = some binding.userId := by
  simp only [trustedLeaseBinding, Option.bind_eq_bind, Option.bind_eq_some_iff]
  constructor
  · rintro ⟨leaseId, hlease, runId, hrun, tenantId, htenant, userId, huser, hbinding⟩
    obtain rfl := Option.some.inj hbinding
    exact ⟨hlease, hrun, htenant, huser⟩
  · rintro ⟨hlease, hrun, htenant, huser⟩
    exact ⟨_, hlease, _, hrun, _, htenant, _, huser, rfl⟩

theorem get_of_bindingHeader {name : String} {value : JsText}
    (h : bindingHeader request name = some value) : request.headers.get name = some value :=
  (Option.filter_eq_some_iff.mp h).1

theorem bindingHeader_of_get {name : String} {value : JsText} (hid : isToolGatewayId value = true)
    (h : request.headers.get name = some value) : bindingHeader request name = some value := by
  simp only [isToolGatewayId, Bool.and_eq_true] at hid
  rw [bindingHeader, h, Option.filter_some, hid.1.1.1, hid.1.1.2]
  rfl

theorem secret_ne_nil {token secret : JsText} {nowMs : JsNumber} {requiredToolName : Option JsText}
    {claims : SandboxToolGatewayTokenClaims}
    (h : verifySandboxToolGatewayToken platform token secret nowMs requiredToolName =
      .ok claims) :
    0 < secret.length := by
  simp only [verifySandboxToolGatewayToken, bind_eq_ok] at h
  obtain ⟨opened, hopen, -⟩ := h
  have hsecret := secret_of_openToken hopen
  cases secret with
  | nil => exact absurd hsecret (by decide)
  | cons first rest => exact Nat.succ_pos _

theorem authorizeToolCall_eq_ok :
    authorizeToolCall platform clock request dependencies = .ok input ↔
      Authorized platform clock request dependencies input := by
  simp only [authorizeToolCall, bind_eq_ok, ensure_eq_ok, require_eq_ok,
    mapError_eq_ok, Option.filter_eq_some_iff, trustedLeaseBinding_eq_some]
  constructor
  · rintro ⟨_, hroute, secret, ⟨hsecret, -⟩, token, htoken, binding, ⟨hlease, hrun, htenant,
      huser⟩, body, hbody, claims, hverify, _, ⟨hleaseId, hrunId, htenantId, huserId⟩, _,
      hexecutable, hinput⟩
    obtain rfl := Except.ok.inj hinput
    obtain ⟨-, -, -, -, hrequired, -⟩ := verifySandboxToolGatewayToken_eq_ok hverify
    have htool : claims.toolName = body.toolName := hrequired _ rfl
    rw [← hleaseId] at hlease
    rw [← hrunId] at hrun
    rw [← htenantId] at htenant
    rw [← huserId] at huser
    exact
      { route := hroute
        verified := ⟨secret, token, hsecret, htoken, by rw [htool]; exact hverify⟩
        requested := by rw [htool]; exact hbody
        tool := rfl
        lease := get_of_bindingHeader hlease
        run := get_of_bindingHeader hrun
        tenant := get_of_bindingHeader htenant
        user := get_of_bindingHeader huser
        executable := hexecutable }
  · intro h
    obtain ⟨secret, token, hsecret, htoken, hverify⟩ := h.verified
    obtain ⟨-, -, hbounds, -, -, -⟩ := verifySandboxToolGatewayToken_eq_ok hverify
    refine ⟨(), h.route, secret, ⟨hsecret, decide_eq_true (secret_ne_nil hverify)⟩, token, htoken,
      ⟨input.claims.leaseId, input.claims.runId, input.claims.tenantId, input.claims.userId⟩,
      ⟨bindingHeader_of_get hbounds.leaseId h.lease, bindingHeader_of_get hbounds.runId h.run,
        bindingHeader_of_get hbounds.tenantId h.tenant,
        bindingHeader_of_get hbounds.userId h.user⟩,
      _, h.requested, input.claims, hverify, (), ⟨rfl, rfl, rfl, rfl⟩, (), h.executable, ?_⟩
    rw [← h.tool]
    rfl

theorem executed_iff :
    (handleSandboxToolGatewayRequest platform clock request dependencies).executed =
        some input ↔
      Authorized platform clock request dependencies input := by
  rw [← authorizeToolCall_eq_ok, handleSandboxToolGatewayRequest]
  cases authorizeToolCall platform clock request dependencies <;> simp

end Authorization

end Aiphabee.ToolGateway
