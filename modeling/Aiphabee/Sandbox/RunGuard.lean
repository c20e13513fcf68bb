import Aiphabee.Transition.LabelledRuns

/-!
# The run guard of the sandbox bridge

One durable object per run decides which operations the bearer of a run token
may still perform.  It stores the token that opened the run, counts the calls
it has allowed, and remembers whether the run is being destroyed or is over.

This module translates the claim decision and the request handler, and proves
what they keep over every sequence of requests: the call budget of the opening
token, the exact-token rule for calls, and the absorption of the terminal state.
-/

namespace Aiphabee.RunGuard

open Transition

inductive RunGuardOperation
  | create
  | destroy
  | exec
  | file
  | status
deriving DecidableEq

/-- The scopes a run token may carry. -/
inductive SandboxRunScope
  | create
  | destroy
  | exec
  | file
  | status
deriving DecidableEq

/-- The claims of a verified run token; verification bounds `maxCalls` to 1..64. -/
structure SandboxRunTokenClaims where
  exp : Int
  iat : Int
  jti : String
  maxCalls : Nat
  scopes : List SandboxRunScope
  tenantHash : String
  userHash : String
deriving DecidableEq

/-- What an execution leaves behind. -/
structure SandboxExecReceipt where
  argvSha256 : String
  exitCode : Int
  stdoutSha256 : String
deriving DecidableEq

structure RunGuardState where
  callCount : Nat
  destroying : Bool
  exp : Int
  execReceipt : Option SandboxExecReceipt
  jti : String
  maxCalls : Nat
  scopes : List SandboxRunScope
  terminal : Bool
  tenantHash : String
  userHash : String

/-- Why a claim is rejected. -/
inductive RunGuardCode
  | callBudgetExhausted
  | destroyInProgress
  | tokenStateMismatch
deriving DecidableEq

/-- The answer to a claim. -/
structure RunGuardDecision where
  allowed : Bool
  callCount : Nat
  code : Option RunGuardCode := none
  execReceipt : Option SandboxExecReceipt := none
  terminal : Bool

/-- The requests of the guard; a receipt that is missing or malformed is `none`. -/
inductive RunGuardRequest
  | notPost
  | claim (claims : SandboxRunTokenClaims) (operation : RunGuardOperation)
  | finishDestroy
  | abortDestroy
  | recordExec
      (claims : SandboxRunTokenClaims)
      (receipt : Option SandboxExecReceipt)
  | unknown
deriving DecidableEq

inductive RunGuardResponse
  | methodNotAllowed
  | decision (decision : RunGuardDecision)
  | runNotInitialized
  | noContent
  | invalidExecReceipt
  | notFound

def initialState (claims : SandboxRunTokenClaims) : RunGuardState where
  callCount := 0
  destroying := false
  exp := claims.exp
  execReceipt := none
  jti := claims.jti
  maxCalls := claims.maxCalls
  scopes := claims.scopes
  terminal := false
  tenantHash := claims.tenantHash
  userHash := claims.userHash

variable (state : RunGuardState)
variable (claims : SandboxRunTokenClaims)

def stateMatchesClaims : Bool :=
  state.exp == claims.exp &&
    state.jti == claims.jti &&
    state.maxCalls == claims.maxCalls &&
    state.tenantHash == claims.tenantHash &&
    state.userHash == claims.userHash &&
    state.scopes == claims.scopes

def stateMatchesRunIdentity : Bool :=
  state.jti == claims.jti &&
    state.tenantHash == claims.tenantHash &&
    state.userHash == claims.userHash

def decision (allowed : Bool) : RunGuardDecision where
  allowed := allowed
  callCount := state.callCount
  execReceipt := state.execReceipt
  terminal := state.terminal

def rejection (code : RunGuardCode) (terminal : Bool) : RunGuardDecision where
  allowed := false
  callCount := state.callCount
  code := some code
  terminal := terminal

def applyRunGuardClaim (current : Option RunGuardState) (claims : SandboxRunTokenClaims)
    (operation : RunGuardOperation) : RunGuardDecision × RunGuardState :=
  let state := current.getD (initialState claims)
  let exactTokenState := stateMatchesClaims state claims
  let reissuedControlToken :=
    !exactTokenState &&
      (operation == .destroy || operation == .status) &&
      stateMatchesRunIdentity state claims
  if exactTokenState = false ∧ reissuedControlToken = false then
    (rejection state .tokenStateMismatch state.terminal, state)
  else if operation = .status ∧ state.terminal = true then
    (decision state true, state)
  else if operation = .destroy ∧ state.terminal = true then
    (decision state true, state)
  else if reissuedControlToken = true ∧ operation = .status then
    (decision state true, state)
  else if state.destroying = true ∨ state.terminal = true then
    (rejection state .destroyInProgress state.terminal, state)
  else if operation = .destroy then
    (decision state true, { state with destroying := true })
  else if state.maxCalls ≤ state.callCount then
    (rejection state .callBudgetExhausted false, state)
  else
    let next := { state with callCount := state.callCount + 1 }
    (decision next true, next)

/-- The pattern of a SHA-256 digest: 64 lower-case hexadecimal digits. -/
def isSha256Hex (value : String) : Bool :=
  value.length == 64 &&
    value.toList.all fun c => ('a' ≤ c && c ≤ 'f') || ('0' ≤ c && c ≤ '9')

/-- The integers a JavaScript number represents exactly. -/
def isSafeInteger (value : Int) : Bool :=
  -9007199254740991 ≤ value && value ≤ 9007199254740991

def execReceiptValid (receipt : SandboxExecReceipt) : Bool :=
  stateMatchesClaims state claims &&
    !state.destroying &&
    !state.terminal &&
    isSha256Hex receipt.argvSha256 &&
    isSafeInteger receipt.exitCode &&
    isSha256Hex receipt.stdoutSha256

/-- What `/record-exec` puts and answers once its body has arrived, for the state that it has
read before. -/
def recordExec (receipt : Option SandboxExecReceipt) : Option RunGuardState × RunGuardResponse :=
  match receipt with
  | none => (none, .invalidExecReceipt)
  | some receipt =>
    if execReceiptValid state claims receipt = true then
      (some { state with execReceipt := some receipt }, .noContent)
    else
      (none, .invalidExecReceipt)

def handleRunGuardRequest (storage : Option RunGuardState) :
    RunGuardRequest → Option RunGuardState × RunGuardResponse
  | .notPost => (storage, .methodNotAllowed)
  | .claim claims operation =>
    (some (applyRunGuardClaim storage claims operation).2,
      .decision (applyRunGuardClaim storage claims operation).1)
  | .finishDestroy =>
    match storage with
    | none => (none, .runNotInitialized)
    | some state =>
      (some { state with destroying := false, terminal := true }, .noContent)
  | .abortDestroy =>
    match storage with
    | none => (none, .runNotInitialized)
    | some state => (some { state with destroying := false }, .noContent)
  | .recordExec claims receipt =>
    match storage, receipt with
    | none, _ => (none, .runNotInitialized)
    | some state, none => (some state, .invalidExecReceipt)
    | some state, some receipt =>
      if execReceiptValid state claims receipt = true then
        (some { state with execReceipt := some receipt }, .noContent)
      else
        (some state, .invalidExecReceipt)
  | .unknown =>
    match storage with
    | none => (none, .runNotInitialized)
    | some state => (some state, .notFound)

abbrev RunGuardExchange :=
  RunGuardRequest × RunGuardResponse

abbrev guardStep :
    Option RunGuardState → RunGuardExchange → Option RunGuardState → Prop :=
  Answers handleRunGuardRequest

def RunGuardOperation.isCall : RunGuardOperation → Bool
  | .create | .exec | .file => true
  | .destroy | .status => false

/-- Two tokens agree on everything the guard compares. -/
structure SameToken (c d : SandboxRunTokenClaims) : Prop where
  jti : c.jti = d.jti
  exp : c.exp = d.exp
  maxCalls : c.maxCalls = d.maxCalls
  scopes : c.scopes = d.scopes
  tenantHash : c.tenantHash = d.tenantHash
  userHash : c.userHash = d.userHash

def RunGuardState.closed : Prop :=
  state.destroying = true ∨ state.terminal = true

instance (state : RunGuardState) : Decidable state.closed :=
  inferInstanceAs (Decidable (_ ∨ _))

def allowedCall? : RunGuardExchange → Option SandboxRunTokenClaims
  | (.claim claims operation, .decision decision) =>
    if operation.isCall = true ∧ decision.allowed = true then some claims else none
  | _ => none

/-- How many create, exec and file actions a sequence of exchanges allowed. -/
def allowedCallCount (exchanges : List RunGuardExchange) : Nat :=
  (exchanges.map fun exchange => if (allowedCall? exchange).isSome then 1 else 0).sum

def openingClaims : List RunGuardExchange → Option SandboxRunTokenClaims
  | [] => none
  | (.claim claims _, _) :: _ => some claims
  | _ :: rest => openingClaims rest

theorem stateMatchesClaims_iff :
    stateMatchesClaims state claims = true ↔
      state.exp = claims.exp ∧ state.jti = claims.jti ∧
        state.maxCalls = claims.maxCalls ∧
        state.tenantHash = claims.tenantHash ∧
        state.userHash = claims.userHash ∧
        state.scopes = claims.scopes := by
  simp [stateMatchesClaims, and_assoc]

@[simp] theorem initialState_matches :
    stateMatchesClaims (initialState claims) claims = true := by
  simp [stateMatchesClaims, initialState]

theorem sameToken_of_matches {state : RunGuardState} {c d : SandboxRunTokenClaims}
    (hc : stateMatchesClaims state c = true) (hd : stateMatchesClaims state d = true) :
    SameToken c d := by
  obtain ⟨he, hj, hm, ht, hu, hs⟩ := (stateMatchesClaims_iff state c).mp hc
  obtain ⟨he', hj', hm', ht', hu', hs'⟩ := (stateMatchesClaims_iff state d).mp hd
  exact
    ⟨hj.symm.trans hj', he.symm.trans he', hm.symm.trans hm', hs.symm.trans hs',
      ht.symm.trans ht', hu.symm.trans hu'⟩

inductive ClaimOutcome
    (state : RunGuardState)
    (claims : SandboxRunTokenClaims)
    (operation : RunGuardOperation) :
    RunGuardDecision → RunGuardState → Prop
  | rejected
      (d : RunGuardDecision)
      (hallowed : d.allowed = false) :
      ClaimOutcome state claims operation d state
  | reported
      (hop : operation.isCall = false)
      (hidentity : stateMatchesRunIdentity state claims = true) :
      ClaimOutcome state claims operation (decision state true) state
  | destroying
      (hop : operation = .destroy)
      (hidentity : stateMatchesRunIdentity state claims = true)
      (hopen : ¬ state.closed) :
      ClaimOutcome state claims operation (decision state true)
        { state with destroying := true }
  | counted
      (hmatch : stateMatchesClaims state claims = true)
      (hopen : ¬ state.closed)
      (hbudget : state.callCount < state.maxCalls) :
      ClaimOutcome state claims operation
        (decision { state with callCount := state.callCount + 1 } true)
        { state with callCount := state.callCount + 1 }

theorem matchesRunIdentity_of_matchesClaims {state : RunGuardState} {claims : SandboxRunTokenClaims}
    (h : stateMatchesClaims state claims = true) : stateMatchesRunIdentity state claims = true := by
  obtain ⟨_, hj, _, ht, hu, _⟩ := (stateMatchesClaims_iff state claims).mp h
  simp [stateMatchesRunIdentity, hj, ht, hu]

theorem applyRunGuardClaim_outcome (current : Option RunGuardState) (claims : SandboxRunTokenClaims)
    (operation : RunGuardOperation) :
    ClaimOutcome (current.getD (initialState claims)) claims operation
      (applyRunGuardClaim current claims operation).1
      (applyRunGuardClaim current claims operation).2 := by
  generalize hstate : current.getD (initialState claims) = state
  unfold applyRunGuardClaim
  simp only [hstate]
  by_cases hexact : stateMatchesClaims state claims = true
  · have hidentity := matchesRunIdentity_of_matchesClaims hexact
    simp only [hexact, Bool.true_eq_false, Bool.not_true, Bool.false_and, false_and,
      if_false, Bool.false_eq_true]
    split
    · next h => exact ClaimOutcome.reported (by rw [h.1]; rfl) hidentity
    split
    · next h => exact ClaimOutcome.reported (by rw [h.1]; rfl) hidentity
    split
    · exact ClaimOutcome.rejected _ rfl
    split
    · next hopen hop => exact ClaimOutcome.destroying hop hidentity hopen
    split
    · exact ClaimOutcome.rejected _ rfl
    · next hopen _ hbudget =>
        exact ClaimOutcome.counted hexact hopen (Nat.lt_of_not_le hbudget)
  · have hexact : stateMatchesClaims state claims = false := by simpa using hexact
    by_cases hreissued :
        (operation = .destroy ∨ operation = .status) ∧
          stateMatchesRunIdentity state claims = true
    · obtain ⟨hcontrol, hidentity⟩ := hreissued
      have hcall : operation.isCall = false := by
        rcases hcontrol with rfl | rfl <;> rfl
      have hflag :
          (operation == RunGuardOperation.destroy ||
            operation == RunGuardOperation.status) = true := by
        simpa using hcontrol
      simp only [hexact, hflag, hidentity, Bool.not_false, Bool.and_true, and_false,
        Bool.true_eq_false, if_false, true_and]
      split
      · exact ClaimOutcome.reported hcall hidentity
      split
      · exact ClaimOutcome.reported hcall hidentity
      split
      · exact ClaimOutcome.reported hcall hidentity
      split
      · exact ClaimOutcome.rejected _ rfl
      split
      · next hopen hop => exact ClaimOutcome.destroying hop hidentity hopen
      · next hstatus _ hdestroy =>
          rcases hcontrol with h | h
          · exact absurd h hdestroy
          · exact absurd h hstatus
    · have hflag :
          ((operation == RunGuardOperation.destroy ||
            operation == RunGuardOperation.status) &&
              stateMatchesRunIdentity state claims) = false := by
        rw [Bool.eq_false_iff]
        simpa using hreissued
      simp only [hexact, hflag, Bool.not_false, Bool.true_and, and_self, if_true]
      exact ClaimOutcome.rejected _ rfl

section Steps

inductive GuardChange : RunGuardState → RunGuardState → Prop
  | stay (state : RunGuardState) :
      GuardChange state state
  | destroying
      {state : RunGuardState}
      (hopen : ¬ state.closed) :
      GuardChange state { state with destroying := true }
  | counted
      {state : RunGuardState}
      (hopen : ¬ state.closed)
      (hbudget : state.callCount < state.maxCalls) :
      GuardChange state { state with callCount := state.callCount + 1 }
  | finished (state : RunGuardState) :
      GuardChange state { state with destroying := false, terminal := true }
  | aborted (state : RunGuardState) :
      GuardChange state { state with destroying := false }
  | receipt (state : RunGuardState) (execReceipt : Option SandboxExecReceipt) :
      GuardChange state { state with execReceipt := execReceipt }

theorem guardChange_of_claim (current : Option RunGuardState) (claims : SandboxRunTokenClaims)
    (operation : RunGuardOperation) :
    GuardChange (current.getD (initialState claims))
      (applyRunGuardClaim current claims operation).2 := by
  have houtcome := applyRunGuardClaim_outcome current claims operation
  generalize (applyRunGuardClaim current claims operation).1 = d at houtcome
  generalize (applyRunGuardClaim current claims operation).2 = state' at houtcome ⊢
  cases houtcome with
  | rejected | reported => exact GuardChange.stay _
  | destroying _ _ hopen => exact GuardChange.destroying hopen
  | counted _ hopen hbudget => exact GuardChange.counted hopen hbudget

variable {exchange : RunGuardExchange}
variable {storage' : Option RunGuardState}

theorem guardStep_some {state : RunGuardState} (hstep : guardStep (some state) exchange storage') :
    ∃ state', storage' = some state' ∧ GuardChange state state' := by
  obtain ⟨request, response⟩ := exchange
  have hstorage :
      storage' = (handleRunGuardRequest (some state) request).1 :=
    (Prod.ext_iff.mp hstep).1.symm
  cases request with
  | notPost | unknown => exact ⟨state, hstorage, GuardChange.stay state⟩
  | claim claims operation =>
    exact ⟨_, hstorage, guardChange_of_claim (some state) claims operation⟩
  | finishDestroy => exact ⟨_, hstorage, GuardChange.finished state⟩
  | abortDestroy => exact ⟨_, hstorage, GuardChange.aborted state⟩
  | recordExec claims receipt =>
    cases receipt with
    | none => exact ⟨state, hstorage, GuardChange.stay state⟩
    | some receipt =>
      by_cases hvalid : execReceiptValid state claims receipt = true
      · refine ⟨{ state with execReceipt := some receipt }, ?_,
          GuardChange.receipt state (some receipt)⟩
        rw [hstorage]
        simp only [handleRunGuardRequest, hvalid, if_true]
      · refine ⟨state, ?_, GuardChange.stay state⟩
        rw [hstorage]
        simp only [handleRunGuardRequest, hvalid, if_false, Bool.false_eq_true]

theorem guardStep_none (hstep : guardStep none exchange storage') :
    (storage' = none ∧ ∀ claims operation, exchange.1 ≠ .claim claims operation) ∨
      ∃ claims operation state',
        exchange.1 = .claim claims operation ∧ storage' = some state' ∧
          GuardChange (initialState claims) state' := by
  obtain ⟨request, response⟩ := exchange
  have hstorage : storage' = (handleRunGuardRequest none request).1 :=
    (Prod.ext_iff.mp hstep).1.symm
  cases request with
  | claim claims operation =>
    exact Or.inr
      ⟨claims, operation, _, rfl, hstorage, guardChange_of_claim none claims operation⟩
  | _ => exact Or.inl ⟨hstorage, by simp⟩

theorem allowedCall_step {storage storage' : Option RunGuardState} {claims : SandboxRunTokenClaims}
    (hstep : guardStep storage exchange storage') (hcall : allowedCall? exchange = some claims) :
    let state := storage.getD (initialState claims)
    stateMatchesClaims state claims = true ∧ ¬ state.closed ∧
      state.callCount < state.maxCalls ∧
      storage' = some { state with callCount := state.callCount + 1 } := by
  obtain ⟨request, response⟩ := exchange
  obtain ⟨hstorage, hresponse⟩ := Prod.ext_iff.mp hstep
  cases request with
  | claim presented operation =>
    simp only [handleRunGuardRequest] at hstorage hresponse
    subst hresponse
    simp only [allowedCall?] at hcall
    split at hcall
    next hboth =>
      obtain rfl : presented = claims := Option.some.inj hcall
      have houtcome := applyRunGuardClaim_outcome storage presented operation
      rw [← hstorage]
      generalize (applyRunGuardClaim storage presented operation).1 = d at houtcome hboth
      generalize (applyRunGuardClaim storage presented operation).2 = next at houtcome ⊢
      cases houtcome with
      | rejected _ hallowed => exact absurd hboth.2 (by simp [hallowed])
      | reported hop _ => exact absurd hboth.1 (by simp [hop])
      | destroying hop _ _ => exact absurd hboth.1 (by simp [hop, RunGuardOperation.isCall])
      | counted hmatch hopen hbudget => exact ⟨hmatch, hopen, hbudget, rfl⟩
    next => cases hcall
  | _ => simp [allowedCall?] at hcall

end Steps

section Invariants

structure OpenedBy
    (opening : SandboxRunTokenClaims)
    (state : RunGuardState) : Prop where
  token : stateMatchesClaims state opening = true
  budget : state.callCount ≤ state.maxCalls

theorem openedBy_initialState :
    OpenedBy claims (initialState claims) :=
  ⟨initialState_matches claims, Nat.zero_le _⟩

variable {opening : SandboxRunTokenClaims}

theorem openedBy_change {state state' : RunGuardState} (hchange : GuardChange state state')
    (h : OpenedBy opening state) : OpenedBy opening state' := by
  cases hchange with
  | counted hopen hbudget => exact ⟨h.token, hbudget⟩
  | _ => exact ⟨h.token, h.budget⟩

def OpenedStorage (opening : SandboxRunTokenClaims) (storage : Option RunGuardState) : Prop :=
  ∃ state, storage = some state ∧ OpenedBy opening state

variable (storage : Option RunGuardState)

theorem openedStorage_step (exchange : RunGuardExchange) (storage' : Option RunGuardState)
    (hstep : guardStep storage exchange storage') (h : OpenedStorage opening storage) :
    OpenedStorage opening storage' := by
  obtain ⟨state, rfl, hopened⟩ := h
  obtain ⟨state', rfl, hchange⟩ := guardStep_some hstep
  exact ⟨state', rfl, openedBy_change hchange hopened⟩

def callsCounted : Nat :=
  (storage.map RunGuardState.callCount).getD 0

theorem callsCounted_step (exchange : RunGuardExchange) (storage' : Option RunGuardState)
    (hstep : guardStep storage exchange storage') :
    callsCounted storage + (if (allowedCall? exchange).isSome then 1 else 0) ≤
      callsCounted storage' := by
  cases hcall : allowedCall? exchange with
  | some claims =>
    obtain ⟨_, _, _, rfl⟩ := allowedCall_step hstep hcall
    cases storage <;> simp [callsCounted, initialState]
  | none =>
    cases storage with
    | none => simp [callsCounted]
    | some state =>
      obtain ⟨state', rfl, hchange⟩ := guardStep_some hstep
      cases hchange <;> simp [callsCounted]

theorem opened_run {exchanges : List RunGuardExchange} {storage : Option RunGuardState}
    (hrun : Run guardStep none exchanges storage) :
    match openingClaims exchanges with
    | none => storage = none ∧ ∀ e, e ∈ exchanges → allowedCall? e = none
    | some opening =>
      OpenedStorage opening storage ∧
        ∀ e, e ∈ exchanges → ∀ claims, allowedCall? e = some claims →
          SameToken claims opening := by
  induction exchanges with
  | nil =>
    rw [Run.nil_iff] at hrun
    exact ⟨hrun.symm, by simp⟩
  | cons exchange rest ih =>
    obtain ⟨middle, hstep, hrest⟩ := Run.cons_iff.mp hrun
    rcases guardStep_none hstep with
      ⟨rfl, hkind⟩ | ⟨opening, operation, state', hclaim, rfl, hchange⟩
    · -- Nothing is open yet: the opening token is the one of the rest.
      have hhead : allowedCall? exchange = none := by
        obtain ⟨request, response⟩ := exchange
        cases request with
        | claim claims operation => exact absurd rfl (hkind claims operation)
        | _ => rfl
      have hopening : openingClaims (exchange :: rest) = openingClaims rest := by
        obtain ⟨request, response⟩ := exchange
        cases request with
        | claim claims operation => exact absurd rfl (hkind claims operation)
        | _ => rfl
      have hih := ih hrest
      rw [hopening]
      cases hclaims : openingClaims rest with
      | none =>
        rw [hclaims] at hih
        refine ⟨hih.1, ?_⟩
        intro e he
        rcases List.mem_cons.mp he with rfl | he
        · exact hhead
        · exact hih.2 e he
      | some opening =>
        rw [hclaims] at hih
        refine ⟨hih.1, ?_⟩
        intro e he claims hcall
        rcases List.mem_cons.mp he with rfl | he
        · rw [hhead] at hcall
          cases hcall
        · exact hih.2 e he claims hcall
    · -- The first claim: from here on the stored token is fixed.
      have hopening : openingClaims (exchange :: rest) = some opening := by
        obtain ⟨request, response⟩ := exchange
        obtain rfl : request = .claim opening operation := hclaim
        rfl
      have hopened : OpenedStorage opening (some state') :=
        ⟨state', rfl, openedBy_change hchange (openedBy_initialState opening)⟩
      have hlater :
          ∀ e, e ∈ rest → ∀ claims, allowedCall? e = some claims →
            SameToken claims opening := by
        refine hrest.forall_labels openedStorage_step ?_ hopened
        rintro _ e _ hs ⟨state, rfl, hstate⟩ claims hcall
        obtain ⟨hmatch, _, _, _⟩ := allowedCall_step hs hcall
        exact sameToken_of_matches hmatch hstate.token
      rw [hopening]
      refine ⟨hrest.preserves openedStorage_step hopened, ?_⟩
      intro e he claims hcall
      rcases List.mem_cons.mp he with rfl | he
      · obtain ⟨request, response⟩ := e
        obtain rfl : request = .claim opening operation := hclaim
        cases response with
        | decision d =>
          simp only [allowedCall?] at hcall
          split at hcall
          · cases hcall
            exact ⟨rfl, rfl, rfl, rfl, rfl, rfl⟩
          · cases hcall
        | _ => simp [allowedCall?] at hcall
      · exact hlater e he claims hcall

theorem terminal_step (exchange : RunGuardExchange) (storage' : Option RunGuardState)
    (hstep : guardStep storage exchange storage')
    (h : ∃ state, storage = some state ∧ state.terminal = true) :
    ∃ state', storage' = some state' ∧ state'.terminal = true := by
  obtain ⟨state, rfl, hterminal⟩ := h
  obtain ⟨state', rfl, hchange⟩ := guardStep_some hstep
  refine ⟨state', rfl, ?_⟩
  cases hchange with
  | finished => rfl
  | _ => exact hterminal

variable {state : RunGuardState}
variable {claims : SandboxRunTokenClaims}

theorem reissued_controls_only {operation : RunGuardOperation}
    (hallowed : (applyRunGuardClaim (some state) claims operation).1.allowed = true)
    (hreissued : stateMatchesClaims state claims = false) :
    (operation = .status ∨ operation = .destroy) ∧
      stateMatchesRunIdentity state claims = true := by
  have houtcome := applyRunGuardClaim_outcome (some state) claims operation
  generalize (applyRunGuardClaim (some state) claims operation).1 = d at houtcome hallowed
  generalize (applyRunGuardClaim (some state) claims operation).2 = next at houtcome
  simp only [Option.getD_some] at houtcome
  cases houtcome with
  | rejected _ h => exact absurd hallowed (by simp [h])
  | reported hop hidentity =>
    refine ⟨?_, hidentity⟩
    cases operation <;> simp [RunGuardOperation.isCall] at hop ⊢
  | destroying hop hidentity _ => exact ⟨Or.inr hop, hidentity⟩
  | counted hmatch _ _ => exact absurd hmatch (by simp [hreissued])

/--
A reissued token of the same run may always claim its status, and may claim its
destroy unless one is already under way.
-/
theorem reissued_control_allowed (hreissued : stateMatchesClaims state claims = false)
    (hidentity : stateMatchesRunIdentity state claims = true) :
    (applyRunGuardClaim (some state) claims .status).1.allowed = true ∧
      (state.destroying = false ∨ state.terminal = true →
        (applyRunGuardClaim (some state) claims .destroy).1.allowed = true) := by
  constructor
  · cases hterminal : state.terminal <;>
      simp [applyRunGuardClaim, hreissued, hidentity, hterminal, decision]
  · intro hopen
    cases hterminal : state.terminal <;>
      simp_all [applyRunGuardClaim, decision]

theorem closed_rejects_calls (hclosed : state.closed) {exchange : RunGuardExchange}
    {storage' : Option RunGuardState} (hstep : guardStep (some state) exchange storage') :
    allowedCall? exchange = none := by
  cases hcall : allowedCall? exchange with
  | none => rfl
  | some claims =>
    obtain ⟨_, hopen, _, _⟩ := allowedCall_step hstep hcall
    exact absurd hclosed hopen

end Invariants

/--
The run guard over all runs.  Whatever requests are made, the calls allowed are
at most the budget of the token that opened the run, and each of them presented
exactly that token; a finished run stays finished; a run that is being
destroyed or is finished allows no call; and a token that is not the opening
one is good for status and destroy claims of the same run, and for nothing else.
-/
theorem runGuard_lawful {exchanges : List RunGuardExchange} {storage : Option RunGuardState}
    (hrun : Run guardStep none exchanges storage) :
    (∀ opening, openingClaims exchanges = some opening →
      allowedCallCount exchanges ≤ opening.maxCalls) ∧
    (openingClaims exchanges = none → allowedCallCount exchanges = 0) ∧
    (∀ exchange, exchange ∈ exchanges →
      ∀ claims, allowedCall? exchange = some claims →
        ∃ opening, openingClaims exchanges = some opening ∧ SameToken claims opening) ∧
    ∀ state, storage = some state →
      (state.terminal = true →
        ∀ later storage', Run guardStep storage later storage' →
          ∃ state', storage' = some state' ∧ state'.terminal = true) ∧
      (state.closed →
        ∀ exchange storage', guardStep storage exchange storage' →
          allowedCall? exchange = none) ∧
      (∀ claims, stateMatchesClaims state claims = false →
        (∀ operation,
          (applyRunGuardClaim storage claims operation).1.allowed = true →
            (operation = .status ∨ operation = .destroy) ∧
              stateMatchesRunIdentity state claims = true) ∧
        (stateMatchesRunIdentity state claims = true →
          (applyRunGuardClaim storage claims .status).1.allowed = true ∧
            (state.destroying = false ∨ state.terminal = true →
              (applyRunGuardClaim storage claims .destroy).1.allowed = true))) := by
  have hopened := opened_run hrun
  have hcount : allowedCallCount exchanges ≤ callsCounted storage := by
    have h :=
      hrun.gain_le (I := fun _ => True) (f := callsCounted)
        (fun _ _ _ _ _ => trivial)
        (fun s e t hstep _ => callsCounted_step s e t hstep) trivial
    simpa [callsCounted, allowedCallCount] using h
  refine ⟨?_, ?_, ?_, ?_⟩
  · intro opening hopening
    rw [hopening] at hopened
    obtain ⟨⟨state, rfl, hstate⟩, _⟩ := hopened
    have hbudget := hstate.budget
    have htoken := (stateMatchesClaims_iff state opening).mp hstate.token
    rw [htoken.2.2.1] at hbudget
    exact le_trans hcount hbudget
  · intro hopening
    rw [hopening] at hopened
    rw [hopened.1] at hcount
    simpa [callsCounted] using hcount
  · intro exchange hmem claims hcall
    cases hopening : openingClaims exchanges with
    | none =>
      rw [hopening] at hopened
      rw [hopened.2 exchange hmem] at hcall
      cases hcall
    | some opening =>
      rw [hopening] at hopened
      exact ⟨opening, rfl, hopened.2 exchange hmem claims hcall⟩
  · rintro state rfl
    refine ⟨?_, ?_, ?_⟩
    · intro hterminal later storage' hlater
      exact hlater.preserves terminal_step ⟨state, rfl, hterminal⟩
    · intro hclosed exchange storage' hstep
      exact closed_rejects_calls hclosed hstep
    · intro claims hreissued
      refine ⟨?_, reissued_control_allowed hreissued⟩
      intro operation hallowed
      exact reissued_controls_only hallowed hreissued

def exampleClaims : SandboxRunTokenClaims where
  exp := 2000
  iat := 1000
  jti := "run-row10-control"
  maxCalls := 2
  scopes := [.create, .destroy, .exec, .status]
  tenantHash := "a"
  userHash := "b"

def reissuedClaims : SandboxRunTokenClaims :=
  { exampleClaims with exp := 2100, iat := 1100 }

/-- Three calls on a budget of two, one with the reissued token, then a destroy. -/
def exampleRequests : List RunGuardRequest :=
  [.claim exampleClaims .create, .claim reissuedClaims .exec,
    .claim exampleClaims .exec, .claim exampleClaims .file,
    .claim reissuedClaims .destroy, .finishDestroy]

/-- The budget law at a run that asks for more than its budget. -/
theorem runGuard_lawful_budget :
    allowedCallCount (serve handleRunGuardRequest none exampleRequests).2 ≤ 2 ∧
      allowedCallCount (serve handleRunGuardRequest none exampleRequests).2 = 2 :=
  ⟨(runGuard_lawful (serve_run handleRunGuardRequest none exampleRequests)).1
      exampleClaims rfl,
    by decide⟩

end Aiphabee.RunGuard
