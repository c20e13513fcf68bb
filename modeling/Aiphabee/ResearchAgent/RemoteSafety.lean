import Aiphabee.ResearchAgent.RemoteWorld

/-!
# The stored status and the remote user

A profile that is stored as disabled should belong to a remote user that is
not active, since a later disable is answered on the stored status alone.

A failure that may be retried blocks the profile, but one that may not puts
back the status before, although the remote user may be active by then.
`disabled_is_inactive_iff` says exactly when this happens.
-/

namespace Aiphabee.ResearchAgent

open KeyedTable
open Transition

variable {directory : FastClawDirectory}
variable {attempt : LifecycleAttempt}
variable {identity : String}
variable {profile : ResearchAgentLifecycleProfile}
variable {remote : RemoteUsers}
variable {digest : String → List UInt8}

section Shapes

variable {ε ε' α β : Type}

@[simp] theorem andThen_ok (calls : List RemoteExchange) (value : α) (next : α → Remote ε β) :
    ({ calls := calls, result := .ok value } : Remote ε α).andThen next =
      { calls := calls ++ (next value).calls, result := (next value).result } := by
  rfl

@[simp] theorem andThen_error (calls : List RemoteExchange) (error : ε) (next : α → Remote ε β) :
    ({ calls := calls, result := .error error } : Remote ε α).andThen next =
      { calls := calls, result := .error error } := by
  rfl

@[simp] theorem mapError_ok (f : ε → ε') (calls : List RemoteExchange) (value : α) :
    ({ calls := calls, result := .ok value } : Remote ε α).mapError f =
      { calls := calls, result := .ok value } := by
  rfl

@[simp] theorem mapError_error (f : ε → ε') (calls : List RemoteExchange) (error : ε) :
    ({ calls := calls, result := .error error } : Remote ε α).mapError f =
      { calls := calls, result := .error (f error) } := by
  rfl

@[simp] theorem map_ok (f : α → β) (calls : List RemoteExchange) (value : α) :
    ({ calls := calls, result := .ok value } : Remote ε α).map f =
      { calls := calls, result := .ok (f value) } := by
  rfl

@[simp] theorem map_error (f : α → β) (calls : List RemoteExchange) (error : ε) :
    ({ calls := calls, result := .error error } : Remote ε α).map f =
      { calls := calls, result := .error error } := by
  rfl

@[simp] theorem send_ok (call : RemoteCall) (value : α) :
    Remote.send call (.ok value) =
      { calls := [{ call := call, succeeded := true }], result := .ok value } := by
  rfl

@[simp] theorem send_error (call : RemoteCall) (error : RemoteError) :
    (Remote.send call (.error error) : Remote RemoteError α) =
      { calls := [{ call := call, succeeded := false }], result := .error error } := by
  rfl

@[simp] theorem ofExcept_ok (value : α) :
    (Remote.ofExcept (.ok value) : Remote ε α) = { calls := [], result := .ok value } := by
  rfl

end Shapes

def FastClawDirectory.userOf (directory : FastClawDirectory) (identity : String) : String :=
  directory.userIdOf (fastClawExternalIdentity identity)

def FastClawDirectory.agentOf (directory : FastClawDirectory) (identity : String) : String :=
  directory.agentIdOf (fastClawAgentExternalIdentity identity)

theorem userOf_usable (h : IsHex identity) :
    JsString.trim (directory.userOf identity) = directory.userOf identity ∧
      directory.userOf identity ≠ "" :=
  directory.userIdOf_usable _ (trim_externalIdentity h) (append_ne_empty _ (by decide))

theorem agentOf_usable (h : IsHex identity) : JsString.trim (directory.agentOf identity) ≠ "" :=
  directory.agentIdOf_usable _ (trim_agentExternalIdentity h) (append_ne_empty _ (by decide))

theorem sendAbout_of_trimmed {α : Type} {value label : String}
    {request : String → Remote RemoteError α} (htrim : JsString.trim value = value)
    (hne : value ≠ "") : Remote.sendAbout value label request = request value := by
  simp [Remote.sendAbout, assertNonEmpty_of_trimmed label htrim hne]

theorem provisionUser_eq (h : IsHex identity) (reply : ControlReply UserBody) :
    provisionUser (fastClawExternalIdentity identity) reply =
      .send (.provisionUser (fastClawExternalIdentity identity))
        (acceptUser (fastClawExternalIdentity identity) reply) :=
  sendAbout_of_trimmed (trim_externalIdentity h) (append_ne_empty _ (by decide))

theorem setUserStatus_eq (h : IsHex identity) (status : FastClawUserStatus)
    (reply : ControlReply UserStatusBody) :
    setUserStatus (directory.userOf identity) status reply =
      .send (.setUserStatus (directory.userOf identity) status)
        (acceptUserStatus (directory.userOf identity) status reply) :=
  sendAbout_of_trimmed (userOf_usable h).1 (userOf_usable h).2

theorem removeUser_eq (h : IsHex identity) (reply : ControlReply RemovalBody) :
    removeUser (directory.userOf identity) reply =
      .send (.removeUser (directory.userOf identity)) (acceptRemoval reply) :=
  sendAbout_of_trimmed (userOf_usable h).1 (userOf_usable h).2

theorem provisionAgent_eq (h : IsHex identity) (reply : ControlReply AgentBody) :
    provisionAgent (directory.userOf identity) (fastClawAgentExternalIdentity identity) reply =
      .send
        (.provisionAgent (directory.userOf identity) (fastClawAgentExternalIdentity identity))
        (acceptAgent (fastClawAgentExternalIdentity identity) reply) := by
  simp only [provisionAgent]
  rw [sendAbout_of_trimmed (userOf_usable h).1 (userOf_usable h).2,
    sendAbout_of_trimmed (trim_agentExternalIdentity h) (append_ne_empty _ (by decide))]

/-- A call that failed and that may not be retried. -/
def failsForGood {α : Type} : Except RemoteError α → Bool
  | .ok _ => false
  | .error cause => !cause.retryable

def agentFailsForGood (attempt : LifecycleAttempt) (identity : String)
    (profile : ResearchAgentLifecycleProfile) : Bool :=
  profile.fastclawAgentId.isNone &&
    failsForGood (acceptAgent (fastClawAgentExternalIdentity identity)
      attempt.surroundings.provisionAgentReply)

/--
Carrying the intent out fails for good when the remote user is active already:
an activation at the agent of a user it has set active or provisioned, or at
provisioning a user that is active nevertheless; a deletion at the user it had
to provision, or at removing that user.
-/
def abandonsActiveUser (directory : FastClawDirectory) (attempt : LifecycleAttempt)
    (identity : String) (profile : ResearchAgentLifecycleProfile) : Bool :=
  let user :=
    acceptUser (fastClawExternalIdentity identity) attempt.surroundings.provisionUserReply
  let agentFails := agentFailsForGood attempt identity profile
  match attempt.request.intent, profile.fastclawUserId with
  | .activate, some _ =>
    (acceptUserStatus (directory.userOf identity) .active
      attempt.surroundings.setUserStatusReply).isOk && agentFails
  | .activate, none =>
    decide (attempt.provisionedStatus = some .active) &&
      (failsForGood user || (user.isOk && agentFails))
  | .delete, none =>
    decide (attempt.provisionedStatus = some .active) &&
      (failsForGood user ||
        (user.isOk &&
          failsForGood (acceptRemoval attempt.surroundings.removeUserReply) &&
          !attempt.removedAnyway))
  | _, _ => false

@[simp] theorem remoteAfter_nil :
    remoteAfter directory attempt [] remote = remote := by
  rfl

@[simp] theorem remoteAfter_cons (exchange : RemoteExchange) (calls : List RemoteExchange) :
    remoteAfter directory attempt (exchange :: calls) remote =
      remoteAfter directory attempt calls (exchange.effect directory attempt remote) := by
  rfl

@[simp] theorem remoteAfter_append (calls others : List RemoteExchange) :
    remoteAfter directory attempt (calls ++ others) remote =
      remoteAfter directory attempt others (remoteAfter directory attempt calls remote) :=
  List.foldl_append

@[simp] theorem effect_provisionUser (succeeded : Bool) :
    RemoteExchange.effect directory attempt remote
        { call := .provisionUser (fastClawExternalIdentity identity), succeeded := succeeded } =
      Function.update remote (directory.userOf identity) attempt.provisionedStatus := by
  rfl

@[simp] theorem effect_setUserStatus (userId : String) (status : FastClawUserStatus)
    (succeeded : Bool) :
    RemoteExchange.effect directory attempt remote
        { call := .setUserStatus userId status, succeeded := succeeded } =
      if succeeded then Function.update remote userId (some status) else remote := by
  rfl

@[simp] theorem effect_removeUser (userId : String) (succeeded : Bool) :
    RemoteExchange.effect directory attempt remote
        { call := .removeUser userId, succeeded := succeeded } =
      if succeeded || attempt.removedAnyway then
        Function.update remote userId none
      else
        remote := by
  rfl

structure KnownIdentifiers
    (directory : FastClawDirectory)
    (identity : String)
    (fastclawUserId fastclawAgentId : Option String) : Prop where
  user : ∀ userId, fastclawUserId = some userId → userId = directory.userOf identity
  agent : ∀ agentId, fastclawAgentId = some agentId → agentId = directory.agentOf identity

/--
What a reconciliation is known to do: it touches the user of the identity
alone, and an activation or deletion that fails for good has left that user
active exactly if `abandonsActiveUser` says so.
-/
structure Reconciled
    (directory : FastClawDirectory)
    (attempt : LifecycleAttempt)
    (identity : String)
    (profile : ResearchAgentLifecycleProfile)
    (remote : RemoteUsers)
    (out : Remote ResearchAgentRemoteReconcileError RemoteState) : Prop where
  others :
    ∀ userId, userId ≠ directory.userOf identity →
      remoteAfter directory attempt out.calls remote userId = remote userId
  carried :
    ∀ state, out.result = .ok state →
      KnownIdentifiers directory identity state.fastclawUserId state.fastclawAgentId ∧
      (attempt.request.intent = .activate →
        state.fastclawUserId ≠ none ∧ state.fastclawAgentId ≠ none) ∧
      (attempt.request.intent = .disable →
        remoteAfter directory attempt out.calls remote (directory.userOf identity) =
          some .disabled) ∧
      abandonsActiveUser directory attempt identity profile = false
  failed :
    ∀ error, out.result = .error error →
      KnownIdentifiers directory identity error.fastclawUserId error.fastclawAgentId ∧
      (attempt.request.intent ≠ .disable →
        remote (directory.userOf identity) ≠ some .active →
        (abandonsActiveUser directory attempt identity profile = true ↔
          error.remoteCause.retryable = false ∧
            remoteAfter directory attempt out.calls remote (directory.userOf identity) =
              some .active))

section ReconcileCases

variable (hhex : IsHex identity)
variable (hids : KnownIdentifiers directory identity profile.fastclawUserId profile.fastclawAgentId)
variable (honest : attempt.Honest directory)

include hhex hids honest

theorem agentStage_cases :
    ∃ calls,
      (∀ remote, remoteAfter directory attempt calls remote = remote) ∧
      ((knownOrProvisionedAgent profile.fastclawAgentId (directory.userOf identity)
            (fastClawAgentExternalIdentity identity) attempt.surroundings =
          { calls := calls, result := .ok (directory.agentOf identity) } ∧
          agentFailsForGood attempt identity profile = false) ∨
        ∃ cause,
          knownOrProvisionedAgent profile.fastclawAgentId (directory.userOf identity)
              (fastClawAgentExternalIdentity identity) attempt.surroundings =
            { calls := calls, result := .error cause } ∧
          profile.fastclawAgentId = none ∧
          agentFailsForGood attempt identity profile = !cause.retryable) := by
  cases hknown : profile.fastclawAgentId with
  | some agentId =>
    obtain rfl := hids.agent _ hknown
    refine ⟨[], fun _ => rfl, Or.inl ⟨rfl, ?_⟩⟩
    simp [agentFailsForGood, hknown]
  | none =>
    cases haccepted : acceptAgent (fastClawAgentExternalIdentity identity)
        attempt.surroundings.provisionAgentReply with
    | error cause =>
      refine ⟨[
        { call := .provisionAgent (directory.userOf identity)
            (fastClawAgentExternalIdentity identity)
          succeeded := false }],
        fun _ => rfl, Or.inr ⟨cause, ?_, rfl, ?_⟩⟩
      · rw [knownOrProvisionedAgent, provisionAgent_eq hhex, haccepted, send_error, map_error]
      · simp [agentFailsForGood, hknown, haccepted, failsForGood]
    | ok agent =>
      have hagent : agent.agentId = directory.agentOf identity := honest.agent _ _ haccepted
      refine ⟨[
        { call := .provisionAgent (directory.userOf identity)
            (fastClawAgentExternalIdentity identity)
          succeeded := true }],
        fun _ => rfl, Or.inl ⟨?_, ?_⟩⟩
      · rw [knownOrProvisionedAgent, provisionAgent_eq hhex, haccepted, send_ok, map_ok,
          hagent]
      · simp [agentFailsForGood, haccepted, failsForGood]

theorem reconciled_activate (hintent : attempt.request.intent = .activate) :
    Reconciled directory attempt identity profile remote
      (reconcileRemote .activate profile (fastClawExternalIdentity identity)
        (fastClawAgentExternalIdentity identity) attempt.surroundings) := by
  obtain ⟨calls, hcalls, hagent⟩ := agentStage_cases hhex hids honest
  cases hknown : profile.fastclawUserId with
  | some userId =>
    obtain rfl := hids.user _ hknown
    cases hstatus : acceptUserStatus (directory.userOf identity) .active
        attempt.surroundings.setUserStatusReply with
    | error cause =>
      simp only [reconcileRemote, activatedUser, hknown, setUserStatus_eq hhex, hstatus,
        send_error, map_error, mapError_error, andThen_error]
      refine ⟨by simp, by simp, ?_⟩
      rintro _ ⟨⟩
      refine ⟨⟨by simp, hids.agent⟩, ?_⟩
      intro _ hquiet
      simp [abandonsActiveUser, hintent, hknown, hstatus, hquiet, Except.isOk, Except.toBool]
    | ok status =>
      rcases hagent with ⟨hagent, hfails⟩ | ⟨cause, hagent, hnone, hfails⟩
      · simp only [reconcileRemote, activatedUser, hknown, setUserStatus_eq hhex, hstatus,
          send_ok, map_ok, mapError_ok, andThen_ok, hagent, ofExcept_ok, List.append_nil]
        refine ⟨by simp +contextual [hcalls], ?_, by simp⟩
        rintro _ ⟨⟩
        refine ⟨⟨by simp, by simp⟩, by simp, by simp [hintent], ?_⟩
        simp [abandonsActiveUser, hintent, hknown, hfails]
      · simp only [reconcileRemote, activatedUser, hknown, setUserStatus_eq hhex, hstatus,
          send_ok, map_ok, mapError_ok, andThen_ok, hagent, mapError_error, andThen_error]
        refine ⟨by simp +contextual [hcalls], by simp, ?_⟩
        rintro _ ⟨⟩
        refine ⟨⟨by simp, by simp [hnone]⟩, ?_⟩
        intro _ _
        simp [abandonsActiveUser, hintent, hknown, hstatus, hfails, hcalls, Except.isOk,
          Except.toBool]
  | none =>
    cases haccepted : acceptUser (fastClawExternalIdentity identity)
        attempt.surroundings.provisionUserReply with
    | error cause =>
      simp only [reconcileRemote, activatedUser, hknown, provisionUser_eq hhex, haccepted,
        send_error, map_error, mapError_error, andThen_error]
      refine ⟨by simp +contextual, by simp, ?_⟩
      rintro _ ⟨⟩
      refine ⟨⟨by simp, hids.agent⟩, ?_⟩
      intro _ _
      simp [abandonsActiveUser, hintent, hknown, haccepted, failsForGood, Except.isOk,
        Except.toBool, and_comm]
    | ok user =>
      have huser : user.userId = directory.userOf identity := honest.user _ _ haccepted
      rcases hagent with ⟨hagent, hfails⟩ | ⟨cause, hagent, hnone, hfails⟩
      · simp only [reconcileRemote, activatedUser, hknown, provisionUser_eq hhex, haccepted,
          send_ok, map_ok, mapError_ok, andThen_ok, huser, hagent, ofExcept_ok,
          List.append_nil]
        refine ⟨by simp +contextual [hcalls], ?_, by simp⟩
        rintro _ ⟨⟩
        refine ⟨⟨by simp, by simp⟩, by simp, by simp [hintent], ?_⟩
        simp [abandonsActiveUser, hintent, hknown, haccepted, hfails, failsForGood]
      · simp only [reconcileRemote, activatedUser, hknown, provisionUser_eq hhex, haccepted,
          send_ok, map_ok, mapError_ok, andThen_ok, huser, hagent, mapError_error,
          andThen_error]
        refine ⟨by simp +contextual [hcalls], by simp, ?_⟩
        rintro _ ⟨⟩
        refine ⟨⟨by simp, by simp [hnone]⟩, ?_⟩
        intro _ _
        simp [abandonsActiveUser, hintent, hknown, haccepted, hfails, hcalls, failsForGood,
          Except.isOk, Except.toBool, and_comm]

/-- A user that is not known is provisioned, whether the answer is accepted or not. -/
theorem userStage_cases :
    ∃ calls,
      (∀ remote userId, userId ≠ directory.userOf identity →
        remoteAfter directory attempt calls remote userId = remote userId) ∧
      (profile.fastclawUserId ≠ none → calls = []) ∧
      (profile.fastclawUserId = none → ∀ remote,
        remoteAfter directory attempt calls remote (directory.userOf identity) =
          attempt.provisionedStatus) ∧
      ((knownOrProvisionedUser profile.fastclawUserId (fastClawExternalIdentity identity)
            attempt.surroundings =
          { calls := calls, result := .ok (directory.userOf identity) } ∧
          (profile.fastclawUserId = none →
            ∃ user, acceptUser (fastClawExternalIdentity identity)
              attempt.surroundings.provisionUserReply = .ok user)) ∨
        ∃ cause,
          knownOrProvisionedUser profile.fastclawUserId (fastClawExternalIdentity identity)
              attempt.surroundings =
            { calls := calls, result := .error cause } ∧
          profile.fastclawUserId = none ∧
          acceptUser (fastClawExternalIdentity identity)
            attempt.surroundings.provisionUserReply = .error cause) := by
  cases hknown : profile.fastclawUserId with
  | some userId =>
    obtain rfl := hids.user _ hknown
    exact ⟨[], fun _ _ _ => rfl, fun _ => rfl, nofun, Or.inl ⟨rfl, nofun⟩⟩
  | none =>
    cases haccepted : acceptUser (fastClawExternalIdentity identity)
        attempt.surroundings.provisionUserReply with
    | error cause =>
      refine ⟨[
        { call := .provisionUser (fastClawExternalIdentity identity), succeeded := false }],
        fun _ _ hne => by simp [hne], fun hsome => absurd rfl hsome, fun _ _ => by simp,
        Or.inr ⟨cause, ?_, rfl, rfl⟩⟩
      rw [knownOrProvisionedUser, provisionUser_eq hhex, haccepted, send_error, map_error]
    | ok user =>
      have huser : user.userId = directory.userOf identity := honest.user _ _ haccepted
      refine ⟨[
        { call := .provisionUser (fastClawExternalIdentity identity), succeeded := true }],
        fun _ _ hne => by simp [hne], fun hsome => absurd rfl hsome, fun _ _ => by simp,
        Or.inl ⟨?_, fun _ => ⟨user, rfl⟩⟩⟩
      rw [knownOrProvisionedUser, provisionUser_eq hhex, haccepted, send_ok, map_ok, huser]

theorem reconciled_disable (hintent : attempt.request.intent = .disable) :
    Reconciled directory attempt identity profile remote
      (reconcileRemote .disable profile (fastClawExternalIdentity identity)
        (fastClawAgentExternalIdentity identity) attempt.surroundings) := by
  have hquiet : abandonsActiveUser directory attempt identity profile = false := by
    simp [abandonsActiveUser, hintent]
  obtain ⟨calls, hothers, -, -, ⟨huser, -⟩ | ⟨cause, huser, -⟩⟩ :=
    userStage_cases hhex hids honest
  · cases hstatus : acceptUserStatus (directory.userOf identity) .disabled
        attempt.surroundings.setUserStatusReply with
    | error cause =>
      simp only [reconcileRemote, huser, mapError_ok, andThen_ok, setUserStatus_eq hhex,
        hstatus, send_error, mapError_error, andThen_error]
      refine ⟨fun userId hne => ?_, by simp, ?_⟩
      · simp [hothers, hne]
      · rintro _ ⟨⟩
        exact ⟨⟨by simp, hids.agent⟩, fun hne => absurd hintent hne⟩
    | ok status =>
      simp only [reconcileRemote, huser, mapError_ok, andThen_ok, setUserStatus_eq hhex,
        hstatus, send_ok, ofExcept_ok]
      refine ⟨fun userId hne => ?_, ?_, by simp⟩
      · simp [hothers, hne]
      · rintro _ ⟨⟩
        exact ⟨⟨by simp, hids.agent⟩, by simp [hintent], by simp, hquiet⟩
  · simp only [reconcileRemote, huser, mapError_error, andThen_error]
    refine ⟨fun userId hne => ?_, by simp, ?_⟩
    · simp [hothers, hne]
    · rintro _ ⟨⟩
      exact ⟨hids, fun hne => absurd hintent hne⟩

theorem reconciled_delete (hintent : attempt.request.intent = .delete) :
    Reconciled directory attempt identity profile remote
      (reconcileRemote .delete profile (fastClawExternalIdentity identity)
        (fastClawAgentExternalIdentity identity) attempt.surroundings) := by
  obtain ⟨calls, hothers, hnone, hreached,
      ⟨huser, haccepts⟩ | ⟨cause, huser, hknown, haccepted⟩⟩ :=
    userStage_cases hhex hids honest
  · cases hremoved : acceptRemoval attempt.surroundings.removeUserReply with
    | error cause =>
      simp only [reconcileRemote, huser, mapError_ok, andThen_ok, removeUser_eq hhex,
        hremoved, send_error, mapError_error, andThen_error]
      refine ⟨fun userId hne => ?_, by simp, ?_⟩
      · cases hanyway : attempt.removedAnyway <;> simp [hothers, hne, hanyway]
      · rintro _ ⟨⟩
        refine ⟨⟨by simp, hids.agent⟩, fun _ hquiet => ?_⟩
        cases hknown : profile.fastclawUserId with
        | some userId =>
          cases hanyway : attempt.removedAnyway <;>
            simp [abandonsActiveUser, hintent, hknown, hnone, hanyway, hquiet]
        | none =>
          obtain ⟨user, haccepted⟩ := haccepts hknown
          cases hanyway : attempt.removedAnyway <;>
            simp [abandonsActiveUser, hintent, hknown, hreached hknown, haccepted, hremoved,
              hanyway,
              failsForGood, Except.isOk, Except.toBool, and_comm]
    | ok absent =>
      simp only [reconcileRemote, huser, mapError_ok, andThen_ok, removeUser_eq hhex,
        hremoved, send_ok, ofExcept_ok]
      refine ⟨fun userId hne => ?_, ?_, by simp⟩
      · simp [hothers, hne]
      · rintro _ ⟨⟩
        refine ⟨⟨by simp, by simp⟩, by simp [hintent], by simp [hintent], ?_⟩
        cases hknown : profile.fastclawUserId with
        | some userId => simp [abandonsActiveUser, hintent, hknown]
        | none =>
          obtain ⟨user, haccepted⟩ := haccepts hknown
          simp [abandonsActiveUser, hintent, hknown, haccepted, hremoved, failsForGood]
  · simp only [reconcileRemote, huser, mapError_error, andThen_error]
    refine ⟨fun userId hne => by simp [hothers, hne], by simp, ?_⟩
    rintro _ ⟨⟩
    refine ⟨hids, fun _ _ => ?_⟩
    simp [abandonsActiveUser, hintent, hknown, hreached, haccepted, failsForGood, Except.isOk,
      Except.toBool, and_comm]

theorem reconciled_of_claim :
    Reconciled directory attempt identity profile remote
      (reconcileRemote attempt.request.intent profile (fastClawExternalIdentity identity)
        (fastClawAgentExternalIdentity identity) attempt.surroundings) := by
  cases hintent : attempt.request.intent with
  | activate => exact reconciled_activate hhex hids honest hintent
  | disable => exact reconciled_disable hhex hids honest hintent
  | delete => exact reconciled_delete hhex hids honest hintent

end ReconcileCases

section Finalized

variable {s : LifecycleStore}

theorem updateProfile_ok {profileId : String}
    (statement : ResearchAgentLifecycleProfile → Option ResearchAgentLifecycleProfile)
    {old profile : ResearchAgentLifecycleProfile} (hold : s.readProfile profileId = some old)
    (hstatement : statement old = some profile)
    (hviolated : violatedConstraint s.profiles profile = none) :
    s.updateProfile profileId statement = .ok (s.withProfile profile, some profile) := by
  simp [LifecycleStore.updateProfile, hold, hstatement, hviolated]

theorem hashOptional_ok {value : Option String}
    (h : ∀ text, value = some text → JsString.trim text ≠ "") :
    ∃ hash, hashOptional digest value = .ok hash := by
  cases value with
  | none => exact ⟨none, rfl⟩
  | some text =>
    refine ⟨some (sha256Hex digest (JsString.trim text)), ?_⟩
    simp [hashOptional, hashLifecycleReference, assertNonEmpty, h text rfl, Except.map]

theorem writeEvent_ok (digest : String → List UInt8) (s : LifecycleStore) (input : EventWriteInput)
    (hhex : IsHex identity)
    (hids : KnownIdentifiers directory identity input.fastclawUserId input.fastclawAgentId)
    (toStatus : ResearchAgentLifecycleStatus) :
    ∃ s' event,
      s.writeEvent digest input toStatus = .ok (s', event) ∧
      s'.profiles = s.profiles := by
  obtain ⟨userHash, huser⟩ : ∃ hash, hashOptional digest input.fastclawUserId = .ok hash := by
    refine hashOptional_ok ?_
    intro text htext
    obtain rfl := hids.user _ htext
    rw [(userOf_usable hhex).1]
    exact (userOf_usable hhex).2
  obtain ⟨agentHash, hagent⟩ : ∃ hash, hashOptional digest input.fastclawAgentId = .ok hash := by
    refine hashOptional_ok ?_
    intro text htext
    obtain rfl := hids.agent _ htext
    exact agentOf_usable hhex
  obtain ⟨row, hrow⟩ : ∃ row, eventRow digest input toStatus = .ok row := by
    simp [eventRow, huser, hagent]
  have hkey := (eventRow_cases hrow).1
  have hread :
      lookup ResearchAgentLifecycleEvent.key
          (insertIfAbsent ResearchAgentLifecycleEvent.key s.events row) row.key =
        some ((lookup ResearchAgentLifecycleEvent.key s.events row.key).getD row) :=
    lookup_insertIfAbsent_self
  rw [hkey] at hread
  simp [LifecycleStore.writeEvent, hrow, LifecycleStore.readEvent, hread]

variable {event : ResearchAgentLifecycleEvent}
variable {updated s' : LifecycleStore}

theorem finalizeSuccess_ok (input : EventWriteInput) {terminalStatus : ResearchAgentLifecycleStatus}
    (hupdate : s.updateProfile input.profileId
        (finalizeSuccessRow input.requestId terminalStatus
          input.fastclawUserId input.fastclawAgentId) = .ok (updated, some profile))
    (hwrite : updated.writeEvent digest input profile.lifecycleStatus = .ok (s', event)) :
    s.finalizeSuccess digest input terminalStatus = .ok (s', event) := by
  simp [LifecycleStore.finalizeSuccess, hupdate, hwrite]

theorem finalizeFailure_ok (input : EventWriteInput)
    (hupdate : s.updateProfile input.profileId (finalizeFailureRow input) =
      .ok (updated, some profile))
    (hwrite : updated.writeEvent digest input profile.lifecycleStatus = .ok (s', event)) :
    s.finalizeFailure digest input = .ok (s', event) := by
  simp [LifecycleStore.finalizeFailure, hupdate, hwrite]

/-- The status a claimed request leaves behind. -/
def settledStatus (intent : ResearchAgentLifecycleIntent)
    (previousStatus : ResearchAgentLifecycleStatus) :
    Except ResearchAgentRemoteReconcileError RemoteState →
      ResearchAgentLifecycleStatus
  | .ok _ => terminalStatusForIntent intent
  | .error error =>
    if error.remoteCause.retryable then .blockedRetryable else previousStatus

/-- Finalizing a claim answers, and it settles the claimed profile and takes its lease away. -/
def Finalizes (directory : FastClawDirectory) (digest : String → List UInt8)
    (request : ResearchAgentLifecycleRequest) (s : LifecycleStore) (identity : String)
    (previousStatus : ResearchAgentLifecycleStatus) (claimed : ResearchAgentLifecycleProfile)
    (reconciled : Except ResearchAgentRemoteReconcileError RemoteState) : Prop :=
  ∃ result final s',
    finalizeClaimed digest request s previousStatus claimed reconciled = .ok (result, s') ∧
    s'.profiles = (s.withProfile final).profiles ∧
    ProfileFits directory final identity ∧
    final.lease = none ∧
    final.lifecycleStatus = settledStatus request.intent previousStatus reconciled

theorem eq_of_orElse {first second : Option String} {known : String}
    (hfirst : ∀ text, first = some text → text = known)
    (hsecond : ∀ text, second = some text → text = known) :
    ∀ text, (first.orElse fun _ => second) = some text → text = known := by
  cases first with
  | none => exact hsecond
  | some text => exact hfirst

theorem fits_put {profiles : List ResearchAgentLifecycleProfile}
    (hprofiles : ∀ other, other ∈ profiles →
      ∃ identity, IsHex identity ∧ ProfileFits directory other identity)
    (hhex : IsHex identity)
    (hfits : ProfileFits directory profile identity) :
    ∀ other, other ∈ put ResearchAgentLifecycleProfile.profileId profiles profile →
      ∃ identity, IsHex identity ∧ ProfileFits directory other identity := by
  intro other hother
  rcases mem_put hother with ⟨hold, _⟩ | rfl
  · exact hprofiles other hold
  · exact ⟨identity, hhex, hfits⟩

structure Claimed
    (directory : FastClawDirectory)
    (s : LifecycleStore)
    (identity requestId : String)
    (claimed : ResearchAgentLifecycleProfile) : Prop where
  fits :
    ∀ profile, profile ∈ s.profiles →
      ∃ identity, IsHex identity ∧ ProfileFits directory profile identity
  stored : s.readProfile (profileIdOf identity) = some claimed
  claimedFits : ProfileFits directory claimed identity
  leased : claimed.lease.map LifecycleLease.ownerRequestId = some requestId

variable {previousStatus : ResearchAgentLifecycleStatus}
variable {request : ResearchAgentLifecycleRequest}
variable {claimed : ResearchAgentLifecycleProfile}

theorem finalizeClaimed_ok {state : RemoteState} (hhex : IsHex identity)
    (hclaimed : Claimed directory s identity request.requestId claimed)
    (hids : KnownIdentifiers directory identity state.fastclawUserId state.fastclawAgentId)
    (hactive : request.intent = .activate →
      state.fastclawUserId ≠ none ∧ state.fastclawAgentId ≠ none) :
    Finalizes directory digest request s identity previousStatus claimed (.ok state) := by
  have hfits : ProfileFits directory
      { claimed with
        lifecycleStatus := terminalStatusForIntent request.intent
        fastclawUserId := state.fastclawUserId
        fastclawAgentId := state.fastclawAgentId
        lease := none
        lastErrorCode := none
        operationVersion := claimed.operationVersion + 1 } identity := by
    refine ⟨hclaimed.claimedFits.profileId, hclaimed.claimedFits.externalIdentity,
      hids.user, hids.agent, ?_⟩
    intro hstatus
    refine hactive ?_
    cases hintent : request.intent <;> simp_all [terminalStatusForIntent]
  have hviolated := violatedConstraint_eq_none hclaimed.fits hfits
  have hkey : claimed.profileId = profileIdOf identity := hclaimed.claimedFits.profileId
  have hupdate := updateProfile_ok
    (finalizeSuccessRow request.requestId (terminalStatusForIntent request.intent)
      state.fastclawUserId state.fastclawAgentId)
    (hkey ▸ hclaimed.stored) (by simp [finalizeSuccessRow, hclaimed.leased]) hviolated
  obtain ⟨s', event, hwrite, hprofiles⟩ := writeEvent_ok digest
    (s.withProfile _) (successEventInput request previousStatus claimed state)
    hhex hids (terminalStatusForIntent request.intent)
  have hfinalized := finalizeSuccess_ok
    (successEventInput request previousStatus claimed state) hupdate hwrite
  refine ⟨resultFromEvent event (desiredStateForIntent request.intent), _, s', ?_,
    hprofiles, hfits, rfl, rfl⟩
  simp only [finalizeClaimed, hfinalized]

theorem finalizeClaimed_error {error : ResearchAgentRemoteReconcileError} (hhex : IsHex identity)
    (hclaimed : Claimed directory s identity request.requestId claimed)
    (hids : KnownIdentifiers directory identity error.fastclawUserId error.fastclawAgentId)
    (hactive : previousStatus = .active →
      claimed.fastclawUserId ≠ none ∧ claimed.fastclawAgentId ≠ none) :
    Finalizes directory digest request s identity previousStatus claimed (.error error) := by
  have hstatus : failureStatus
      (failureEventInput request previousStatus claimed error.remoteCause
        error.fastclawUserId error.fastclawAgentId).outcome (some previousStatus) =
      if error.remoteCause.retryable then .blockedRetryable else previousStatus := by
    cases hretryable : error.remoteCause.retryable <;>
      simp [failureEventInput, failureStatus, hretryable]
  obtain ⟨final, hrow⟩ : ∃ final, finalizeFailureRow
      (failureEventInput request previousStatus claimed error.remoteCause
        error.fastclawUserId error.fastclawAgentId) claimed = some final := by
    simp [finalizeFailureRow, failureEventInput, hclaimed.leased]
  obtain ⟨_, hfinal⟩ := finalizeFailureRow_cases hrow
  have hfits : ProfileFits directory final identity := by
    subst hfinal
    refine ⟨hclaimed.claimedFits.profileId, hclaimed.claimedFits.externalIdentity,
      eq_of_orElse hids.user hclaimed.claimedFits.user,
      eq_of_orElse hids.agent hclaimed.claimedFits.agent, fun hactiveStatus => ?_⟩
    have hprevious : previousStatus = .active := by
      simp only [failureEventInput] at hactiveStatus hstatus
      rw [hstatus] at hactiveStatus
      split at hactiveStatus
      · cases hactiveStatus
      · exact hactiveStatus
    obtain ⟨huser, hagent⟩ := hactive hprevious
    exact ⟨by simp [failureEventInput, huser], by simp [failureEventInput, hagent]⟩
  have hviolated := violatedConstraint_eq_none hclaimed.fits hfits
  have hkey : claimed.profileId = profileIdOf identity := hclaimed.claimedFits.profileId
  have hupdate := updateProfile_ok _ (hkey ▸ hclaimed.stored) hrow hviolated
  obtain ⟨s', event, hwrite, hprofiles⟩ := writeEvent_ok digest
    (s.withProfile final)
    (failureEventInput request previousStatus claimed error.remoteCause
      error.fastclawUserId error.fastclawAgentId)
    hhex hids final.lifecycleStatus
  have hfinalized := finalizeFailure_ok
    (failureEventInput request previousStatus claimed error.remoteCause
      error.fastclawUserId error.fastclawAgentId) hupdate hwrite
  refine ⟨resultFromEvent event (desiredStateForIntent request.intent), final, s', ?_,
    hprofiles, hfits, ?_, ?_⟩
  · simp only [finalizeClaimed, recordFailure, hfinalized]
  · rw [hfinal]
  · rw [hfinal]
    exact hstatus

end Finalized

section Settled

variable {s s' : LifecycleStore}

/-- The tables differ from earlier ones in the profile of one identity alone. -/
structure Settled
    (s s' : LifecycleStore)
    (identity : String)
    (final : ResearchAgentLifecycleProfile) : Prop where
  members :
    ∀ profile, profile ∈ s'.profiles → profile ∈ s.profiles ∨ profile = final
  stored : s'.readProfile (profileIdOf identity) = some final
  others :
    ∀ profileId, profileId ≠ profileIdOf identity →
      s'.readProfile profileId = s.readProfile profileId

theorem settled_of_put {current claimed final : ResearchAgentLifecycleProfile}
    (hcurrent : s.readProfile (profileIdOf identity) = some current)
    (hclaimed : claimed.profileId = profileIdOf identity)
    (hfinal : final.profileId = profileIdOf identity)
    (hprofiles : s'.profiles = ((s.withProfile claimed).withProfile final).profiles) :
    Settled s s' identity final := by
  have hput : (s.withProfile claimed).readProfile claimed.profileId = some claimed :=
    lookup_put_self (hclaimed ▸ hcurrent)
  refine ⟨?_, ?_, ?_⟩
  · intro profile hprofile
    rw [hprofiles] at hprofile
    rcases mem_put hprofile with ⟨hold, hne⟩ | rfl
    · rcases mem_put hold with ⟨hold, _⟩ | rfl
      · exact Or.inl hold
      · exact absurd (hclaimed.trans hfinal.symm) hne
    · exact Or.inr rfl
  · simp only [LifecycleStore.readProfile, hprofiles]
    rw [← hfinal]
    exact lookup_put_self (hfinal.trans hclaimed.symm ▸ hput)
  · intro profileId hne
    simp only [LifecycleStore.readProfile, hprofiles]
    rw [lookup_put_of_ne (by rw [hfinal]; exact hne.symm),
      lookup_put_of_ne (by rw [hclaimed]; exact hne.symm)]

variable {final : ResearchAgentLifecycleProfile}
variable {remote remote' : RemoteUsers}

theorem Settled.coherent (h : Settled s s' identity final) (hs : Coherent directory s remote)
    (hhex : IsHex identity) (hfits : ProfileFits directory final identity)
    (hlease : final.lease = none)
    (hothers : ∀ userId, userId ≠ directory.userOf identity → remote' userId = remote userId) :
    Coherent directory s' remote' := by
  refine ⟨?_, ?_, ?_⟩
  · intro profile hprofile
    rcases h.members profile hprofile with hold | rfl
    · exact hs.fits profile hold
    · exact ⟨identity, hhex, hfits⟩
  · intro profile hprofile
    rcases h.members profile hprofile with hold | rfl
    · exact hs.unleased profile hold
    · exact hlease
  · intro identity' hnone
    have hne : identity' ≠ identity := by
      rintro rfl
      rw [h.stored] at hnone
      cases hnone
    rw [h.others _ fun heq => hne (profileIdOf_inj heq)] at hnone
    have huser : directory.userOf identity' ≠ directory.userOf identity :=
      fun heq => hne (userIdOf_inj heq)
    exact (hothers _ huser) ▸ hs.unknown identity' hnone

theorem Settled.safe_iff (h : Settled s s' identity final) (hs : Coherent directory s remote)
    (hsafe : DisabledIsInactive directory ⟨s, remote⟩)
    (hfits : ProfileFits directory final identity)
    (hothers : ∀ userId, userId ≠ directory.userOf identity → remote' userId = remote userId) :
    DisabledIsInactive directory ⟨s', remote'⟩ ↔
      (final.lifecycleStatus = .disabled →
        remote' (directory.userOf identity) ≠ some .active) := by
  have huser : directory.userIdOf final.externalIdentity = directory.userOf identity := by
    rw [hfits.externalIdentity]
    rfl
  constructor
  · intro hall hstatus
    exact huser ▸ hall _ final h.stored hstatus
  · intro hfinal profileId profile hprofile hstatus
    by_cases hid : profileId = profileIdOf identity
    · subst hid
      obtain rfl := Option.some.inj (h.stored.symm.trans hprofile)
      exact huser.symm ▸ hfinal hstatus
    · rw [h.others _ hid] at hprofile
      obtain ⟨identity', _, hfits'⟩ := hs.fits profile (lookup_mem hprofile)
      have hne : directory.userIdOf profile.externalIdentity ≠ directory.userOf identity := by
        rw [hfits'.externalIdentity]
        intro heq
        have hsame : identity' = identity := userIdOf_inj heq
        exact hid (by rw [← hsame, ← hfits'.profileId, readProfile_profileId hprofile])
      change remote' _ ≠ _
      rw [hothers _ hne]
      exact hsafe profileId profile hprofile hstatus

variable {current : ResearchAgentLifecycleProfile}

theorem claim_ok (directory : FastClawDirectory) {ensured : LifecycleStore}
    (hreach : ReachesClaim digest s attempt identity ensured current)
    (hlease : current.lease = none)
    (hprofiles : ∀ profile, profile ∈ ensured.profiles →
      ∃ identity, IsHex identity ∧ ProfileFits directory profile identity)
    (hfits : ProfileFits directory current identity) :
    ∃ claimed,
      s.claim attempt.surroundings.now (claimInput attempt.request identity) =
        .ok (ensured.withProfile claimed, .claimed current.lifecycleStatus claimed) ∧
      claimed.fastclawUserId = current.fastclawUserId ∧
      claimed.fastclawAgentId = current.fastclawAgentId ∧
      claimed.lease.map LifecycleLease.ownerRequestId = some attempt.request.requestId ∧
      ProfileFits directory claimed identity := by
  have hlive := (claimFromRead_eq_none.mp hreach.unfinished).2
  obtain ⟨claimed, hrow⟩ : ∃ claimed, claimRow attempt.surroundings.now
      (claimInput attempt.request identity) current = some claimed := by
    simp [claimRow, hlive, hlease]
  obtain ⟨_, hclaimed⟩ := claimRow_cases hrow
  have hclaimedFits : ProfileFits directory claimed identity := by
    subst hclaimed
    refine ⟨hfits.profileId, hfits.externalIdentity, hfits.user, hfits.agent, ?_⟩
    intro hstatus
    cases hintent : attempt.request.intent <;>
      simp [claimInput, hintent, pendingStatusForIntent] at hstatus
  have hupdate := updateProfile_ok _ hreach.stored hrow
    (violatedConstraint_eq_none hprofiles hclaimedFits)
  refine ⟨claimed, ?_, ?_, ?_, ?_, hclaimedFits⟩
  · have hstored : ensured.readProfile (claimInput attempt.request identity).profileId =
        some current := hreach.stored
    have hunfinished : claimFromRead (claimInput attempt.request identity).intent current =
        none := hreach.unfinished
    have hupdate' : ensured.updateProfile (claimInput attempt.request identity).profileId
        (claimRow attempt.surroundings.now (claimInput attempt.request identity)) = _ := hupdate
    simp only [LifecycleStore.claim, hreach.ensures, hstored, hunfinished, hupdate']
  · rw [hclaimed]
  · rw [hclaimed]
  · rw [hclaimed]
    rfl

/--
An attempt that reaches its claim reconciles the user of its identity, settles
the profile, and leaves the rest alone.
-/
theorem attempt_claimed {w : LifecycleWorld} {ensured : LifecycleStore}
    (hw : Coherent directory w.store w.remote) (honest : attempt.Honest directory)
    (hreach : ReachesClaim digest w.store attempt identity ensured current) :
    ∃ out final,
      Reconciled directory attempt identity current w.remote out ∧
      (attemptLifecycle directory digest w attempt).1.remote =
        remoteAfter directory attempt out.calls w.remote ∧
      Settled ensured (attemptLifecycle directory digest w attempt).1.store identity final ∧
      ProfileFits directory final identity ∧
      final.lease = none ∧
      final.lifecycleStatus =
        settledStatus attempt.request.intent current.lifecycleStatus out.result := by
  have hhex := identityDigest_isHex hreach.derived
  have hensured := (undisturbed_ensureProfile directory w.remote hhex hreach.ensures hw).1
  have hfits := hensured.fits_read hreach.stored
  have hlease := hensured.unleased current (lookup_mem hreach.stored)
  obtain ⟨claimed, hclaim, huser, hagent, hleased, hclaimedFits⟩ :=
    claim_ok directory hreach hlease hensured.fits hfits
  have hids : KnownIdentifiers directory identity
      claimed.fastclawUserId claimed.fastclawAgentId :=
    ⟨hclaimedFits.user, hclaimedFits.agent⟩
  have hreconciled : Reconciled directory attempt identity claimed w.remote _ :=
    reconciled_of_claim hhex hids honest
  generalize hout : reconcileRemote attempt.request.intent claimed
    (fastClawExternalIdentity identity) (fastClawAgentExternalIdentity identity)
    attempt.surroundings = out at hreconciled
  have hheld : Claimed directory (ensured.withProfile claimed) identity attempt.request.requestId
    claimed := by
    refine ⟨fits_put hensured.fits hhex hclaimedFits, ?_, hclaimedFits, hleased⟩
    have hkey := hclaimedFits.profileId
    simp only [LifecycleStore.readProfile]
    rw [← hkey]
    exact lookup_put_self (hkey ▸ hreach.stored)
  obtain ⟨result, final, s', hfinalized, hprofiles, hfinalFits, hfinalLease, hstatus⟩ :
      Finalizes directory digest attempt.request (ensured.withProfile claimed) identity
        current.lifecycleStatus claimed out.result := by
    cases hresult : out.result with
    | ok state =>
      obtain ⟨hknown, hboth, _, _⟩ := hreconciled.carried state hresult
      exact finalizeClaimed_ok hhex hheld hknown hboth
    | error error =>
      obtain ⟨hknown, _⟩ := hreconciled.failed error hresult
      refine finalizeClaimed_error hhex hheld hknown ?_
      intro hactive
      rw [huser, hagent]
      exact hfits.active hactive
  have hexecuted : execute digest attempt.surroundings attempt.request w.store =
      { calls := out.calls, outcome := .ok (result, s') } := by
    simp only [execute, hreach.derived, hreach.fresh, executeNew, hreach.allowed, hclaim,
      executeClaim, hout, hfinalized]
  have hran : runResearchAgentLifecycle digest w.store (attempt.request, attempt.surroundings) =
      (s', { calls := out.calls, result := .ok result }) := by
    simp only [runResearchAgentLifecycle, hexecuted]
  have habandons : abandonsActiveUser directory attempt identity claimed =
      abandonsActiveUser directory attempt identity current := by
    simp only [abandonsActiveUser, agentFailsForGood, huser, hagent]
  refine ⟨out, final, ?_, ?_, ?_, hfinalFits, hfinalLease, hstatus⟩
  · refine ⟨hreconciled.others, ?_, ?_⟩
    · exact habandons ▸ hreconciled.carried
    · exact habandons ▸ hreconciled.failed
  · simp only [attemptLifecycle, hran]
  · simp only [attemptLifecycle, hran]
    exact settled_of_put hreach.stored hclaimedFits.profileId hfinalFits.profileId hprofiles

end Settled

section Safety

variable {w w' : LifecycleWorld}
variable {exchange : LifecycleAttempt × LifecycleAnswer}

def AbandonsActiveUser (directory : FastClawDirectory) (digest : String → List UInt8)
    (w : LifecycleWorld) (exchange : LifecycleAttempt × LifecycleAnswer) : Prop :=
  ∃ identity ensured current,
    ReachesClaim digest w.store exchange.1 identity ensured current ∧
    current.lifecycleStatus = .disabled ∧
    abandonsActiveUser directory exchange.1 identity current = true

theorem ReachesClaim.unique {s : LifecycleStore} {attempt : LifecycleAttempt}
    {identity identity' : String} {ensured ensured' : LifecycleStore}
    {current current' : ResearchAgentLifecycleProfile}
    (h : ReachesClaim digest s attempt identity ensured current)
    (h' : ReachesClaim digest s attempt identity' ensured' current') :
    identity = identity' ∧ current = current' := by
  obtain rfl := Except.ok.inj (h.derived.symm.trans h'.derived)
  obtain rfl := Except.ok.inj (h.ensures.symm.trans h'.ensures)
  exact ⟨rfl, Option.some.inj (h.stored.symm.trans h'.stored)⟩

theorem HonestAttempt.world (hstep : HonestAttempt directory digest w exchange w') :
    exchange.1.Honest directory ∧ w' = (attemptLifecycle directory digest w exchange.1).1 :=
  ⟨hstep.1, (congrArg Prod.fst hstep.2).symm⟩

theorem coherent_step (hstep : HonestAttempt directory digest w exchange w')
    (hw : Coherent directory w.store w.remote) : Coherent directory w'.store w'.remote := by
  obtain ⟨honest, rfl⟩ := hstep.world
  by_cases hreach : ∃ identity ensured current,
      ReachesClaim digest w.store exchange.1 identity ensured current
  · obtain ⟨identity, ensured, current, hreach⟩ := hreach
    obtain ⟨out, final, hreconciled, hremote, hsettled, hfits, hlease, _⟩ :=
      attempt_claimed hw honest hreach
    have hhex := identityDigest_isHex hreach.derived
    have hensured := (undisturbed_ensureProfile directory w.remote hhex hreach.ensures hw).1
    rw [hremote]
    exact hsettled.coherent hensured hhex hfits hlease hreconciled.others
  · obtain ⟨hremote, hstore⟩ := attempt_unclaimed directory
      (fun identity ensured current h => hreach ⟨identity, ensured, current, h⟩)
    rw [hremote]
    exact (hstore hw).1

theorem safe_step_iff (hstep : HonestAttempt directory digest w exchange w')
    (hw : Coherent directory w.store w.remote) (hsafe : DisabledIsInactive directory w) :
    DisabledIsInactive directory w' ↔ ¬ AbandonsActiveUser directory digest w exchange := by
  obtain ⟨honest, rfl⟩ := hstep.world
  by_cases hreach : ∃ identity ensured current,
      ReachesClaim digest w.store exchange.1 identity ensured current
  · obtain ⟨identity, ensured, current, hreach⟩ := hreach
    obtain ⟨out, final, hreconciled, hremote, hsettled, hfits, _, hstatus⟩ :=
      attempt_claimed hw honest hreach
    have hhex := identityDigest_isHex hreach.derived
    obtain ⟨hensured, hensuredSafe⟩ :=
      undisturbed_ensureProfile directory w.remote hhex hreach.ensures hw
    have hquiet : current.lifecycleStatus = .disabled →
        w.remote (directory.userOf identity) ≠ some .active := by
      intro hdisabled
      have := hensuredSafe hsafe _ current hreach.stored hdisabled
      rwa [(hensured.fits_read hreach.stored).externalIdentity] at this
    have hiff := hsettled.safe_iff hensured (hensuredSafe hsafe) hfits hreconciled.others
    rw [← hremote] at hiff
    rw [hiff, hremote]
    have hintent : current.lifecycleStatus = .disabled → exchange.1.request.intent ≠ .disable := by
      intro hdisabled heq
      have := (claimFromRead_eq_none.mp hreach.unfinished).1
      rw [hdisabled, heq] at this
      exact this rfl
    constructor
    · rintro hfinal ⟨identity', ensured', current', hreach', hdisabled, habandons⟩
      obtain ⟨rfl, rfl⟩ := hreach.unique hreach'
      cases hresult : out.result with
      | ok state =>
        have := (hreconciled.carried state hresult).2.2.2
        rw [habandons] at this
        cases this
      | error error =>
        obtain ⟨hgood, hactive⟩ :=
          ((hreconciled.failed error hresult).2 (hintent hdisabled)
            (hquiet hdisabled)).mp habandons
        refine hfinal ?_ hactive
        simp [hstatus, hresult, settledStatus, hgood, hdisabled]
    · intro hkept hfinalDisabled hactive
      cases hresult : out.result with
      | ok state =>
        rw [hstatus, hresult] at hfinalDisabled
        have hdisable : exchange.1.request.intent = .disable := by
          cases hintent : exchange.1.request.intent <;>
            simp [settledStatus, hintent, terminalStatusForIntent] at hfinalDisabled ⊢
        rw [(hreconciled.carried state hresult).2.2.1 hdisable] at hactive
        cases hactive
      | error error =>
        rw [hstatus, hresult] at hfinalDisabled
        simp only [settledStatus] at hfinalDisabled
        split at hfinalDisabled
        · cases hfinalDisabled
        · next hgood =>
            refine hkept ⟨identity, ensured, current, hreach, hfinalDisabled, ?_⟩
            exact ((hreconciled.failed error hresult).2 (hintent hfinalDisabled)
              (hquiet hfinalDisabled)).mpr ⟨by simpa using hgood, hactive⟩
  · obtain ⟨hremote, hstore⟩ := attempt_unclaimed directory
      (fun identity ensured current h => hreach ⟨identity, ensured, current, h⟩)
    have hafter := (hstore hw).2 hsafe
    rw [← hremote] at hafter
    refine iff_of_true hafter ?_
    rintro ⟨identity, ensured, current, h, _⟩
    exact hreach ⟨identity, ensured, current, h⟩

def LifecycleWorld.initial : LifecycleWorld :=
  { store := {}
    remote := fun _ => none }

theorem coherent_initial (directory : FastClawDirectory) :
    Coherent directory LifecycleWorld.initial.store LifecycleWorld.initial.remote := by
  refine ⟨?_, ?_, ?_⟩
  · intro profile h
    cases h
  · intro profile h
    cases h
  · intro identity _ h
    cases h

theorem safe_initial (directory : FastClawDirectory) :
    DisabledIsInactive directory LifecycleWorld.initial := by
  intro profileId profile h
  cases h

theorem honestAttempt_deterministic (w : LifecycleWorld)
    (exchange : LifecycleAttempt × LifecycleAnswer) (t t' : LifecycleWorld)
    (h : HonestAttempt directory digest w exchange t)
    (h' : HonestAttempt directory digest w exchange t') : t = t' :=
  congrArg Prod.fst (h.2.symm.trans h'.2)

theorem disabled_of_succeeded {identity : String} {result : ResearchAgentLifecycleResult}
    (hstep : HonestAttempt directory digest w exchange w')
    (hidentity : identityDigest digest exchange.1.request.workspaceId
      exchange.1.request.accountId = .ok identity)
    (hfresh : w.store.readEvent (profileIdOf identity) exchange.1.request.requestId = none)
    (hintent : exchange.1.request.intent = .disable)
    (hresult : exchange.2.result = .ok result)
    (hsucceeded : result.outcome = .succeeded) :
    w'.store.HasStatus (profileIdOf identity) .disabled := by
  have hanswer : attemptLifecycle directory digest w exchange.1 = (w', exchange.2) := hstep.2
  simp only [attemptLifecycle, runResearchAgentLifecycle] at hanswer
  split at hanswer
  · next houtcome =>
      obtain ⟨rfl, hsecond⟩ := Prod.mk.inj hanswer
      rw [← hsecond] at hresult
      cases hresult
      have hstatus := execute_succeeded hidentity hfresh houtcome hsucceeded
      rw [hintent] at hstatus
      exact hstatus
  · next houtcome =>
      obtain ⟨rfl, hsecond⟩ := Prod.mk.inj hanswer
      rw [← hsecond] at hresult
      cases hresult

/--
In every run of honest attempts, the remote user of a profile that is stored as
disabled is never active exactly when no attempt abandons an active user; and
then every executed disable that succeeds leaves its remote user inactive.
-/
theorem disabled_is_inactive_iff (directory : FastClawDirectory) (digest : String → List UInt8)
    {exchanges : List (LifecycleAttempt × LifecycleAnswer)} {w : LifecycleWorld}
    (hrun : Run (HonestAttempt directory digest) .initial exchanges w) :
    (Run
        (Guarded (HonestAttempt directory digest)
          (fun before exchange => ¬ AbandonsActiveUser directory digest before exchange))
        .initial exchanges w ↔
      Always (HonestAttempt directory digest) (DisabledIsInactive directory)
        .initial exchanges) ∧
    (Always (HonestAttempt directory digest) (DisabledIsInactive directory)
        .initial exchanges →
      ∀ pre exchange post before after identity result,
        exchanges = pre ++ exchange :: post →
        Run (HonestAttempt directory digest) .initial pre before →
        HonestAttempt directory digest before exchange after →
        identityDigest digest exchange.1.request.workspaceId
          exchange.1.request.accountId = .ok identity →
        before.store.readEvent (profileIdOf identity) exchange.1.request.requestId = none →
        exchange.1.request.intent = .disable →
        exchange.2.result = .ok result →
        result.outcome = .succeeded →
        after.remote (directory.userOf identity) ≠ some .active) := by
  constructor
  · refine Run.guarded_iff_always
      (I := fun w => Coherent directory w.store w.remote)
      honestAttempt_deterministic ?_ ?_ ?_ hrun
      (coherent_initial directory) (safe_initial directory)
    · exact fun before exchange after hstep => coherent_step hstep
    · intro before exchange after hstep hcoherent hsafe hkept
      exact (safe_step_iff hstep hcoherent hsafe).mpr hkept
    · intro before exchange after hstep hcoherent hsafe hafter
      exact (safe_step_iff hstep hcoherent hsafe).mp hafter
  · intro halways pre exchange post before after identity result hsplit hpre hstep
      hidentity hfresh hintent hresult hsucceeded
    have hrunAfter : Run (HonestAttempt directory digest) .initial (pre ++ [exchange]) after :=
      hpre.append (Run.single hstep)
    have hsafe := halways (pre ++ [exchange]) post after (by simp [hsplit]) hrunAfter
    have hcoherent := hrunAfter.preserves
      (I := fun w => Coherent directory w.store w.remote)
      (fun _ _ _ hstep => coherent_step hstep) (coherent_initial directory)
    obtain ⟨profile, hprofile, hstatus⟩ :=
      disabled_of_succeeded hstep hidentity hfresh hintent hresult hsucceeded
    have hinactive := hsafe _ profile hprofile hstatus
    rwa [(hcoherent.fits_read hprofile).externalIdentity] at hinactive

/-- A directory in which remote identifiers are the external ones. -/
def plainDirectory : FastClawDirectory where
  userIdOf := id
  agentIdOf := id
  userIdOf_injective := Function.injective_id
  agentIdOf_injective := Function.injective_id
  userIdOf_usable := fun _ htrim hne => ⟨htrim, hne⟩
  agentIdOf_usable := by
    intro externalId htrim hne
    change JsString.trim externalId ≠ ""
    rwa [htrim]

def refusedAttempt (intent : ResearchAgentLifecycleIntent) (requestId : String) :
    LifecycleAttempt :=
  { request := lifecycleRequest intent requestId
    surroundings :=
      { willingSurroundings with
        provisionUserReply := .response 200 (.object
          { externalId := some "aiphabee:v1:770061"
            userId := some "aiphabee:v1:770061" })
        provisionAgentReply := .response 404 .notJson }
    provisionedStatus := some .active
    removedAnyway := false }

theorem refusedAttempt_honest (intent : ResearchAgentLifecycleIntent) (requestId : String) :
    (refusedAttempt intent requestId).Honest plainDirectory := by
  constructor
  · intro externalId user h
    simp [acceptUser, requestJson, refusedAttempt] at h
    split at h
    · next heq =>
        cases h
        exact heq
    · cases h
  · intro externalId agent h
    cases h

/-- An activation whose agent is refused for good, and then a disable. -/
def abandoned : LifecycleWorld × List (LifecycleAttempt × LifecycleAnswer) :=
  serve (attemptLifecycle plainDirectory lowBytes) .initial
    [refusedAttempt .activate "r1", refusedAttempt .disable "r2"]

theorem abandoned_run :
    Run (HonestAttempt plainDirectory lowBytes) .initial abandoned.2 abandoned.1 :=
  Run.cons ⟨refusedAttempt_honest _ _, rfl⟩
    (Run.cons ⟨refusedAttempt_honest _ _, rfl⟩ (Run.nil _))

theorem abandoned_unsafe :
    ¬ DisabledIsInactive plainDirectory abandoned.1 := by
  intro h
  have hstored : (abandoned.1.store.readProfile "research_agent_profile_770061").map
      (fun profile => (profile.lifecycleStatus, profile.externalIdentity)) =
        some (.disabled, "aiphabee:v1:770061") := by
    decide
  obtain ⟨profile, hprofile, hcolumns⟩ := Option.map_eq_some_iff.mp hstored
  obtain ⟨hstatus, hexternal⟩ := Prod.mk.inj hcolumns
  have hinactive := h _ profile hprofile hstatus
  rw [hexternal] at hinactive
  exact hinactive (by decide)

/--
An activation that fails for good at its agent leaves the remote user active
under a profile stored as disabled, and a disable then succeeds without a call.
-/
theorem disabled_user_left_active :
    ∃ exchanges w,
      Run (HonestAttempt plainDirectory lowBytes) .initial exchanges w ∧
      ¬ DisabledIsInactive plainDirectory w ∧
      exchanges.map (fun exchange =>
          (exchange.1.request.intent, exchange.2.result.toOption.map (·.outcome))) =
        [(.activate, some .internalFailure), (.disable, some .succeeded)] :=
  ⟨abandoned.2, abandoned.1, abandoned_run, abandoned_unsafe, by decide⟩

/-- The activation does not meet the condition. -/
theorem disabled_is_inactive_iff_abandoned :
    ¬ Run
      (Guarded (HonestAttempt plainDirectory lowBytes)
        (fun before exchange => ¬ AbandonsActiveUser plainDirectory lowBytes before exchange))
      .initial abandoned.2 abandoned.1 := by
  intro hguarded
  have halways := (disabled_is_inactive_iff plainDirectory lowBytes abandoned_run).1.mp hguarded
  exact abandoned_unsafe (halways abandoned.2 [] abandoned.1 (by simp) abandoned_run)

end Safety

end Aiphabee.ResearchAgent
