import Aiphabee.ResearchAgent.LifecycleService

/-!
# What the statements of the repository can do

One inversion lemma for each statement: what it makes of the tables when it
does not fail.  The results about whole runs rest on these alone.
-/

namespace Aiphabee.ResearchAgent

open KeyedTable

variable {s s' : LifecycleStore}

section Profiles

variable {profile : ResearchAgentLifecycleProfile}

theorem readProfile_profileId {profileId : String} (h : s.readProfile profileId = some profile) :
    profile.profileId = profileId :=
  lookup_key h

theorem insertProfile_cases (h : s.insertProfile profile = .ok s') :
    s.readProfile profile.profileId = none ∧
      lookup ResearchAgentLifecycleProfile.externalIdentity s.profiles
        profile.externalIdentity = none ∧
      s' = { s with profiles := s.profiles ++ [profile] } := by
  simp only [LifecycleStore.insertProfile] at h
  split at h
  · cases h
  · next hprofile =>
      split at h
      · cases h
      · next hidentity =>
          cases h
          exact ⟨by simpa using hprofile, by simpa using hidentity, rfl⟩

theorem insertProfile_reads (h : s.insertProfile profile = .ok s') :
    s'.readProfile profile.profileId = some profile ∧
      ∀ profileId, profile.profileId ≠ profileId →
        s'.readProfile profileId = s.readProfile profileId := by
  obtain ⟨hfree, _, rfl⟩ := insertProfile_cases h
  exact ⟨lookup_append_self hfree, fun _ hne => lookup_append_of_ne hne⟩

theorem readProfile_modify (s : LifecycleStore)
    (condition : ResearchAgentLifecycleProfile → Prop) [DecidablePred condition]
    {change : ResearchAgentLifecycleProfile → ResearchAgentLifecycleProfile}
    (hkey : ∀ profile, (change profile).profileId = profile.profileId) (profileId : String) :
    LifecycleStore.readProfile { s with profiles := modify s.profiles condition change }
        profileId =
      (s.readProfile profileId).map fun profile =>
        if condition profile then change profile else profile :=
  lookup_modify hkey

/-- The tables with another row for the profile. -/
abbrev LifecycleStore.withProfile (s : LifecycleStore) (profile : ResearchAgentLifecycleProfile) :
    LifecycleStore :=
  { s with profiles := put ResearchAgentLifecycleProfile.profileId s.profiles profile }

theorem updateProfile_cases {profileId : String}
    {statement : ResearchAgentLifecycleProfile → Option ResearchAgentLifecycleProfile}
    {result : Option ResearchAgentLifecycleProfile}
    (h : s.updateProfile profileId statement = .ok (s', result)) :
    (s' = s ∧ result = none ∧ (s.readProfile profileId).bind statement = none) ∨
      ∃ old profile,
        s.readProfile profileId = some old ∧
        statement old = some profile ∧
        violatedConstraint s.profiles profile = none ∧
        s' = s.withProfile profile ∧
        result = some profile := by
  simp only [LifecycleStore.updateProfile] at h
  split at h
  · next hnone =>
      cases h
      exact Or.inl ⟨rfl, rfl, hnone⟩
  · next profile hsome =>
      obtain ⟨old, hold, hstatement⟩ := Option.bind_eq_some_iff.mp hsome
      split at h
      · cases h
      · next hviolated =>
          cases h
          exact Or.inr ⟨old, profile, hold, hstatement, hviolated, rfl, rfl⟩

theorem ensureProfile_cases {input : ClaimInput} (h : s.ensureProfile input = .ok s') :
    s' = s ∨ s.insertProfile input.initialProfile = .ok s' := by
  simp only [LifecycleStore.ensureProfile] at h
  split at h
  · cases h
    exact Or.inl rfl
  · exact Or.inr h

end Profiles

section Rows

variable {profile profile' : ResearchAgentLifecycleProfile}

/-- The claiming update takes a live profile whose lease is free or expired. -/
theorem claimRow_cases {now : Nat} {input : ClaimInput}
    (h : claimRow now input profile = some profile') :
    profile.lifecycleStatus ≠ .deleted ∧
      profile' =
        { profile with
          desiredState := input.desiredState
          lifecycleStatus := input.pendingStatus
          lease := some
            { ownerRequestId := input.requestId
              expiresAt := now + lifecycleLeaseSeconds }
          lastRequestId := some input.requestId
          lastErrorCode := none
          attemptCount := profile.attemptCount + 1
          operationVersion := profile.operationVersion + 1 } := by
  simp only [claimRow, Option.ite_none_right_eq_some, Option.some.injEq] at h
  exact ⟨h.1.1, h.2.symm⟩

theorem finalizeSuccessRow_cases {requestId : String}
    {terminalStatus : ResearchAgentLifecycleStatus} {fastclawUserId fastclawAgentId : Option String}
    (h : finalizeSuccessRow requestId terminalStatus fastclawUserId fastclawAgentId
      profile = some profile') :
    profile.lease.map LifecycleLease.ownerRequestId = some requestId ∧
      profile' =
        { profile with
          lifecycleStatus := terminalStatus
          fastclawUserId := fastclawUserId
          fastclawAgentId := fastclawAgentId
          lease := none
          lastErrorCode := none
          operationVersion := profile.operationVersion + 1 } := by
  simp only [finalizeSuccessRow, Option.ite_none_right_eq_some, Option.some.injEq] at h
  exact ⟨h.1, h.2.symm⟩

theorem finalizeFailureRow_cases {input : EventWriteInput}
    (h : finalizeFailureRow input profile = some profile') :
    profile.lease.map LifecycleLease.ownerRequestId = some input.requestId ∧
      profile' =
        { profile with
          lifecycleStatus := failureStatus input.outcome input.fromStatus
          fastclawUserId := input.fastclawUserId.orElse fun _ => profile.fastclawUserId
          fastclawAgentId := input.fastclawAgentId.orElse fun _ => profile.fastclawAgentId
          lease := none
          lastErrorCode := some (input.errorCode.getD "RESEARCH_AGENT_LIFECYCLE_FAILED")
          operationVersion := profile.operationVersion + 1 } := by
  simp only [finalizeFailureRow, Option.ite_none_right_eq_some, Option.some.injEq] at h
  exact ⟨h.1, h.2.symm⟩

end Rows

section Claims

theorem claim_cases {now : Nat} {input : ClaimInput} {claim : LifecycleClaim}
    (h : s.claim now input = .ok (s', claim)) :
    ∃ ensured current,
      s.ensureProfile input = .ok ensured ∧
      ensured.readProfile input.profileId = some current ∧
      ((claimFromRead input.intent current = some claim ∧ s' = ensured) ∨
        (claimFromRead input.intent current = none ∧
          ∃ profile,
            claimRow now input current = some profile ∧
            violatedConstraint ensured.profiles profile = none ∧
            s' = ensured.withProfile profile ∧
            claim = .claimed current.lifecycleStatus profile) ∨
        (claimFromRead input.intent current = none ∧
          claimRow now input current = none ∧
          s' = ensured ∧
          claim = claimFromBusy input current)) := by
  simp only [LifecycleStore.claim] at h
  split at h
  · cases h
  · next ensured hensured =>
      split at h
      · cases h
      · next current hcurrent =>
          refine ⟨ensured, current, hensured, hcurrent, ?_⟩
          split at h
          · next hread =>
              cases h
              exact Or.inl ⟨hread, rfl⟩
          · next hread =>
              split at h
              · cases h
              · next updated profile hupdate =>
                  cases h
                  rcases updateProfile_cases hupdate with
                    ⟨_, hnone, _⟩ | ⟨old, new, hold, hrow, hviolated, rfl, hresult⟩
                  · cases hnone
                  · obtain rfl := Option.some.inj (hold.symm.trans hcurrent)
                    cases hresult
                    exact Or.inr (Or.inl ⟨hread, _, hrow, hviolated, rfl, rfl⟩)
              · next updated hupdate =>
                  rcases updateProfile_cases hupdate with
                    ⟨rfl, _, hbind⟩ | ⟨_, _, _, _, _, _, hresult⟩
                  · simp only [hcurrent, Option.bind_some] at hbind
                    simp only [hcurrent] at h
                    cases h
                    exact Or.inr (Or.inr ⟨hread, hbind, rfl, rfl⟩)
                  · cases hresult

variable {current : ResearchAgentLifecycleProfile}
variable {intent : ResearchAgentLifecycleIntent}

/-- The claims that end a request before its update are about the profile that was read. -/
theorem claimFromRead_cases {claim : LifecycleClaim}
    (h : claimFromRead intent current = some claim) :
    (claim = .terminal current ∧
        current.lifecycleStatus = terminalStatusForIntent intent) ∨
      (claim = .deleted current ∧ current.lifecycleStatus = .deleted) := by
  simp only [claimFromRead] at h
  split at h
  · next hterminal =>
      cases h
      exact Or.inl ⟨rfl, hterminal⟩
  · split at h
    · next hdeleted =>
        cases h
        exact Or.inr ⟨rfl, hdeleted⟩
    · cases h

/-- A profile that the first read lets through is neither terminal nor deleted. -/
theorem claimFromRead_eq_none :
    claimFromRead intent current = none ↔
      current.lifecycleStatus ≠ terminalStatusForIntent intent ∧
        current.lifecycleStatus ≠ .deleted := by
  by_cases hterminal : current.lifecycleStatus = terminalStatusForIntent intent
  · simp [claimFromRead, hterminal]
  · by_cases hdeleted : current.lifecycleStatus = .deleted
    · rw [hdeleted] at hterminal
      simp [claimFromRead, hterminal, hdeleted]
    · simp [claimFromRead, hterminal, hdeleted]

end Claims

section Events

variable {digest : String → List UInt8}

variable {event : ResearchAgentLifecycleEvent}
variable {input : EventWriteInput}
variable {toStatus : ResearchAgentLifecycleStatus}

theorem eventRow_cases (h : eventRow digest input toStatus = .ok event) :
    event.key = (input.profileId, input.requestId) ∧
      event.intent = input.intent ∧
      event.toStatus = toStatus ∧
      event.outcome = input.outcome := by
  simp only [eventRow] at h
  split at h
  · cases h
  · split at h
    · cases h
    · cases h
      exact ⟨rfl, rfl, rfl, rfl⟩

theorem writeEvent_cases (h : s.writeEvent digest input toStatus = .ok (s', event)) :
    ∃ row,
      eventRow digest input toStatus = .ok row ∧
      s' = { s with
        events := insertIfAbsent ResearchAgentLifecycleEvent.key s.events row } ∧
      s'.readEvent input.profileId input.requestId = some event := by
  simp only [LifecycleStore.writeEvent] at h
  split at h
  · cases h
  · next row hrow =>
      split at h
      · cases h
      · next stored hstored =>
          cases h
          exact ⟨row, hrow, rfl, hstored⟩

theorem writeEvent_new (hfree : s.readEvent input.profileId input.requestId = none)
    (h : s.writeEvent digest input toStatus = .ok (s', event)) :
    eventRow digest input toStatus = .ok event := by
  obtain ⟨row, hrow, rfl, hread⟩ := writeEvent_cases h
  have hkey := (eventRow_cases hrow).1
  simp only [LifecycleStore.readEvent, ← hkey] at hread hfree
  rw [lookup_insertIfAbsent_self, hfree] at hread
  cases hread
  exact hrow

variable {terminalStatus : ResearchAgentLifecycleStatus}

theorem finalizeSuccess_cases
    (h : s.finalizeSuccess digest input terminalStatus = .ok (s', event)) :
    ∃ updated profile,
      s.updateProfile input.profileId
          (finalizeSuccessRow input.requestId terminalStatus
            input.fastclawUserId input.fastclawAgentId) =
        .ok (updated, some profile) ∧
      updated.writeEvent digest input profile.lifecycleStatus = .ok (s', event) := by
  simp only [LifecycleStore.finalizeSuccess] at h
  split at h
  · cases h
  · cases h
  · next updated profile hupdate =>
      split at h
      · cases h
      · next hwrite =>
          cases h
          exact ⟨updated, profile, hupdate, hwrite⟩

/-- A success that throws without losing the transaction leaves it with no lease to fail. -/
theorem finalizeSuccess_left {fault : LifecycleFault} {left : LifecycleStore}
    (h : s.finalizeSuccess digest input terminalStatus = .error (fault, some left)) :
    ∃ updated, s.updateProfile input.profileId
        (finalizeSuccessRow input.requestId terminalStatus
          input.fastclawUserId input.fastclawAgentId) =
      .ok (left, updated) := by
  simp only [LifecycleStore.finalizeSuccess] at h
  split at h
  · cases h
  · next hupdate =>
      cases h
      exact ⟨_, hupdate⟩
  · next updated profile hupdate =>
      split at h
      · cases h
        exact ⟨_, hupdate⟩
      · cases h

theorem finalizeFailure_cases (h : s.finalizeFailure digest input = .ok (s', event)) :
    ∃ updated profile,
      s.updateProfile input.profileId (finalizeFailureRow input) =
        .ok (updated, some profile) ∧
      updated.writeEvent digest input profile.lifecycleStatus = .ok (s', event) := by
  simp only [LifecycleStore.finalizeFailure] at h
  split at h
  · cases h
  · cases h
  · next updated profile hupdate => exact ⟨updated, profile, hupdate, h⟩

end Events

section Records

variable {digest : String → List UInt8}
variable {request : ResearchAgentLifecycleRequest}
variable {result : ResearchAgentLifecycleResult}

theorem recordTerminal_cases {profile : ResearchAgentLifecycleProfile} {errorCode : Option String}
    {outcome : ResearchAgentLifecycleOutcome}
    (h : recordTerminal digest request s profile errorCode outcome = .ok (result, s')) :
    ∃ event,
      s.writeEvent digest (terminalEventInput request profile errorCode outcome)
        profile.lifecycleStatus = .ok (s', event) ∧
      result = resultFromEvent event (desiredStateForIntent request.intent) := by
  simp only [recordTerminal] at h
  split at h
  · cases h
  · next hwrite =>
      cases h
      exact ⟨_, hwrite, rfl⟩

theorem recordFailure_cases {input : EventWriteInput}
    (h : recordFailure digest request s input = .ok (result, s')) :
    ∃ event,
      s.finalizeFailure digest input = .ok (s', event) ∧
      result = resultFromEvent event (desiredStateForIntent request.intent) := by
  simp only [recordFailure] at h
  split at h
  · cases h
  · next hfailure =>
      cases h
      exact ⟨_, hfailure, rfl⟩

theorem recordDenied_cases {input : ClaimInput} {errorCode reason : String}
    {event : ResearchAgentLifecycleEvent}
    (h : s.recordDenied digest input errorCode reason = .ok (s', event)) :
    ∃ noted written toStatus,
      s.noteDenied input errorCode = .ok noted ∧
      noted.writeEvent digest written toStatus = .ok (s', event) ∧
      written.profileId = input.profileId ∧ written.requestId = input.requestId ∧
      written.intent = input.intent ∧ written.outcome = .denied := by
  simp only [LifecycleStore.recordDenied] at h
  split at h
  · cases h
  · next noted hnoted =>
      split at h
      · cases h
      · next profile hprofile =>
          exact ⟨noted, _, _, hnoted, h, readProfile_profileId hprofile, rfl, rfl, rfl⟩

end Records

end Aiphabee.ResearchAgent
