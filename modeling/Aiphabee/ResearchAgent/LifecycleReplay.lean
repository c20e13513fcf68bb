import Aiphabee.ResearchAgent.LifecycleTransitions

/-!
# Replay and absorption

Whatever requests are run, an event once written is kept and is the answer to
every later request with its identifier, and a deleted profile is never touched
again.  Both are facts about single statements first: `Sound` says that a
change of the tables keeps their invariant and undoes neither events nor
deletions.
-/

namespace Aiphabee.ResearchAgent

open KeyedTable
open Transition

variable {digest : String → List UInt8}
variable {s s' : LifecycleStore}
variable {event : ResearchAgentLifecycleEvent}
variable {surroundings : LifecycleSurroundings}
variable {request : ResearchAgentLifecycleRequest}
variable {identity : String}
variable {result : ResearchAgentLifecycleResult}

section Soundness

structure LifecycleStore.Lawful (s : LifecycleStore) : Prop where
  eventKeys : Distinct ResearchAgentLifecycleEvent.key s.events
  deletedUnleased :
    ∀ profileId profile,
      s.readProfile profileId = some profile →
      profile.lifecycleStatus = .deleted →
      profile.lease = none

def LifecycleStore.IsDeleted (s : LifecycleStore) (profileId : String) : Prop :=
  ∃ profile, s.readProfile profileId = some profile ∧ profile.lifecycleStatus = .deleted

/-- What no change of the tables undoes: events that are written, and deletions. -/
structure LifecycleStore.Keeps (s s' : LifecycleStore) : Prop where
  events :
    ∀ profileId requestId event,
      s.readEvent profileId requestId = some event →
      s'.readEvent profileId requestId = some event
  deletions :
    ∀ profileId, s.IsDeleted profileId → s'.IsDeleted profileId

/-- A change that keeps the invariant and undoes nothing. -/
def Sound (s s' : LifecycleStore) : Prop :=
  s.Lawful → s'.Lawful ∧ s.Keeps s'

variable {s s' s'' : LifecycleStore}

theorem Sound.refl (s : LifecycleStore) : Sound s s :=
  fun hs => ⟨hs, ⟨fun _ _ _ h => h, fun _ h => h⟩⟩

theorem Sound.trans (h₁ : Sound s s') (h₂ : Sound s' s'') : Sound s s'' := by
  intro hs
  obtain ⟨hs', hkeeps₁⟩ := h₁ hs
  obtain ⟨hs'', hkeeps₂⟩ := h₂ hs'
  refine ⟨hs'', ⟨?_, ?_⟩⟩
  · intro profileId requestId event h
    exact hkeeps₂.events _ _ _ (hkeeps₁.events _ _ _ h)
  · intro profileId h
    exact hkeeps₂.deletions _ (hkeeps₁.deletions _ h)

/-- One profile is written, which was not deleted before. -/
theorem sound_of_reads {profile : ResearchAgentLifecycleProfile} (hevents : s'.events = s.events)
    (hself : s'.readProfile profile.profileId = some profile)
    (hother : ∀ profileId, profile.profileId ≠ profileId →
      s'.readProfile profileId = s.readProfile profileId)
    (hlive : s.Lawful → ¬s.IsDeleted profile.profileId)
    (hlease : profile.lifecycleStatus = .deleted → profile.lease = none) : Sound s s' := by
  intro hs
  refine ⟨⟨hevents ▸ hs.eventKeys, ?_⟩,
    ⟨fun _ _ _ h => by simpa only [LifecycleStore.readEvent, hevents] using h, ?_⟩⟩
  · intro profileId found hfound hdeleted
    by_cases hne : profile.profileId = profileId
    · subst hne
      rw [hself] at hfound
      cases hfound
      exact hlease hdeleted
    · rw [hother _ hne] at hfound
      exact hs.deletedUnleased _ _ hfound hdeleted
  · rintro profileId ⟨found, hfound, hdeleted⟩
    by_cases hne : profile.profileId = profileId
    · subst hne
      exact absurd ⟨found, hfound, hdeleted⟩ (hlive hs)
    · exact ⟨found, (hother _ hne).trans hfound, hdeleted⟩

theorem sound_put {old profile : ResearchAgentLifecycleProfile}
    (hold : s.readProfile profile.profileId = some old)
    (hlive : s.Lawful → old.lifecycleStatus ≠ .deleted)
    (hlease : profile.lifecycleStatus = .deleted → profile.lease = none) :
    Sound s (s.withProfile profile) := by
  refine sound_of_reads rfl (lookup_put_self hold) (fun _ hne => lookup_put_of_ne hne) ?_ hlease
  rintro hs ⟨found, hfound, hdeleted⟩
  obtain rfl := Option.some.inj (hold.symm.trans hfound)
  exact hlive hs hdeleted

theorem sound_modify {condition : ResearchAgentLifecycleProfile → Prop} [DecidablePred condition]
    {change : ResearchAgentLifecycleProfile → ResearchAgentLifecycleProfile}
    (hkey : ∀ profile, (change profile).profileId = profile.profileId)
    (hstatus : ∀ profile, (change profile).lifecycleStatus = profile.lifecycleStatus)
    (hlease : ∀ profile, (change profile).lease = profile.lease) :
    Sound s { s with profiles := modify s.profiles condition change } := by
  intro hs
  have hread := readProfile_modify s condition hkey
  refine ⟨⟨hs.eventKeys, ?_⟩, ⟨fun _ _ _ h => h, ?_⟩⟩
  · intro profileId found hfound hdeleted
    rw [hread, Option.map_eq_some_iff] at hfound
    obtain ⟨old, hold, rfl⟩ := hfound
    have hunleased := hs.deletedUnleased _ _ hold
    by_cases hcondition : condition old
    · rw [if_pos hcondition] at hdeleted ⊢
      rw [hstatus] at hdeleted
      rw [hlease]
      exact hunleased hdeleted
    · rw [if_neg hcondition] at hdeleted ⊢
      exact hunleased hdeleted
  · rintro profileId ⟨found, hfound, hdeleted⟩
    refine ⟨_, (hread profileId).trans (by rw [hfound]; rfl), ?_⟩
    dsimp only
    split
    · rw [hstatus, hdeleted]
    · exact hdeleted

theorem sound_writeEvent {input : EventWriteInput} {toStatus : ResearchAgentLifecycleStatus}
    {event : ResearchAgentLifecycleEvent}
    (h : s.writeEvent digest input toStatus = .ok (s', event)) : Sound s s' := by
  obtain ⟨row, _, rfl, _⟩ := writeEvent_cases h
  intro hs
  refine ⟨⟨hs.eventKeys.insertIfAbsent, hs.deletedUnleased⟩, ⟨?_, fun _ h => h⟩⟩
  intro profileId requestId found hfound
  exact lookup_insertIfAbsent_of_some hfound

end Soundness

section Statements

theorem sound_insertProfile {profile : ResearchAgentLifecycleProfile}
    (hstatus : profile.lifecycleStatus ≠ .deleted) (h : s.insertProfile profile = .ok s') :
    Sound s s' := by
  obtain ⟨hfree, _, hs'⟩ := insertProfile_cases h
  obtain ⟨hself, hother⟩ := insertProfile_reads h
  refine sound_of_reads (by rw [hs']) hself hother ?_ fun hdeleted => absurd hdeleted hstatus
  rintro _ ⟨found, hfound, _⟩
  rw [hfree] at hfound
  cases hfound

variable {input : ClaimInput}

theorem sound_ensureProfile (h : s.ensureProfile input = .ok s') :
    Sound s s' := by
  rcases ensureProfile_cases h with rfl | hinsert
  · exact Sound.refl _
  · exact sound_insertProfile (by simp [ClaimInput.initialProfile]) hinsert

theorem sound_claim {now : Nat} {claim : LifecycleClaim} (hpending : input.pendingStatus ≠ .deleted)
    (h : s.claim now input = .ok (s', claim)) :
    Sound s s' := by
  obtain ⟨ensured, current, hensured, hcurrent, hclaim⟩ := claim_cases h
  have hsound := sound_ensureProfile hensured
  rcases hclaim with ⟨_, rfl⟩ | ⟨_, profile, hrow, _, rfl, _⟩ | ⟨_, _, rfl, _⟩
  · exact hsound
  · obtain ⟨hlive, rfl⟩ := claimRow_cases hrow
    refine hsound.trans (sound_put ?_ (fun _ => hlive) ?_)
    · exact (readProfile_profileId hcurrent).symm ▸ hcurrent
    · intro hdeleted
      exact absurd hdeleted hpending
  · exact hsound

variable {updated : Option ResearchAgentLifecycleProfile}

theorem sound_release {profileId : String}
    {statement : ResearchAgentLifecycleProfile → Option ResearchAgentLifecycleProfile}
    (hstatement : ∀ old profile, statement old = some profile →
      old.lease ≠ none ∧ profile.lease = none ∧ profile.profileId = old.profileId)
    (h : s.updateProfile profileId statement = .ok (s', updated)) :
    Sound s s' := by
  rcases updateProfile_cases h with ⟨rfl, _, _⟩ | ⟨old, profile, hold, hrow, _, rfl, _⟩
  · exact Sound.refl _
  · obtain ⟨hleased, hreleased, hkey⟩ := hstatement _ _ hrow
    have hstored : s.readProfile profile.profileId = some old := by
      rw [hkey, readProfile_profileId hold]
      exact hold
    refine sound_put hstored ?_ (fun _ => hreleased)
    intro hs hdeleted
    exact hleased (hs.deletedUnleased _ _ hold hdeleted)

variable {terminalStatus : ResearchAgentLifecycleStatus}

theorem sound_finalizeSuccessRow {profileId requestId : String}
    {fastclawUserId fastclawAgentId : Option String}
    (h : s.updateProfile profileId
      (finalizeSuccessRow requestId terminalStatus fastclawUserId fastclawAgentId) =
        .ok (s', updated)) :
    Sound s s' := by
  refine sound_release ?_ h
  intro old profile hrow
  obtain ⟨hleased, rfl⟩ := finalizeSuccessRow_cases hrow
  refine ⟨?_, rfl, rfl⟩
  rintro hnone
  simp [hnone] at hleased

theorem sound_finalizeSuccess {input : EventWriteInput}
    (h : s.finalizeSuccess digest input terminalStatus = .ok (s', event)) : Sound s s' := by
  obtain ⟨updated, profile, hupdate, hwrite⟩ := finalizeSuccess_cases h
  exact (sound_finalizeSuccessRow hupdate).trans (sound_writeEvent hwrite)

theorem sound_finalizeFailure {input : EventWriteInput}
    (h : s.finalizeFailure digest input = .ok (s', event)) : Sound s s' := by
  obtain ⟨updated, profile, hupdate, hwrite⟩ := finalizeFailure_cases h
  refine Sound.trans ?_ (sound_writeEvent hwrite)
  refine sound_release ?_ hupdate
  intro old profile hrow
  obtain ⟨hleased, rfl⟩ := finalizeFailureRow_cases hrow
  refine ⟨?_, rfl, rfl⟩
  rintro hnone
  simp [hnone] at hleased

theorem sound_noteDenied {errorCode : String} (h : s.noteDenied input errorCode = .ok s') :
    Sound s s' := by
  simp only [LifecycleStore.noteDenied] at h
  split at h
  · cases h
    exact sound_modify (fun _ => rfl) (fun _ => rfl) (fun _ => rfl)
  · exact sound_insertProfile (by simp [ClaimInput.initialProfile]) h

theorem sound_recordDenied {errorCode reason : String}
    (h : s.recordDenied digest input errorCode reason = .ok (s', event)) : Sound s s' := by
  obtain ⟨_, _, _, hnoted, hwrite, _⟩ := recordDenied_cases h
  exact (sound_noteDenied hnoted).trans (sound_writeEvent hwrite)

end Statements

section Execution

variable {profile : ResearchAgentLifecycleProfile}

/-- Recording a claim that ends without remote calls is sound. -/
theorem sound_recordTerminal {errorCode : Option String} {outcome : ResearchAgentLifecycleOutcome}
    (h : recordTerminal digest request s profile errorCode outcome = .ok (result, s')) :
    Sound s s' := by
  obtain ⟨_, hwrite, _⟩ := recordTerminal_cases h
  exact sound_writeEvent hwrite

theorem sound_recordFailure {input : EventWriteInput}
    (h : recordFailure digest request s input = .ok (result, s')) : Sound s s' := by
  obtain ⟨_, hfailure, _⟩ := recordFailure_cases h
  exact sound_finalizeFailure hfailure

theorem sound_finalizeClaimed {previousStatus : ResearchAgentLifecycleStatus}
    {reconciled : Except ResearchAgentRemoteReconcileError RemoteState}
    (h : finalizeClaimed digest request s previousStatus profile reconciled =
      .ok (result, s')) :
    Sound s s' := by
  cases reconciled with
  | error error => exact sound_recordFailure h
  | ok remoteState =>
    simp only [finalizeClaimed] at h
    split at h
    · next hsuccess =>
        cases h
        exact sound_finalizeSuccess hsuccess
    · cases h
    · next hleft =>
        obtain ⟨_, hupdate⟩ := finalizeSuccess_left hleft
        exact (sound_finalizeSuccessRow hupdate).trans (sound_recordFailure h)

theorem sound_executeClaim {claim : LifecycleClaim}
    (h : (executeClaim digest surroundings request identity s claim).outcome =
      .ok (result, s')) :
    Sound s s' := by
  cases claim with
  | inProgress profile =>
    simp only [executeClaim] at h
    split at h
    · cases h
      exact Sound.refl _
    · cases h
    · cases h
  | deleted profile => exact sound_recordTerminal h
  | busy profile => exact sound_recordTerminal h
  | terminal profile => exact sound_recordTerminal h
  | claimed previousStatus profile => exact sound_finalizeClaimed h

theorem pendingStatusForIntent_ne_deleted (intent : ResearchAgentLifecycleIntent) :
    pendingStatusForIntent intent ≠ .deleted := by
  cases intent <;> decide

theorem sound_executeNew
    (h : (executeNew digest surroundings request identity s).outcome = .ok (result, s')) :
    Sound s s' := by
  simp only [executeNew] at h
  split at h
  · split at h
    · cases h
      exact Sound.refl _
    · split at h
      · cases h
      · next hdenied =>
          cases h
          exact sound_recordDenied hdenied
  · split at h
    · cases h
    · next hclaim =>
        have hpending : (claimInput request identity).pendingStatus ≠ .deleted :=
          pendingStatusForIntent_ne_deleted _
        exact (sound_claim hpending hclaim).trans (sound_executeClaim h)

theorem sound_execute (h : (execute digest surroundings request s).outcome = .ok (result, s')) :
    Sound s s' := by
  simp only [execute] at h
  split at h
  · cases h
  · split at h
    · split at h
      · cases h
        exact Sound.refl _
      · cases h
        exact Sound.refl _
    · exact sound_executeNew h

theorem sound_run (digest : String → List UInt8) (s : LifecycleStore)
    (call : ResearchAgentLifecycleRequest × LifecycleSurroundings) :
    Sound s (runResearchAgentLifecycle digest s call).1 := by
  simp only [runResearchAgentLifecycle]
  split
  · next houtcome => exact sound_execute houtcome
  · exact Sound.refl _

end Execution

def LifecycleClaim.profile :
    LifecycleClaim → ResearchAgentLifecycleProfile
  | .busy profile => profile
  | .deleted profile => profile
  | .inProgress profile => profile
  | .terminal profile => profile
  | .claimed _ profile => profile

def AnsweredFromEvent (s : LifecycleStore) (profileId : String)
    (request : ResearchAgentLifecycleRequest) (result : ResearchAgentLifecycleResult) : Prop :=
  ∃ event,
    s.readEvent profileId request.requestId = some event ∧
    event.intent = request.intent ∧
    result = resultFromEvent event (desiredStateForIntent request.intent)

theorem readEvent_of_events (h : s'.events = s.events) (profileId requestId : String) :
    s'.readEvent profileId requestId = s.readEvent profileId requestId := by
  simp only [LifecycleStore.readEvent, h]

theorem updateProfile_events {profileId : String}
    {statement : ResearchAgentLifecycleProfile → Option ResearchAgentLifecycleProfile}
    {updated : Option ResearchAgentLifecycleProfile}
    (h : s.updateProfile profileId statement = .ok (s', updated)) : s'.events = s.events := by
  rcases updateProfile_cases h with ⟨rfl, _, _⟩ | ⟨_, _, _, _, _, rfl, _⟩ <;> rfl

theorem claim_frame {now : Nat} {input : ClaimInput} {claim : LifecycleClaim}
    (h : s.claim now input = .ok (s', claim)) :
    s'.events = s.events ∧ claim.profile.profileId = input.profileId := by
  obtain ⟨ensured, current, hensured, hcurrent, hclaim⟩ := claim_cases h
  have hevents : ensured.events = s.events := by
    rcases ensureProfile_cases hensured with rfl | hinsert
    · rfl
    · obtain ⟨_, _, rfl⟩ := insertProfile_cases hinsert
      rfl
  have hid := readProfile_profileId hcurrent
  rcases hclaim with ⟨hread, rfl⟩ | ⟨_, profile, hrow, _, rfl, rfl⟩ | ⟨hread, _, rfl, rfl⟩
  · rcases claimFromRead_cases hread with ⟨rfl, _⟩ | ⟨rfl, _⟩ <;> exact ⟨hevents, hid⟩
  · obtain ⟨_, rfl⟩ := claimRow_cases hrow
    exact ⟨hevents, hid⟩
  · refine ⟨hevents, ?_⟩
    simp only [claimFromBusy, hread]
    split <;> exact hid

theorem writeEvent_answers (input : EventWriteInput) {toStatus : ResearchAgentLifecycleStatus}
    (hrequest : input.requestId = request.requestId) (hintent : input.intent = request.intent)
    (hfree : s.readEvent input.profileId request.requestId = none)
    (h : s.writeEvent digest input toStatus = .ok (s', event)) :
    AnsweredFromEvent s' input.profileId request
      (resultFromEvent event (desiredStateForIntent request.intent)) := by
  rw [← hrequest] at hfree
  obtain ⟨_, _, _, hread⟩ := writeEvent_cases h
  have hrow := eventRow_cases (writeEvent_new hfree h)
  exact ⟨event, hrequest ▸ hread, hrow.2.1.trans hintent, rfl⟩

/-- Noting a denial leaves the events alone. -/
theorem noteDenied_events {input : ClaimInput} {errorCode : String}
    (h : s.noteDenied input errorCode = .ok s') : s'.events = s.events := by
  simp only [LifecycleStore.noteDenied] at h
  split at h
  · cases h
    rfl
  · obtain ⟨_, _, rfl⟩ := insertProfile_cases h
    rfl

theorem recordDenied_answers {errorCode reason : String}
    (hfree : s.readEvent (profileIdOf identity) request.requestId = none)
    (h : s.recordDenied digest (claimInput request identity) errorCode reason =
      .ok (s', event)) :
    AnsweredFromEvent s' (profileIdOf identity) request
      (resultFromEvent event (desiredStateForIntent request.intent)) := by
  obtain ⟨noted, written, _, hnoted, hwrite, hid, hrequest, hintent, _⟩ := recordDenied_cases h
  have hprofile : written.profileId = profileIdOf identity := hid
  rw [← hprofile] at hfree ⊢
  exact writeEvent_answers written hrequest hintent
    ((readEvent_of_events (noteDenied_events hnoted) _ _).trans hfree) hwrite

theorem recordFailure_answers (input : EventWriteInput)
    (hrequest : input.requestId = request.requestId) (hintent : input.intent = request.intent)
    (hfree : s.readEvent input.profileId request.requestId = none)
    (h : recordFailure digest request s input = .ok (result, s')) :
    AnsweredFromEvent s' input.profileId request result := by
  obtain ⟨_, hfailure, rfl⟩ := recordFailure_cases h
  obtain ⟨updated, profile, hupdate, hwrite⟩ := finalizeFailure_cases hfailure
  have hevents := updateProfile_events hupdate
  exact writeEvent_answers _ hrequest hintent
    ((readEvent_of_events hevents _ _).trans hfree) hwrite

theorem finalizeClaimed_answers {previousStatus : ResearchAgentLifecycleStatus}
    {profile : ResearchAgentLifecycleProfile}
    {reconciled : Except ResearchAgentRemoteReconcileError RemoteState}
    (hfree : s.readEvent profile.profileId request.requestId = none)
    (h : finalizeClaimed digest request s previousStatus profile reconciled =
      .ok (result, s')) :
    AnsweredFromEvent s' profile.profileId request result := by
  cases reconciled with
  | error error =>
    exact recordFailure_answers
      (failureEventInput request previousStatus profile error.remoteCause
        error.fastclawUserId error.fastclawAgentId)
      rfl rfl hfree h
  | ok remoteState =>
    simp only [finalizeClaimed] at h
    split at h
    · next hsuccess =>
        cases h
        obtain ⟨updated, finished, hupdate, hwrite⟩ := finalizeSuccess_cases hsuccess
        have hevents := updateProfile_events hupdate
        exact writeEvent_answers
          (successEventInput request previousStatus profile remoteState)
          rfl rfl
          ((readEvent_of_events hevents _ _).trans hfree) hwrite
    · cases h
    · next fault left hleft =>
        obtain ⟨_, hupdate⟩ := finalizeSuccess_left hleft
        have hevents := updateProfile_events hupdate
        exact recordFailure_answers
          (failureEventInput request previousStatus profile fault.asRemoteError
            profile.fastclawUserId profile.fastclawAgentId)
          rfl rfl
          ((readEvent_of_events hevents _ _).trans hfree) h

theorem executeClaim_answers {claim : LifecycleClaim}
    (hid : claim.profile.profileId = profileIdOf identity)
    (hfree : s.readEvent (profileIdOf identity) request.requestId = none)
    (h : (executeClaim digest surroundings request identity s claim).outcome =
      .ok (result, s')) :
    s'.events = s.events ∨
      AnsweredFromEvent s' (profileIdOf identity) request result := by
  rw [← hid] at hfree ⊢
  have hterminal : ∀ profile errorCode outcome,
      s.readEvent profile.profileId request.requestId = none →
      recordTerminal digest request s profile errorCode outcome = .ok (result, s') →
      AnsweredFromEvent s' profile.profileId request result := by
    intro profile errorCode outcome hfree h
    obtain ⟨_, hwrite, rfl⟩ := recordTerminal_cases h
    exact writeEvent_answers (terminalEventInput request profile errorCode outcome) rfl rfl hfree
      hwrite
  cases claim with
  | inProgress profile =>
    simp only [executeClaim] at h
    split at h
    · cases h
      exact Or.inl rfl
    · cases h
    · cases h
  | deleted profile => exact Or.inr (hterminal _ _ _ hfree h)
  | busy profile => exact Or.inr (hterminal _ _ _ hfree h)
  | terminal profile => exact Or.inr (hterminal _ _ _ hfree h)
  | claimed previousStatus profile => exact Or.inr (finalizeClaimed_answers hfree h)

theorem executeNew_answers (hfree : s.readEvent (profileIdOf identity) request.requestId = none)
    (h : (executeNew digest surroundings request identity s).outcome = .ok (result, s')) :
    s'.events = s.events ∨
      AnsweredFromEvent s' (profileIdOf identity) request result := by
  simp only [executeNew] at h
  split at h
  · split at h
    · cases h
      exact Or.inl rfl
    · split at h
      · cases h
      · next hdenied =>
          cases h
          exact Or.inr (recordDenied_answers hfree hdenied)
  · split at h
    · cases h
    · next hclaim =>
        obtain ⟨hevents, hid⟩ := claim_frame hclaim
        rw [← hevents]
        exact executeClaim_answers hid ((readEvent_of_events hevents _ _).trans hfree) h

section Successes

def LifecycleStore.HasStatus (s : LifecycleStore) (profileId : String)
    (status : ResearchAgentLifecycleStatus) : Prop :=
  ∃ profile, s.readProfile profileId = some profile ∧ profile.lifecycleStatus = status

variable {toStatus : ResearchAgentLifecycleStatus}

theorem writeEvent_outcome (input : EventWriteInput)
    (hfree : s.readEvent input.profileId input.requestId = none)
    (h : s.writeEvent digest input toStatus = .ok (s', event)) : event.outcome = input.outcome :=
  (eventRow_cases (writeEvent_new hfree h)).2.2.2

theorem writeEvent_readProfile {input : EventWriteInput}
    (h : s.writeEvent digest input toStatus = .ok (s', event)) (profileId : String) :
    s'.readProfile profileId = s.readProfile profileId := by
  obtain ⟨row, _, rfl, _⟩ := writeEvent_cases h
  rfl

theorem recordDenied_outcome {errorCode reason : String}
    (hfree : s.readEvent (profileIdOf identity) request.requestId = none)
    (h : s.recordDenied digest (claimInput request identity) errorCode reason =
      .ok (s', event)) :
    event.outcome = .denied := by
  obtain ⟨noted, written, _, hnoted, hwrite, hid, hrequest, _, hdenied⟩ := recordDenied_cases h
  refine (writeEvent_outcome written ?_ hwrite).trans hdenied
  rw [readEvent_of_events (noteDenied_events hnoted), hid, hrequest]
  exact hfree

variable {profile : ResearchAgentLifecycleProfile}
variable {previousStatus : ResearchAgentLifecycleStatus}

theorem recordFailure_outcome {cause : RemoteError} {fastclawUserId fastclawAgentId : Option String}
    (hfree : s.readEvent profile.profileId request.requestId = none)
    (h : recordFailure digest request s
      (failureEventInput request previousStatus profile cause fastclawUserId fastclawAgentId) =
        .ok (result, s')) :
    result.outcome ≠ .succeeded := by
  obtain ⟨_, hfailure, rfl⟩ := recordFailure_cases h
  obtain ⟨updated, failed, hupdate, hwrite⟩ := finalizeFailure_cases hfailure
  have hevents := updateProfile_events hupdate
  have houtcome := writeEvent_outcome _ ((readEvent_of_events hevents _ _).trans hfree) hwrite
  simp only [resultFromEvent, houtcome, failureEventInput]
  split <;> simp

theorem finalizeClaimed_succeeded
    {reconciled : Except ResearchAgentRemoteReconcileError RemoteState}
    (hfree : s.readEvent profile.profileId request.requestId = none)
    (h : finalizeClaimed digest request s previousStatus profile reconciled =
      .ok (result, s'))
    (hsucceeded : result.outcome = .succeeded) :
    s'.HasStatus profile.profileId (terminalStatusForIntent request.intent) := by
  cases reconciled with
  | error error => exact absurd hsucceeded (recordFailure_outcome hfree h)
  | ok remoteState =>
    simp only [finalizeClaimed] at h
    split at h
    · next hsuccess =>
        cases h
        obtain ⟨updated, finished, hupdate, hwrite⟩ := finalizeSuccess_cases hsuccess
        rcases updateProfile_cases hupdate with ⟨_, hnone, _⟩ | ⟨old, new, hold, hrow, _, rfl, hnew⟩
        · cases hnone
        · cases hnew
          obtain ⟨_, hnew⟩ := finalizeSuccessRow_cases hrow
          have hread : s.readProfile profile.profileId = some old := hold
          have hold := readProfile_profileId hread
          have hkey : finished.profileId = profile.profileId := by
            rw [hnew]
            exact hold
          refine ⟨finished, (writeEvent_readProfile hwrite _).trans ?_, by rw [hnew]⟩
          simp only [LifecycleStore.readProfile]
          rw [← hkey]
          exact lookup_put_self (hkey ▸ hread)
    · cases h
    · next fault left hleft =>
        obtain ⟨_, hupdate⟩ := finalizeSuccess_left hleft
        have hevents := updateProfile_events hupdate
        exact absurd hsucceeded
          (recordFailure_outcome ((readEvent_of_events hevents _ _).trans hfree) h)

/-- A claim that ends without remote calls succeeds only as terminal. -/
theorem recordTerminal_succeeded {errorCode : Option String}
    {outcome : ResearchAgentLifecycleOutcome}
    (hfree : s.readEvent profile.profileId request.requestId = none)
    (h : recordTerminal digest request s profile errorCode outcome = .ok (result, s')) :
    result.outcome = outcome ∧
      ∀ profileId, s'.readProfile profileId = s.readProfile profileId := by
  obtain ⟨_, hwrite, rfl⟩ := recordTerminal_cases h
  exact ⟨writeEvent_outcome (terminalEventInput request profile errorCode outcome) hfree hwrite,
    writeEvent_readProfile hwrite⟩

theorem claim_terminal {now : Nat} {input : ClaimInput} {profile : ResearchAgentLifecycleProfile}
    (h : s.claim now input = .ok (s', .terminal profile)) :
    s'.HasStatus input.profileId (terminalStatusForIntent input.intent) := by
  obtain ⟨ensured, current, hensured, hcurrent, hclaim⟩ := claim_cases h
  rcases hclaim with ⟨hread, rfl⟩ | ⟨_, _, _, _, _, heq⟩ | ⟨hread, _, _, heq⟩
  · rcases claimFromRead_cases hread with ⟨_, hstatus⟩ | ⟨heq, _⟩
    · exact ⟨current, hcurrent, hstatus⟩
    · cases heq
  · cases heq
  · simp only [claimFromBusy, hread] at heq
    split at heq <;> cases heq

theorem execute_succeeded
    (hidentity : identityDigest digest request.workspaceId request.accountId = .ok identity)
    (hfresh : s.readEvent (profileIdOf identity) request.requestId = none)
    (h : (execute digest surroundings request s).outcome = .ok (result, s'))
    (hsucceeded : result.outcome = .succeeded) :
    s'.HasStatus (profileIdOf identity) (terminalStatusForIntent request.intent) := by
  simp only [execute, hidentity, hfresh, executeNew] at h
  split at h
  · split at h
    · cases h
      cases hsucceeded
    · split at h
      · cases h
      · next hdenied =>
          cases h
          have houtcome := recordDenied_outcome hfresh hdenied
          rw [show (resultFromEvent _ _).outcome = _ from houtcome] at hsucceeded
          cases hsucceeded
  · split at h
    · cases h
    · next claimed claim hclaim =>
        obtain ⟨hevents, hid⟩ := claim_frame hclaim
        have hfree : claimed.readEvent claim.profile.profileId request.requestId = none := by
          rw [hid, readEvent_of_events hevents]
          exact hfresh
        cases claim with
        | inProgress profile =>
          simp only [executeClaim] at h
          split at h
          · cases h
            cases hsucceeded
          · cases h
          · cases h
        | deleted profile =>
          rw [(recordTerminal_succeeded hfree h).1] at hsucceeded
          cases hsucceeded
        | busy profile =>
          rw [(recordTerminal_succeeded hfree h).1] at hsucceeded
          cases hsucceeded
        | terminal profile =>
          obtain ⟨found, hfound, hstatus⟩ := claim_terminal hclaim
          exact ⟨found, ((recordTerminal_succeeded hfree h).2 _).trans hfound, hstatus⟩
        | claimed previousStatus profile =>
          have hterminal := finalizeClaimed_succeeded hfree h hsucceeded
          rw [hid] at hterminal
          exact hterminal

end Successes

theorem claim_of_deleted {now : Nat} {input : ClaimInput} {claim : LifecycleClaim}
    (hdeleted : s.IsDeleted input.profileId) (h : s.claim now input = .ok (s', claim))
    (previousStatus : ResearchAgentLifecycleStatus) (profile : ResearchAgentLifecycleProfile) :
    claim ≠ .claimed previousStatus profile := by
  obtain ⟨found, hfound, hstatus⟩ := hdeleted
  obtain ⟨ensured, current, hensured, hcurrent, hclaim⟩ := claim_cases h
  have hsame : ensured = s := by
    rcases ensureProfile_cases hensured with rfl | hinsert
    · rfl
    · have hfree := (insertProfile_cases hinsert).1
      simp only [ClaimInput.initialProfile] at hfree
      rw [hfound] at hfree
      cases hfree
  subst hsame
  obtain rfl := Option.some.inj (hfound.symm.trans hcurrent)
  have hread : claimFromRead input.intent found ≠ none := by
    intro hnone
    exact (claimFromRead_eq_none.mp hnone).2 hstatus
  rintro rfl
  rcases hclaim with ⟨hsome, _⟩ | ⟨hnone, _⟩ | ⟨hnone, _⟩
  · rcases claimFromRead_cases hsome with ⟨heq, _⟩ | ⟨heq, _⟩ <;> cases heq
  · exact hread hnone
  · exact hread hnone

theorem executeClaim_calls {claim : LifecycleClaim}
    (h : ∀ previousStatus profile, claim ≠ .claimed previousStatus profile) :
    (executeClaim digest surroundings request identity s claim).calls = [] := by
  cases claim with
  | inProgress profile =>
    simp only [executeClaim]
    split <;> rfl
  | deleted profile => rfl
  | busy profile => rfl
  | terminal profile => rfl
  | claimed previousStatus profile => exact absurd rfl (h previousStatus profile)

theorem execute_calls_of_deleted
    (hidentity : identityDigest digest request.workspaceId request.accountId = .ok identity)
    (hdeleted : s.IsDeleted (profileIdOf identity)) :
    (execute digest surroundings request s).calls = [] := by
  simp only [execute, hidentity]
  split
  · split <;> rfl
  · simp only [executeNew]
    split
    · split
      · rfl
      · split <;> rfl
    · split
      · rfl
      · next hclaim => exact executeClaim_calls (claim_of_deleted hdeleted hclaim)

theorem run_calls (s : LifecycleStore)
    (call : ResearchAgentLifecycleRequest × LifecycleSurroundings) :
    (runResearchAgentLifecycle digest s call).2.calls =
      (execute digest call.2 call.1 s).calls := by
  simp only [runResearchAgentLifecycle]
  split <;> rfl

def requestProfile (digest : String → List UInt8) (request : ResearchAgentLifecycleRequest) :
    Option String :=
  (identityDigest digest request.workspaceId request.accountId).toOption.map profileIdOf

theorem requestProfile_eq_some {profileId : String}
    (h : requestProfile digest request = some profileId) :
    ∃ identity,
      identityDigest digest request.workspaceId request.accountId = .ok identity ∧
      profileIdOf identity = profileId := by
  simp only [requestProfile, Option.map_eq_some_iff] at h
  obtain ⟨identity, hidentity, hprofile⟩ := h
  refine ⟨identity, ?_, hprofile⟩
  cases hdigest : identityDigest digest request.workspaceId request.accountId with
  | error error => simp [hdigest, Except.toOption] at hidentity
  | ok found =>
    simp only [hdigest, Except.toOption, Option.some.injEq] at hidentity
    rw [hidentity]

def SameAttempt (digest : String → List UInt8) (request again : ResearchAgentLifecycleRequest) :
    Prop :=
  requestProfile digest again = requestProfile digest request ∧
    again.requestId = request.requestId

/-- A request wrote its event between these two states of the tables. -/
def WroteEvent (digest : String → List UInt8) (request : ResearchAgentLifecycleRequest)
    (s s' : LifecycleStore) : Prop :=
  ∃ profileId,
    requestProfile digest request = some profileId ∧
    s.readEvent profileId request.requestId = none ∧
    s'.readEvent profileId request.requestId ≠ none

theorem run_replay {s : LifecycleStore} (surroundings : LifecycleSurroundings) {identity : String}
    {event : ResearchAgentLifecycleEvent}
    (hidentity : identityDigest digest request.workspaceId request.accountId = .ok identity)
    (hevent : s.readEvent (profileIdOf identity) request.requestId = some event) :
    runResearchAgentLifecycle digest s (request, surroundings) =
      (s,
        { calls := []
          result := .ok
            (if event.intent ≠ request.intent then
              untracedResult request identity "LIFECYCLE_REQUEST_MISMATCH"
                (desiredStateForIntent request.intent) event.toStatus .conflict
            else
              resultFromEvent event (desiredStateForIntent request.intent)) }) := by
  simp only [runResearchAgentLifecycle, execute, hidentity, hevent]
  by_cases hintent : event.intent ≠ request.intent
  · simp [hintent]
  · simp [hintent]

theorem run_answers {s s' : LifecycleStore} {surroundings : LifecycleSurroundings}
    {answer : LifecycleAnswer}
    (hrun : runResearchAgentLifecycle digest s (request, surroundings) = (s', answer))
    (hwrote : WroteEvent digest request s s') :
    ∃ identity result,
      identityDigest digest request.workspaceId request.accountId = .ok identity ∧
      answer.result = .ok result ∧
      AnsweredFromEvent s' (profileIdOf identity) request result := by
  obtain ⟨profileId, hprofile, hfree, hstored⟩ := hwrote
  obtain ⟨identity, hidentity, rfl⟩ := requestProfile_eq_some hprofile
  simp only [runResearchAgentLifecycle] at hrun
  split at hrun
  · next result committed houtcome =>
      cases hrun
      refine ⟨identity, result, hidentity, rfl, ?_⟩
      simp only [execute, hidentity, hfree] at houtcome
      rcases executeNew_answers hfree houtcome with hevents | hanswered
      · rw [readEvent_of_events hevents] at hstored
        exact absurd hfree hstored
      · exact hanswered
  · cases hrun
    exact absurd hfree hstored

theorem sound_of_run
    {exchanges : List ((ResearchAgentLifecycleRequest × LifecycleSurroundings) × LifecycleAnswer)}
    {s s' : LifecycleStore}
    (hrun : Run (Answers (runResearchAgentLifecycle digest)) s exchanges s') : Sound s s' := by
  intro hs
  refine hrun.preserves (I := fun t => t.Lawful ∧ s.Keeps t) ?_ ⟨hs, (Sound.refl s hs).2⟩
  intro t exchange t' hstep hinvariant
  have hsound := sound_run digest t exchange.1
  rw [show runResearchAgentLifecycle digest t exchange.1 = (t', exchange.2) from hstep] at hsound
  have htrans : Sound s t' := Sound.trans (fun _ => hinvariant) hsound
  exact htrans hs

theorem lawful_empty : LifecycleStore.Lawful {} := by
  refine ⟨List.nodup_nil, ?_⟩
  intro profileId profile h
  cases h

/--
Over every run of lifecycle requests from empty tables: events are unique, a
request that wrote its event is replayed from it and under another intent is a
conflict that changes nothing, and a deleted profile stays deleted and is
called for no more.
-/
theorem lifecycle_replay_and_absorption (digest : String → List UInt8)
    {exchanges : List ((ResearchAgentLifecycleRequest × LifecycleSurroundings) × LifecycleAnswer)}
    {s : LifecycleStore} (hrun : Run (Answers (runResearchAgentLifecycle digest)) {} exchanges s) :
    Distinct ResearchAgentLifecycleEvent.key s.events ∧
    (∀ request surroundings written answer,
      runResearchAgentLifecycle digest s (request, surroundings) = (written, answer) →
      WroteEvent digest request s written →
      ∀ between later,
        Run (Answers (runResearchAgentLifecycle digest)) written between later →
        ∀ again surroundings',
          SameAttempt digest request again →
          (again.intent = request.intent →
            runResearchAgentLifecycle digest later (again, surroundings') =
              (later, { calls := [], result := answer.result })) ∧
          (again.intent ≠ request.intent →
            ∃ result,
              runResearchAgentLifecycle digest later (again, surroundings') =
                (later, { calls := [], result := .ok result }) ∧
              result.outcome = .conflict ∧
              result.errorCode = some "LIFECYCLE_REQUEST_MISMATCH")) ∧
    (∀ profileId,
      s.IsDeleted profileId →
      ∀ between later,
        Run (Answers (runResearchAgentLifecycle digest)) s between later →
        later.IsDeleted profileId ∧
        ∀ request surroundings,
          requestProfile digest request = some profileId →
          (runResearchAgentLifecycle digest later (request, surroundings)).2.calls = []) := by
  have hlawful := (sound_of_run hrun lawful_empty).1
  refine ⟨hlawful.eventKeys, ?_, ?_⟩
  · intro request surroundings written answer hwrite hwrote between later hbetween
      again surroundings' ⟨hprofile, hid⟩
    obtain ⟨identity, result, hidentity, hanswer, event, hevent, hintent, rfl⟩ :=
      run_answers hwrite hwrote
    have hwritten : written.Lawful := by
      have hsound := sound_run digest s (request, surroundings) hlawful
      rw [hwrite] at hsound
      exact hsound.1
    have hlater := (sound_of_run hbetween hwritten).2.events _ _ _ hevent
    have hagain : ∃ identity', identityDigest digest again.workspaceId again.accountId =
        .ok identity' ∧ profileIdOf identity' = profileIdOf identity := by
      refine requestProfile_eq_some (hprofile.trans ?_)
      simp [requestProfile, hidentity, Except.toOption]
    obtain ⟨identity', hidentity', hsame⟩ := hagain
    rw [← hid, ← hsame] at hlater
    have hreplay := run_replay surroundings' hidentity' hlater
    constructor
    · intro hsameIntent
      rw [hreplay, hanswer]
      simp [hintent, hsameIntent]
    · intro hother
      refine ⟨_, hreplay, ?_⟩
      rw [if_pos (by rw [hintent]; exact hother.symm)]
      exact ⟨rfl, rfl⟩
  · intro profileId hdeleted between later hbetween
    have hlater := (sound_of_run hbetween hlawful).2.deletions _ hdeleted
    refine ⟨hlater, ?_⟩
    intro request surroundings hprofile
    obtain ⟨identity, hidentity, rfl⟩ := requestProfile_eq_some hprofile
    rw [run_calls]
    exact execute_calls_of_deleted hidentity hlater

def lowBytes (value : String) : List UInt8 :=
  value.toList.map fun c => UInt8.ofNat c.toNat

/-- Everything an activation needs. -/
def entitledAuthority : AuthorityRow :=
  { accountExists := true
    accountStatus := some .active
    workspaceExists := true
    workspaceStatus := some .active
    membershipActive := true
    subscriptionActive := true
    productAccessActive := true
    entitlementApproved := true }

def lifecycleRequest (intent : ResearchAgentLifecycleIntent) (requestId : String) :
    ResearchAgentLifecycleRequest :=
  { accountId := "a"
    intent := intent
    reason := "r"
    requestId := requestId
    workspaceId := "w" }

def willingSurroundings : LifecycleSurroundings :=
  { now := 0
    authority := entitledAuthority
    provisionUserReply := .response 200 (.object
      { externalId := some "aiphabee:v1:770061"
        userId := some "u" })
    provisionAgentReply := .response 200 (.object
      { agent := some
          { externalId := some "aiphabee-agent:v1:770061"
            id := some "g" }
        created := some true })
    setUserStatusReply := .response 200 (.object
      { user := some
          { id := some "u"
            status := some .disabled } })
    removeUserReply := .response 200 (.object
      { ok := true
        deleted := some true }) }

/-- An activation that was followed by a disable is replayed as it was answered. -/
theorem lifecycle_replay_and_absorption_activation :
    let run := runResearchAgentLifecycle lowBytes
    let activated := run {} (lifecycleRequest .activate "r1", willingSurroundings)
    let disabled := run activated.1 (lifecycleRequest .disable "r2", willingSurroundings)
    run disabled.1 (lifecycleRequest .activate "r1", willingSurroundings) =
      (disabled.1, { calls := [], result := activated.2.result }) := by
  intro run activated disabled
  have hempty : Run (Answers run) {} [] {} := Run.nil _
  have hwrote : WroteEvent lowBytes (lifecycleRequest .activate "r1") {} activated.1 :=
    ⟨"research_agent_profile_770061", by decide, by decide, by decide⟩
  have hbetween :=
    serve_run run activated.1 [(lifecycleRequest .disable "r2", willingSurroundings)]
  exact ((lifecycle_replay_and_absorption lowBytes hempty).2.1
    (lifecycleRequest .activate "r1") willingSurroundings activated.1 activated.2 rfl hwrote
    _ _ hbetween
    (lifecycleRequest .activate "r1") willingSurroundings ⟨rfl, rfl⟩).1 rfl

end Aiphabee.ResearchAgent
