import Aiphabee.ResearchAgent.LifecycleReplay

/-!
# The tables and the remote users

The remote side is modelled by the effects of the calls a request makes on it:
a set-status call takes effect exactly when it reports success, provisioning
may leave its user in any status whatever it reports, and a removal that fails
may have taken effect.

`Coherent` is the invariant that relates the tables to the remote users between
requests.  An attempt that does not reach its claim leaves the remote users
alone and keeps it.
-/

namespace Aiphabee.ResearchAgent

open JsString (trim)
open KeyedTable
open Transition

variable {directory : FastClawDirectory}
variable {identity : String}
variable {digest : String → List UInt8}
variable {remote : RemoteUsers}

/-- The identifiers FastClaw gives to external identities. -/
structure FastClawDirectory where
  userIdOf : String → String
  agentIdOf : String → String
  userIdOf_injective : Function.Injective userIdOf
  agentIdOf_injective : Function.Injective agentIdOf
  userIdOf_usable :
    ∀ externalId, trim externalId = externalId → externalId ≠ "" →
      trim (userIdOf externalId) = userIdOf externalId ∧ userIdOf externalId ≠ ""
  agentIdOf_usable :
    ∀ externalId, trim externalId = externalId → externalId ≠ "" →
      trim (agentIdOf externalId) ≠ ""

abbrev RemoteUsers :=
  String → Option FastClawUserStatus

structure LifecycleAttempt where
  request : ResearchAgentLifecycleRequest
  surroundings : LifecycleSurroundings
  provisionedStatus : Option FastClawUserStatus
  removedAnyway : Bool

structure LifecycleAttempt.Honest
    (directory : FastClawDirectory)
    (attempt : LifecycleAttempt) : Prop where
  user :
    ∀ externalId user,
      acceptUser externalId attempt.surroundings.provisionUserReply = .ok user →
      user.userId = directory.userIdOf externalId
  agent :
    ∀ externalId agent,
      acceptAgent externalId attempt.surroundings.provisionAgentReply = .ok agent →
      agent.agentId = directory.agentIdOf externalId

def RemoteExchange.effect (directory : FastClawDirectory) (attempt : LifecycleAttempt)
    (remote : RemoteUsers) (exchange : RemoteExchange) : RemoteUsers :=
  match exchange.call with
  | .provisionUser externalId =>
    Function.update remote (directory.userIdOf externalId) attempt.provisionedStatus
  | .provisionAgent _ _ => remote
  | .setUserStatus userId status =>
    if exchange.succeeded then Function.update remote userId (some status) else remote
  | .removeUser userId =>
    if exchange.succeeded || attempt.removedAnyway then
      Function.update remote userId none
    else
      remote

def remoteAfter (directory : FastClawDirectory) (attempt : LifecycleAttempt)
    (calls : List RemoteExchange) (remote : RemoteUsers) : RemoteUsers :=
  calls.foldl (RemoteExchange.effect directory attempt) remote

structure LifecycleWorld where
  store : LifecycleStore
  remote : RemoteUsers

def attemptLifecycle (directory : FastClawDirectory) (digest : String → List UInt8)
    (w : LifecycleWorld) (attempt : LifecycleAttempt) : LifecycleWorld × LifecycleAnswer :=
  let ran := runResearchAgentLifecycle digest w.store (attempt.request, attempt.surroundings)
  ({ store := ran.1, remote := remoteAfter directory attempt ran.2.calls w.remote }, ran.2)

/-- Attempts whose replies are honest. -/
def HonestAttempt (directory : FastClawDirectory) (digest : String → List UInt8) :
    LifecycleWorld → LifecycleAttempt × LifecycleAnswer → LifecycleWorld → Prop :=
  fun w exchange w' =>
    exchange.1.Honest directory ∧
      Answers (attemptLifecycle directory digest) w exchange w'

def DisabledIsInactive (directory : FastClawDirectory) (w : LifecycleWorld) : Prop :=
  ∀ profileId profile,
    w.store.readProfile profileId = some profile →
    profile.lifecycleStatus = .disabled →
    w.remote (directory.userIdOf profile.externalIdentity) ≠ some .active

/-- A digest is a string of hexadecimal digits. -/
def IsHex (identity : String) : Prop :=
  ∃ bytes, identity = JsString.hex bytes

theorem identityDigest_isHex {digest : String → List UInt8}
    {workspaceId accountId identity : String}
    (h : identityDigest digest workspaceId accountId = .ok identity) : IsHex identity := by
  simp only [identityDigest] at h
  split at h
  · cases h
  · split at h
    · cases h
    · cases h
      exact ⟨_, rfl⟩

/-- A name that is trimmed and not blank passes its check. -/
theorem assertNonEmpty_of_trimmed {value : String} (label : String)
    (htrim : trim value = value) (hne : value ≠ "") :
    assertNonEmpty value label = .ok value := by
  simp [assertNonEmpty, htrim, hne]

theorem trim_append_hex {front identity : String}
    (hfront : front.toList.all (fun c => !JsString.isWhiteSpace c) = true)
    (hidentity : IsHex identity) : trim (front ++ identity) = front ++ identity := by
  obtain ⟨bytes, rfl⟩ := hidentity
  refine JsString.trim_of_forall ?_
  intro c hc
  rw [String.toList_append, List.mem_append] at hc
  rcases hc with hc | hc
  · simpa using List.all_eq_true.mp hfront c hc
  · exact JsString.isWhiteSpace_hex bytes c hc

theorem trim_externalIdentity {identity : String} (h : IsHex identity) :
    trim (fastClawExternalIdentity identity) = fastClawExternalIdentity identity :=
  trim_append_hex (by decide) h

theorem trim_agentExternalIdentity {identity : String} (h : IsHex identity) :
    trim (fastClawAgentExternalIdentity identity) =
      fastClawAgentExternalIdentity identity :=
  trim_append_hex (by decide) h

theorem append_ne_empty {front : String} (rest : String) (h : front ≠ "") : front ++ rest ≠ "" := by
  intro hempty
  have := congrArg String.toList hempty
  simp only [String.toList_append, String.toList_empty, List.append_eq_nil_iff,
    String.toList_eq_nil_iff] at this
  exact h this.1

/-- One text in front of two others tells nothing about them. -/
theorem append_left_cancel {front a b : String} (h : front ++ a = front ++ b) : a = b := by
  have := congrArg String.toList h
  simp only [String.toList_append, List.append_cancel_left_eq] at this
  exact String.toList_inj.mp this

section Coherence

variable {profile : ResearchAgentLifecycleProfile}

structure ProfileFits
    (directory : FastClawDirectory)
    (profile : ResearchAgentLifecycleProfile)
    (identity : String) : Prop where
  profileId : profile.profileId = profileIdOf identity
  externalIdentity : profile.externalIdentity = fastClawExternalIdentity identity
  user :
    ∀ userId, profile.fastclawUserId = some userId →
      userId = directory.userIdOf (fastClawExternalIdentity identity)
  agent :
    ∀ agentId, profile.fastclawAgentId = some agentId →
      agentId = directory.agentIdOf (fastClawAgentExternalIdentity identity)
  active :
    profile.lifecycleStatus = .active →
      profile.fastclawUserId ≠ none ∧ profile.fastclawAgentId ≠ none

/-- The invariant between requests: profiles fit, none is leased, and no unknown user is active. -/
structure Coherent
    (directory : FastClawDirectory)
    (s : LifecycleStore)
    (remote : RemoteUsers) : Prop where
  fits :
    ∀ profile, profile ∈ s.profiles →
      ∃ identity, IsHex identity ∧ ProfileFits directory profile identity
  unleased :
    ∀ profile, profile ∈ s.profiles → profile.lease = none
  unknown :
    ∀ identity,
      s.readProfile (profileIdOf identity) = none →
      remote (directory.userIdOf (fastClawExternalIdentity identity)) ≠ some .active

variable {a b : String}

/-- Identities are told apart by their profiles. -/
theorem profileIdOf_inj (h : profileIdOf a = profileIdOf b) : a = b :=
  append_left_cancel h

theorem externalIdentity_inj (h : fastClawExternalIdentity a = fastClawExternalIdentity b) :
    a = b :=
  append_left_cancel h

theorem agentExternalIdentity_inj
    (h : fastClawAgentExternalIdentity a = fastClawAgentExternalIdentity b) : a = b :=
  append_left_cancel h

theorem userIdOf_inj
    (h : directory.userIdOf (fastClawExternalIdentity a) =
      directory.userIdOf (fastClawExternalIdentity b)) :
    a = b :=
  externalIdentity_inj (directory.userIdOf_injective h)

theorem Coherent.fits_read {s : LifecycleStore} {remote : RemoteUsers}
    (hs : Coherent directory s remote) (h : s.readProfile (profileIdOf identity) = some profile) :
    ProfileFits directory profile identity := by
  obtain ⟨found, _, hfits⟩ := hs.fits profile (lookup_mem h)
  have hsame : found = identity :=
    profileIdOf_inj (hfits.profileId.symm.trans (readProfile_profileId h))
  exact hsame ▸ hfits

variable {profiles : List ResearchAgentLifecycleProfile}

theorem takenBy_eq_false {column : ResearchAgentLifecycleProfile → Option String}
    (h : ∀ other, other ∈ profiles → other.profileId ≠ profile.profileId →
      ∀ value, column profile = some value → column other ≠ some value) :
    takenBy column profiles profile = false := by
  cases hcolumn : column profile with
  | none => simp [takenBy, hcolumn]
  | some value =>
    simp only [takenBy, hcolumn, Option.isSome_some, Bool.true_and, List.any_eq_false,
      Bool.and_eq_true, decide_eq_true_eq, beq_iff_eq, not_and]
    intro other hother hne
    exact h other hother hne value hcolumn

theorem violatedConstraint_eq_none
    (hprofiles : ∀ other, other ∈ profiles →
      ∃ identity, IsHex identity ∧ ProfileFits directory other identity)
    (hfits : ProfileFits directory profile identity) :
    violatedConstraint profiles profile = none := by
  have huser : takenBy ResearchAgentLifecycleProfile.fastclawUserId profiles profile = false := by
    refine takenBy_eq_false ?_
    intro other hother hne userId huser hsame
    obtain ⟨identity', _, hfits'⟩ := hprofiles other hother
    have heq : identity' = identity :=
      userIdOf_inj ((hfits'.user _ hsame).symm.trans (hfits.user _ huser))
    exact hne (by rw [hfits'.profileId, hfits.profileId, heq])
  have hagent :
      takenBy ResearchAgentLifecycleProfile.fastclawAgentId profiles profile = false := by
    refine takenBy_eq_false ?_
    intro other hother hne agentId hagent hsame
    obtain ⟨identity', _, hfits'⟩ := hprofiles other hother
    have heq : identity' = identity :=
      agentExternalIdentity_inj (directory.agentIdOf_injective
        ((hfits'.agent _ hsame).symm.trans (hfits.agent _ hagent)))
    exact hne (by rw [hfits'.profileId, hfits.profileId, heq])
  have hactive :
      ¬ (profile.lifecycleStatus = .active ∧
        (profile.fastclawUserId = none ∨ profile.fastclawAgentId = none)) := by
    rintro ⟨hstatus, hnone⟩
    obtain ⟨h₁, h₂⟩ := hfits.active hstatus
    rcases hnone with hnone | hnone
    · exact h₁ hnone
    · exact h₂ hnone
  simp [violatedConstraint, hactive, huser, hagent]

end Coherence

section Undisturbed

variable {s s' s'' : LifecycleStore}

/-- A change of the tables that needs no remote call: coherence and safety survive it. -/
def Undisturbed (directory : FastClawDirectory) (s s' : LifecycleStore) (remote : RemoteUsers) :
    Prop :=
  Coherent directory s remote →
    Coherent directory s' remote ∧
      (DisabledIsInactive directory ⟨s, remote⟩ → DisabledIsInactive directory ⟨s', remote⟩)

/-- A change of the events alone disturbs nothing. -/
theorem undisturbed_of_profiles (h : s'.profiles = s.profiles) :
    Undisturbed directory s s' remote := by
  intro hs
  have hread : ∀ profileId, s'.readProfile profileId = s.readProfile profileId := by
    intro profileId
    simp only [LifecycleStore.readProfile, h]
  refine ⟨⟨?_, ?_, ?_⟩, ?_⟩
  · exact fun profile hprofile => hs.fits profile (h ▸ hprofile)
  · exact fun profile hprofile => hs.unleased profile (h ▸ hprofile)
  · exact fun identity hnone => hs.unknown identity ((hread _).symm.trans hnone)
  · intro hsafe profileId profile hprofile
    exact hsafe profileId profile ((hread _).symm.trans hprofile)

/-- Changes that disturb nothing compose. -/
theorem Undisturbed.trans (h₁ : Undisturbed directory s s' remote)
    (h₂ : Undisturbed directory s' s'' remote) : Undisturbed directory s s'' remote := by
  intro hs
  obtain ⟨hs', hsafe₁⟩ := h₁ hs
  obtain ⟨hs'', hsafe₂⟩ := h₂ hs'
  exact ⟨hs'', fun hsafe => hsafe₂ (hsafe₁ hsafe)⟩

/-- A new profile that is disabled disturbs nothing: its user was unknown. -/
theorem undisturbed_insertProfile {profile : ResearchAgentLifecycleProfile} {identity : String}
    (hidentity : IsHex identity) (hfits : ProfileFits directory profile identity)
    (hlease : profile.lease = none) (h : s.insertProfile profile = .ok s') :
    Undisturbed directory s s' remote := by
  obtain ⟨hself, hother⟩ := insertProfile_reads h
  obtain ⟨hfree, _, rfl⟩ := insertProfile_cases h
  intro hs
  have hmem : ∀ other, other ∈ s.profiles ++ [profile] → other ∈ s.profiles ∨ other = profile :=
    fun other hother => by simpa using hother
  refine ⟨⟨?_, ?_, ?_⟩, ?_⟩
  · intro other hother
    rcases hmem other hother with hold | rfl
    · exact hs.fits other hold
    · exact ⟨identity, hidentity, hfits⟩
  · intro other hother
    rcases hmem other hother with hold | rfl
    · exact hs.unleased other hold
    · exact hlease
  · intro identity' hnone
    by_cases hne : profile.profileId = profileIdOf identity'
    · rw [← hne, hself] at hnone
      cases hnone
    · rw [hother _ hne] at hnone
      exact hs.unknown identity' hnone
  · intro hsafe profileId found hfound hstatus
    by_cases hne : profile.profileId = profileId
    · subst hne
      rw [hself] at hfound
      cases hfound
      rw [hfits.externalIdentity]
      exact hs.unknown identity (hfits.profileId ▸ hfree)
    · rw [hother _ hne] at hfound
      exact hsafe profileId found hfound hstatus

theorem initialProfile_fits (directory : FastClawDirectory)
    (request : ResearchAgentLifecycleRequest) (identity : String) :
    ProfileFits directory (claimInput request identity).initialProfile identity := by
  refine ⟨rfl, rfl, ?_, ?_, ?_⟩ <;> intros <;> contradiction

/-- Making sure that a profile exists disturbs nothing. -/
theorem undisturbed_ensureProfile (directory : FastClawDirectory) (remote : RemoteUsers)
    {request : ResearchAgentLifecycleRequest} {identity : String} (hidentity : IsHex identity)
    (h : s.ensureProfile (claimInput request identity) = .ok s') :
    Undisturbed directory s s' remote := by
  rcases ensureProfile_cases h with rfl | hinsert
  · exact undisturbed_of_profiles rfl
  · exact undisturbed_insertProfile hidentity
      (initialProfile_fits directory request identity) rfl hinsert

/-- A change of the columns that record the last request disturbs nothing. -/
theorem undisturbed_modify {condition : ResearchAgentLifecycleProfile → Prop}
    [DecidablePred condition]
    {change : ResearchAgentLifecycleProfile → ResearchAgentLifecycleProfile}
    (hchange : ∀ profile,
      (change profile).profileId = profile.profileId ∧
      (change profile).externalIdentity = profile.externalIdentity ∧
      (change profile).fastclawUserId = profile.fastclawUserId ∧
      (change profile).fastclawAgentId = profile.fastclawAgentId ∧
      (change profile).lifecycleStatus = profile.lifecycleStatus ∧
      (change profile).lease = profile.lease) :
    Undisturbed directory s { s with profiles := modify s.profiles condition change } remote := by
  intro hs
  have hread := readProfile_modify s condition fun profile =>
    (hchange profile).1
  refine ⟨⟨?_, ?_, ?_⟩, ?_⟩
  · intro profile hprofile
    obtain ⟨old, hold, rfl | rfl⟩ := mem_modify hprofile
    · exact hs.fits _ hold
    · obtain ⟨hid, hexternal, huser, hagent, hstatus, _⟩ := hchange old
      obtain ⟨identity, hidentity, hfits⟩ := hs.fits old hold
      refine ⟨identity, hidentity, ⟨?_, ?_, ?_, ?_, ?_⟩⟩
      · rw [hid]
        exact hfits.profileId
      · rw [hexternal]
        exact hfits.externalIdentity
      · rw [huser]
        exact hfits.user
      · rw [hagent]
        exact hfits.agent
      · rw [hstatus, huser, hagent]
        exact hfits.active
  · intro profile hprofile
    obtain ⟨old, hold, rfl | rfl⟩ := mem_modify hprofile
    · exact hs.unleased _ hold
    · exact (hchange old).2.2.2.2.2.trans (hs.unleased _ hold)
  · intro identity hnone
    rw [hread, Option.map_eq_none_iff] at hnone
    exact hs.unknown identity hnone
  · intro hsafe profileId profile hprofile hstatus
    rw [hread, Option.map_eq_some_iff] at hprofile
    obtain ⟨old, hold, rfl⟩ := hprofile
    obtain ⟨_, hexternal, _, _, hsame, _⟩ := hchange old
    by_cases hcondition : condition old
    · rw [if_pos hcondition] at hstatus ⊢
      rw [hexternal]
      exact hsafe profileId old hold (hsame.symm.trans hstatus)
    · rw [if_neg hcondition] at hstatus ⊢
      exact hsafe profileId old hold hstatus

/-- Noting a denial disturbs nothing. -/
theorem undisturbed_noteDenied {request : ResearchAgentLifecycleRequest}
    {identity errorCode : String} (hidentity : IsHex identity)
    (h : s.noteDenied (claimInput request identity) errorCode = .ok s') :
    Undisturbed directory s s' remote := by
  simp only [LifecycleStore.noteDenied] at h
  split at h
  · cases h
    exact undisturbed_modify fun _ => ⟨rfl, rfl, rfl, rfl, rfl, rfl⟩
  · refine undisturbed_insertProfile hidentity ?_ rfl h
    have hfits := initialProfile_fits directory request identity
    exact ⟨hfits.profileId, hfits.externalIdentity, hfits.user, hfits.agent, hfits.active⟩

theorem undisturbed_writeEvent {input : EventWriteInput} {toStatus : ResearchAgentLifecycleStatus}
    {event : ResearchAgentLifecycleEvent}
    (h : s.writeEvent digest input toStatus = .ok (s', event)) :
    Undisturbed directory s s' remote := by
  obtain ⟨row, _, rfl, _⟩ := writeEvent_cases h
  exact undisturbed_of_profiles rfl

end Undisturbed

section Unclaimed

variable {s s' : LifecycleStore}
variable {attempt : LifecycleAttempt}
variable {result : ResearchAgentLifecycleResult}

structure ReachesClaim
    (digest : String → List UInt8)
    (s : LifecycleStore)
    (attempt : LifecycleAttempt)
    (identity : String)
    (ensured : LifecycleStore)
    (current : ResearchAgentLifecycleProfile) : Prop where
  derived :
    identityDigest digest attempt.request.workspaceId attempt.request.accountId = .ok identity
  fresh : s.readEvent (profileIdOf identity) attempt.request.requestId = none
  allowed : preconditionDenial attempt.request.intent attempt.surroundings.authority = none
  ensures : s.ensureProfile (claimInput attempt.request identity) = .ok ensured
  stored : ensured.readProfile (profileIdOf identity) = some current
  unfinished : claimFromRead attempt.request.intent current = none

variable {request : ResearchAgentLifecycleRequest}

/-- Recording a claim that ends without remote calls disturbs nothing. -/
theorem undisturbed_recordTerminal {profile : ResearchAgentLifecycleProfile}
    {errorCode : Option String} {outcome : ResearchAgentLifecycleOutcome}
    (h : recordTerminal digest request s profile errorCode outcome = .ok (result, s')) :
    Undisturbed directory s s' remote := by
  obtain ⟨_, hwrite, _⟩ := recordTerminal_cases h
  exact undisturbed_writeEvent hwrite

theorem undisturbed_recordDenied {errorCode reason : String} {event : ResearchAgentLifecycleEvent}
    (hidentity : IsHex identity)
    (h : s.recordDenied digest (claimInput request identity) errorCode reason =
      .ok (s', event)) :
    Undisturbed directory s s' remote := by
  obtain ⟨_, _, _, hnoted, hwrite, _⟩ := recordDenied_cases h
  exact (undisturbed_noteDenied hidentity hnoted).trans (undisturbed_writeEvent hwrite)

/-- A claim that does not reach its update is terminal or deleted, on the ensured tables. -/
theorem claim_unclaimed {now : Nat} {claim : LifecycleClaim}
    (hno : ∀ ensured current,
      s.ensureProfile (claimInput attempt.request identity) = .ok ensured →
      ensured.readProfile (profileIdOf identity) = some current →
      claimFromRead attempt.request.intent current ≠ none)
    (h : s.claim now (claimInput attempt.request identity) = .ok (s', claim)) :
    s.ensureProfile (claimInput attempt.request identity) = .ok s' ∧
      ∃ profile, claim = .terminal profile ∨ claim = .deleted profile := by
  obtain ⟨ensured, current, hensured, hcurrent, hclaim⟩ := claim_cases h
  have hfinished := hno ensured current hensured hcurrent
  rcases hclaim with ⟨hread, rfl⟩ | ⟨hnone, _⟩ | ⟨hnone, _⟩
  · refine ⟨hensured, current, ?_⟩
    rcases claimFromRead_cases hread with ⟨heq, _⟩ | ⟨heq, _⟩
    · exact Or.inl heq
    · exact Or.inr heq
  · exact absurd hnone hfinished
  · exact absurd hnone hfinished

theorem execute_unclaimed (directory : FastClawDirectory) (remote : RemoteUsers)
    (hno : ∀ identity ensured current,
      ¬ ReachesClaim digest s attempt identity ensured current) :
    (execute digest attempt.surroundings attempt.request s).calls = [] ∧
      ∀ result s',
        (execute digest attempt.surroundings attempt.request s).outcome = .ok (result, s') →
        Undisturbed directory s s' remote := by
  have hsame : Undisturbed directory s s remote := undisturbed_of_profiles rfl
  simp only [execute]
  split
  · refine ⟨rfl, ?_⟩
    rintro result s' ⟨⟩
  · next identity hidentity =>
      have hhex := identityDigest_isHex hidentity
      split
      · split
        · refine ⟨rfl, ?_⟩
          rintro result s' ⟨⟩
          exact hsame
        · refine ⟨rfl, ?_⟩
          rintro result s' ⟨⟩
          exact hsame
      · next hfresh =>
          simp only [executeNew]
          split
          · split
            · refine ⟨rfl, ?_⟩
              rintro result s' ⟨⟩
              exact hsame
            · split
              · refine ⟨rfl, ?_⟩
                rintro result s' ⟨⟩
              · next hdenied =>
                  refine ⟨rfl, ?_⟩
                  rintro result s' ⟨⟩
                  exact undisturbed_recordDenied hhex hdenied
          · next hallowed =>
              split
              · refine ⟨rfl, ?_⟩
                rintro result s' ⟨⟩
              · next claimed claim hclaim =>
                  obtain ⟨hensured, profile, rfl | rfl⟩ :=
                    claim_unclaimed
                      (fun ensured current hensured hcurrent hnone =>
                        hno identity ensured current
                          ⟨hidentity, hfresh, hallowed, hensured, hcurrent, hnone⟩)
                      hclaim
                  · refine ⟨rfl, ?_⟩
                    intro result s' houtcome
                    exact (undisturbed_ensureProfile directory remote hhex hensured).trans
                      (undisturbed_recordTerminal houtcome)
                  · refine ⟨rfl, ?_⟩
                    intro result s' houtcome
                    exact (undisturbed_ensureProfile directory remote hhex hensured).trans
                      (undisturbed_recordTerminal houtcome)

theorem attempt_unclaimed (directory : FastClawDirectory) {w : LifecycleWorld}
    (hno : ∀ identity ensured current,
      ¬ ReachesClaim digest w.store attempt identity ensured current) :
    (attemptLifecycle directory digest w attempt).1.remote = w.remote ∧
      Undisturbed directory w.store
        (attemptLifecycle directory digest w attempt).1.store w.remote := by
  obtain ⟨hcalls, hstore⟩ := execute_unclaimed directory w.remote hno
  constructor
  · simp [attemptLifecycle, run_calls, hcalls, remoteAfter]
  · simp only [attemptLifecycle, runResearchAgentLifecycle]
    split
    · next houtcome => exact hstore _ _ houtcome
    · exact undisturbed_of_profiles rfl

end Unclaimed

end Aiphabee.ResearchAgent
