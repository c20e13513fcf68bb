import Mathlib.Algebra.Order.BigOperators.Group.List
import Mathlib.Data.List.Perm.Subperm
import Aiphabee.SandboxAuth.RunToken
import Aiphabee.Store.GroupBy

/-!
# The round trip of run tokens

Issue and verify validate the claims by one function.  What it accepts lies
within the bounds; claims within the bounds are accepted again, in the window
of time of the token.  The text of claims within the bounds is so short that
every token fits.
-/

namespace Aiphabee.SandboxAuth

open Checks
open JsText (ofString utf8Size isPlain jsonString jsonInt)

variable {requiredScope : Option SandboxRunScope}
variable {claims : SandboxRunTokenClaims}

section ScopeLists

theorem scopeOfText_text (scope : SandboxRunScope) :
    scopeOfText? (ofString scope.text) = some scope := by
  cases scope <;> decide

theorem text_of_scopeOfText {text : JsText} {scope : SandboxRunScope}
    (h : scopeOfText? text = some scope) : ofString scope.text = text := by
  simpa using List.find?_some h

theorem mapM_scopeTexts (scopes : List SandboxRunScope) :
    (scopeTexts scopes).mapM scopeOfText? = some scopes := by
  induction scopes with
  | nil => rfl
  | cons scope rest ih =>
    simp only [scopeTexts, List.map_cons, List.mapM_cons, scopeOfText_text] at ih ⊢
    simp [ih]

variable {scopes : List SandboxRunScope}

theorem eq_scopeTexts_of_mapM {texts : List JsText} (h : texts.mapM scopeOfText? = some scopes) :
    texts = scopeTexts scopes := by
  induction texts generalizing scopes with
  | nil =>
    obtain rfl : scopes = [] := (Option.some.inj h).symm
    rfl
  | cons text rest ih =>
    rw [List.mapM_cons] at h
    obtain ⟨scope, hscope, h⟩ := Option.bind_eq_some_iff.mp h
    obtain ⟨others, hothers, hresult⟩ := Option.bind_eq_some_iff.mp h
    obtain rfl := Option.some.inj hresult
    rw [ih hothers, ← text_of_scopeOfText hscope]
    rfl

def scopeBefore (left right : SandboxRunScope) : Bool :=
  JsString.sortsBefore left.text right.text

theorem scopeBefore_trans :
    ∀ a b c, scopeBefore a b = true → scopeBefore b c = true → scopeBefore a c = true := by
  intro a b c
  simp only [scopeBefore, JsString.sortsBefore, decide_eq_true_eq]
  exact le_trans

theorem scopeBefore_total :
    ∀ a b, (scopeBefore a b || scopeBefore b a) = true := by
  intro a b
  simp only [scopeBefore, JsString.sortsBefore, Bool.or_eq_true, decide_eq_true_eq]
  exact le_total _ _

structure NormalScopes (scopes : List SandboxRunScope) : Prop where
  nonempty : scopes ≠ []
  sorted : scopes.Pairwise fun left right => scopeBefore left right = true
  unique : scopes.Nodup

/-- Normalising yields scopes in order, each once and the same as before. -/
theorem normalizeScopes_scopeTexts (h : scopes ≠ []) :
    normalizeScopes (scopeTexts scopes) =
      .ok (scopes.eraseDups.mergeSort scopeBefore) := by
  simp only [normalizeScopes, mapM_scopeTexts, require_some, ok_bind,
    ensure_of _ h]
  rfl

theorem normalizeScopes_of_normal (h : NormalScopes scopes) :
    normalizeScopes (scopeTexts scopes) = .ok scopes := by
  rw [normalizeScopes_scopeTexts h.nonempty, GroupBy.eraseDups_of_nodup h.unique,
    List.mergeSort_of_pairwise h.sorted]

theorem normalizeScopes_eq_ok {texts : List JsText} (h : normalizeScopes texts = .ok scopes) :
    NormalScopes scopes ∧
      ∃ known, texts = scopeTexts known ∧ ∀ scope, scope ∈ scopes ↔ scope ∈ known := by
  simp only [normalizeScopes, bind_eq_ok, require_eq_ok, ensure_eq_ok] at h
  obtain ⟨known, hknown, -, hne, hscopes⟩ := h
  obtain rfl := Except.ok.inj hscopes
  have hperm := List.mergeSort_perm known.eraseDups scopeBefore
  refine ⟨⟨?_, ?_, ?_⟩, known, eq_scopeTexts_of_mapM hknown, ?_⟩
  · obtain ⟨scope, hscope⟩ := List.exists_mem_of_ne_nil known hne
    exact List.ne_nil_of_mem (hperm.mem_iff.mpr (List.mem_eraseDups.mpr hscope))
  · exact List.pairwise_mergeSort scopeBefore_trans scopeBefore_total _
  · exact hperm.nodup_iff.mpr (GroupBy.nodup_eraseDups known)
  · intro scope
    exact hperm.mem_iff.trans List.mem_eraseDups

end ScopeLists

structure ClaimBounds (claims : SandboxRunTokenClaims) : Prop where
  jti : isRunId claims.jti = true
  tenantHash : isHash claims.tenantHash = true
  userHash : isHash claims.userHash = true
  maxCalls : 1 ≤ claims.maxCalls ∧ claims.maxCalls ≤ maxCallsLimit
  safeIat : -maxSafeInteger ≤ claims.iat ∧ claims.iat ≤ maxSafeInteger
  safeExp : -maxSafeInteger ≤ claims.exp ∧ claims.exp ≤ maxSafeInteger
  lifetime : claims.iat < claims.exp ∧ claims.exp - claims.iat ≤ maxTokenTtlSeconds
  scopes : NormalScopes claims.scopes

structure HoldsClaims
    (value : JsonValue)
    (texts : List JsText)
    (claims : SandboxRunTokenClaims) : Prop where
  fields : ∃ fields, value = .object fields ∧
    safeIntegerField fields "exp" = some claims.exp ∧
    safeIntegerField fields "iat" = some claims.iat ∧
    stringField fields "jti" = some claims.jti ∧
    safeIntegerField fields "max_calls" = some claims.maxCalls ∧
    stringArrayField fields "scopes" = some texts ∧
    stringField fields "tenant_hash" = some claims.tenantHash ∧
    stringField fields "user_hash" = some claims.userHash
  scopes : normalizeScopes texts = .ok claims.scopes

theorem validateClaims_eq_ok {value : JsonValue} {nowSeconds : JsNumber}
    (h : validateClaims value nowSeconds requiredScope = .ok claims) :
    ClaimBounds claims ∧ ClockAccepts claims.iat claims.exp nowSeconds ∧
      (∀ scope ∈ requiredScope, scope ∈ claims.scopes) ∧
      ∃ texts, HoldsClaims value texts claims := by
  simp only [validateClaims, bind_eq_ok, require_eq_ok, ensure_eq_ok,
    Option.filter_eq_some_iff, decide_eq_true_eq] at h
  obtain ⟨fields, hfields, _, -, _, -, jti, ⟨hjti, hjtiId⟩, tenantHash, ⟨htenant, htenantHash⟩,
    userHash, ⟨huser, huserHash⟩, maxCalls, ⟨hcalls, hcallsRange⟩, iat, hiat, exp, hexp, _,
    hlifetime, _, hissued, _, hexpires, texts, htexts, scopes, hscopes, _, -, _, hrequired,
    hclaims⟩ := h
  obtain rfl := Except.ok.inj hclaims
  refine ⟨⟨hjtiId, htenantHash, huserHash, hcallsRange, safeIntegerField_range hiat,
    safeIntegerField_range hexp, hlifetime, (normalizeScopes_eq_ok hscopes).1⟩,
    ⟨hissued, hexpires⟩, hrequired, texts, ?_⟩
  exact ⟨⟨fields, objectFields_eq_some hfields, hexp, hiat, hjti, hcalls, htexts, htenant, huser⟩,
    hscopes⟩

theorem mapM_strings (texts : List JsText) :
    (texts.map JsonValue.string).mapM (fun element =>
      match element with
      | .string value => some value
      | _ => none) = some texts := by
  induction texts with
  | nil => rfl
  | cons text rest ih =>
    rw [List.map_cons, List.mapM_cons, ih]
    rfl

theorem claimsObject_fields (exp iat : JsNumber) (jti : JsText) (maxCalls : JsNumber)
    (scopes : List JsText) (tenantHash userHash : JsText) :
    ∃ fields, claimsObject exp iat jti maxCalls scopes tenantHash userHash = .object fields ∧
      hasExactKeys fields
        ["exp", "iat", "jti", "max_calls", "scopes", "tenant_hash", "user_hash", "v"] = true ∧
      safeIntegerField fields "v" = some 1 ∧
      safeIntegerField fields "exp" = safeInteger? exp ∧
      safeIntegerField fields "iat" = safeInteger? iat ∧
      stringField fields "jti" = some jti ∧
      safeIntegerField fields "max_calls" = safeInteger? maxCalls ∧
      stringArrayField fields "scopes" = some scopes ∧
      stringField fields "tenant_hash" = some tenantHash ∧
      stringField fields "user_hash" = some userHash :=
  ⟨_, rfl, rfl, rfl, rfl, rfl, rfl, rfl, mapM_strings scopes, rfl, rfl⟩

theorem validateClaims_of_bounds {nowSeconds : JsNumber} (h : ClaimBounds claims)
    (hclock : ClockAccepts claims.iat claims.exp nowSeconds)
    (hrequired : ∀ scope ∈ requiredScope, scope ∈ claims.scopes) :
    validateClaims (claimsValue claims) nowSeconds requiredScope = .ok claims := by
  obtain ⟨fields, hobject, hkeys, hv, hexp, hiat, hjti, hcalls, hscopes, htenant, huser⟩ :=
    claimsObject_fields (numberOf claims.exp) (numberOf claims.iat) claims.jti
      (numberOf claims.maxCalls) (scopeTexts claims.scopes) claims.tenantHash claims.userHash
  have hcallsSafe : -maxSafeInteger ≤ claims.maxCalls ∧ claims.maxCalls ≤ maxSafeInteger := by
    have hrange := h.maxCalls
    simp only [maxCallsLimit, maxSafeInteger] at hrange ⊢
    omega
  rw [safeInteger_numberOf h.safeExp] at hexp
  rw [safeInteger_numberOf h.safeIat] at hiat
  rw [safeInteger_numberOf hcallsSafe] at hcalls
  rw [claimsValue, hobject]
  simp only [validateClaims, objectFields, require_some, ok_bind, hkeys, hv, hexp,
    hiat, hjti, hcalls, hscopes, htenant, huser, Option.filter_some, h.jti, h.tenantHash,
    h.userHash, h.maxCalls, h.lifetime, normalizeScopes_of_normal h.scopes,
    ensure_of _ hclock.1, ensure_of _ hclock.2, ensure_of _ hrequired,
    ensure_of, and_self, decide_true, if_true]
  rfl

section RoundTrip

variable {platform : Platform}

theorem isRunId_spec {value : JsText} (h : isRunId value = true) :
    (∀ u ∈ value, isPlain u = true) ∧ value.length ≤ 128 := by
  cases value with
  | nil => cases h
  | cons first rest =>
    simp only [isRunId, isAlphanumeric, Bool.and_eq_true, Bool.or_eq_true, decide_eq_true_eq,
      List.all_eq_true] at h
    obtain ⟨⟨⟨hfirst, -⟩, hlength⟩, hrest⟩ := h
    refine ⟨fun u hu => ?_, by rw [List.length_cons]; omega⟩
    simp only [isPlain, Bool.and_eq_true, decide_eq_true_eq]
    rcases List.mem_cons.mp hu with rfl | hu
    · omega
    · have := hrest u hu
      omega

theorem isHash_spec {value : JsText} (h : isHash value = true) :
    (∀ u ∈ value, isPlain u = true) ∧ value.length = 64 := by
  simp only [isHash, Bool.and_eq_true, Bool.or_eq_true, decide_eq_true_eq,
    List.all_eq_true] at h
  refine ⟨fun u hu => ?_, h.1⟩
  have := h.2 u hu
  simp only [isPlain, Bool.and_eq_true, decide_eq_true_eq]
  omega

/-- The scopes take 100 bytes at most: there are five of them. -/
theorem utf8Size_scopes_le {scopes : List SandboxRunScope} (h : NormalScopes scopes) :
    utf8Size (JsText.jsonArray ((scopeTexts scopes).map jsonString)) ≤ 100 := by
  have hcount : scopes.length ≤ 5 := by
    have hsubset : scopes ⊆ sandboxRunScopes := by
      intro scope _
      cases scope <;> decide
    exact (List.subperm_of_subset h.unique hsubset).length_le
  have hsize : ∀ scope : SandboxRunScope,
      utf8Size (jsonString (ofString scope.text)) + 1 ≤ 18 := by
    intro scope
    cases scope <;> decide
  have hne : (scopeTexts scopes).map jsonString ≠ [] := by
    simpa [scopeTexts] using h.nonempty
  rw [JsText.utf8Size_jsonArray hne, scopeTexts, List.map_map, List.map_map]
  have hsum := List.sum_le_card_nsmul
    (scopes.map fun scope =>
      utf8Size (jsonString (ofString scope.text)) + 1) 18 (by
        intro n hn
        obtain ⟨scope, -, rfl⟩ := List.mem_map.mp hn
        exact hsize scope)
  rw [List.length_map, nsmul_eq_mul] at hsum
  simp only [Function.comp_def]
  push_cast at hsum
  omega

theorem utf8Size_claimsText_le (h : ClaimBounds claims) :
    utf8Size (claimsText claims) ≤ 3039 := by
  have hexp := utf8Size_jsonInt_safe h.safeExp
  have hiat := utf8Size_jsonInt_safe h.safeIat
  have hcalls : utf8Size (jsonInt claims.maxCalls) ≤ 17 := by
    refine utf8Size_jsonInt_safe ?_
    have hrange := h.maxCalls
    simp only [maxCallsLimit, maxSafeInteger] at hrange ⊢
    omega
  have hscopes := utf8Size_scopes_le h.scopes
  obtain ⟨hjtiPlain, hjtiLength⟩ := isRunId_spec h.jti
  obtain ⟨htenantPlain, htenantLength⟩ := isHash_spec h.tenantHash
  obtain ⟨huserPlain, huserLength⟩ := isHash_spec h.userHash
  have hjti := JsText.utf8Size_jsonString_of_plain hjtiPlain
  have htenant := JsText.utf8Size_jsonString_of_plain htenantPlain
  have huser := JsText.utf8Size_jsonString_of_plain huserPlain
  have hone : utf8Size (jsonInt 1) = 1 := by decide
  rw [claimsText, JsText.utf8Size_jsonObject (List.cons_ne_nil _ _)]
  simp only [List.map_cons, List.map_nil, List.sum_cons, List.sum_nil, hjti, htenant, huser, hone]
  have hkeys : utf8Size "exp".toList = 3 ∧ utf8Size "iat".toList = 3 ∧
      utf8Size "jti".toList = 3 ∧ utf8Size "max_calls".toList = 9 ∧
      utf8Size "scopes".toList = 6 ∧ utf8Size "tenant_hash".toList = 11 ∧
      utf8Size "user_hash".toList = 9 ∧ utf8Size "v".toList = 1 := by
    decide
  omega

theorem issueSandboxRunToken_eq_ok {input : IssueSandboxRunTokenInput}
    {issued : IssuedSandboxRunToken} (h : issueSandboxRunToken platform input = .ok issued) :
    ClaimBounds issued.claims ∧
      (∀ scope, scope ∈ issued.claims.scopes ↔ scope ∈ input.scopes) ∧
      sealToken platform input.secret (claimsText issued.claims) = .ok issued.token := by
  simp only [issueSandboxRunToken, bind_eq_ok, require_eq_ok] at h
  obtain ⟨ttlSeconds, -, scopes, hscopes, tenantHash, -, userHash, -, claims, hclaims, token,
    htoken, sandboxId, -, hissued⟩ := h
  obtain rfl := Except.ok.inj hissued
  obtain ⟨hbounds, -, -, texts, hholds⟩ := validateClaims_eq_ok hclaims
  refine ⟨hbounds, fun scope => ?_, htoken⟩
  obtain ⟨fields, hobject, -, -, -, -, -, -, hfieldTexts, -, -⟩ :=
    claimsObject_fields (addSeconds (secondsOf input.nowMs) ttlSeconds) (secondsOf input.nowMs)
      input.runId input.maxCalls (scopeTexts scopes) tenantHash userHash
  obtain ⟨fields', hobject', -, -, -, -, hfieldTexts', -, -⟩ := hholds.fields
  obtain rfl := JsonValue.object.inj (hobject.symm.trans hobject')
  obtain rfl := Option.some.inj (hfieldTexts'.symm.trans hfieldTexts)
  obtain ⟨hnormal, known, hknown, hmem⟩ := normalizeScopes_eq_ok hscopes
  obtain ⟨-, known', hknown', hmem'⟩ := normalizeScopes_eq_ok hholds.scopes
  have hinput := Option.some.inj
    ((mapM_scopeTexts input.scopes).symm.trans (hknown ▸ mapM_scopeTexts known))
  have hscopes' := Option.some.inj
    ((mapM_scopeTexts scopes).symm.trans (hknown' ▸ mapM_scopeTexts known'))
  rw [hmem', ← hscopes', hmem, ← hinput]

theorem verifySandboxRunToken_eq_ok {token secret : JsText} {nowMs : JsNumber}
    (h : verifySandboxRunToken platform token secret nowMs requiredScope = .ok claims) :
    ∃ parsed, Carries platform token secret (claimsText claims) parsed ∧
      ClaimBounds claims ∧ ClockAccepts claims.iat claims.exp (secondsOf nowMs) ∧
      (∀ scope ∈ requiredScope, scope ∈ claims.scopes) ∧
      ∃ texts, HoldsClaims parsed texts claims := by
  simp only [verifySandboxRunToken, bind_eq_ok, ensure_eq_ok] at h
  obtain ⟨⟨payloadText, parsed⟩, hopen, claims', hclaims, _, hcanonical, hresult⟩ := h
  obtain rfl := Except.ok.inj hresult
  obtain ⟨hbounds, hclock, hrequired, hholds⟩ := validateClaims_eq_ok hclaims
  refine ⟨parsed, ?_, hbounds, hclock, hrequired, hholds⟩
  have hcarries := carries_of_openToken hopen
  rwa [hcanonical]

theorem claimsText_eq_cons (claims : SandboxRunTokenClaims) :
    ∃ rest, claimsText claims = '{' :: rest :=
  ⟨_, rfl⟩

theorem verify_issued {secret token : JsText} (hbounds : ClaimBounds claims)
    (hsealed : sealToken platform secret (claimsText claims) = .ok token)
    (hparsed : platform.parseJson (claimsText claims) = some (claimsValue claims))
    (hrequired : ∀ scope ∈ requiredScope, scope ∈ claims.scopes) (time : ℚ) :
    (InWindow claims.iat claims.exp time →
      verifySandboxRunToken platform token secret (.finite time) requiredScope = .ok claims) ∧
    (¬InWindow claims.iat claims.exp time →
      ∃ error,
        verifySandboxRunToken platform token secret (.finite time) requiredScope =
          .error error) := by
  have hopen : openToken platform runTokenMessages token secret =
      .ok (claimsText claims, claimsValue claims) := by
    have hlength := (length_sealToken_le_iff hsealed).mpr (utf8Size_claimsText_le hbounds)
    obtain ⟨rest, hrest⟩ := claimsText_eq_cons claims
    rw [hrest] at hsealed hparsed ⊢
    exact openToken_sealToken _ hsealed hlength hparsed
  have hverify : verifySandboxRunToken platform token secret (.finite time) requiredScope =
      (validateClaims (claimsValue claims) (secondsOf (.finite time)) requiredScope >>=
        fun verified => ensure (claimsText verified = claimsText claims)
          ⟨.INVALID_CLAIMS, "token payload is not canonical"⟩ >>= fun _ => pure verified) := by
    rw [verifySandboxRunToken, hopen]
    rfl
  constructor
  · intro hwindow
    have hclock := (clock_iff claims.iat claims.exp time).mpr hwindow
    rw [hverify, validateClaims_of_bounds hbounds hclock hrequired, ok_bind,
      ensure_of _ rfl]
    rfl
  · intro hwindow
    cases hresult : verifySandboxRunToken platform token secret (.finite time) requiredScope with
    | error error => exact ⟨error, rfl⟩
    | ok verified =>
      -- What is accepted has the times of the claims, so that the clock accepts them too.
      rw [hverify] at hresult
      simp only [bind_eq_ok, ensure_eq_ok] at hresult
      obtain ⟨verified', hvalid, -⟩ := hresult
      obtain ⟨-, hclock, -, texts, hholds⟩ := validateClaims_eq_ok hvalid
      obtain ⟨fields, hobject, -, -, hexp, hiat, -⟩ :=
        claimsObject_fields (numberOf claims.exp) (numberOf claims.iat) claims.jti
          (numberOf claims.maxCalls) (scopeTexts claims.scopes) claims.tenantHash
          claims.userHash
      obtain ⟨fields', hobject', hexp', hiat', -⟩ := hholds.fields
      obtain rfl := JsonValue.object.inj (hobject.symm.trans hobject')
      rw [hexp, safeInteger_numberOf hbounds.safeExp] at hexp'
      rw [hiat, safeInteger_numberOf hbounds.safeIat] at hiat'
      rw [← Option.some.inj hexp', ← Option.some.inj hiat'] at hclock
      exact absurd ((clock_iff claims.iat claims.exp time).mp hclock) hwindow

end RoundTrip

end Aiphabee.SandboxAuth
