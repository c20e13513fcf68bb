import Aiphabee.Text.JsDate
import Aiphabee.Text.JsonValues

/-!
# Live security resolution

A query is looked up in the released aliases, and every row that was found is checked
and mapped to a candidate.  The identity of a security is spread over five texts of a
row; the profile of the same record is read by a mapper of its own.

The main result, `resolveLiveSecurityRows_selfConsistent_iff`, says for which rows the
candidates agree with their records.
-/

namespace Aiphabee.SecurityTools

open JsText (isDigit ofString)
open JsonMembers (member memberOf stringMember elements? isPlainRecord)
open SandboxAuth (JsonValue)
open Checks

/-- `replace(/\s+/gu, " ")`; the flag says whether a run has begun. -/
def collapseWhiteSpace : Bool → JsText → JsText
  | _, [] => []
  | inRun, u :: rest =>
    if JsText.isWhiteSpace u then
      if inRun then collapseWhiteSpace true rest else 0x20 :: collapseWhiteSpace true rest
    else u :: collapseWhiteSpace false rest

/-- `digits.padStart(5, "0")`. -/
def padCode (digits : JsText) : JsText :=
  List.replicate (5 - digits.length) 0x30 ++ digits

def isShortCode (text : JsText) : Bool :=
  1 ≤ text.length && text.length ≤ 5 && text.all isDigit

/-- The letter case of the locale is given. -/
def normalizeExactSecurityLookup (lower : JsText → JsText) (value : JsText) : JsText :=
  let collapsed := collapseWhiteSpace false (lower (JsText.trim value))
  let digits := collapsed.takeWhile isDigit
  if isShortCode digits ∧ collapsed.drop digits.length = ofString ".hk" then
    padCode digits ++ ofString ".hk"
  else if collapsed.take 3 = ofString "hk:" ∧ isShortCode (collapsed.drop 3) then
    ofString "hk:" ++ padCode (collapsed.drop 3)
  else collapsed

structure LiveRow where
  dataVersion : JsText
  entityId : JsText
  matchReason : Option JsonValue
  payload : Option JsonValue
  sourceRecordId : JsText

inductive SecurityListingStatus
  | delisted
  | listed
  | suspended

inductive MatchReason
  | canonicalSymbol
  | code
  | historicalIdentifier
  | historicalName
  | name
  | symbol

def SecurityListingStatus.text : SecurityListingStatus → JsText
  | .delisted => ofString "delisted"
  | .listed => ofString "listed"
  | .suspended => ofString "suspended"

def MatchReason.text : MatchReason → JsText
  | .canonicalSymbol => ofString "canonical_symbol"
  | .code => ofString "code"
  | .historicalIdentifier => ofString "historical_identifier"
  | .historicalName => ofString "historical_name"
  | .name => ofString "name"
  | .symbol => ofString "symbol"

def stringOf : Option JsonValue → Option JsText
  | some (.string text) => some text
  | _ => none

variable (value : Option JsonValue)

def listingStatusOf : Option SecurityListingStatus :=
  [.delisted, .listed, .suspended].find? fun status => stringOf value = some status.text

def matchReasonOf : Option MatchReason :=
  [.canonicalSymbol, .code, .historicalIdentifier, .historicalName, .name, .symbol].find?
    fun reason => stringOf value = some reason.text

def requireNonEmptyLiveString (field : String) : Except String JsText :=
  match stringOf value with
  | some text => if JsText.trim text = [] then .error (field ++ " is missing") else .ok text
  | none => .error (field ++ " is missing")

def requireLiveObject (field : String) : Except String JsonValue :=
  match value with
  | some (.object fields) => .ok (.object fields)
  | _ => .error (field ++ " is malformed")

def requireLivePayloadString (payload : JsonValue) (field : String) : Except String JsText :=
  requireNonEmptyLiveString (member payload field) ("payload " ++ field)

def optionalLiveDate (field : String) :
    Except String (Option JsText) :=
  match value with
  | none => .ok none
  | some value =>
    match stringOf (some value) with
    | some text =>
      if JsDate.hasForm "0000-00-00".toList (text.map fun u => Char.ofNat u.toNat) then
        .ok (some text)
      else .error ("payload " ++ field ++ " is malformed")
    | none => .error ("payload " ++ field ++ " is malformed")

/-- `/^\d{5}$/`. -/
def isCode (text : JsText) : Bool :=
  text.length = 5 && text.all isDigit

/-- A text is five digits after some other text. -/
def carriesCode (start text : JsText) : Bool :=
  text.take start.length = start && isCode (text.drop start.length)

def securityIdStart : JsText := ofString "hkex_security_"

def stockRecordStart : JsText := ofString "netquity:basicdata.stock:"

structure SecurityName where
  en : JsText
  zhHans : JsText
  zhHant : JsText

structure Candidate where
  currency : JsText
  exchange : JsText
  instrumentId : JsText
  market : JsText
  matchReason : MatchReason
  name : SecurityName
  status : SecurityListingStatus
  symbol : JsText
  validFrom : Option JsText
  validTo : Option JsText

def mapLiveSecurityRow (expectedDataVersion : JsText) (expectedMarket : Option JsText)
    (normalizedQuery : JsText) (row : LiveRow) : Except String Candidate := do
  let dataVersion ← requireNonEmptyLiveString (some (.string row.dataVersion)) "row data version"
  let expected ← requireNonEmptyLiveString (some (.string expectedDataVersion))
    "snapshot data version"
  ensure (dataVersion = expected) "row data version does not match the released snapshot"
  let instrumentId ← requireNonEmptyLiveString (some (.string row.entityId)) "entity id"
  ensure (carriesCode securityIdStart instrumentId) "entity id is not an opaque HKEX security id"
  let sourceRecordId ← requireNonEmptyLiveString (some (.string row.sourceRecordId))
    "source record id"
  ensure (carriesCode stockRecordStart sourceRecordId)
    "source record id is not a Netquity BasicData stock record"
  let payload ← requireLiveObject row.payload "payload"
  let code ← requireLivePayloadString payload "code"
  let symbol ← requireLivePayloadString payload "symbol"
  let exchange ← requireLivePayloadString payload "exchange"
  let market ← requireLivePayloadString payload "market"
  let currency ← requireLivePayloadString payload "currency"
  ensure (isCode code ∧ symbol = code ++ ofString ".HK")
    "payload code and canonical symbol disagree"
  ensure (instrumentId = securityIdStart ++ code ∧ exchange = ofString "HKEX" ∧
      market = ofString "HK")
    "payload identity or HKEX market authority is malformed"
  ensure (∀ expected ∈ expectedMarket, market = expected)
    "row market does not match the requested market"
  let status ← require (listingStatusOf (member payload "listingStatus"))
    "payload listing status is malformed"
  let name ← requireLiveObject (member payload "name") "payload name"
  let aliases ← require (elements? (member payload "aliases")) "payload aliases are malformed"
  let matchReason ← require (matchReasonOf row.matchReason) "matched alias reason is malformed"
  ensure (∃ entry ∈ aliases, stringMember entry "value" = some normalizedQuery ∧
      stringMember entry "reason" = some matchReason.text)
    "matched alias is absent from the authoritative payload"
  let en ← requireLivePayloadString name "en"
  let zhHans ← requireLivePayloadString name "zhHans"
  let zhHant ← requireLivePayloadString name "zhHant"
  let validFrom ← optionalLiveDate (member payload "validFrom") "validFrom"
  let validTo ← optionalLiveDate (member payload "validTo") "validTo"
  return {
    currency, exchange, instrumentId, market, matchReason, name := { en, zhHans, zhHant }
    status, symbol, validFrom, validTo }

/-- What the profile of a record says about which security it is. -/
structure ProfileIdentity where
  currency : JsText
  exchange : JsText
  instrumentId : JsText
  market : JsText
  symbol : JsText

/-- The part of `mapLiveSecurityProfileRow` before the listing status. -/
def readProfileIdentity (expectedDataVersion expectedInstrumentId : JsText) (row : LiveRow) :
    Except String ProfileIdentity := do
  let dataVersion ← requireNonEmptyLiveString (some (.string row.dataVersion)) "row data version"
  ensure (dataVersion = expectedDataVersion)
    "row data version does not match the released snapshot"
  let instrumentId ← requireNonEmptyLiveString (some (.string row.entityId)) "entity id"
  ensure (carriesCode securityIdStart instrumentId) "entity id is not an opaque HKEX security id"
  ensure (instrumentId = expectedInstrumentId)
    "entity id does not match the requested instrument id"
  let code := instrumentId.drop securityIdStart.length
  let sourceRecordId ← requireNonEmptyLiveString (some (.string row.sourceRecordId))
    "source record id"
  ensure (sourceRecordId = stockRecordStart ++ code)
    "source record id is not the matching Netquity BasicData stock record"
  let payload ← requireLiveObject row.payload "payload"
  let symbol ← requireLivePayloadString payload "symbol"
  let exchange ← requireLivePayloadString payload "exchange"
  let market ← requireLivePayloadString payload "market"
  let currency ← requireLivePayloadString payload "currency"
  ensure (symbol = code ++ ofString ".HK") "payload symbol disagrees with the entity id"
  ensure (exchange = ofString "HKEX" ∧ market = ofString "HK")
    "payload exchange or market authority is malformed"
  return { currency, exchange, instrumentId, market, symbol }

structure ResolveInput where
  asOf : JsText
  dataVersion : JsText
  market : Option JsText
  query : JsText

inductive ResolveError
  | queryRequired
  | candidateLimitExceeded
  | malformedLiveRow (message : String)

inductive ResolveStatus
  | notFound
  | resolved
  | ambiguous
deriving DecidableEq

structure ProvenanceRef where
  dataVersion : JsText
  sourceRecordId : JsText

structure ResolveResult where
  asOf : JsText
  candidates : List Candidate
  dataVersion : JsText
  market : Option JsText
  normalizedQuery : JsText
  provenance : List ProvenanceRef
  query : JsText
  selectedInstrumentId : Option JsText
  status : ResolveStatus

def resolveStatus (candidates : List Candidate) : ResolveStatus :=
  if candidates.length = 0 then .notFound
  else if candidates.length = 1 then .resolved
  else .ambiguous

def resolveLiveSecurityRows (lower : JsText → JsText) (input : ResolveInput) (rows : List LiveRow) :
    Except ResolveError ResolveResult := do
  let query := JsText.trim input.query
  ensure (query ≠ []) .queryRequired
  ensure (rows.length ≤ 25) .candidateLimitExceeded
  let normalizedQuery := normalizeExactSecurityLookup lower query
  let candidates ← rows.mapM fun row =>
    (mapLiveSecurityRow input.dataVersion input.market normalizedQuery row).mapError
      .malformedLiveRow
  let status := resolveStatus candidates
  let asOf ← (requireNonEmptyLiveString (some (.string input.asOf)) "snapshot as-of").mapError
    .malformedLiveRow
  let dataVersion ← (requireNonEmptyLiveString (some (.string input.dataVersion))
    "snapshot data version").mapError .malformedLiveRow
  return {
    asOf, candidates, dataVersion, market := input.market, normalizedQuery
    provenance := rows.map fun row =>
      { dataVersion := row.dataVersion, sourceRecordId := row.sourceRecordId }
    query
    selectedInstrumentId :=
      if status = .resolved then candidates.head?.map (·.instrumentId) else none
    status }

section Identity

theorem requireNonEmptyLiveString_eq_ok {value : Option JsonValue} {field : String} {text : JsText}
    (h : requireNonEmptyLiveString value field = .ok text) : stringOf value = some text := by
  unfold requireNonEmptyLiveString at h
  split at h
  · next other hvalue =>
      split at h
      · cases h
      · rw [hvalue, Except.ok.inj h]
  · cases h

theorem requireLiveObject_eq_ok {value : Option JsonValue} {field : String} {payload : JsonValue}
    (h : requireLiveObject value field = .ok payload) : value = some payload := by
  unfold requireLiveObject at h
  split at h
  · cases h
    rfl
  · cases h

theorem carriesCode_iff (start text : JsText) :
    carriesCode start text = true ↔ ∃ code, isCode code = true ∧ text = start ++ code := by
  simp only [carriesCode, Bool.and_eq_true, decide_eq_true_eq]
  constructor
  · rintro ⟨hstart, hcode⟩
    exact ⟨_, hcode, by rw [← hstart, List.length_take, ← hstart]; simp⟩
  · rintro ⟨code, hcode, rfl⟩
    simpa using hcode

structure SameIdentity
    (expectedDataVersion normalizedQuery code : JsText)
    (row : LiveRow)
    (candidate : Candidate) : Prop where
  isCode : isCode code = true
  payloadCode : stringOf (memberOf row.payload "code") = some code
  instrumentId : candidate.instrumentId = securityIdStart ++ code
  entityId : row.entityId = securityIdStart ++ code
  symbol : candidate.symbol = code ++ ofString ".HK"
  dataVersion : row.dataVersion = expectedDataVersion
  matchedAlias : ∃ aliases, elements? (memberOf row.payload "aliases") = some aliases ∧
    ∃ entry ∈ aliases, stringMember entry "value" = some normalizedQuery ∧
      stringMember entry "reason" = some candidate.matchReason.text

variable {expectedDataVersion normalizedQuery : JsText}
variable {expectedMarket : Option JsText}
variable {row : LiveRow}
variable {candidate : Candidate}

theorem mapLiveSecurityRow_identity
    (h : mapLiveSecurityRow expectedDataVersion expectedMarket normalizedQuery row =
      .ok candidate) :
    ∃ code, SameIdentity expectedDataVersion normalizedQuery code row candidate ∧
      (∃ recordCode, isCode recordCode = true ∧
        row.sourceRecordId = stockRecordStart ++ recordCode) ∧
      (row.sourceRecordId = stockRecordStart ++ code →
        ∃ identity, readProfileIdentity expectedDataVersion row.entityId row =
          .ok identity) := by
  simp only [mapLiveSecurityRow, bind_eq_ok, ensure_eq_ok, require_eq_ok, exists_const,
    requireLivePayloadString] at h
  obtain ⟨version, hversion, expected, hexpected, rfl, id, hid, hform, source, hsource, hrecord,
    payload, hpayload, code, hcode, symbol, hsymbol, exchange, hexchange, market, hmarket,
    currency, hcurrency, ⟨hisCode, rfl⟩, ⟨rfl, rfl, rfl⟩, -, status, -, name, -, aliases,
    haliases, reason, -, halias, en, -, zhHans, -, zhHant, -, validFrom, -, validTo, -,
    hcandidate⟩ := h
  cases hcandidate
  have hmember : ∀ key, memberOf row.payload key = member payload key := by
    intro key
    rw [requireLiveObject_eq_ok hpayload]
    rfl
  have hrow : row.dataVersion = expectedDataVersion := Option.some.inj <|
    (requireNonEmptyLiveString_eq_ok hversion).trans
    (requireNonEmptyLiveString_eq_ok hexpected).symm
  have hentity : row.entityId = securityIdStart ++ code :=
    Option.some.inj (requireNonEmptyLiveString_eq_ok hid)
  have hcited : row.sourceRecordId = source :=
    Option.some.inj (requireNonEmptyLiveString_eq_ok hsource)
  refine ⟨code, ⟨hisCode, ?_, rfl, hentity, rfl, hrow, aliases, ?_, halias⟩, ?_, ?_⟩
  · rw [hmember]
    exact requireNonEmptyLiveString_eq_ok hcode
  · rw [hmember, haliases]
  · rw [hcited]
    exact (carriesCode_iff _ _).mp hrecord
  · intro hsame
    have hfull : version = expectedDataVersion := by
      rw [← Option.some.inj (requireNonEmptyLiveString_eq_ok hversion), hrow]
    simp only [readProfileIdentity, bind_eq_ok, ensure_eq_ok, exists_const,
      requireLivePayloadString]
    refine ⟨_, version, hversion, hfull, _, hid, hform, hentity.symm, _, hsource, ?_, payload,
      hpayload, _, hsymbol, _, hexchange, _, hmarket, currency, hcurrency, ?_, ⟨rfl, rfl⟩, rfl⟩
    · rw [← hcited, hsame, List.drop_left]
    · rw [List.drop_left]

end Identity

section Selection

variable {lower : JsText → JsText}
variable {input : ResolveInput}
variable {rows : List LiveRow}

def DenoteOne (rows : List LiveRow) (id : JsText) : Prop :=
  rows ≠ [] ∧ ∀ row ∈ rows, row.entityId = id

structure SelfConsistent
    (input : ResolveInput)
    (rows : List LiveRow)
    (result : ResolveResult) : Prop where
  candidates : List.Forall₂ (fun row candidate => ∃ code,
    SameIdentity input.dataVersion result.normalizedQuery code row candidate ∧
      row.sourceRecordId = stockRecordStart ++ code) rows result.candidates
  selected : ∀ id, result.selectedInstrumentId = some id ↔ DenoteOne rows id
  profile : ∀ row ∈ rows, ∃ identity,
    readProfileIdentity input.dataVersion row.entityId row = .ok identity

/-- What follows from a pair follows for each row that has a partner. -/
theorem forall_of_forall₂ {R : LiveRow → Candidate → Prop} {Q : LiveRow → Prop}
    {candidates : List Candidate} (h : List.Forall₂ R rows candidates)
    (hQ : ∀ row candidate, R row candidate → Q row) : ∀ row ∈ rows, Q row :=
  ((List.forall₂_and_left rows candidates).mp (h.imp fun _ _ hR => ⟨hQ _ _ hR, hR⟩)).1

theorem SelfConsistent.sameCode {result : ResolveResult} (h : SelfConsistent input rows result) :
    ∀ row ∈ rows, row.sourceRecordId.drop stockRecordStart.length =
      row.entityId.drop securityIdStart.length := by
  refine forall_of_forall₂ h.candidates ?_
  rintro row candidate ⟨code, hsame, hrecord⟩
  rw [hrecord, hsame.entityId, List.drop_left, List.drop_left]

theorem resolveLiveSecurityRows_eq_ok {result : ResolveResult}
    (h : resolveLiveSecurityRows lower input rows = .ok result) :
    List.Forall₂ (fun row candidate =>
        mapLiveSecurityRow input.dataVersion input.market result.normalizedQuery row =
          .ok candidate) rows result.candidates ∧
      result.selectedInstrumentId =
        if rows.length = 1 then rows.head?.map (·.entityId) else none := by
  simp only [resolveLiveSecurityRows, bind_eq_ok, ensure_eq_ok, exists_const, mapM_eq_ok,
    mapError_eq_ok] at h
  obtain ⟨-, -, candidates, hcandidates, asOf, -, dataVersion, -, hresult⟩ := h
  cases hresult
  refine ⟨hcandidates, ?_⟩
  have hstatus : resolveStatus candidates = .resolved ↔ rows.length = 1 := by
    rw [hcandidates.length_eq, resolveStatus]
    split
    · simp [*]
    · split <;> simp [*]
  dsimp only
  by_cases hone : rows.length = 1
  · rw [if_pos (hstatus.mpr hone), if_pos hone]
    obtain ⟨row, rfl⟩ := List.length_eq_one_iff.mp hone
    obtain ⟨candidate, -, hrow, hnil, rfl⟩ := List.forall₂_cons_left_iff.mp hcandidates
    obtain ⟨code, hsame, -⟩ := mapLiveSecurityRow_identity hrow
    rw [List.head?_cons, List.head?_cons, Option.map_some, Option.map_some, hsame.instrumentId,
      hsame.entityId]
  · rw [if_neg fun h => hone (hstatus.mp h), if_neg hone]

/--
The results for a query and its rows are right if and only if each source record has the
code of its row, and no security stands in two rows that are all there are.
-/
theorem resolveLiveSecurityRows_selfConsistent_iff (lower : JsText → JsText) (input : ResolveInput)
    (rows : List LiveRow) :
    (∀ result, resolveLiveSecurityRows lower input rows = .ok result →
        SelfConsistent input rows result) ↔
      ∀ result, resolveLiveSecurityRows lower input rows = .ok result →
        (∀ row ∈ rows, row.sourceRecordId.drop stockRecordStart.length =
          row.entityId.drop securityIdStart.length) ∧
        (rows.length ≤ 1 ∨ ∀ id, ¬DenoteOne rows id) := by
  refine forall₂_congr fun result h => ?_
  obtain ⟨hmapped, hselected⟩ := resolveLiveSecurityRows_eq_ok h
  constructor
  · intro hself
    constructor
    · exact hself.sameCode
    · rw [or_iff_not_imp_left]
      intro hmany id hone
      have hid := (hself.selected id).mpr hone
      rw [hselected, if_neg (by omega)] at hid
      cases hid
  · rintro ⟨hrecords, hrows⟩
    have hidentity : List.Forall₂ (fun row candidate =>
        (∃ identity, readProfileIdentity input.dataVersion row.entityId row = .ok identity) ∧
          ∃ code, SameIdentity input.dataVersion result.normalizedQuery code row candidate ∧
            row.sourceRecordId = stockRecordStart ++ code) rows result.candidates := by
      refine ((List.forall₂_and_left _ _).mpr ⟨hrecords, hmapped⟩).imp ?_
      rintro row candidate ⟨hcode, hmap⟩
      obtain ⟨code, hsame, ⟨recordCode, -, hrecord⟩, hprofile⟩ := mapLiveSecurityRow_identity hmap
      rw [hrecord, hsame.entityId, List.drop_left, List.drop_left] at hcode
      subst hcode
      exact ⟨hprofile hrecord, _, hsame, hrecord⟩
    refine ⟨hidentity.imp fun _ _ h => h.2, ?_, forall_of_forall₂ hidentity fun _ _ h => h.1⟩
    intro id
    rw [hselected]
    rcases rows with _ | ⟨row, _ | ⟨second, rest⟩⟩
    · simp [DenoteOne]
    · simp [DenoteOne]
    · have hnot := hrows.resolve_left (by simp) id
      simp [hnot]

def strayRow : LiveRow where
  dataVersion := ofString "v1"
  entityId := ofString "hkex_security_00700"
  matchReason := some (.string (ofString "code"))
  payload := some (.object [
    (ofString "code", .string (ofString "00700")),
    (ofString "symbol", .string (ofString "00700.HK")),
    (ofString "exchange", .string (ofString "HKEX")),
    (ofString "market", .string (ofString "HK")),
    (ofString "currency", .string (ofString "HKD")),
    (ofString "listingStatus", .string (ofString "listed")),
    (ofString "name", .object [
      (ofString "en", .string (ofString "T")),
      (ofString "zhHans", .string (ofString "T")),
      (ofString "zhHant", .string (ofString "T"))]),
    (ofString "aliases", .array [.object [
      (ofString "value", .string (ofString "700")),
      (ofString "reason", .string (ofString "code"))]])])
  sourceRecordId := ofString "netquity:basicdata.stock:00001"

/-- A candidate can cite the record of another security. -/
theorem strayRow_resolved :
    ¬ ∀ (input : ResolveInput) (rows : List LiveRow) (result : ResolveResult),
      resolveLiveSecurityRows id input rows = .ok result → SelfConsistent input rows result := by
  intro h
  let input : ResolveInput := ⟨ofString "t", ofString "v1", none, ofString "700"⟩
  have hok : (resolveLiveSecurityRows id input [strayRow]).isOk = true := by decide +kernel
  have hcode : strayRow.sourceRecordId.drop stockRecordStart.length ≠
      strayRow.entityId.drop securityIdStart.length := by decide +kernel
  cases hresult : resolveLiveSecurityRows id input [strayRow] with
  | error => simp [hresult, Except.isOk, Except.toBool] at hok
  | ok result =>
    have hself := h input [strayRow] result hresult
    exact hcode (hself.sameCode strayRow List.mem_cons_self)

end Selection

end Aiphabee.SecurityTools
