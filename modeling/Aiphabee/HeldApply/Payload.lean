import Aiphabee.HeldApply.Tables

/-!
# The payload of a held apply

What the worker checks of a payload before it touches the database.  The rows of
a payload that passes carry the run and the version of the payload, or its batch
and its version, and the marks of held rows; of the three rows in front of them
the check asks less.
-/

namespace Aiphabee.HeldApply

open JsText (ofString)
open SandboxAuth (JsonValue)
open Checks (errorWhen)
open JsonMembers (member memberOf orElse toText toNumber strictEquals isPlainRecord elements?)

def stringValue (text : String) : Option JsonValue :=
  some (.string (ofString text))

def booleanValue (value : Bool) : Option JsonValue :=
  some (.boolean value)

/-- `String(value.key ?? "")`. -/
def textMember (value : Option JsonValue) (key : String) : JsText :=
  toText (orElse (memberOf value key) (.string []))

/-- `Number(value.key ?? 0)`. -/
def numberMember (value : Option JsonValue) (key : String) : JsNumber :=
  toNumber (orElse (memberOf value key) (.number (.finite 0)))

/-- The text is the front and as many digits from `[a-f0-9]`. -/
def isPrefixedHash (front : String) (length : Nat) (text : JsText) : Bool :=
  let digits := text.drop (ofString front).length
  text.take (ofString front).length = ofString front && digits.length = length &&
    digits.all fun unit =>
      (97 ≤ unit.toNat && unit.toNat ≤ 102) || (48 ≤ unit.toNat && unit.toNat ≤ 57)

/-- `value?.length !== 1` is false. -/
def hasLengthOne : Option JsonValue → Bool
  | some (.array elements) => elements.length = 1
  | some (.string text) => text.length = 1
  | value => strictEquals (memberOf value "length") (some (.number (.finite 1)))

/-- `firstRecord(value)`. -/
def firstRecord (value : Option JsonValue) : Option JsonValue :=
  ((elements? value).bind List.head?).filter fun first => isPlainRecord (some first)

variable (value : JsonValue)

/-- `groups[group]`. -/
def groupOf (table : HeldTable) : Option JsonValue :=
  let rowGroups := member value "row_groups"
  if isPlainRecord rowGroups then memberOf rowGroups table.name else none

def rowGroup (table : HeldTable) : List JsonValue :=
  (elements? (groupOf value table)).getD []

def differs (row : JsonValue) (expected : List (String × Option JsonValue)) : Prop :=
  ∃ entry ∈ expected, strictEquals (member row entry.1) entry.2 = false

instance (row : JsonValue) (expected : List (String × Option JsonValue)) :
    Decidable (differs row expected) :=
  inferInstanceAs (Decidable (∃ _ ∈ _, _))

def isMissingReason (row : JsonValue) : Bool :=
  match member row "reason" with
  | some (.string text) => JsText.trim text = []
  | _ => true

def isMissingList (row : JsonValue) (key : String) : Bool :=
  match elements? (member row key) with
  | some (_ :: _) => false
  | _ => true

variable (payload row : JsonValue)

def rawSnapshotRowErrors : List String :=
  if isPlainRecord (some row) then
    errorWhen
        (differs row [("data_version", member payload "data_version"),
          ("source_batch_id", member payload "source_batch_id")])
        "raw_snapshot row must match payload data_version and source_batch_id" ++
      errorWhen
        (differs row [("record_kind", stringValue "hk_ipo_public_source_record"),
          ("quality_state", stringValue "HOLD")])
        "raw_snapshot row must stay HK IPO public HOLD" ++
      match member row "payload" with
      | some (.object fields) =>
        errorWhen
          (differs (.object fields) [("payload_body_included", booleanValue false),
            ("raw_html_included", booleanValue false),
            ("storage_target", stringValue "external_raw_snapshot_store")])
          "raw_snapshot payload envelope must not include raw payload text"
      | _ => ["raw_snapshot row must use a payload envelope object"]
  else
    ["raw_snapshot rows must be objects"]

def observationRowErrors : List String :=
  if isPlainRecord (some row) then
    errorWhen
        (differs row [("source_run_id", member payload "source_run_id"),
          ("data_version", member payload "data_version"),
          ("raw_snapshot_required", booleanValue true),
          ("reconciled_with_hkex", booleanValue false),
          ("quality_state", stringValue "HOLD")])
        "observation rows must stay held and unreconciled" ++
      errorWhen (isHkCode (textMember (some row) "security_code") = false)
        "observation row security_code must be HK code" ++
      errorWhen
        (textMember (some row) "source_id" ∉
          ["aastocks_ipo_plus", "vbkr_hk_ipo"].map ofString)
        "observation row source_id must be an approved candidate source"
  else
    ["observation rows must be objects"]

def reconciliationRowErrors : List String :=
  if isPlainRecord (some row) then
    errorWhen
        (differs row [("source_run_id", member payload "source_run_id"),
          ("data_version", member payload "data_version"),
          ("raw_snapshot_required", booleanValue true), ("promotes_fact", booleanValue false),
          ("quality_state", stringValue "HOLD")])
        "reconciliation rows must stay held and non-promoting" ++
      errorWhen
        (textMember (some row) "confidence" ∉ ["low", "medium", "high"].map ofString)
        "reconciliation row confidence must be low, medium, or high" ++
      errorWhen (isMissingReason row = true) "reconciliation row reason must be present" ++
      errorWhen (isMissingList row "source_ids" = true)
        "reconciliation row source_ids must be present" ++
      errorWhen (isMissingList row "source_observation_ids" = true)
        "reconciliation row source_observation_ids must be present" ++
      errorWhen (elements? (member row "raw_snapshot_request_ids") = none)
        "reconciliation row raw_snapshot_request_ids must be an array" ++
      errorWhen (elements? (member row "hkex_evidence_ids") = none)
        "reconciliation row hkex_evidence_ids must be an array"
  else
    ["reconciliation rows must be objects"]

def supplementRowErrors : List String :=
  if isPlainRecord (some row) then
    errorWhen
        (differs row [("source_run_id", member payload "source_run_id"),
          ("data_version", member payload "data_version"),
          ("raw_snapshot_required", booleanValue true), ("promotes_fact", booleanValue false),
          ("quality_state", stringValue "HOLD"), ("status", stringValue "candidate")])
        "supplement rows must stay held candidates" ++
      errorWhen (isMissingReason row = true) "supplement row reason must be present"
  else
    ["supplement rows must be objects"]

def validateHkIpoPublicRows (payload : JsonValue) : List String :=
  (rowGroup payload .rawSnapshot).flatMap (rawSnapshotRowErrors payload) ++
    (rowGroup payload .observation).flatMap (observationRowErrors payload) ++
    (rowGroup payload .reconciliationRow).flatMap (reconciliationRowErrors payload) ++
    (rowGroup payload .supplementCandidate).flatMap (supplementRowErrors payload)

def totalRows : Nat :=
  (HeldTable.all.map fun table => (rowGroup value table).length).sum

def groupErrors : List String :=
  HeldTable.all.flatMap (fun table =>
      errorWhen (rowGroup value table = [])
        ("row_groups." ++ table.name ++ " must be a non-empty array")) ++
    errorWhen (totalRows value ≤ 0 ∨ 5000 < totalRows value)
      "total row count must be between 1 and 5000" ++
    errorWhen (hasLengthOne (groupOf value .rawSourceBatch) = false)
      "raw_source_batch must contain exactly one row" ++
    errorWhen (hasLengthOne (groupOf value .dataVersionBatch) = false)
      "data_version_batch must contain exactly one row" ++
    errorWhen (hasLengthOne (groupOf value .sourceRun) = false)
      "hk_ipo_public_source_run must contain exactly one row"

def headerErrors : List String :=
  let dataVersionRow := firstRecord (groupOf value .dataVersionBatch)
  let sourceRunRow := firstRecord (groupOf value .sourceRun)
  errorWhen (strictEquals (memberOf dataVersionRow "release_state") (stringValue "held") = false)
      "data_version_batch.release_state must be held" ++
    errorWhen
      (strictEquals (memberOf dataVersionRow "data_version") (member value "data_version") = false)
      "data_version_batch must match payload data_version" ++
    errorWhen
      (strictEquals (memberOf sourceRunRow "source_run_id") (member value "source_run_id") = false)
      "source_run must match payload source_run_id" ++
    errorWhen
      (strictEquals (memberOf sourceRunRow "source_mode") (stringValue "live") = false ∨
        strictEquals (memberOf sourceRunRow "status") (stringValue "held") = false)
      "source_run must remain live held" ++
    errorWhen
      (strictEquals (memberOf sourceRunRow "live_network_writes") (booleanValue false) = false ∨
        strictEquals (memberOf sourceRunRow "writes_serving_tables") (booleanValue false) = false)
      "source_run must not claim network writes or serving table writes"

def objectStoreErrors : List String :=
  let summary := member value "object_store_write_summary"
  if isPlainRecord summary then
    errorWhen
        (JsNumber.le (numberMember summary "remote_object_store_write_count") (.finite 0) = true)
        "object_store_write_summary must include remote object writes" ++
      errorWhen (numberMember summary "payload_body_output_count" ≠ .finite 0)
        "object_store_write_summary must not output payload bodies" ++
      errorWhen (numberMember summary "writes_database_count" ≠ .finite 0)
        "object_store_write_summary must not write database"
  else
    ["object_store_write_summary must be an object"]

def idErrors : List String :=
  errorWhen (strictEquals (member value "version")
        (stringValue "2026-06-28.hk-ipo-public-held-db-apply-live.v0") = false)
      "version mismatch" ++
    errorWhen (strictEquals (member value "packet_kind")
        (stringValue "hk_ipo_public_held_db_apply_packet") = false)
      "packet_kind mismatch" ++
    errorWhen (strictEquals (member value "mode") (stringValue "live") = false)
      "mode must be live" ++
    errorWhen (isPrefixedHash "packet:" 64 (textMember (some value) "packet_hash") = false)
      "packet_hash must be packet-prefixed sha256 material" ++
    errorWhen
      (isPrefixedHash "rsb_hk_ipo_public_" 24 (textMember (some value) "source_batch_id") = false)
      "source_batch_id must be a HK IPO public batch id" ++
    errorWhen
      (isPrefixedHash "dv_hk_ipo_public_" 24 (textMember (some value) "data_version") = false)
      "data_version must be a HK IPO public held data version" ++
    errorWhen
      (isPrefixedHash "sr_hk_ipo_public_" 24 (textMember (some value) "source_run_id") = false)
      "source_run_id must be a HK IPO public source run id"

/-- `validateHkIpoPublicHeldDbApplyPayload`: the errors of a payload. -/
def validateApplyPayload (platform : HeldPlatform) (value : JsonValue) : List String :=
  if isPlainRecord (some value) then
    errorWhen (isPlainRecord (member value "row_groups") = false)
        "row_groups must be an object" ++
      idErrors value ++ groupErrors value ++ headerErrors value ++ objectStoreErrors value ++
      errorWhen (platform.includesRawHtml value = true)
        "payload must not include raw HTML or script text" ++
      errorWhen (platform.includesSecrets value = true)
        "payload must not include secrets or database URLs" ++
      if ∀ table ∈ HeldTable.all, (elements? (groupOf value table)).isSome then
        validateHkIpoPublicRows value
      else
        []
  else
    ["payload must be an object"]

end Aiphabee.HeldApply
