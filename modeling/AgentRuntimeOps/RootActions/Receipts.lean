import AgentRuntimeOps.RootActions.Contracts

/-!
# Receipts

`receipts.py` and the public part of `observation.py`: a receipt is a JSON object of one of four
kinds, validated field by field and sealed under its digest; a raw receipt is bytes under their
digest.

As with manifests, a receipt is the value its bytes spell; `ReceiptArtifact.canonicalReceipt` keeps
the value and `canonicalManifestBytes` writes the bytes.
-/

namespace AgentRuntimeOps.RootActions

open AgentRuntimeOps.Lib

/-- Source: `receipts.py`, `RECEIPT_SCHEMA`. -/
def receiptSchema : String := "agent-runtime-root-action-receipt/v1"

/-- Source: `receipts.py`, `MAX_RECEIPT_BYTES`. -/
def maxReceiptBytes : Nat := 512 * 1024

/-- Source: `receipts.py`, `MAX_RAW_RECEIPT_BYTES`. -/
def maxRawReceiptBytes : Nat := 8 * 1024 * 1024

/-! ## Public observation facts -/

/-- Source: `observation.py`, `EXECUTION_OBSERVATION_FACT_ORDER`. -/
def executionObservationFactOrder : List String :=
  ["dispatch_started", "dispatch_completed", "provider_request_count",
    "provider_reservation_count", "preserved_snapshot_path", "staging_path"]

/-- `_PUBLIC_PATH_RE.fullmatch`: a slash and at least one character of `A-Za-z0-9._-` or a slash. -/
def isPublicPath (s : String) : Bool :=
  match s.toList with
  | '/' :: rest =>
    !rest.isEmpty && rest.all fun c => c.isAlphanum || c == '.' || c == '_' || c == '/' || c == '-'
  | _ => false

/-- The path is its own `PurePosixPath` text, is not the root, and has no part `.` or `..`.  A path
may start with exactly two slashes. -/
def isCanonicalPath (s : String) : Bool :=
  match s.toList with
  | ['/', '/'] => true
  | '/' :: '/' :: rest => (rest.splitOn '/').all isPart
  | '/' :: rest => (rest.splitOn '/').all isPart
  | _ => false
where
  /-- A part of a canonical path. -/
  isPart (part : List Char) : Bool := !part.isEmpty && part != ['.'] && part != ['.', '.']

/-- Source: `observation.py`, `_canonical_public_path`. -/
def canonicalPublicPath (value field : String) : Except Exn Unit := do
  require (value ≠ "" ∧ (utf8 value.toList).length ≤ 1024 ∧ isPublicPath value)
    (Exn.observationValidationError (field ++ " is not a bounded public path"))
  require (isCanonicalPath value)
    (Exn.observationValidationError (field ++ " is not a canonical absolute path"))

/-- `_CANONICAL_COUNT_RE.fullmatch`: `0|[1-9][0-9]{0,6}`. -/
def isCanonicalCount (s : String) : Bool :=
  match s.toList with
  | ['0'] => true
  | c :: rest => c.isDigit && c != '0' && rest.all Char.isDigit && decide (rest.length ≤ 6)
  | [] => false

/-- The value of a fact. -/
def factValue (facts : List (String × String)) (name : String) : String :=
  (facts.lookup name).getD ""

/-- Source: `observation.py`, `validate_public_observation_facts`. -/
def validatePublicObservationFacts (facts : List (String × String)) : Except Exn Unit := do
  let names := facts.map Prod.fst
  require (∀ name ∈ names, name ≠ "terminal_outcome" ∧ name ≠ "terminal_status")
    (Exn.observationValidationError "terminal status must come from the receipt envelope")
  let observed := names.filter (· ∈ executionObservationFactOrder)
  if observed = [] then .ok () else
  require (observed = executionObservationFactOrder)
    (Exn.observationValidationError "execution observation facts must be complete and ordered")
  requireEach (fun name =>
    require (factValue facts name ∈ ["true", "false", "unavailable"])
      (Exn.observationValidationError (name ++ " is not a public boolean observation")))
    ["dispatch_started", "dispatch_completed"]
  require (factValue facts "dispatch_completed" = "true" →
      factValue facts "dispatch_started" = "true")
    (Exn.observationValidationError "dispatch_completed=true requires dispatch_started=true")
  requireEach (fun name =>
    require (factValue facts name = "unavailable" ∨ (isCanonicalCount (factValue facts name) ∧
        ((factValue facts name).toNat?.getD 0) ≤ 1000000))
      (Exn.observationValidationError (name ++ " is not a bounded canonical public count")))
    ["provider_request_count", "provider_reservation_count"]
  requireEach (fun name =>
    if factValue facts name = "unavailable" then .ok ()
    else canonicalPublicPath (factValue facts name) name)
    ["preserved_snapshot_path", "staging_path"]

/-! ## Validation by kind -/

section validation

variable [UnicodeData]

/-- Source: `receipts.py`, `_exact`. -/
def exact (value : Json) (keys : List String) (field : String) : Except Exn Unit :=
  require (value.isObject ∧ value.keys = keys) (Exn.receiptValidationError
    (field ++ " field set mismatch missing=" ++ nameList (keys.filter (· ∉ value.keys)) ++
      " extra=" ++ nameList (value.keys.filter (· ∉ keys))))

/-- Source: `receipts.py`, `_safe_text`. -/
abbrev receiptText (value : Json) (field : String) (maximum : Nat) : Except Exn String :=
  safeTextWith Exn.receiptValidationError value field maximum

/-- Source: `receipts.py`, `_safe_id`. -/
abbrev receiptId := safeIdWith Exn.receiptValidationError

/-- Source: `receipts.py`, `_timestamp`. -/
abbrev receiptTimestamp := timestampWith Exn.receiptValidationError

/-- Source: `receipts.py`, `_digest`. -/
def receiptDigestField (value : Json) (field : String) : Except Exn Unit :=
  require (value.text?.any isDigest)
    (Exn.receiptValidationError (field ++ " must be a sha256 digest"))

/-- Source: `receipts.py`, `_validate_common`. -/
def validateCommon (value : Json) (rawReceipt : Bool) : Except Exn Unit := do
  require (value.field "schema" = .str receiptSchema)
    (Exn.receiptValidationError "receipt.schema is not supported")
  discard (receiptId (value.field "job_id") "job_id")
  receiptDigestField (value.field "job_digest") "job_digest"
  discard (receiptId (value.field "operation_id") "operation_id")
  discard (receiptId (value.field "request_id") "request_id")
  discard (receiptId (value.field "reply_target") "reply_target")
  if rawReceipt then receiptDigestField (value.field "raw_receipt_digest") "raw_receipt_digest"

/-- `terminal_outcome` is one of the given values. -/
def outcomeIn (value : Json) (outcomes : List String) (message : String) : Except Exn Unit := do
  requireHashable (value.field "terminal_outcome")
  require ((value.field "terminal_outcome").text?.any (· ∈ outcomes))
    (Exn.receiptValidationError message)

/-- One fact of a public receipt. -/
def validateFact (fact : Json) (index : Nat) : Except Exn (String × String) := do
  let field := "result.facts[" ++ toString index ++ "]"
  exact fact ["name", "value"] field
  let name ← receiptId (fact.field "name") (field ++ ".name")
  let value ← receiptText (fact.field "value") (field ++ ".value") 4096
  return (name, value)

/-- The facts of a public receipt, in order. -/
def validateFacts : List (Json × Nat) → Except Exn (List (String × String))
  | [] => .ok []
  | (fact, index) :: rest => do
    let pair ← validateFact fact index
    let pairs ← validateFacts rest
    return pair :: pairs

/-- The result section of a public receipt. -/
def validateResult (result : Json) : Except Exn Unit := do
  exact result ["facts", "status"] "result"
  discard (receiptId (result.field "status") "result.status")
  match result.field "facts" with
  | .arr facts => do
    require (facts.length ≤ 128)
      (Exn.receiptValidationError "result.facts must be a list with at most 128 items")
    let pairs ← validateFacts facts.zipIdx
    require ((pairs.map Prod.fst).Nodup)
      (Exn.receiptValidationError "result.facts names must be unique")
    convert (validatePublicObservationFacts pairs) (fun _ => true)
      (Exn.receiptValidationError "result.facts violates the execution observation contract")
  | _ => .error (Exn.receiptValidationError "result.facts must be a list with at most 128 items")

/-- Source: `receipts.py`, `_validate_public`. -/
def validatePublic (value : Json) : Except Exn Unit := do
  exact value ["ended_at", "exit_code", "job_digest", "job_id", "kind", "operation_id",
    "raw_receipt_digest", "removed_lines", "reply_target", "request_id", "result", "schema",
    "started_at", "terminal_outcome"] "public receipt"
  validateCommon value true
  outcomeIn value ["succeeded", "failed"] "public receipt has an invalid terminal_outcome"
  let startedAt ← receiptTimestamp (value.field "started_at") "started_at"
  let endedAt ← receiptTimestamp (value.field "ended_at") "ended_at"
  require (¬ endedAt < startedAt)
    (Exn.receiptValidationError "ended_at cannot precede started_at")
  match value.field "exit_code" with
  | .int _ => .ok ()
  | _ => .error (Exn.receiptValidationError "exit_code must be an integer")
  -- `False != 0` and `0.0 != 0` are false, so these pass as well.
  require (value.field "removed_lines" = .int 0 ∨ value.field "removed_lines" = .bool false ∨
      value.field "removed_lines" = .float "0.0" ∨ value.field "removed_lines" = .float "-0.0")
    (Exn.receiptValidationError "public receipt cannot contain removed lines")
  validateResult (value.field "result")

/-- Source: `receipts.py`, `_validate_quarantine`. -/
def validateQuarantine (value : Json) : Except Exn Unit := do
  exact value ["job_digest", "job_id", "kind", "operation_id", "quarantine_id",
    "raw_receipt_digest", "reason_code", "reply_target", "request_id", "schema",
    "terminal_outcome"] "quarantine receipt"
  validateCommon value true
  outcomeIn value ["succeeded", "failed"] "quarantine receipt has an invalid terminal_outcome"
  discard (receiptId (value.field "quarantine_id") "quarantine_id")
  discard (receiptId (value.field "reason_code") "reason_code")

/-- Source: `receipts.py`, `_validate_unknown`. -/
def validateUnknown (value : Json) : Except Exn Unit := do
  exact value ["job_digest", "job_id", "kind", "last_known_at", "operation_id",
    "raw_receipt_digest", "reason_code", "reply_target", "request_id", "schema",
    "terminal_outcome"] "unknown receipt"
  validateCommon value true
  require (value.field "terminal_outcome" = .null)
    (Exn.receiptValidationError "unknown receipt cannot claim a terminal outcome")
  discard (receiptTimestamp (value.field "last_known_at") "last_known_at")
  discard (receiptId (value.field "reason_code") "reason_code")

/-- Source: `receipts.py`, `_validate_terminal_notice`. -/
def validateTerminalNotice (value : Json) : Except Exn Unit := do
  exact value ["job_digest", "job_id", "kind", "operation_id", "reason_code", "reply_target",
    "request_id", "schema", "terminal_outcome"] "terminal notice"
  validateCommon value false
  outcomeIn value ["rejected", "expired", "canceled", "prestart_failed"]
    "terminal notice has an invalid terminal_outcome"
  discard (receiptId (value.field "reason_code") "reason_code")

end validation

/-! ## Sealing -/

/-- Source: `receipts.py`, `ReceiptArtifact`. -/
structure ReceiptArtifact where
  kind : String
  jobId : String
  jobDigest : String
  operationId : String
  requestId : String
  replyTarget : String
  receiptDigest : String
  canonicalReceipt : Json
  deriving DecidableEq

/-- The digest of a receipt. -/
def receiptDigestOf (receipt : Json) : String :=
  sha256Digest (tagged "agent-runtime-root-action-receipt/v1" (canonicalManifestBytes receipt))

/-- The validation that the kind of a receipt calls for. -/
def validateReceipt [UnicodeData] (value : Json) : Except Exn Unit :=
  match value.textAt? "kind" with
  | some "public" => validatePublic value
  | some "quarantined" => validateQuarantine value
  | some "unknown" => validateUnknown value
  | some "terminal_notice" => validateTerminalNotice value
  | _ => .error (Exn.receiptValidationError "receipt.kind is not supported")

/-- The artifact of a validated receipt. -/
def receiptArtifact (value : Json) : ReceiptArtifact :=
  ⟨value.textField "kind", value.textField "job_id", value.textField "job_digest",
    value.textField "operation_id", value.textField "request_id", value.textField "reply_target",
    receiptDigestOf value, value⟩

/-- Source: `receipts.py`, `seal_receipt`. -/
def sealReceipt [UnicodeData] (raw : Document) : Except Exn ReceiptArtifact := do
  require (0 < raw.byteLength ∧ raw.byteLength ≤ maxReceiptBytes)
    (Exn.receiptValidationError "receipt byte length is outside the allowed range")
  require (raw.value.isObject)
    (Exn.receiptValidationError "receipt must be an object")
  validateReceipt raw.value
  return receiptArtifact raw.value

lemma sealReceipt_ok [UnicodeData] {raw : Document} {artifact : ReceiptArtifact} :
    sealReceipt raw = .ok artifact ↔
      (0 < raw.byteLength ∧ raw.byteLength ≤ maxReceiptBytes) ∧ raw.value.isObject = true ∧
        validateReceipt raw.value = .ok () ∧ artifact = receiptArtifact raw.value := by
  unfold sealReceipt
  simp only [except_bind_ok, require_ok, exists_const, except_pure_ok]
  constructor
  · rintro ⟨hsize, hobject, _, hvalid, rfl⟩
    exact ⟨hsize, hobject, hvalid, rfl⟩
  · rintro ⟨hsize, hobject, hvalid, rfl⟩
    exact ⟨hsize, hobject, (), hvalid, rfl⟩

/-- A sealed receipt keeps the value it was read from. -/
lemma canonicalReceipt_of_seal [UnicodeData] {raw : Document} {artifact : ReceiptArtifact}
    (h : sealReceipt raw = .ok artifact) : artifact.canonicalReceipt = raw.value := by
  obtain ⟨-, -, -, rfl⟩ := sealReceipt_ok.mp h
  rfl

/-! ## Raw receipts -/

/-- Source: `receipts.py`, `RawReceiptReference`. -/
structure RawReceiptReference where
  jobId : String
  jobDigest : String
  rawReceiptDigest : String
  rootStorageId : String
  deriving DecidableEq

/-- Source: `receipts.py`, `RawReceiptReference.__post_init__`. -/
def RawReceiptReference.postInit [UnicodeData] (r : RawReceiptReference) : Except Exn Unit := do
  discard (receiptId (.str r.jobId) "raw_reference.job_id")
  receiptDigestField (.str r.jobDigest) "raw_reference.job_digest"
  receiptDigestField (.str r.rawReceiptDigest) "raw_reference.raw_receipt_digest"
  discard (receiptId (.str r.rootStorageId) "raw_reference.root_storage_id")

/-- Source: `receipts.py`, `RawReceiptArtifact`. -/
structure RawReceiptArtifact where
  reference : RawReceiptReference
  rawBytes : List UInt8
  deriving DecidableEq

/-- Source: `receipts.py`, `RawReceiptArtifact.__post_init__`, after that of its reference. -/
def RawReceiptArtifact.postInit [UnicodeData] (raw : RawReceiptArtifact) : Except Exn Unit := do
  raw.reference.postInit
  require (raw.rawBytes ≠ [] ∧ raw.rawBytes.length ≤ maxRawReceiptBytes)
    (Exn.receiptValidationError "raw receipt byte length is outside the allowed range")
  require (raw.reference.rawReceiptDigest = sha256Digest raw.rawBytes)
    (Exn.receiptValidationError "raw receipt digest mismatch")

/-- Source: `receipts.py`, `seal_raw_receipt`. -/
def sealRawReceipt [UnicodeData] (jobId jobDigest rootStorageId : String)
    (rawBytes : List UInt8) : Except Exn RawReceiptArtifact := do
  require (rawBytes ≠ [] ∧ rawBytes.length ≤ maxRawReceiptBytes)
    (Exn.receiptValidationError "raw receipt byte length is outside the allowed range")
  let raw : RawReceiptArtifact :=
    ⟨⟨jobId, jobDigest, sha256Digest rawBytes, rootStorageId⟩, rawBytes⟩
  raw.postInit
  return raw

/-- Source: `receipts.py`, `QuarantineRecord`. -/
structure QuarantineRecord where
  rawReference : RawReceiptReference
  notice : ReceiptArtifact

/-- Source: `receipts.py`, `QuarantineRecord.__post_init__`. -/
def QuarantineRecord.postInit (record : QuarantineRecord) : Except Exn Unit := do
  require (record.notice.kind = "quarantined")
    (Exn.receiptValidationError "quarantine record requires a quarantine notice")
  require (record.rawReference.jobId = record.notice.jobId ∧
      record.rawReference.jobDigest = record.notice.jobDigest ∧
      .str record.rawReference.rawReceiptDigest =
        record.notice.canonicalReceipt.field "raw_receipt_digest")
    (Exn.receiptValidationError "quarantine raw/public identity mismatch")

end AgentRuntimeOps.RootActions
