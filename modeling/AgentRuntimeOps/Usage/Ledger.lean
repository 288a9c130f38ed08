import Mathlib.Data.String.Basic
import AgentRuntimeOps.Lib.Checks
import AgentRuntimeOps.Lib.JsonRoundTrip
import AgentRuntimeOps.Lib.Sha256

/-!
# The usage contract

`domain/usage_ledger.py`: what the ops side accepts from a product.  A product exports pages of
call receipts and the coverage manifests they refer to; `validate_export` and `validate_coverage`
check the values that `json.loads` has read.
-/

namespace AgentRuntimeOps.Usage

open AgentRuntimeOps.Lib

/-- What the functions raise. -/
inductive Raised where
  /-- `UsageContractError` -/
  | contract (message : String)
  /-- `UsageCollectionBusy` -/
  | busy (message : String)
  /-- `UsageLedgerConflict` -/
  | conflict (message : String)
  /-- Any other exception, by its class and its message. -/
  | other (name message : String)
  deriving DecidableEq, Repr

namespace Raised

/-- `type(exc).__name__`. -/
def className : Raised → String
  | contract _ => "UsageContractError"
  | busy _ => "UsageCollectionBusy"
  | conflict _ => "UsageLedgerConflict"
  | other name _ => name

/-- `str(exc)`. -/
def message : Raised → String
  | contract message => message
  | busy message => message
  | conflict message => message
  | other _ message => message

/-- `isinstance(exc, UsageLedgerConflict)`. -/
def isConflict : Raised → Bool
  | conflict _ => true
  | _ => false

end Raised

/-- Raise a `UsageContractError` unless the condition holds. -/
def check (condition : Prop) [Decidable condition] (message : String) : Except Raised Unit :=
  require condition (.contract message)

@[simp] lemma check_ok {condition : Prop} [Decidable condition] {message : String} {u : Unit} :
    check condition message = .ok u ↔ condition := require_ok

/-! ## The standard library -/

/-- What `datetime.fromisoformat(text)` and `astimezone(timezone.utc)` make of a text. -/
inductive ParsedTime where
  /-- `fromisoformat` raises `ValueError`. -/
  | invalid
  /-- There is no time zone. -/
  | naive
  /-- The time in UTC is not a `datetime`: `astimezone` raises `OverflowError`. -/
  | overflow
  /-- The time in UTC, in microseconds since 1970. -/
  | utc (micros : Int)
  deriving DecidableEq, Repr

/-- The parts of the standard library that the contract reads texts with. -/
class PythonText where
  /-- `c.isspace()` -/
  isSpace : Char → Bool
  /-- `datetime.fromisoformat(text)`, in UTC. -/
  fromisoformat : String → ParsedTime
  /-- The text of a float is that of `nan`, `inf` or `-inf`. -/
  isNonFinite : String → Bool

section contract

variable [PythonText]

/-- `str` of a list of names. -/
def nameList (names : List String) : String :=
  "[" ++ String.intercalate ", " (names.map fun name => "'" ++ name ++ "'") ++ "]"

mutual
/-- Whether `allow_nan=False` accepts the value. -/
def isFinite : Json → Bool
  | .float text => !PythonText.isNonFinite text
  | .arr items => areFinite items
  | .obj fields => areFiniteFields fields
  | _ => true

/-- Whether `allow_nan=False` accepts the items. -/
def areFinite : List Json → Bool
  | [] => true
  | item :: items => isFinite item && areFinite items

/-- Whether `allow_nan=False` accepts the fields. -/
def areFiniteFields : List (String × Json) → Bool
  | [] => true
  | (_, item) :: fields => isFinite item && areFiniteFields fields
end

omit [PythonText] in
mutual
/-- Whether every integer of the value has few enough digits to be written. -/
def isWritable : Json → Bool
  | .int i => decide ((Nat.toDigits 10 i.natAbs).length ≤ maxIntDigits)
  | .arr items => areWritable items
  | .obj fields => areWritableFields fields
  | _ => true

/-- Whether the integers of the items can be written. -/
def areWritable : List Json → Bool
  | [] => true
  | item :: items => isWritable item && areWritable items

/-- Whether the integers of the fields can be written. -/
def areWritableFields : List (String × Json) → Bool
  | [] => true
  | (_, item) :: fields => isWritable item && areWritableFields fields
end

/-- `canonical_json_bytes`. -/
def canonicalJsonBytes (value : Json) : Except Raised (List UInt8) := do
  check (isFinite value)
    "value is not canonical JSON: Out of range float values are not JSON compliant"
  check (isWritable value)
    "value is not canonical JSON: Exceeds the limit (4300 digits) for integer string conversion"
  return utf8 value.dumps

/-- `sha256_digest`. -/
def sha256Digest (value : Json) : Except Raised String := do
  let bytes ← canonicalJsonBytes value
  return "sha256:" ++ String.ofList (hexdigest bytes)

/-- The object without these fields. -/
def without (names : List String) : Json → Json
  | .obj fields => .obj (fields.filter fun field => field.1 ∉ names)
  | value => value

/-- `receipt_digest`. -/
def receiptDigest (receipt : Json) : Except Raised String :=
  sha256Digest (without ["ledgerSeq", "receiptDigest"] receipt)

/-! ## Fields -/

omit [PythonText] in
/-- `_exact_keys`; the expected names are listed in sorted order. -/
def exactKeys (value : Json) (expected : List String) (path : String) : Except Raised Unit := do
  check value.isObject (path ++ " must be an object")
  check (value.keys = expected)
    (path ++ " keys mismatch: missing=" ++ nameList (expected.filter (· ∉ value.keys)) ++
      " extra=" ++ nameList (value.keys.filter (· ∉ expected)))

/-- `_integer`. -/
def integer (value : Json) (path : String) (minimum : Int) : Except Raised Int :=
  match value with
  | .int i => do
      check (minimum ≤ i) (path ++ " must be an integer >= " ++ toString minimum)
      return i
  | _ => throw (.contract (path ++ " must be an integer >= " ++ toString minimum))

/-- `_nullable_string`. -/
def nullableString (value : Json) (path : String) (maxLength : Nat) :
    Except Raised (Option String) :=
  match value with
  | .null => return none
  | .str s => do
      check (!s.toList.all PythonText.isSpace) (path ++ " must be null or a non-empty string")
      check (s.length ≤ maxLength)
        (path ++ " exceeds " ++ toString maxLength ++ " characters")
      return some s
  | _ => throw (.contract (path ++ " must be null or a non-empty string"))

/-- `_required_string`. -/
def requiredString (value : Json) (path : String) (maxLength : Nat) : Except Raised String := do
  let text ← nullableString value path maxLength
  orRaise text (.contract (path ++ " must be a non-empty string"))

/-- `text.replace("Z", "+00:00")`. -/
def replaceZulu (text : String) : String :=
  String.ofList (text.toList.flatMap fun c => if c = 'Z' then "+00:00".toList else [c])

/-- `_timestamp`. -/
def timestamp (value : Json) (path : String) : Except Raised Int := do
  let text ← requiredString value path 512
  match PythonText.fromisoformat (replaceZulu text) with
  | .invalid => throw (.contract (path ++ " must be RFC3339"))
  | .naive => throw (.contract (path ++ " must include a timezone"))
  | .overflow => throw (.other "OverflowError" "date value out of range")
  | .utc micros => return micros

/-- `_string_list`. -/
def stringList (value : Json) (path : String) : Except Raised (List String) :=
  match value with
  | .arr items => do
      let texts ← items.zipIdx.mapM fun item =>
        requiredString item.1 (path ++ "[" ++ toString item.2 ++ "]") 512
      check texts.Nodup (path ++ " must not contain duplicates")
      return texts
  | _ => throw (.contract (path ++ " must be an array"))

/-- `value not in allowed`, which raises `TypeError` for an array or an object. -/
def memberOf (value : Json) (allowed : List String) (path : String) : Except Raised Unit :=
  match value with
  | .arr _ => throw (.other "TypeError" "unhashable type: 'list'")
  | .obj _ => throw (.other "TypeError" "unhashable type: 'dict'")
  | value => check (value.text?.any (· ∈ allowed)) (path ++ " must be one of " ++ nameList allowed)

/-- `_coverage_from_missing`. -/
def coverageFromMissing (missing : List String) (expectedCount : Nat) : String :=
  if missing = [] then "complete"
  else if missing.length = expectedCount then "unavailable" else "partial"

/-- `HEX_DIGEST_RE`. -/
def isDigest (text : String) : Bool :=
  text.toList.take 7 == "sha256:".toList && (text.toList.drop 7).all isHexDigit &&
    text.toList.length == 71

/-! ## Accounting values -/

/-- `RAW_USAGE_COUNT_KEYS` -/
def rawUsageCountKeys : List String :=
  ["promptTokenCount", "cachedContentTokenCount", "candidatesTokenCount", "thoughtsTokenCount",
    "toolUsePromptTokenCount", "totalTokenCount", "prompt_tokens", "completion_tokens",
    "total_tokens", "input_tokens", "output_tokens", "cache_read_tokens", "cache_write_tokens",
    "reasoning_tokens", "cache_creation_input_tokens", "cache_read_input_tokens", "inputTokens",
    "outputTokens", "totalTokens", "cacheReadInputTokens", "cacheWriteInputTokens"]

/-- `RAW_USAGE_ENUM_KEYS` -/
def rawUsageEnumKeys : List String := ["serviceTier", "trafficType", "service_tier"]

/-- `RAW_USAGE_DETAIL_KEYS` -/
def rawUsageDetailKeys : List String :=
  ["promptTokensDetails", "cacheTokensDetails", "candidatesTokensDetails",
    "toolUsePromptTokensDetails", "prompt_tokens_details", "completion_tokens_details",
    "input_tokens_details", "output_tokens_details"]

/-- `RAW_USAGE_DETAIL_COUNT_KEYS` -/
def rawUsageDetailCountKeys : List String :=
  ["tokenCount", "cached_tokens", "cache_creation_tokens", "cache_write_tokens", "audio_tokens",
    "reasoning_tokens", "accepted_prediction_tokens", "rejected_prediction_tokens"]

/-- `RAW_USAGE_KEYS` -/
def rawUsageKeys : List String := rawUsageCountKeys ++ rawUsageEnumKeys ++ rawUsageDetailKeys

/-- A field that is there and not null. -/
def present (value : Json) (name : String) : Option Json :=
  match value.get? name with
  | some .null => none
  | found => found

/-- One item of a detail. -/
def validateDetailItem (item : Json) (path : String) : Except Raised Unit := do
  check item.isObject (path ++ " must be an object")
  let unknown := item.keys.filter (· ∉ rawUsageDetailCountKeys ++ ["modality"])
  check (unknown = []) (path ++ " has non-accounting fields: " ++ nameList unknown)
  match item.get? "modality" with
  | some modality => discard (requiredString modality (path ++ ".modality") 64)
  | none => return ()
  requireEach
    (fun name => match item.get? name with
      | some count => discard (integer count (path ++ "." ++ name) 0)
      | none => return ())
    rawUsageDetailCountKeys

/-- A detail of the raw usage: an object, or an array of objects. -/
def validateDetail (details : Json) (path : String) : Except Raised Unit :=
  match details with
  | .arr items => requireEach
      (fun item => validateDetailItem item.1 (path ++ "[" ++ toString item.2 ++ "]")) items.zipIdx
  | .obj fields => validateDetailItem (.obj fields) (path ++ "[0]")
  | _ => throw (.contract (path ++ " must be an object or array"))

/-- `_validate_accounting_json`. -/
def validateAccountingJson (value : Json) : Except Raised Unit := do
  let path := "usage.rawProviderUsage"
  let encoded ← canonicalJsonBytes value
  check (encoded.length ≤ 64 * 1024) (path ++ " exceeds 65536 bytes")
  check value.isObject (path ++ " must be an accounting object")
  let unknown := value.keys.filter (· ∉ rawUsageKeys)
  check (unknown = []) (path ++ " has non-accounting fields: " ++ nameList unknown)
  requireEach
    (fun name => match present value name with
      | some count => discard (integer count (path ++ "." ++ name) 0)
      | none => return ())
    rawUsageCountKeys
  requireEach
    (fun name => match present value name with
      | some text => discard (requiredString text (path ++ "." ++ name) 64)
      | none => return ())
    rawUsageEnumKeys
  requireEach
    (fun name => match present value name with
      | some details => validateDetail details (path ++ "." ++ name)
      | none => return ())
    rawUsageDetailKeys

/-! ## Receipts -/

/-- `CALL_KEYS` -/
def callKeys : List String :=
  ["actual", "attempt", "callId", "completedAt", "configured", "errorCategory", "fallbackIndex",
    "fallbackParent", "finishReason", "ledgerSeq", "missingReceiptFields", "missingUsageFields",
    "producerCoverageDigest", "receiptCoverage", "receiptDigest", "requestId", "requested",
    "retryOf", "runId", "schema", "sessionId", "startedAt", "status", "trigger", "turnId", "usage",
    "usageCoverage"]

/-- `USAGE_FIELD_ORDER` -/
def usageFieldOrder : List String :=
  ["inputTotal", "inputNonCached", "cacheRead", "cacheWrite", "outputCandidates",
    "reasoningThinking", "toolUsePrompt", "providerReportedTotal", "serviceTier",
    "rawProviderUsage"]

/-- `COUNT_KEYS` -/
def countKeys : List String := usageFieldOrder.filter (· ∉ ["serviceTier", "rawProviderUsage"])

/-- `RECEIPT_IDENTITY_FIELDS` -/
def receiptIdentityFields : List String := ["runId", "turnId", "requestId", "sessionId"]

/-- `SUCCEEDED_EVIDENCE_FIELDS`, with the values they name. -/
def succeededEvidence (receipt : Json) : List (String × Json) :=
  [("actual.provider", (receipt.field "actual").field "provider"),
    ("actual.model", (receipt.field "actual").field "model"),
    ("actual.responseId", (receipt.field "actual").field "responseId"),
    ("actual.evidenceSource", (receipt.field "actual").field "evidenceSource"),
    ("finishReason", receipt.field "finishReason")]

/-- The configured or the requested model. -/
def validateModel (receipt : Json) (key : String) : Except Raised Unit := do
  exactKeys (receipt.field key) ["model", "provider"] ("receipt." ++ key)
  discard (requiredString ((receipt.field key).field "provider")
    ("receipt." ++ key ++ ".provider") 64)
  discard (requiredString ((receipt.field key).field "model") ("receipt." ++ key ++ ".model") 191)

/-- The usage section of a receipt. -/
def validateUsage (usage : Json) : Except Raised Unit := do
  exactKeys usage
    ["cacheRead", "cacheWrite", "inputNonCached", "inputTotal", "outputCandidates",
      "providerReportedTotal", "rawProviderUsage", "reasoningThinking", "serviceTier",
      "toolUsePrompt"] "receipt.usage"
  requireEach
    (fun key => match present usage key with
      | some count => discard (integer count ("receipt.usage." ++ key) 0)
      | none => return ())
    countKeys
  discard (nullableString (usage.field "serviceTier") "receipt.usage.serviceTier" 64)
  match present usage "rawProviderUsage" with
  | some raw => validateAccountingJson raw
  | none => return ()

/-- The fields that the receipt must list as missing, and how many there could be. -/
def expectedMissingReceipt (receipt : Json) (missingUsage : List String) : List String × Nat :=
  let identity := receiptIdentityFields.filter (receipt.field · = .null)
  let trigger := if receipt.field "trigger" = .str "unknown" then ["trigger"] else []
  let usage := missingUsage.map ("usage." ++ ·)
  let count := receiptIdentityFields.length + 1 + usageFieldOrder.length
  if receipt.field "status" = .str "succeeded" then
    let evidence := succeededEvidence receipt
    (identity ++ trigger ++ (evidence.filter (·.2 = .null)).map Prod.fst ++ usage,
      count + evidence.length)
  else
    let error := if receipt.field "errorCategory" = .null then ["errorCategory"] else []
    (identity ++ trigger ++ error ++ usage, count + 1)

/-- What the receipt says of missing fields. -/
def validateMissing (receipt : Json) : Except Raised Unit := do
  let usage := receipt.field "usage"
  let missingUsage ← stringList (receipt.field "missingUsageFields") "receipt.missingUsageFields"
  let missingReceipt ←
    stringList (receipt.field "missingReceiptFields") "receipt.missingReceiptFields"
  let expectedUsage := usageFieldOrder.filter (usage.field · = .null)
  check (missingUsage = expectedUsage)
    ("receipt.missingUsageFields must exactly name null usage fields: expected=" ++
      nameList expectedUsage ++ " actual=" ++ nameList missingUsage)
  let usageCoverage := coverageFromMissing missingUsage usageFieldOrder.length
  check (receipt.field "usageCoverage" = .str usageCoverage)
    ("receipt.usageCoverage must be " ++ usageCoverage ++ " for missingUsageFields")
  let (expectedReceipt, count) := expectedMissingReceipt receipt expectedUsage
  check (missingReceipt = expectedReceipt)
    ("receipt.missingReceiptFields is inconsistent with applicable null evidence: expected=" ++
      nameList expectedReceipt ++ " actual=" ++ nameList missingReceipt)
  let receiptCoverage := coverageFromMissing expectedReceipt count
  check (receipt.field "receiptCoverage" = .str receiptCoverage)
    ("receipt.receiptCoverage must be " ++ receiptCoverage ++ " for missingReceiptFields")

/-- The digests of a receipt. -/
def validateDigests (receipt : Json) : Except Raised Unit := do
  let digest ← requiredString (receipt.field "receiptDigest") "receipt.receiptDigest" 512
  check (isDigest digest) "receipt.receiptDigest must be sha256:<64 lower-case hex>"
  let expected ← receiptDigest receipt
  check (digest = expected) "receipt.receiptDigest does not match canonical receipt bytes"
  let coverage ←
    requiredString (receipt.field "producerCoverageDigest") "receipt.producerCoverageDigest" 512
  check (isDigest coverage) "receipt.producerCoverageDigest must be sha256:<64 lower-case hex>"

/-- `validate_call_receipt`; it returns the receipt itself. -/
def validateCallReceipt (receipt : Json) : Except Raised Unit := do
  exactKeys receipt callKeys "receipt"
  check (receipt.field "schema" = .str "jitech-provider-usage-call/v1")
    "receipt.schema must be jitech-provider-usage-call/v1"
  discard (integer (receipt.field "ledgerSeq") "receipt.ledgerSeq" 1)
  validateDigests receipt
  discard (requiredString (receipt.field "callId") "receipt.callId" 128)
  requireEach
    (fun key => discard (nullableString (receipt.field key) ("receipt." ++ key) 128))
    ["runId", "turnId", "requestId", "sessionId", "retryOf", "fallbackParent", "finishReason",
      "errorCategory"]
  memberOf (receipt.field "trigger")
    ["cron", "heartbeat", "manual", "memory", "overflow", "unknown", "user"] "receipt.trigger"
  discard (integer (receipt.field "attempt") "receipt.attempt" 1)
  let fallbackIndex ← integer (receipt.field "fallbackIndex") "receipt.fallbackIndex" 0
  check (receipt.field "fallbackParent" = .null → fallbackIndex = 0)
    "receipt.fallbackIndex must be 0 when fallbackParent is null"
  check (receipt.field "fallbackParent" ≠ .null → fallbackIndex ≠ 0)
    "receipt.fallbackIndex must be positive when fallbackParent is set"
  let started ← timestamp (receipt.field "startedAt") "receipt.startedAt"
  let completed ← timestamp (receipt.field "completedAt") "receipt.completedAt"
  check (started ≤ completed) "receipt.completedAt precedes startedAt"
  memberOf (receipt.field "status") ["cancelled", "failed", "interrupted", "succeeded"]
    "receipt.status"
  requireEach (validateModel receipt) ["configured", "requested"]
  exactKeys (receipt.field "actual") ["evidenceSource", "model", "provider", "responseId"]
    "receipt.actual"
  requireEach
    (fun key => discard (nullableString ((receipt.field "actual").field key)
      ("receipt.actual." ++ key) 191))
    ["provider", "model", "responseId", "evidenceSource"]
  validateUsage (receipt.field "usage")
  validateMissing receipt

/-- A number of a value that has been checked. -/
def intField (value : Json) (name : String) : Int :=
  match value.field name with
  | .int i => i
  | _ => 0

/-- `receipt["ledgerSeq"]` -/
def ledgerSeq (receipt : Json) : Int := intField receipt "ledgerSeq"

/-- `receipt["callId"]` -/
def callId (receipt : Json) : String := receipt.textField "callId"

/-- `receipt["receiptDigest"]` -/
def digestOf (receipt : Json) : String := receipt.textField "receiptDigest"

/-- `str(receipt["producerCoverageDigest"])` -/
def coverageDigestOf (receipt : Json) : String := receipt.textField "producerCoverageDigest"

/-! ## Coverage manifests -/

/-- `ValidatedCoverage` -/
structure ValidatedCoverage where
  family : String
  manifestDigest : String
  status : String
  surfaces : List Json

/-- `PRODUCT_FAMILIES` -/
def productFamilies : List String := ["hermes", "openclaw"]

/-- The fields of a surface that have fixed values. -/
def surfaceEnums : List (String × List String) :=
  [("observationKind", ["per_call", "request_only", "turn_aggregate"]),
    ("meterFamily", ["audio", "characters", "image", "other", "search", "tokens"]),
    ("modelEvidence", ["provider_response", "requested_only", "unavailable"]),
    ("retryObservation", ["logical_call_only", "physical_attempt", "unavailable"]),
    ("usageObservation", ["provider_reported", "request_observed", "unavailable"]),
    ("status", ["gap", "implemented", "partial"])]

/-- One surface; it returns its code. -/
def validateSurface (surface : Json) (path : String) : Except Raised String := do
  exactKeys surface
    ["gapCode", "meterFamily", "modelEvidence", "observationKind", "retryObservation", "status",
      "surfaceCode", "usageObservation"] path
  let code ← requiredString (surface.field "surfaceCode") (path ++ ".surfaceCode") 128
  requireEach
    (fun field => do
      let item ← requiredString (surface.field field.1) (path ++ "." ++ field.1) 32
      check (item ∈ field.2) (path ++ "." ++ field.1 ++ " must be one of " ++ nameList field.2))
    surfaceEnums
  let gapCode ← nullableString (surface.field "gapCode") (path ++ ".gapCode") 128
  check (surface.field "status" = .str "implemented" → gapCode = none)
    (path ++ ".gapCode must be null when status=implemented")
  check (surface.field "status" ≠ .str "implemented" → gapCode ≠ none)
    (path ++ ".gapCode is required when status is not implemented")
  return code

/-- `sorted(set(values))`. -/
def sortedSet {α : Type} [LinearOrder α] (values : List α) : List α :=
  values.dedup.mergeSort (fun a b => decide (a ≤ b))

/-- `validate_coverage`. -/
def validateCoverage (payload : Json) (expectedFamily : String) :
    Except Raised ValidatedCoverage := do
  exactKeys payload
    ["coverageStatus", "manifestDigest", "productFamily", "schema", "surfaces"] "coverage"
  check (payload.field "schema" = .str "jitech-provider-usage-coverage/v1")
    "coverage.schema must be jitech-provider-usage-coverage/v1"
  let family ← requiredString (payload.field "productFamily") "coverage.productFamily" 32
  check (family ∈ productFamilies)
    ("coverage.productFamily must be one of " ++ nameList productFamilies)
  check (family = expectedFamily)
    ("coverage.productFamily mismatch: expected=" ++ expectedFamily ++ " actual=" ++ family)
  let manifestDigest ← requiredString (payload.field "manifestDigest") "coverage.manifestDigest" 512
  check (isDigest manifestDigest) "coverage.manifestDigest must be sha256:<64 lower-case hex>"
  let expectedDigest ← sha256Digest (without ["manifestDigest"] payload)
  check (manifestDigest = expectedDigest)
    "coverage.manifestDigest does not match canonical manifest bytes"
  let status ← requiredString (payload.field "coverageStatus") "coverage.coverageStatus" 16
  check (status = "complete" ∨ status = "partial")
    "coverage.coverageStatus must be complete or partial"
  match payload.field "surfaces" with
  | .arr surfaces => do
      check (surfaces ≠ []) "coverage.surfaces must be a non-empty array"
      let codes ← surfaces.zipIdx.mapM fun surface =>
        validateSurface surface.1 ("coverage.surfaces[" ++ toString surface.2 ++ "]")
      check (codes = sortedSet codes) "coverage.surfaces surfaceCode must be unique and ascending"
      let expectedStatus :=
        if surfaces.all (·.field "status" = .str "implemented") then "complete" else "partial"
      check (status = expectedStatus)
        ("coverage.coverageStatus must be " ++ expectedStatus ++ " for surface statuses")
      return { family := family, manifestDigest := manifestDigest, status := status,
               surfaces := surfaces }
  | _ => throw (.contract "coverage.surfaces must be a non-empty array")

/-! ## Pages -/

/-- `ValidatedExport` -/
structure ValidatedExport where
  after : Int
  nextCursor : Int
  highWatermark : Int
  hasMore : Bool
  receipts : List Json
  coverageManifests : List ValidatedCoverage

/-- The items of an array. -/
def arrayItems (value : Json) (message : String) : Except Raised (List Json) :=
  match value with
  | .arr items => return items
  | _ => throw (.contract message)

/-- A truth value. -/
def boolean (value : Json) (message : String) : Except Raised Bool :=
  match value with
  | .bool b => return b
  | _ => throw (.contract message)

/-- The cursor after a page. -/
def expectedNext (after : Int) (receipts : List Json) : Int :=
  ((receipts.map ledgerSeq).getLast?).getD after

/-- `validate_export`. -/
def validateExport (payload : Json) (expectedAfter : Int) (expectedFamily : String) :
    Except Raised ValidatedExport := do
  exactKeys payload
    ["after", "count", "coverageManifests", "hasMore", "highWatermark", "nextCursor", "receipts",
      "schema"] "export"
  check (payload.field "schema" = .str "jitech-provider-usage-export/v1")
    "export.schema must be jitech-provider-usage-export/v1"
  let after ← integer (payload.field "after") "export.after" 0
  check (after = expectedAfter)
    ("export.after mismatch: expected=" ++ toString expectedAfter ++ " actual=" ++ toString after)
  let nextCursor ← integer (payload.field "nextCursor") "export.nextCursor" 0
  let highWatermark ← integer (payload.field "highWatermark") "export.highWatermark" 0
  let count ← integer (payload.field "count") "export.count" 0
  let hasMore ← boolean (payload.field "hasMore") "export.hasMore must be boolean"
  check (after ≤ highWatermark)
    ("product ledger moved backwards: after=" ++ toString after ++ " highWatermark=" ++
      toString highWatermark)
  let receipts ← arrayItems (payload.field "receipts") "export.receipts must be an array"
  check (count = receipts.length)
    ("export.count mismatch: count=" ++ toString count ++ " receipts=" ++
      toString receipts.length)
  requireEach validateCallReceipt receipts
  let manifests ←
    arrayItems (payload.field "coverageManifests") "export.coverageManifests must be an array"
  let coverageManifests ← manifests.mapM (validateCoverage · expectedFamily)
  let digests := coverageManifests.map ValidatedCoverage.manifestDigest
  check (digests = sortedSet digests)
    "export.coverageManifests manifestDigest must be unique and ascending"
  check (digests = sortedSet (receipts.map coverageDigestOf))
    "export.coverageManifests must exactly match receipt producerCoverageDigest values"
  let sequences := receipts.map ledgerSeq
  check (sequences = sortedSet sequences) "export.receipts ledgerSeq must be unique and ascending"
  check (∀ first ∈ sequences.head?, after < first)
    "export.receipts contains a sequence at or before export.after"
  check (∀ last ∈ sequences.getLast?, last ≤ highWatermark)
    "export.receipts contains a sequence above highWatermark"
  check (nextCursor = expectedNext after receipts)
    ("export.nextCursor mismatch: expected=" ++ toString (expectedNext after receipts) ++
      " actual=" ++ toString nextCursor)
  let expectedHasMore := decide (nextCursor < highWatermark)
  check (hasMore = expectedHasMore)
    ("export.hasMore mismatch: expected=" ++ toString expectedHasMore ++ " actual=" ++
      toString hasMore)
  check (expectedHasMore = true → sequences ≠ [])
    "export made no cursor progress while hasMore=true"
  return { after := after, nextCursor := nextCursor, highWatermark := highWatermark,
           hasMore := expectedHasMore, receipts := receipts,
           coverageManifests := coverageManifests }

end contract

end AgentRuntimeOps.Usage
