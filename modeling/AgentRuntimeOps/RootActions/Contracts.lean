import AgentRuntimeOps.RootActions.Basic

/-!
# Typed manifests and sealed jobs

The manifest contract of `contracts.py` and the operation registry of `registry.py`: a manifest is
accepted when its field sets are exact, its texts are safe and its parameters match the fixed
registry; sealing it computes the job digest from its canonical bytes.

A manifest is the JSON value that its bytes spell, together with the number of those bytes
(`Document`); `SealedJob.canonicalManifest` keeps the value, and `canonicalManifestBytes` writes
the bytes it stands for.  Reading a value from bytes (UTF-8, JSON syntax, duplicate keys) is not
modelled here.
-/

namespace AgentRuntimeOps.RootActions

open AgentRuntimeOps.Lib

/-! ## Field sets -/

/-- `str` of a list of names. -/
def nameList (names : List String) : String :=
  "[" ++ String.intercalate ", " (names.map fun name => "'" ++ name ++ "'") ++ "]"

/-- `_exact_keys`: the value is an object with exactly the expected fields (listed sorted). -/
def exactKeysWith (exn : String → Exn) (value : Json) (expected : List String) (field : String) :
    Except Exn Unit := do
  require (value.isObject) (exn (field ++ " must be an object"))
  require (value.keys = expected)
    (exn (field ++ " field set mismatch missing=" ++ nameList (expected.filter (· ∉ value.keys)) ++
      " extra=" ++ nameList (value.keys.filter (· ∉ expected))))

/-! ## The operation registry -/

/-- A rule for one parameter.  Source: `registry.py`, `ParameterRule`. -/
inductive ParameterRule where
  | identifier
  | digest
  | nullableDigest
  | revision
  | enum (choices : List String)
  | integer (minimum maximum : Option Int)
  | identifierList (maxItems : Nat)
  | digestList (maxItems : Nat)

/-- `_REVISION_RE.fullmatch`: `[0-9a-f]{40}`. -/
def isRevision (s : String) : Bool := s.toList.all isHexDigit && decide (s.toList.length = 40)

/-- `_require_matching_string`. -/
def requireMatchingString (pattern : String → Bool) (value : Json) (field : String) :
    Except Exn Unit :=
  require (value.text?.any pattern) (Exn.registryValidationError (field ++ " has an invalid value"))

/-- A non-empty list of distinct strings of one pattern, with at most `maxItems` items. -/
def requireMatchingList (pattern : String → Bool) (maxItems : Nat) (value : Json)
    (field : String) : Except Exn Unit :=
  match value with
  | .arr items => do
    require (items ≠ [] ∧ items.length ≤ maxItems) (Exn.registryValidationError
      (field ++ " must be a non-empty list with at most " ++ toString maxItems ++ " items"))
    requireEach (fun p : Json × Nat =>
      requireMatchingString pattern p.1 (field ++ "[" ++ toString p.2 ++ "]")) items.zipIdx
    require items.Nodup (Exn.registryValidationError (field ++ " must not contain duplicates"))
  | _ => .error (Exn.registryValidationError
      (field ++ " must be a non-empty list with at most " ++ toString maxItems ++ " items"))

/-- Source: `registry.py`, `ParameterRule.validate`. -/
def ParameterRule.validate (rule : ParameterRule) (value : Json) (field : String) :
    Except Exn Unit :=
  match rule with
  | .identifier => requireMatchingString isSafeId value field
  | .digest => requireMatchingString isDigest value field
  | .nullableDigest =>
    if value = .null then .ok () else requireMatchingString isDigest value field
  | .revision => requireMatchingString isRevision value field
  | .enum choices =>
    require (value.text?.any (· ∈ choices))
      (Exn.registryValidationError (field ++ " must be one of " ++ nameList choices))
  | .integer minimum maximum =>
    match value with
    | .int i => do
      require (∀ m ∈ minimum, m ≤ i) (Exn.registryValidationError (field ++ " is below its minimum"))
      require (∀ m ∈ maximum, i ≤ m) (Exn.registryValidationError (field ++ " exceeds its maximum"))
    | _ => .error (Exn.registryValidationError (field ++ " must be an integer"))
  | .identifierList maxItems => requireMatchingList isSafeId maxItems value field
  | .digestList maxItems => requireMatchingList isDigest maxItems value field

/-- One typed operation; the rules are listed by sorted parameter name.
Source: `registry.py`, `OperationSpec`. -/
structure OperationSpec where
  operationId : String
  version : Int
  parameterRules : List (String × ParameterRule)

/-- Source: `registry.py`, `OperationSpec.validate_parameters`. -/
def OperationSpec.validateParameters (spec : OperationSpec) (value : Json) : Except Exn Unit := do
  exactKeysWith Exn.registryValidationError value (spec.parameterRules.map Prod.fst) "parameters"
  requireEach (fun rule : String × ParameterRule =>
    rule.2.validate (value.field rule.1) ("parameters." ++ rule.1)) spec.parameterRules

/-- Source: `registry.py`, `DEFAULT_REGISTRY`. -/
def defaultRegistry : List OperationSpec := [
  ⟨"audit.verify", 1, [
    ("allowlisted_fields", .identifierList 64),
    ("expected_schema", .identifier),
    ("freshness_seconds", .integer (some 1) (some 86400)),
    ("target_identity", .identifier)]⟩,
  ⟨"projection.staging_selftest", 1, [
    ("expected_contract_digest", .digest),
    ("fixture_id", .identifier)]⟩,
  ⟨"agent_loop.campaign_run", 1, [
    ("campaign_id", .identifier),
    ("image_digest", .digest),
    ("input_digest", .digest),
    ("memory_mib", .integer (some 128) (some 262144)),
    ("runtime_seconds", .integer (some 1) (some 21600))]⟩,
  ⟨"nas.observe_groupware_runtime", 1, [("slot", .identifier)]⟩]

/-- Source: `registry.py`, `OperationRegistry.validate`. -/
def validateOperation (operationId : String) (version parameters : Json) : Except Exn Unit := do
  let spec ← orRaise (defaultRegistry.find? (·.operationId = operationId))
    (Exn.registryValidationError ("operation_id is not registered: " ++ operationId))
  match version with
  | .int v =>
    require (v = spec.version) (Exn.registryValidationError
      ("operation version mismatch expected=" ++ toString spec.version ++ " actual=" ++ toString v))
  | _ => .error (Exn.registryValidationError "operation_version must be an integer")
  spec.validateParameters parameters

/-! ## Manifests -/

/-- Source: `contracts.py`, `MANIFEST_SCHEMA`. -/
def manifestSchema : String := "agent-runtime-root-action-manifest/v1"

/-- Source: `registry.py`, `REGISTRY_VERSION`. -/
def registryVersion : String := "agent-runtime-root-action-registry/v1"

/-- Source: `contracts.py`, `MAX_MANIFEST_BYTES`. -/
def maxManifestBytes : Nat := 128 * 1024

section manifest

variable [UnicodeData]

/-- Source: `contracts.py`, `_exact_keys`. -/
abbrev exactKeys := exactKeysWith Exn.manifestValidationError

/-- Source: `contracts.py`, `_safe_text`. -/
abbrev safeText (value : Json) (field : String) (maximum : Nat := 512) : Except Exn String :=
  safeTextWith Exn.manifestValidationError value field maximum

/-- Source: `contracts.py`, `_safe_id`. -/
abbrev safeId := safeIdWith Exn.manifestValidationError

/-- Source: `contracts.py`, `_safe_timestamp`. -/
abbrev safeTimestamp := timestampWith Exn.manifestValidationError

/-- A list of distinct safe texts with `least` to 32 items. -/
def textListWith (least : Nat) (value : Json) (field : String) : Except Exn Unit :=
  match value with
  | .arr items => do
    require (least ≤ items.length ∧ items.length ≤ 32) (Exn.manifestValidationError
      (field ++ " must contain " ++ toString least ++ " to 32 items"))
    requireEach (fun p : Json × Nat =>
      discard (safeText p.1 (field ++ "[" ++ toString p.2 ++ "]"))) items.zipIdx
    require items.Nodup (Exn.manifestValidationError (field ++ " must not contain duplicates"))
  | _ => .error (Exn.manifestValidationError
      (field ++ " must contain " ++ toString least ++ " to 32 items"))

/-- Source: `contracts.py`, `_text_list`. -/
def textList := textListWith 1

/-- Source: `contracts.py`, `_optional_text_list`. -/
def optionalTextList := textListWith 0

/-- The anchor of a premise, when it has to be an object. -/
def validateAnchor (anchor : Json) (field : String) : Except Exn Unit := do
  exactKeys anchor ["quote", "source"] (field ++ ".anchor")
  discard (safeText (anchor.field "source") (field ++ ".anchor.source"))
  discard (safeText (anchor.field "quote") (field ++ ".anchor.quote"))

/-- One premise of `_validate_premises`. -/
def validatePremise (premise : Json) (index : Nat) : Except Exn Unit := do
  let field := "review.premises[" ++ toString index ++ "]"
  exactKeys premise ["anchor", "basis", "claim", "falsifier"] field
  discard (safeText (premise.field "claim") (field ++ ".claim"))
  let basis := premise.field "basis"
  requireHashable basis
  require (basis = .str "user_authority" ∨ basis = .str "direct_observation" ∨
      basis = .str "inference" ∨ basis = .str "unknown")
    (Exn.manifestValidationError (field ++ ".basis has an invalid value"))
  discard (safeText (premise.field "falsifier") (field ++ ".falsifier"))
  let anchor := premise.field "anchor"
  if basis = .str "user_authority" ∨ basis = .str "direct_observation" then
    validateAnchor anchor field
  else if basis = .str "unknown" then
    require (anchor = .null) (Exn.manifestValidationError
      (field ++ ".anchor must be null when basis is unknown"))
  else if anchor = .null then
    .ok ()
  else
    validateAnchor anchor field

/-- Source: `contracts.py`, `_validate_premises`. -/
def validatePremises (value : Json) : Except Exn Unit :=
  match value with
  | .arr items => do
    require (items ≠ [] ∧ items.length ≤ 8)
      (Exn.manifestValidationError "review.premises must contain 1 to 8 items")
    requireEach (fun p : Json × Nat => validatePremise p.1 p.2) items.zipIdx
  | _ => .error (Exn.manifestValidationError "review.premises must contain 1 to 8 items")

/-- Source: `contracts.py`, `_validate_expected_pre_state`. -/
def validateExpectedPreState (value : Json) : Except Exn Unit := do
  exactKeys value ["digest", "kind"] "expected_pre_state"
  let kind := value.field "kind"
  let digest := value.field "digest"
  if kind = .str "required" then
    require (digest.text?.any isDigest) (Exn.manifestValidationError
      "expected_pre_state.digest must be a sha256 digest when kind is required")
  else if kind = .str "none" then
    require (digest = .null) (Exn.manifestValidationError
      "expected_pre_state.digest must be null when kind is none")
  else
    .error (Exn.manifestValidationError "expected_pre_state.kind has an invalid value")

/-- The review section of `_validate_manifest`. -/
def validateReview (review : Json) : Except Exn Unit := do
  exactKeys review ["changes", "premises", "purpose", "recovery", "risk_delta", "targets"] "review"
  discard (safeText (review.field "purpose") "review.purpose")
  validatePremises (review.field "premises")
  textList (review.field "targets") "review.targets"
  textList (review.field "changes") "review.changes"
  textList (review.field "recovery") "review.recovery"
  let risk := review.field "risk_delta"
  exactKeys risk ["added", "baseline", "maximum_consequence", "removed"] "review.risk_delta"
  discard (safeText (risk.field "baseline") "review.risk_delta.baseline")
  optionalTextList (risk.field "added") "review.risk_delta.added"
  optionalTextList (risk.field "removed") "review.risk_delta.removed"
  discard (safeText (risk.field "maximum_consequence") "review.risk_delta.maximum_consequence")

/-- What sealing takes from an accepted manifest. -/
structure ManifestIdentity where
  jobId : String
  operationId : String
  operationVersion : Int
  requestId : String
  lineageId : String
  replyTarget : String
  submittedAt : String
  deriving DecidableEq

/-- Source: `contracts.py`, `_validate_manifest`; it returns what `seal_typed_manifest` reads
afterwards. -/
def validateManifest (manifest : Json) : Except Exn ManifestIdentity := do
  exactKeys manifest ["expected_pre_state", "job_id", "operation_id", "operation_version",
    "parameters", "registry_version", "request", "review", "schema"] "manifest"
  require (manifest.field "schema" = .str manifestSchema)
    (Exn.manifestValidationError "manifest.schema is not supported")
  require (manifest.field "registry_version" = .str registryVersion)
    (Exn.manifestValidationError "manifest.registry_version is not supported")
  let jobId ← safeId (manifest.field "job_id") "job_id"
  let operationId ← safeId (manifest.field "operation_id") "operation_id"
  let request := manifest.field "request"
  exactKeys request ["lineage_id", "reply_target", "request_id", "submitted_at"] "request"
  let requestId ← safeId (request.field "request_id") "request.request_id"
  let lineageId ← safeId (request.field "lineage_id") "request.lineage_id"
  let replyTarget ← safeId (request.field "reply_target") "request.reply_target"
  let submittedAt ← safeTimestamp (request.field "submitted_at") "request.submitted_at"
  validateExpectedPreState (manifest.field "expected_pre_state")
  validateReview (manifest.field "review")
  (validateOperation operationId (manifest.field "operation_version")
    (manifest.field "parameters")).mapError fun exc => Exn.manifestValidationError exc.message
  let operationVersion := match manifest.field "operation_version" with
    | .int v => v
    | _ => 0
  return ⟨jobId, operationId, operationVersion, requestId, lineageId, replyTarget, submittedAt⟩

end manifest

/-! ## Sealing -/

/-- A JSON document as it was received: the number of its bytes and the value it spells. -/
structure Document where
  byteLength : Nat
  value : Json

/-- Source: `contracts.py`, `canonical_manifest_bytes`. -/
def canonicalManifestBytes (value : Json) : List UInt8 := utf8 (value.dumps ++ ['\n'])

/-- The newline is one byte. -/
lemma length_canonicalManifestBytes (value : Json) :
    (canonicalManifestBytes value).length = (utf8 value.dumps).length + 1 := by
  unfold canonicalManifestBytes
  rw [utf8_append, List.length_append]
  rfl

/-- The document that the canonical bytes of a value are. -/
def Document.canonical (value : Json) : Document :=
  ⟨(canonicalManifestBytes value).length, value⟩

/-- Source: `contracts.py`, `SealedJob`. -/
structure SealedJob where
  jobId : String
  jobDigest : String
  operationId : String
  operationVersion : Int
  requestId : String
  lineageId : String
  replyTarget : String
  submittedAt : String
  canonicalManifest : Json
  deriving DecidableEq

/-- The digest of a job. -/
def jobDigestOf (manifest : Json) : String :=
  sha256Digest (tagged "agent-runtime-root-action-job/v1" (canonicalManifestBytes manifest))

/-- Source: `contracts.py`, `seal_typed_manifest`. -/
def sealTypedManifest [UnicodeData] (raw : Document) : Except Exn SealedJob := do
  require (0 < raw.byteLength ∧ raw.byteLength ≤ maxManifestBytes)
    (Exn.manifestValidationError "manifest byte length is outside the allowed range")
  let m ← validateManifest raw.value
  return ⟨m.jobId, jobDigestOf raw.value, m.operationId, m.operationVersion, m.requestId,
    m.lineageId, m.replyTarget, m.submittedAt, raw.value⟩

/-- What holds of every sealed job. -/
structure SealedJob.WellFormed (job : SealedJob) : Prop where
  jobId : isSafeId job.jobId = true
  jobDigest : isDigest job.jobDigest = true
  operationId : isSafeId job.operationId = true
  requestId : isSafeId job.requestId = true
  lineageId : isSafeId job.lineageId = true
  replyTarget : isSafeId job.replyTarget = true
  submittedAt : isRealTimestamp job.submittedAt = true
  operationVersion : job.operationVersion = 1
  size : (canonicalManifestBytes job.canonicalManifest).length ≤ maxManifestBytes

section sealing

variable [UnicodeData]

lemma isSafeId_of_safeIdWith {exn : String → Exn} {value : Json} {field s : String}
    (h : safeIdWith exn value field = .ok s) : isSafeId s = true := by
  unfold safeIdWith at h
  simp only [except_bind_ok, require_ok, exists_const, except_pure_ok] at h
  obtain ⟨text, -, hsafe, rfl⟩ := h
  exact hsafe

lemma isRealTimestamp_of_timestampWith {exn : String → Exn} {value : Json} {field s : String}
    (h : timestampWith exn value field = .ok s) : isRealTimestamp s = true := by
  unfold timestampWith at h
  simp only [except_bind_ok, require_ok, exists_const, except_pure_ok] at h
  obtain ⟨text, -, hre, hreal, rfl⟩ := h
  unfold isRealTimestamp
  rw [hre, hreal]
  rfl

omit [UnicodeData] in
/-- Every registered operation has version 1. -/
lemma version_of_validateOperation {operationId : String} {version parameters : Json}
    (h : validateOperation operationId version parameters = .ok ()) : version = .int 1 := by
  unfold validateOperation at h
  simp only [except_bind_ok, orRaise_ok] at h
  obtain ⟨spec, hspec, hversion⟩ := h
  have hone : spec.version = 1 := by
    have hall : ∀ spec ∈ defaultRegistry, spec.version = 1 := by decide
    exact hall spec (List.mem_of_find?_eq_some hspec)
  cases version with
  | int v =>
      simp only [except_bind_ok, require_ok, exists_const] at hversion
      rw [hversion.1.trans hone]
  | _ =>
      simp only [except_bind_ok] at hversion
      obtain ⟨_, hraised, -⟩ := hversion
      cases hraised

/-- What holds of the identity of an accepted manifest. -/
lemma validateManifest_ok {manifest : Json} {m : ManifestIdentity}
    (h : validateManifest manifest = .ok m) :
    isSafeId m.jobId = true ∧ isSafeId m.operationId = true ∧ isSafeId m.requestId = true ∧
      isSafeId m.lineageId = true ∧ isSafeId m.replyTarget = true ∧
      isRealTimestamp m.submittedAt = true ∧ m.operationVersion = 1 := by
  unfold validateManifest at h
  simp only [except_bind_ok, except_pure_ok] at h
  obtain ⟨-, -, -, -, -, -, jobId, hjob, operationId, hoperation, -, -, requestId, hrequest,
    lineageId, hlineage, replyTarget, hreply, submittedAt, hsubmitted, -, -, -, -, _, hversion,
    rfl⟩ := h
  refine ⟨isSafeId_of_safeIdWith hjob, isSafeId_of_safeIdWith hoperation,
    isSafeId_of_safeIdWith hrequest, isSafeId_of_safeIdWith hlineage,
    isSafeId_of_safeIdWith hreply, isRealTimestamp_of_timestampWith hsubmitted, ?_⟩
  have hone : manifest.field "operation_version" = .int 1 := by
    cases hvalid : validateOperation operationId (manifest.field "operation_version")
      (manifest.field "parameters") with
    | error exc => rw [hvalid] at hversion; cases hversion
    | ok _ => exact version_of_validateOperation hvalid
  simp only [hone]

/-- **Sealing is well formed.** A sealed job has safe identifiers, a digest and a real time. -/
theorem wellFormed_of_seal {job : SealedJob}
    (h : sealTypedManifest (Document.canonical job.canonicalManifest) = .ok job) :
    job.WellFormed := by
  unfold sealTypedManifest at h
  simp only [except_bind_ok, require_ok, exists_const, except_pure_ok] at h
  obtain ⟨hsize, m, hm, hjob⟩ := h
  obtain ⟨h₁, h₂, h₃, h₄, h₅, h₆, h₇⟩ := validateManifest_ok hm
  rw [← hjob]
  exact ⟨h₁, isDigest_sha256Digest _, h₂, h₃, h₄, h₅, h₆, h₇, hsize.2⟩

/-- Sealing the canonical bytes of an accepted manifest. -/
lemma sealTypedManifest_canonical {manifest : Json} {m : ManifestIdentity}
    (hsize : (canonicalManifestBytes manifest).length ≤ maxManifestBytes)
    (h : validateManifest manifest = .ok m) :
    sealTypedManifest (Document.canonical manifest) = .ok ⟨m.jobId, jobDigestOf manifest,
      m.operationId, m.operationVersion, m.requestId, m.lineageId, m.replyTarget, m.submittedAt,
      manifest⟩ := by
  have hpos : 0 < (canonicalManifestBytes manifest).length := by
    unfold canonicalManifestBytes
    rw [List.length_pos_iff]
    simp [utf8]
  unfold sealTypedManifest
  simp only [except_bind_ok, require_ok, exists_const, except_pure_ok]
  exact ⟨⟨hpos, hsize⟩, m, h, rfl⟩

end sealing

/-! ## A manifest

The smallest manifest of the one operation that is enabled; the concrete runs of this development
submit it. -/

/-- No character outside ASCII is accepted. -/
@[reducible] def UnicodeData.asciiOnly : UnicodeData := ⟨fun _ => false, fun _ => true⟩

/-- A request to observe one slot. -/
def sampleManifest : Json := .obj [
  ("expected_pre_state", .obj [("digest", .null), ("kind", .str "none")]),
  ("job_id", .str "job"),
  ("operation_id", .str "nas.observe_groupware_runtime"),
  ("operation_version", .int 1),
  ("parameters", .obj [("slot", .str "a")]),
  ("registry_version", .str registryVersion),
  ("request", .obj [("lineage_id", .str "lineage"), ("reply_target", .str "reply"),
    ("request_id", .str "request"), ("submitted_at", .str "2026-01-01T00:00:00Z")]),
  ("review", .obj [("changes", .arr [.str "c"]),
    ("premises", .arr [.obj [("anchor", .null), ("basis", .str "unknown"), ("claim", .str "p"),
      ("falsifier", .str "f")]]),
    ("purpose", .str "p"), ("recovery", .arr [.str "r"]),
    ("risk_delta", .obj [("added", .arr []), ("baseline", .str "b"),
      ("maximum_consequence", .str "m"), ("removed", .arr [])]),
    ("targets", .arr [.str "t"])]),
  ("schema", .str manifestSchema)]

/-- The job that it seals. -/
def sampleJob : SealedJob where
  jobId := "job"
  jobDigest := jobDigestOf sampleManifest
  operationId := "nas.observe_groupware_runtime"
  operationVersion := 1
  requestId := "request"
  lineageId := "lineage"
  replyTarget := "reply"
  submittedAt := "2026-01-01T00:00:00Z"
  canonicalManifest := sampleManifest

lemma length_sampleManifest : (canonicalManifestBytes sampleManifest).length ≤ maxManifestBytes := by
  decide +kernel

lemma seal_sampleManifest :
    @sealTypedManifest UnicodeData.asciiOnly (Document.canonical sampleManifest) =
      .ok sampleJob := by
  have hvalid : @validateManifest UnicodeData.asciiOnly sampleManifest =
      .ok ⟨"job", "nas.observe_groupware_runtime", 1, "request", "lineage", "reply",
        "2026-01-01T00:00:00Z"⟩ := by decide
  exact @sealTypedManifest_canonical UnicodeData.asciiOnly _ _ length_sampleManifest hvalid

end AgentRuntimeOps.RootActions
