import AgentRuntimeOps.Groupware.Probe
import AgentRuntimeOps.Mounts.Mountinfo
import AgentRuntimeOps.RootActions.ReobservationPlan
import AgentRuntimeOps.RootActions.Settling

/-!
# Observations of a groupware runtime

`observe_groupware_runtime` puts the probes of the declared paths of a slot into an observation, and
`GroupwareRuntimeObservationHandler` turns it into the result of a job: public facts, a raw receipt
and an outcome.
-/

namespace AgentRuntimeOps.Groupware

open Lib RootActions Mounts.Mountinfo

/-! ## What is observed -/

/-- `RAW_SCHEMA` -/
def rawSchema : String := "agent-runtime-groupware-runtime-observation/v2"

/-- `MAX_DECLARED_PATHS` -/
def maxDeclaredPaths : Nat := 32

/-- `_digest`, under a domain. -/
def digestUnder (domain : String) (value : Json) : String :=
  sha256Digest (tagged domain (canonicalManifestBytes value))

/-- `_digest` -/
def digestOf (value : Json) : String := sha256Digest (canonicalManifestBytes value)

/-- `ServicePrincipal`: the ids of the kernel, which have 32 bits, and the groups once each. -/
structure ServicePrincipal where
  hostPid : Nat
  uid : Nat
  gid : Nat
  groups : List Nat
  uid_lt : uid < 2 ^ 32
  gid_lt : gid < 2 ^ 32
  groups_lt : ∀ group ∈ groups, group < 2 ^ 32
  groups_nodup : groups.Nodup

/-- The groups of a principal, as JSON. -/
def ServicePrincipal.groupsJson (principal : ServicePrincipal) : Json :=
  .arr (principal.groups.map fun group => .int group)

/-- `identity_digest` -/
def ServicePrincipal.identityDigest (principal : ServicePrincipal) : String :=
  digestUnder "agent-runtime-service-principal/v1" (.obj [("gid", .int principal.gid),
    ("groups", principal.groupsJson), ("uid", .int principal.uid)])

/-- `ResolvedRuntime`: what `_resolve_runtime` leaves for the observation, with what it has checked.
The aliases and the expected sources are made from the effective paths, one for each. -/
structure ResolvedRuntime where
  linuxAccount : String
  runtimeProfileDigest : String
  containerNasRoot : Text
  hostNasRoot : Text
  requestedPaths : List Text
  effectivePaths : List Text
  aliases : List Text
  expectedSources : List Text
  desiredDigest : String
  containerIdentityDigest : String
  account : IsAccount linuxAccount
  profile : isDigest runtimeProfileDigest = true
  desired : isDigest desiredDigest = true
  identity : isDigest containerIdentityDigest = true
  requested : requestedPaths ≠ [] ∧ requestedPaths.length ≤ maxDeclaredPaths
  effective : effectivePaths.length ≤ maxDeclaredPaths
  aliased : aliases.length = effectivePaths.length
  expected : expectedSources.length = effectivePaths.length

/-- `RuntimeObservation` -/
structure RuntimeObservation where
  slot : String
  runtimeProfileDigest : String
  requestedPathCount : Option Nat
  effectivePathCount : Option Nat
  desiredDigest : String
  containerIdentityDigest : String
  status : Status
  reasonCode : String
  principal : Option ServicePrincipal
  probes : List DeclaredPathProbe

/-! ## The observation -/

/-- `is_readonly_mount` -/
def isReadonlyMount (row : Row) : Bool :=
  ((row.options.splitOn 44).map Text.strip).any (· = Text.of "ro")

/-- `_mount` -/
def mountState (rows : List Row) (target expectedSource : Text) : MountState :=
  match rows.filter (·.target = target) with
  | [] => ⟨some false, none, none⟩
  | [row] =>
      if row.fstype ≠ Text.of "cifs" then ⟨none, none, none⟩
      else ⟨some true, some (row.source = expectedSource), some (isReadonlyMount row)⟩
  | _ => ⟨none, none, none⟩

/-- The state of a mount in a table; `none` where the table is not read. -/
def mountStateIn (table : Option (List Row)) (target expectedSource : Text) : MountState :=
  match table with
  | some rows => mountState rows target expectedSource
  | none => ⟨none, none, none⟩

/-- The text of `PurePosixPath(root)`, an absolute path that is not the root; just two slashes in
front of it stay. -/
def posixPath (root : Text) : Text :=
  (if [47, 47] <+: root ∧ ¬[47, 47, 47] <+: root then [47] else []) ++
    flat ((root.splitOn 47).filter fun name => name ≠ [] ∧ name ≠ [46])

/-- `_container_path` -/
def containerPath (root alias_ : Text) : Text :=
  posixPath root ++ flat [Text.of "groupware", alias_]

/-- `root.rstrip("/")` -/
def rstripSlash (root : Text) : Text := root.rdropWhile (· == 47)

/-- The probe of each path. -/
def probesOf (runtime : ResolvedRuntime) (hostTable containerTable : Option (List Row))
    (results : List ProbeRow) : List DeclaredPathProbe :=
  ((runtime.aliases.zip runtime.expectedSources).zip results).map fun item =>
    ⟨mountStateIn hostTable (rstripSlash runtime.hostNasRoot ++ 47 :: item.1.1) item.1.2,
      mountStateIn containerTable (containerPath runtime.containerNasRoot item.1.1) item.1.2,
      item.2⟩

/-- `f"runtime_{failure_class.lower()}"`, or `runtime_observation_healthy` -/
def FailureClass.reason : FailureClass → String
  | .healthy => "runtime_observation_healthy"
  | .mountMissing => "runtime_mount_missing"
  | .sourceMismatch => "runtime_source_mismatch"
  | .accessDenied => "runtime_access_denied"
  | .emptyReadable => "runtime_empty_readable"
  | .observerContractMismatch => "runtime_observer_contract_mismatch"
  | .pathCardinalityMismatch => "runtime_path_cardinality_mismatch"

/-- `observe_groupware_runtime`, from what the runtime resolves to, the two mount tables and the
rows of the search, of which there is one for each path. -/
def observeGroupwareRuntime (runtime : ResolvedRuntime) (principal : ServicePrincipal)
    (hostTable containerTable : Option (List Row))
    (results : { rows : List ProbeRow // rows.length = runtime.aliases.length }) :
    RuntimeObservation :=
  let probes := probesOf runtime hostTable containerTable results.1
  let failureClass :=
    reportedClass runtime.requestedPaths.length runtime.effectivePaths.length probes
  { slot := runtime.linuxAccount
    runtimeProfileDigest := runtime.runtimeProfileDigest
    requestedPathCount := some runtime.requestedPaths.length
    effectivePathCount := some runtime.effectivePaths.length
    desiredDigest := runtime.desiredDigest
    containerIdentityDigest := runtime.containerIdentityDigest
    status := failureClass.status
    reasonCode := failureClass.reason
    principal := some principal
    probes := probes }

/-- The reason codes of the errors, and the one of any other exception. -/
def reasonCodes : List String := [
  "container_nas_root_invalid", "container_inspect_unavailable", "container_state_invalid",
  "container_not_running", "service_process_not_unique", "service_process_not_found",
  "service_mount_namespace_mismatch", "service_status_unavailable",
  "namespace_probe_output_too_large", "namespace_probe_output_invalid",
  "namespace_probe_cardinality_mismatch", "rootless_runtime_unsupported",
  "groupware_view_not_declared", "groupware_view_invalid", "groupware_alias_collision",
  "container_identity_unverified", "container_profile_mismatch",
  "runtime_profile_digest_missing", "runtime_profile_digest_mismatch",
  "runtime_observation_internal_error"]

/-- `unresolved_observation` -/
def unresolvedObservation (slot reason : String) : RuntimeObservation where
  slot := slot
  runtimeProfileDigest := "unavailable"
  requestedPathCount := none
  effectivePathCount := none
  desiredDigest := "unavailable"
  containerIdentityDigest := "unavailable"
  status := .unknown
  reasonCode := reason
  principal := none
  probes := []

/-- The observations that a job for a slot can come to. -/
inductive Observed (slot : String) : RuntimeObservation → Prop where
  | observed (runtime : ResolvedRuntime) (principal : ServicePrincipal)
      (hostTable containerTable : Option (List Row))
      (results : { rows : List ProbeRow // rows.length = runtime.aliases.length }) :
      Observed slot (observeGroupwareRuntime runtime principal hostTable containerTable results)
  | unresolved {reason : String} (h : reason ∈ reasonCodes) :
      Observed slot (unresolvedObservation slot reason)

/-! ## Facts -/

/-- The text of a class. -/
def FailureClass.text : FailureClass → String
  | .healthy => "HEALTHY"
  | .mountMissing => "MOUNT_MISSING"
  | .sourceMismatch => "SOURCE_MISMATCH"
  | .accessDenied => "ACCESS_DENIED"
  | .emptyReadable => "EMPTY_READABLE"
  | .observerContractMismatch => "OBSERVER_CONTRACT_MISMATCH"
  | .pathCardinalityMismatch => "PATH_CARDINALITY_MISMATCH"

/-- The text of a status. -/
def Status.text : Status → String
  | .healthy => "healthy"
  | .unhealthy => "unhealthy"
  | .unknown => "unknown"

/-- The three fields of a mount are all true. -/
def MountState.verified (state : MountState) : Bool :=
  state.present = some true ∧ state.sourceMatch = some true ∧ state.readonly = some true

namespace RuntimeObservation

/-- `failure_class` -/
def failureClass (observation : RuntimeObservation) : FailureClass :=
  if observation.requestedPathCount.isSome ∧ observation.effectivePathCount.isSome ∧
      observation.requestedPathCount ≠ observation.effectivePathCount then
    .pathCardinalityMismatch
  else aggregateFailureClass observation.probes

/-- `public_count` -/
def publicCount : Option Nat → String
  | some value => toString value
  | none => "unavailable"

variable (observation : RuntimeObservation)

/-- The number of probes with a property. -/
def count (p : DeclaredPathProbe → Bool) : Nat := observation.probes.countP p

/-- `class_count` -/
def classCount (failure : FailureClass) : Nat :=
  observation.count fun probe => probe.failureClass = failure

/-- `probe_count` -/
def probeCount (outcome : FailureClass) : Nat :=
  observation.count fun probe => probe.row.boundedProbeOutcome = outcome

/-- `public_facts` -/
def publicFacts : List (String × String) := [
  ("observation_schema", rawSchema),
  ("status", observation.status.text),
  ("slot", observation.slot),
  ("corpus", "groupware"),
  ("runtime_profile_digest", observation.runtimeProfileDigest),
  ("requested_path_count", publicCount observation.requestedPathCount),
  ("effective_path_count", publicCount observation.effectivePathCount),
  ("desired_digest", observation.desiredDigest),
  ("container_identity_digest", observation.containerIdentityDigest),
  ("reason_code", observation.reasonCode),
  ("declared_path_count", toString observation.probes.length),
  ("host_mount_present_count", toString (observation.count (·.hostMount.present = some true))),
  ("host_mount_source_match_count",
    toString (observation.count (·.hostMount.sourceMatch = some true))),
  ("host_mount_readonly_count", toString (observation.count (·.hostMount.readonly = some true))),
  ("host_mount_verified_count", toString (observation.count (·.hostMount.verified))),
  ("container_mount_present_count",
    toString (observation.count (·.containerMount.present = some true))),
  ("container_mount_source_match_count",
    toString (observation.count (·.containerMount.sourceMatch = some true))),
  ("container_mount_readonly_count",
    toString (observation.count (·.containerMount.readonly = some true))),
  ("container_mount_verified_count", toString (observation.count (·.containerMount.verified))),
  ("failure_class", observation.failureClass.text),
  ("mount_missing_count", toString (observation.classCount .mountMissing)),
  ("source_mismatch_count", toString (observation.classCount .sourceMismatch)),
  ("access_denied_count", toString (observation.classCount .accessDenied)),
  ("empty_readable_count", toString (observation.classCount .emptyReadable)),
  ("observer_contract_mismatch_count",
    toString (observation.classCount .observerContractMismatch)),
  ("bounded_probe_open_read_count", toString (observation.probeCount .healthy)),
  ("bounded_probe_access_denied_count", toString (observation.probeCount .accessDenied)),
  ("bounded_probe_empty_readable_count", toString (observation.probeCount .emptyReadable)),
  ("bounded_probe_contract_mismatch_count",
    toString (observation.probeCount .observerContractMismatch)),
  ("principal_resolved", if observation.principal.isSome then "true" else "false"),
  ("principal_uid", publicCount (observation.principal.map (·.uid))),
  ("principal_gid", publicCount (observation.principal.map (·.gid))),
  ("principal_supplementary_group_count",
    publicCount (observation.principal.map (·.groups.length))),
  ("list_verified_count", toString (observation.count (·.row.listOk = some true))),
  ("open_read_verified_count", toString (observation.count (·.row.openReadOk = some true))),
  ("writes", "0")]

end RuntimeObservation

/-! ## The result of the job -/

/-- The text of a representative. -/
def Representative.text : Representative → String
  | .regularFile => "regular_file"
  | .openFailed => "open_failed"
  | .scanFailed => "scan_failed"
  | .searchBoundReached => "search_bound_reached"
  | .noRegularFileWithinBound => "no_regular_file_within_bound"
  | .directoryOpenFailed => "directory_open_failed"
  | .namespaceProbeFailed => "namespace_probe_failed"
  | .namespaceProbeTimeout => "namespace_probe_timeout"
  | .unobserved => "unobserved"

/-- A value that may be missing, as JSON. -/
def jsonOr {α : Type} (json : α → Json) : Option α → Json
  | some a => json a
  | none => .null

/-- `asdict` of a probe, with its index. -/
def DeclaredPathProbe.toJson (probe : DeclaredPathProbe) (index : Nat) : Json := .obj [
  ("container_mount_present", jsonOr .bool probe.containerMount.present),
  ("container_mount_readonly", jsonOr .bool probe.containerMount.readonly),
  ("container_mount_source_match", jsonOr .bool probe.containerMount.sourceMatch),
  ("errno", jsonOr (fun errno : Nat => .int errno) probe.row.errno),
  ("host_mount_present", jsonOr .bool probe.hostMount.present),
  ("host_mount_readonly", jsonOr .bool probe.hostMount.readonly),
  ("host_mount_source_match", jsonOr .bool probe.hostMount.sourceMatch),
  ("index", .int index),
  ("list_ok", jsonOr .bool probe.row.listOk),
  ("open_read_ok", jsonOr .bool probe.row.openReadOk),
  ("representative", .str probe.row.representative.text)]

namespace RuntimeObservation

variable (observation : RuntimeObservation)

/-- `raw_bytes` -/
def rawBytes : List UInt8 := canonicalManifestBytes (.obj [
  ("container_identity_digest", .str observation.containerIdentityDigest),
  ("corpus", .str "groupware"),
  ("declared_paths", .arr (observation.probes.zipIdx.map fun item => item.1.toJson item.2)),
  ("desired_digest", .str observation.desiredDigest),
  ("effective_path_count", jsonOr (fun value : Nat => .int value) observation.effectivePathCount),
  ("principal", jsonOr (fun principal => .obj [
    ("gid", .int principal.gid),
    ("identity_digest", .str principal.identityDigest),
    ("supplementary_group_count", .int principal.groups.length),
    ("supplementary_groups_digest", .str (digestOf principal.groupsJson)),
    ("uid", .int principal.uid)]) observation.principal),
  ("reason_code", .str observation.reasonCode),
  ("requested_path_count", jsonOr (fun value : Nat => .int value) observation.requestedPathCount),
  ("runtime_profile_digest", .str observation.runtimeProfileDigest),
  ("schema", .str rawSchema),
  ("slot", .str observation.slot),
  ("status", .str observation.status.text),
  ("writes", .int 0)])

/-- `GroupwareRuntimeObservationHandler.run`, from the observation on. -/
def handlerResult (hreason : observation.reasonCode ≠ "") : HandlerResult where
  rawBytes := observation.rawBytes
  publicStatus := .str observation.status.text
  publicFacts := observation.publicFacts.map fun fact => (.str fact.1, .str fact.2)
  unrenderable := none
  terminalOutcome := if observation.status = .healthy then "succeeded" else "failed"
  reasonCode := observation.reasonCode
  exitCode := if observation.status = .healthy then 0 else 1
  raw_ne_nil := by
    unfold rawBytes canonicalManifestBytes
    rw [utf8_append]
    simp [utf8]
  outcome_mem := by split <;> simp
  reason_ne := hreason
  exit_zero := by split <;> simp

end RuntimeObservation

/-! ## Consistency -/

/-- A fact with a number. -/
def Shows (observation : RuntimeObservation) (name : String) (value : Nat) : Prop :=
  observation.publicFacts.lookup name = some (toString value)

/-- The facts agree with each other. -/
structure Consistent (observation : RuntimeObservation) : Prop where
  /-- The classes and the healthy probes are all probes. -/
  classes : ∃ missing mismatch denied empty contract declared,
    Shows observation "mount_missing_count" missing ∧
    Shows observation "source_mismatch_count" mismatch ∧
    Shows observation "access_denied_count" denied ∧
    Shows observation "empty_readable_count" empty ∧
    Shows observation "observer_contract_mismatch_count" contract ∧
    Shows observation "declared_path_count" declared ∧
    missing + mismatch + denied + empty + contract + observation.classCount .healthy = declared
  /-- The outcomes of the searches are those of all probes. -/
  outcomes : ∃ readable denied empty contract declared,
    Shows observation "bounded_probe_open_read_count" readable ∧
    Shows observation "bounded_probe_access_denied_count" denied ∧
    Shows observation "bounded_probe_empty_readable_count" empty ∧
    Shows observation "bounded_probe_contract_mismatch_count" contract ∧
    Shows observation "declared_path_count" declared ∧
    readable + denied + empty + contract = declared
  /-- The status is healthy exactly if all counts are the same and positive. -/
  status : observation.publicFacts.lookup "status" = some "healthy" ↔ ∃ n, 0 < n ∧
    Shows observation "requested_path_count" n ∧ Shows observation "effective_path_count" n ∧
    Shows observation "declared_path_count" n ∧ Shows observation "host_mount_verified_count" n ∧
    Shows observation "container_mount_verified_count" n ∧
    Shows observation "list_verified_count" n ∧ Shows observation "open_read_verified_count" n

end AgentRuntimeOps.Groupware
