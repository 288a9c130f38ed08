import AgentRuntimeOps.Lib.CalendarOrder
import AgentRuntimeOps.RootActions.Limits
import AgentRuntimeOps.RootActions.Sealing
import AgentRuntimeOps.Routing.Basic

/-!
# Observing every groupware slot

`groupware_reobservation.py`: the slots that a state root declares for the groupware corpus, and the
job that observes each of them, once for every quarter of an hour in UTC.

A state root is what its two files hold: the runtime bindings, and the YAML document of the views.
-/

namespace AgentRuntimeOps.RootActions

open AgentRuntimeOps.Lib

/-! ## Time -/

/-- A `datetime` with a time zone: what the clock shows, and how far it is ahead of UTC, in
microseconds. -/
structure AwareTime where
  clock : DateTime
  microsecond : Nat
  offset : Int
  real : clock.isReal = true ∧ clock.year ≤ 9999 ∧ microsecond < 1000000 ∧
    offset.natAbs < 86400000000

namespace AwareTime

/-- Microseconds since `0001-01-01T00:00:00Z`. -/
def micros (t : AwareTime) : Int := t.clock.toSeconds * 1000000 + t.microsecond - t.offset

/-- The time to the second in UTC. -/
def seconds (t : AwareTime) : Nat := (t.micros / 1000000).toNat

/-- The quarter of an hour in UTC, counted from `0001-01-01T00:00:00Z`. -/
def quarter (t : AwareTime) : Int := t.micros / 900000000

end AwareTime

/-- What the functions raise. -/
inductive ReobservationRaised where
  /-- `GroupwareReobservationError` -/
  | reobservation (reasonCode : String)
  /-- Any other exception. -/
  | other (exc : Exn)
  deriving DecidableEq

/-- `_utc`, to the second. -/
def utc (value : AwareTime) : Except ReobservationRaised DateTime :=
  if 0 ≤ value.micros ∧ value.seconds < DateTime.toSeconds ⟨10000, 1, 1, 0, 0, 0⟩ then
    .ok (DateTime.ofSeconds value.seconds)
  else .error (.other ⟨.overflowError, "date value out of range"⟩)

/-- The start of the quarter of an hour. -/
def aligned (current : DateTime) : DateTime :=
  { current with minute := current.minute / 15 * 15, second := 0 }

/-- `observation_bucket`; the bucket is a time in UTC. -/
def observationBucket (value : AwareTime) : Except ReobservationRaised DateTime := do
  let current ← utc value
  return aligned current

/-- `_bucket_timestamp` -/
def bucketTimestamp (bucket : DateTime) : Except ReobservationRaised String := do
  require (bucket = aligned bucket) (.reobservation "observation_bucket_not_aligned")
  return bucket.strftime

/-- `_bucket_token`: `%Y%m%dt%H%Mz`. -/
def bucketToken (bucket : DateTime) : String :=
  String.ofList (DateTime.twoDigits (bucket.year / 100) ++ DateTime.twoDigits bucket.year ++
    DateTime.twoDigits bucket.month ++ DateTime.twoDigits bucket.day ++
    't' :: DateTime.twoDigits bucket.hour ++ DateTime.twoDigits bucket.minute ++ ['z'])

/-! ## The manifest of a slot -/

/-- The id of the job that observes a slot. -/
def reobservationJobId (slot : String) (bucket : DateTime) : String :=
  "groupware-reobserve." ++ slot ++ "." ++ bucketToken bucket

/-- The review section; only its target depends on the slot. -/
def reobservationReview (slot : String) : Json := .obj [
  ("changes", .arr [.str "No runtime repair or product-state change"]),
  ("premises", .arr [.obj [
    ("anchor", .obj [("quote", .str "writes=0"),
      ("source", .str "nas.observe_groupware_runtime/v1 handler contract")]),
    ("basis", .str "direct_observation"),
    ("claim", .str "The registered operation observes runtime state without repairing it."),
    ("falsifier", .str "Any runtime repair or apply action invalidates this job.")]]),
  ("purpose", .str "Refresh one bounded groupware runtime observation."),
  ("recovery", .arr [.str "No rollback is required for a read-only observation"]),
  ("risk_delta", .obj [("added", .arr []),
    ("baseline", .str "The last groupware runtime receipt may be stale."),
    ("maximum_consequence", .str "The bounded observation may fail closed."),
    ("removed", .arr [])]),
  ("targets", .arr [.str ("groupware runtime slot " ++ slot)])]

/-- The manifest that is sealed. -/
def reobservationManifest (slot : String) (bucket : DateTime) (submittedAt : String) : Json := .obj [
  ("expected_pre_state", .obj [("digest", .null), ("kind", .str "none")]),
  ("job_id", .str (reobservationJobId slot bucket)),
  ("operation_id", .str "nas.observe_groupware_runtime"),
  ("operation_version", .int 1),
  ("parameters", .obj [("slot", .str slot)]),
  ("registry_version", .str registryVersion),
  ("request", .obj [("lineage_id", .str ("groupware-reobserve." ++ slot)),
    ("reply_target", .str "ops-groupware-reobserver"),
    ("request_id", .str (reobservationJobId slot bucket)), ("submitted_at", .str submittedAt)]),
  ("review", reobservationReview slot),
  ("schema", .str manifestSchema)]

/-! ## The slots of a state root -/

/-- A value of a YAML document; the keys of a mapping are different. -/
inductive Yaml where
  | null
  | bool (value : Bool)
  | int (value : Int)
  | str (value : String)
  | seq (items : List Yaml)
  | map (entries : List (Yaml × Yaml))
  /-- A float, a date or bytes, and whether it is true. -/
  | other (text : String) (truth : Bool)

namespace Yaml

/-- `str(value)` of a value that is no string. -/
class PythonRepr where
  repr : Yaml → String

/-- `bool(value)` -/
def truth : Yaml → Bool
  | null => false
  | bool value => value
  | int value => value != 0
  | str value => value != ""
  | seq items => !items.isEmpty
  | map entries => !entries.isEmpty
  | other _ truth => truth

/-- The value of a key. -/
def get? (name : String) : Yaml → Option Yaml
  | map entries => entries.findSome? fun entry =>
      match entry.1 with
      | str key => if key = name then some entry.2 else none
      | _ => none
  | _ => none

/-- `isinstance(value, dict)` -/
def isMap : Yaml → Bool
  | map _ => true
  | _ => false

/-- The entries of a mapping whose keys are all strings. -/
def named? : Yaml → Option (List (String × Yaml))
  | map entries => entries.mapM fun entry =>
      match entry.1 with
      | str key => some (key, entry.2)
      | _ => none
  | _ => none

/-- `str(value)` -/
def text [PythonRepr] : Yaml → String
  | str value => value
  | value => PythonRepr.repr value

end Yaml

/-- What the files of a state root hold; `none` is a file that cannot be loaded. -/
structure StateRoot where
  bindings : Option (List Routing.RuntimeBinding)
  views : Option Yaml

section slots

variable [Yaml.PythonRepr]

/-- `validate_relative_path` -/
def validateRelativePath (value : Yaml) : Option (List Char) :=
  let text := Routing.strip value.text.toList
  let raw := Routing.dropRight (· == '/') text
  if text.head? = some '/' ∨ raw = [] ∨ 512 < raw.length ∨ '\\' ∈ raw ∨
      raw.any (fun c => c.toNat < 0x20 || c.toNat == 0x7f) ∨
      (raw.splitOn '/').any (· ∈ [[], ['.'], ['.', '.']]) then none
  else some raw

/-- A list of a record; what is false counts as an empty list. -/
def pathList (record : Yaml) (name : String) : Option (List Yaml) :=
  match record.get? name with
  | none => some []
  | some value =>
      if value.truth then
        match value with
        | .seq items => some items
        | _ => none
      else some []

/-- `requested_and_effective_granted_paths`; `none` where it raises `ValueError`. -/
def requestedAndEffectiveGrantedPaths (record : Yaml) :
    Option (List (List Char) × List (List Char)) := do
  let requestedRaw ← pathList record "paths"
  let missingRaw ← pathList record "rooms_missing_media"
  let requested ← requestedRaw.mapM validateRelativePath
  let missing ← missingRaw.mapM validateRelativePath
  if requested.Nodup ∧ missing.Nodup ∧ missing.all (· ∈ requested) then
    some (requested, requested.filter (· ∉ missing))
  else none

/-- The records of one slot, by corpus. -/
def corpusRecords (entry : String × Yaml) : Option (String × List (String × Yaml)) := do
  let records ← entry.2.named?
  if records.all (·.2.isMap) then some (entry.1, records) else none

/-- `sorted(….items())` -/
def sortedItems {α : Type} (items : List (String × α)) : List (String × α) :=
  items.mergeSort fun a b => decide (a.1 ≤ b.1)

/-- `_strict_views_state` and `iter_view_records`: slot, corpus and record, in this order. -/
def strictViewRecords (views : Option Yaml) :
    Except ReobservationRaised (List (String × String × Yaml)) := do
  let invalid := ReobservationRaised.reobservation "groupware_inventory_invalid"
  let raw ← orRaise views (.reobservation "groupware_inventory_unavailable")
  require (raw.isMap) invalid
  let primary ← orRaise (((raw.get? "views").getD (.map [])).named?) invalid
  require (primary.all (·.2.isMap)) invalid
  let bySlot ← orRaise (((raw.get? "corpus_views").getD (.map [])).named?) invalid
  let corpora ← orRaise (bySlot.mapM corpusRecords) invalid
  return (sortedItems primary).map (fun item => (item.1, "kakao", item.2)) ++
    (sortedItems corpora).flatMap fun slot =>
      (sortedItems slot.2).map fun item => (slot.1, item.1, item.2)

/-- `MAX_GROUPWARE_SLOTS_PER_CYCLE` -/
def maxGroupwareSlotsPerCycle : Nat := min (32 / 4) 8

/-- One turn of the loop over the records; accounts are unique in a loaded file. -/
def declareSlot (bindings : List Routing.RuntimeBinding) (slots : List String)
    (item : String × String × Yaml) : Except ReobservationRaised (List String) :=
  if item.2.1 ≠ "groupware" then return slots
  else do
    let slot ← orRaise (Routing.validateLinuxAccount item.1)
      (.reobservation "groupware_slot_invalid")
    require (item.2.2.isMap ∧ (requestedAndEffectiveGrantedPaths item.2.2).isSome)
      (.reobservation "groupware_view_record_invalid")
    let binding ← orRaise (bindings.find? fun binding => binding.linuxAccount = slot ∧ binding.enabled)
      (.reobservation "groupware_slot_not_enabled")
    require (binding.upstreamKind = .managedRootful) (.reobservation "groupware_slot_not_rootful")
    require (slot ∉ slots) (.reobservation "groupware_slot_duplicate")
    return slots ++ [slot]

/-- `declared_groupware_slots` -/
def declaredGroupwareSlots (root : StateRoot) : Except ReobservationRaised (List String) := do
  let bindings ← orRaise root.bindings (.reobservation "runtime_bindings_invalid")
  let records ← strictViewRecords root.views
  let slots ← records.foldlM (declareSlot bindings) []
  require (slots.length ≤ maxGroupwareSlotsPerCycle) (.reobservation "groupware_slot_cap_exceeded")
  return slots.mergeSort fun a b => decide (a ≤ b)

/-! ## The plan -/

/-- `PlannedReobservation` -/
structure PlannedReobservation where
  slot : String
  manifest : List UInt8
  deriving DecidableEq

variable [UnicodeData] [FloatData]

/-- `build_groupware_reobservation_manifest` -/
def buildGroupwareReobservationManifest (depth : JsonDepth) (slot : String) (bucket : DateTime) :
    Except ReobservationRaised (List UInt8) := do
  let normalizedSlot ← orRaise (Routing.validateLinuxAccount slot)
    (.other (Exn.valueError "linux_account must be a safe Unix account name"))
  let submittedAt ← bucketTimestamp bucket
  let value := reobservationManifest normalizedSlot bucket submittedAt
  match sealManifestBytes depth (canonicalManifestBytes value) with
  | .ok job => return canonicalManifestBytes job.canonicalManifest
  | .error exc => throw (.other exc)

/-- `plan_groupware_reobservations` -/
def planGroupwareReobservations (depth : JsonDepth) (root : StateRoot) (now : AwareTime) :
    Except ReobservationRaised (List PlannedReobservation) := do
  let bucket ← observationBucket now
  let slots ← declaredGroupwareSlots root
  slots.mapM fun slot => do
    let manifest ← buildGroupwareReobservationManifest depth slot bucket
    return ⟨slot, manifest⟩

end slots

end AgentRuntimeOps.RootActions
